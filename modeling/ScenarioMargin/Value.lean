/-
ScenarioMargin/Value.lean

The values of which documents are made: nothing, truth values, whole numbers,
binary numbers, texts, lists and records.  A record keeps its fields in the
order of the document, each key once.

A value has two texts.  `shown` is what stands in a table or a message;
`quotedForm` is the form inside lists and records, where a text is in quotes.
Whole numbers that are too long to be written have no text, and neither have
the values that hold one.
-/
import ScenarioMargin.Binary.Shortest
import ScenarioMargin.Fault
import ScenarioMargin.Text.Quoted
import ScenarioMargin.Text.Whole

namespace ScenarioMargin

/-- A whole number as text, unless it is too long. -/
@[irreducible]
def writeWhole (n : Int) : Except Fault String :=
  (Text.wholeText? n).elim (.error .illFormed) .ok

/-- A value of a document. -/
inductive Value where
  | null
  | bool (b : Bool)
  | whole (n : Int)
  | real (x : Float)
  | text (s : String)
  | list (items : List Value)
  | record (fields : List (String × Value))
  deriving Inhabited

namespace Value

/-! ### Texts -/

mutual

/-- A value as it stands inside a list or a record. -/
def quotedForm : Value → Except Fault String
  | null => .ok "None"
  | bool b => .ok (if b then "True" else "False")
  | whole n => writeWhole n
  | real x => .ok (Binary.text x)
  | text s => .ok (Text.quoted s)
  | list items => do
    return "[" ++ String.intercalate ", " (← itemForms items) ++ "]"
  | record fields => do
    return "\x7b" ++ String.intercalate ", " (← fieldForms fields) ++ "\x7d"

/-- The forms of the items of a list. -/
def itemForms : List Value → Except Fault (List String)
  | [] => .ok []
  | v :: rest => do return (← v.quotedForm) :: (← itemForms rest)

/-- The forms of the fields of a record. -/
def fieldForms : List (String × Value) → Except Fault (List String)
  | [] => .ok []
  | (key, v) :: rest => do
    return (Text.quoted key ++ ": " ++ (← v.quotedForm)) :: (← fieldForms rest)

end

/-- A value as it stands in a message or a table: a text without quotes, all
else in its form. -/
def shown : Value → Except Fault String
  | text s => .ok s
  | v => v.quotedForm

/-! ### Nothing -/

/-- Values that stand for nothing: null, false, zero, and all that is empty. -/
def isNothing : Value → Bool
  | null => true
  | bool b => !b
  | whole n => n == 0
  | real x => x == 0
  | text s => s == ""
  | list items => items.isEmpty
  | record fields => fields.isEmpty

end Value

end ScenarioMargin
