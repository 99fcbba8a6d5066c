/-
ScenarioMargin/Value/Json.lean

Reading values written as JSON.  A number with a point or an exponent is a
binary number, any other one a whole number.  A repeated key of a record keeps
its first place and takes its last value.

Reading goes down a list of characters; a value takes at least one of them, so
their count bounds the depth.
-/
import ScenarioMargin.Binary.Exchange
import ScenarioMargin.Decimal.Numeral
import ScenarioMargin.Keyed
import ScenarioMargin.Text.Hex
import ScenarioMargin.Value

namespace ScenarioMargin.Json

/-- The blanks that may stand between the parts of a text. -/
def isBlank (c : Char) : Bool :=
  c == ' ' || c == '\n' || c == '\t' || c == '\r'

/-- The text without leading blanks. -/
def skip (cs : List Char) : List Char :=
  cs.dropWhile isBlank

/-! ### Texts -/

/-- The number that four hexadecimal digits write. -/
def code? (a b c d : Char) : Option Nat := do
  let w ← Text.Hex.digit? a
  let x ← Text.Hex.digit? b
  let y ← Text.Hex.digit? c
  let z ← Text.Hex.digit? d
  return ((w * 16 + x) * 16 + y) * 16 + z

/-- The character with a number; the replacement character for a number that
has none. -/
def charOf (n : Nat) : Char :=
  if h : n.isValidChar then Char.ofNatAux n h else Char.ofNat 0xFFFD

/-- The character that a letter after a backslash stands for. -/
def named? : Char → Option Char
  | '"' => some '"'
  | '\\' => some '\\'
  | '/' => some '/'
  | 'b' => some '\x08'
  | 'f' => some '\x0c'
  | 'n' => some '\n'
  | 'r' => some '\r'
  | 't' => some '\t'
  | _ => none

/-- The characters that a numbered escape stands for, given what follows it; a
pair of halves makes one character. -/
def pairUp (high : Nat) : List Char → Option Char
  | '\\' :: 'u' :: a :: b :: c :: d :: _ => do
    let low ← code? a b c d
    if 0xD800 ≤ high ∧ high < 0xDC00 ∧ 0xDC00 ≤ low ∧ low < 0xE000 then
      some (charOf (0x10000 + (high - 0xD800) * 0x400 + (low - 0xDC00)))
    else none
  | _ => none

/-- The characters of a text up to its closing quote, and what follows. -/
def readText : Nat → List Char → Option (List Char × List Char)
  | 0, _ => none
  | _ + 1, [] => none
  | _ + 1, '"' :: rest => some ([], rest)
  | steps + 1, '\\' :: 'u' :: a :: b :: c :: d :: rest => do
    let n ← code? a b c d
    match pairUp n rest with
    | some paired =>
      (readText steps (rest.drop 6)).map fun r => (paired :: r.1, r.2)
    | none => (readText steps rest).map fun r => (charOf n :: r.1, r.2)
  | steps + 1, '\\' :: c :: rest => do
    let named ← named? c
    (readText steps rest).map fun r => (named :: r.1, r.2)
  | steps + 1, c :: rest => (readText steps rest).map fun r => (c :: r.1, r.2)

/-! ### Numbers -/

/-- The characters of numbers. -/
def isNumeral (c : Char) : Bool :=
  c.isDigit || c == '-' || c == '+' || c == '.' || c == 'e' || c == 'E'

/-- The binary number that a text writes. -/
def real? (s : String) : Option Float := do
  let a ← Decimal.parse? s
  a.toFloat?

/-- The number that these characters write. -/
def numeral? (cs : List Char) : Option Value :=
  if cs.any fun c => c == '.' || c == 'e' || c == 'E' then
    (real? (String.ofList cs)).map Value.real
  else
    match cs with
    | '-' :: ds => (Decimal.digits? ds).map fun n => .whole (-(n : Int))
    | ds => (Decimal.digits? ds).map fun n => .whole n

/-- A word with a meaning of its own, and what follows it. -/
def word? (cs : List Char) : Option (Value × List Char) :=
  if "null".toList.isPrefixOf cs then some (.null, cs.drop 4)
  else if "true".toList.isPrefixOf cs then some (.bool true, cs.drop 4)
  else if "false".toList.isPrefixOf cs then some (.bool false, cs.drop 5)
  else none

/-! ### Values -/

mutual

/-- A value and what follows it. -/
def readValue : Nat → List Char → Option (Value × List Char)
  | 0, _ => none
  | steps + 1, cs =>
    match skip cs with
    | [] => none
    | '"' :: rest =>
      (readText (rest.length + 1) rest).map fun r =>
        (.text (String.ofList r.1), r.2)
    | '[' :: rest =>
      match skip rest with
      | ']' :: after => some (.list [], after)
      | _ => (readItems steps rest).map fun r => (.list r.1, r.2)
    | '\x7b' :: rest =>
      match skip rest with
      | '\x7d' :: after => some (.record [], after)
      | _ =>
        (readFields steps rest).map fun r =>
          (.record (Keyed.ofEntries r.1), r.2)
    | c :: rest =>
      if isNumeral c then
        (numeral? ((c :: rest).takeWhile isNumeral)).map fun v =>
          (v, (c :: rest).dropWhile isNumeral)
      else word? (c :: rest)

/-- The items of a list up to its closing bracket, and what follows. -/
def readItems : Nat → List Char → Option (List Value × List Char)
  | 0, _ => none
  | steps + 1, cs => do
    let (v, rest) ← readValue steps cs
    match skip rest with
    | ',' :: after => (readItems steps after).map fun r => (v :: r.1, r.2)
    | ']' :: after => some ([v], after)
    | _ => none

/-- The fields of a record up to its closing bracket, and what follows. -/
def readFields : Nat → List Char → Option (List (String × Value) × List Char)
  | 0, _ => none
  | steps + 1, cs => do
    match skip cs with
    | '"' :: rest =>
      let (key, rest) ← readText (rest.length + 1) rest
      match skip rest with
      | ':' :: rest =>
        let (v, rest) ← readValue steps rest
        match skip rest with
        | ',' :: after =>
          (readFields steps after).map fun r =>
            ((String.ofList key, v) :: r.1, r.2)
        | '\x7d' :: after => some ([(String.ofList key, v)], after)
        | _ => none
      | _ => none
    | _ => none

end

/-- The value that a text writes. -/
def read? (s : String) : Option Value := do
  let cs := s.toList
  let (v, rest) ← readValue (cs.length + 1) cs
  if (skip rest).isEmpty then some v else none

end ScenarioMargin.Json
