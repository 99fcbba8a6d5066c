/-
ScenarioMargin/Text/Whole.lean

Reading whole numbers: an optional sign and digits of any script, single
underscores allowed between digits, white space allowed around them.  Numbers
of more than `digitLimit` digits are neither read nor written.
-/
import ScenarioMargin.Text.Blank
import ScenarioMargin.Text.Digit

namespace ScenarioMargin.Text

/-- The longest whole number that is read or written as text. -/
def digitLimit : Nat := 4300

/-- Digits, each but the first of which may have one underscore before it. -/
def moreDigits? : List Char → Option (List Nat)
  | [] => some []
  | '_' :: c :: rest => do
    let d ← digitValue? c
    let ds ← moreDigits? rest
    return d :: ds
  | c :: rest => do
    let d ← digitValue? c
    let ds ← moreDigits? rest
    return d :: ds

/-- One or more digits with single underscores between them, as a number. -/
def wholeDigits? : List Char → Option Nat
  | [] => none
  | c :: rest => do
    let d ← digitValue? c
    let ds ← moreDigits? rest
    if digitLimit ≤ ds.length then none else return digitsValue (d :: ds)

/-- The whole number that a text writes. -/
def whole? (s : String) : Option Int :=
  match trim isWideBlank s.toList with
  | '-' :: rest => (wholeDigits? rest).map fun n => -(n : Int)
  | '+' :: rest => (wholeDigits? rest).map Int.ofNat
  | cs => (wholeDigits? cs).map Int.ofNat

/-- The text of a whole number, unless it is too long. -/
def wholeText? (n : Int) : Option String :=
  if Nat.pow 10 digitLimit ≤ n.natAbs then none else some (toString n)

end ScenarioMargin.Text
