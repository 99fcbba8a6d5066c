/-
ScenarioMargin/Decimal/Numeral.lean

Reading decimal numbers.  A numeral may be surrounded by white space, may hold
underscores anywhere and digits of any script; it is a sign followed by digits
with at most one point and an optional exponent, or by the name of an infinity
or a NaN in any case.  Reading is exact: no digit is dropped, and a numeral
whose exponent lies beyond the widest range is refused.
-/
import ScenarioMargin.Decimal.Basic
import ScenarioMargin.Text.Blank
import ScenarioMargin.Text.Digit

namespace ScenarioMargin.Decimal

open Text

/-- No numeral has a leading digit above this exponent. -/
def widestExponent : Int := 999999999999999999

/-- No numeral has a last digit below this exponent. -/
def narrowestExponent : Int := -1999999999999999997

/-- The characters of a numeral with white space and underscores removed and
all digits in the common script. -/
def plainNumeral (cs : List Char) : List Char :=
  ((trim isBlank cs).filter (· != '_')).map fun c =>
    match digitValue? c with
    | some d => digitChar d
    | none => c

/-- A sign and what follows it. -/
def splitSign : List Char → Bool × List Char
  | '-' :: rest => (true, rest)
  | '+' :: rest => (false, rest)
  | cs => (false, cs)

/-- The number written by one or more digits. -/
def digits? (cs : List Char) : Option Nat :=
  if cs.isEmpty || !cs.all Char.isDigit then none
  else some (Nat.ofDigitChars 10 cs 0)

/-- The number written by digits that may be missing, which counts as zero. -/
def digitsOrZero? (cs : List Char) : Option Nat :=
  if cs.all Char.isDigit then some (Nat.ofDigitChars 10 cs 0) else none

/-- The exponent part of a numeral; without one the exponent is zero. -/
def exponentPart? : List Char → Option Int
  | [] => some 0
  | c :: rest =>
    if c == 'e' || c == 'E' then
      let parts := splitSign rest
      (digits? parts.2).map fun n => if parts.1 then -(n : Int) else n
    else none

/-- The fraction digits of a numeral and what follows them. -/
def fractionPart : List Char → List Char × List Char
  | '.' :: rest => (rest.takeWhile Char.isDigit, rest.dropWhile Char.isDigit)
  | cs => ([], cs)

/-- A finite number, if its exponents are in range. -/
def finite? (negative : Bool) (coeff : Nat) (exponent : Int) : Option Decimal :=
  if narrowestExponent ≤ exponent && leading coeff exponent ≤ widestExponent then
    some (.finite negative coeff exponent)
  else none

/-- An unsigned finite numeral under a sign. -/
def finiteNumeral? (negative : Bool) (cs : List Char) : Option Decimal :=
  let whole := cs.takeWhile Char.isDigit
  let fraction := fractionPart (cs.dropWhile Char.isDigit)
  if whole.isEmpty && fraction.1.isEmpty then none
  else
    (exponentPart? fraction.2).bind fun e =>
      finite? negative (Nat.ofDigitChars 10 (whole ++ fraction.1) 0)
        (e - fraction.1.length)

/-- An unsigned numeral under a sign. -/
def unsignedNumeral? (negative : Bool) (cs : List Char) : Option Decimal :=
  match cs.map Char.toLower with
  | ['i', 'n', 'f'] => some (.infinity negative)
  | ['i', 'n', 'f', 'i', 'n', 'i', 't', 'y'] => some (.infinity negative)
  | 'n' :: 'a' :: 'n' :: payload =>
    (digitsOrZero? payload).map (.nan negative false)
  | 's' :: 'n' :: 'a' :: 'n' :: payload =>
    (digitsOrZero? payload).map (.nan negative true)
  | _ => finiteNumeral? negative cs

/-- The number that a list of characters writes. -/
def parseChars? (cs : List Char) : Option Decimal :=
  let parts := splitSign (plainNumeral cs)
  unsignedNumeral? parts.1 parts.2

/-- The number that a text writes. -/
def parse? (s : String) : Option Decimal :=
  parseChars? s.toList

end ScenarioMargin.Decimal
