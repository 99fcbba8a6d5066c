/-
ScenarioMargin/Decimal/Grouped.lean

Decimal numbers with a set number of places, for reports: rounded to the
nearest, a half to the even digit, however many digits that takes, with commas
between groups of three digits where a layout asks for them.
-/
import ScenarioMargin.Decimal.Arithmetic
import ScenarioMargin.Decimal.Scientific

namespace ScenarioMargin.Decimal

/-- How a number with a set number of places is laid out. -/
structure Places where
  /-- digits behind the point -/
  places : Nat
  /-- commas between groups of three digits -/
  grouped : Bool
  /-- a plus sign before a number that has no minus sign -/
  plus : Bool

/-- Amounts have four places and grouped digits. -/
def amountPlaces : Places := ⟨4, true, false⟩

/-- Percentages have two places and always a sign. -/
def percentPlaces : Places := ⟨2, false, true⟩

/-- Digits from the last one on, with a comma behind each group of three that
has digits behind it. -/
def commaThrees : List Char → List Char
  | a :: b :: c :: d :: rest => a :: b :: c :: ',' :: commaThrees (d :: rest)
  | ds => ds

/-- Digits with a comma before each group of three that has digits before it. -/
def groupThrees (ds : List Char) : List Char :=
  (commaThrees ds.reverse).reverse

/-- The digits of `coeff * 10 ^ exponent` rounded to `places` digits behind the
point, without the point. -/
def placedDigits (places coeff : Nat) (exponent : Int) : List Char :=
  let shift := exponent + places
  if 0 ≤ shift then
    if coeff = 0 then ['0'] else wholeChars coeff ++ List.replicate shift.toNat '0'
  else wholeChars (dropEven coeff shift.natAbs)

/-- The sign that a layout writes. -/
def Places.sign (layout : Places) (negative : Bool) : List Char :=
  if negative then ['-'] else if layout.plus then ['+'] else []

/-- The characters of a number in a layout. -/
def Places.chars (layout : Places) : Decimal → List Char
  | .finite s c e =>
    let ds := placedDigits layout.places c e
    let padded := List.replicate (layout.places + 1 - ds.length) '0' ++ ds
    let whole := padded.take (padded.length - layout.places)
    let fraction := padded.drop (padded.length - layout.places)
    layout.sign s ++ (if layout.grouped then groupThrees whole else whole) ++
      '.' :: fraction
  | .infinity s => layout.sign s ++ (Decimal.infinity false).toChars
  | .nan s signaling p => layout.sign s ++ (Decimal.nan false signaling p).toChars

/-- The text of an amount in a report. -/
def amountText (a : Decimal) : String :=
  String.ofList (amountPlaces.chars a)

/-- The text of a relative change in hundredths. -/
def percentText (a : Decimal) : Except Signal String := do
  let hundredths ← a.mul (ofInt 100)
  return String.ofList (percentPlaces.chars hundredths ++ ['%'])

end ScenarioMargin.Decimal
