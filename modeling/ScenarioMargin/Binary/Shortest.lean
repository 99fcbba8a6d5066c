/-
ScenarioMargin/Binary/Shortest.lean

The decimal text of a binary number: the fewest digits that read back as the
number, and of those the closest ones.

The reals that read back as a number form an interval around it, with its ends
exactly when the mantissa is even.  For one digit, two digits and so on the two
neighbours of the number on that decimal grid are tested against the interval;
the first grid with a hit gives the digits.
-/
import ScenarioMargin.Binary.Magnitude
import ScenarioMargin.Decimal.Scientific

namespace ScenarioMargin.Binary

/-- The order of `a * 10 ^ i` and `n * 2 ^ j`. -/
def compareScaled (a : Nat) (i : Int) (n : Nat) (j : Int) : Ordering :=
  compare (a * Nat.pow 10 i.toNat * Nat.pow 2 (-j).toNat)
    (n * Nat.pow 2 j.toNat * Nat.pow 10 (-i).toNat)

/-- Whether the decimal `digits * 10 ^ exponent` reads back as `v`. -/
def Magnitude.admits (v : Magnitude) (digits : Nat) (exponent : Int) : Bool :=
  let low := if v.nearBelow then 4 * v.mantissa - 1 else 4 * v.mantissa - 2
  let high := 4 * v.mantissa + 2
  let closed := v.mantissa % 2 == 0
  let atLow := compareScaled digits exponent low (v.power - 2)
  let atHigh := compareScaled digits exponent high (v.power - 2)
  (atLow == .gt || (closed && atLow == .eq)) &&
    (atHigh == .lt || (closed && atHigh == .eq))

/-- The least `k`, counted up from `start`, with `v < 10 ^ k`. -/
def Magnitude.scaleFrom (v : Magnitude) (start : Int) : Nat → Int
  | 0 => start
  | steps + 1 =>
    if compareScaled 1 start v.mantissa v.power == .gt then start
    else v.scaleFrom (start + 1) steps

/-- The least `k` with `v < 10 ^ k`. -/
def Magnitude.scale (v : Magnitude) : Int :=
  v.scaleFrom ((((v.mantissa.log2 : Int) + v.power) * 30103).fdiv 100000) 3

/-- The largest whole number of steps `10 ^ exponent` in `v`. -/
def Magnitude.stepsBelow (v : Magnitude) (exponent : Int) : Nat :=
  let num := v.mantissa * Nat.pow 2 v.power.toNat * Nat.pow 10 (-exponent).toNat
  let den := Nat.pow 2 (-v.power).toNat * Nat.pow 10 exponent.toNat
  num / den

/-- The closer of two neighbouring decimals `n` and `n + 1`, those that read
back; an even one on a tie. -/
def Magnitude.pick (v : Magnitude) (n : Nat) (exponent : Int) : Option Nat :=
  match v.admits n exponent, v.admits (n + 1) exponent with
  | false, false => none
  | true, false => some n
  | false, true => some (n + 1)
  | true, true =>
    match compareScaled (2 * n + 1) exponent (2 * v.mantissa) v.power with
    | .gt => some n
    | .lt => some (n + 1)
    | .eq => some (n + n % 2)

/-- The digits on the first grid that holds some, from `count` digits on. -/
def Magnitude.searchFrom (v : Magnitude) (scale : Int) (count : Nat) :
    Nat → Option (Nat × Int)
  | 0 => none
  | steps + 1 =>
    let exponent := scale - count
    match v.pick (v.stepsBelow exponent) exponent with
    | some n => some (n, exponent)
    | none => v.searchFrom scale (count + 1) steps

/-- A number's digits without trailing zeros. -/
def stripZeros (digits : Nat) (exponent : Int) : Nat → Nat × Int
  | 0 => (digits, exponent)
  | steps + 1 =>
    if digits % 10 = 0 ∧ digits ≠ 0 then
      stripZeros (digits / 10) (exponent + 1) steps
    else (digits, exponent)

/-- The exact decimal digits of a magnitude. -/
def Magnitude.exact (v : Magnitude) : Nat × Int :=
  if 0 ≤ v.power then (v.mantissa * Nat.pow 2 v.power.toNat, 0)
  else (v.mantissa * Nat.pow 5 v.power.natAbs, v.power)

/-- The fewest digits that read back as the magnitude, as a coefficient and an
exponent. -/
def Magnitude.shortest (v : Magnitude) : Nat × Int :=
  if v.mantissa = 0 then (0, 0)
  else
    let found := (v.searchFrom v.scale 1 17).getD v.exact
    stripZeros found.1 found.2 20

/-- Where the text of a number switches from a plain point to an exponent. -/
structure Layout where
  /-- the lowest exponent of a leading digit that is written with a point -/
  low : Int
  /-- the first exponent of a leading digit that is written out -/
  high : Int

/-- Numbers from a ten-thousandth up to ten to the sixteenth are written with a
point. -/
def plainLayout : Layout := ⟨-4, 16⟩

/-- Whether a layout writes these digits with a point. -/
def Layout.isPlain (layout : Layout) (digits : Nat) (exponent : Int) : Bool :=
  let lead := exponent + (Decimal.wholeChars digits).length - 1
  layout.low ≤ lead && lead < layout.high

/-- The exponent of a text, with its sign and at least two digits. -/
def exponentText (e : Int) : List Char :=
  let ds := Decimal.wholeChars e.natAbs
  'e' :: (if e < 0 then '-' else '+') :: (List.replicate (2 - ds.length) '0' ++ ds)

/-- The characters of a magnitude: a plain number has at least one digit behind
the point. -/
def magnitudeChars (digits : Nat) (exponent : Int) : List Char :=
  let ds := Decimal.wholeChars digits
  if plainLayout.isPlain digits exponent then
    if 0 ≤ exponent then ds ++ List.replicate exponent.toNat '0' ++ ['.', '0']
    else Decimal.pointed ds exponent.natAbs
  else Decimal.pointedFirst ds ++ exponentText (exponent + ds.length - 1)

/-- The text of a binary number. -/
def text (x : Float) : String :=
  let bits := magnitudeBits x
  if infinityBits < bits then "nan"
  else
    let body :=
      if bits = infinityBits then "inf".toList
      else
        let found := (Magnitude.ofBits bits).shortest
        magnitudeChars found.1 found.2
    String.ofList (Decimal.signChars (isNegative x) ++ body)

end ScenarioMargin.Binary
