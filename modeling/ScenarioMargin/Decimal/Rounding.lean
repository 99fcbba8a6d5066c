/-
ScenarioMargin/Decimal/Rounding.lean

The working precision and the one rounding rule of the arithmetic.  Every
operation computes an exact result and hands it to `round`, which keeps at most
`precision` digits, takes the nearest such number (a half goes to the even
digit), lets results below the smallest normal number lose digits gradually,
and refuses results above the largest one.
-/
import ScenarioMargin.Decimal.Basic

namespace ScenarioMargin.Decimal

/-- Results carry at most this many digits. -/
def precision : Nat := 28

/-- The largest exponent that a leading digit may have. -/
def maxExponent : Int := 999999

/-- The smallest exponent of a leading digit that still has full precision
below it. -/
def minExponent : Int := -999999

/-- The smallest exponent that a rounded result may have. -/
def tinyExponent : Int := minExponent - precision + 1

/-- The quotient of `n` by `10 ^ drop`, toward zero. -/
def dropDown (n drop : Nat) : Nat :=
  if digitCount n < drop then 0 else n / Nat.pow 10 drop

/-- The quotient of `n` by `10 ^ drop`, to the nearest whole number, a half to
the even one. -/
def dropEven (n drop : Nat) : Nat :=
  if digitCount n < drop then 0
  else
    let unit := Nat.pow 10 drop
    let quotient := n / unit
    let rest := n % unit
    if 2 * rest < unit then quotient
    else if unit < 2 * rest then quotient + 1
    else quotient + quotient % 2

/-- Zero with the nearest admissible exponent. -/
def roundZero (negative : Bool) (exponent : Int) : Decimal :=
  .finite negative 0 (max tinyExponent (min exponent maxExponent))

/-- The exponent at which the last kept digit of a rounded result stands. -/
def roundedExponent (coeff : Nat) (exponent : Int) : Int :=
  max exponent (max (leading coeff exponent + 1 - precision) tinyExponent)

/-- The exact number `± coeff * 10 ^ exponent` in the working precision. -/
def round (negative : Bool) (coeff : Nat) (exponent : Int) :
    Except Signal Decimal :=
  if coeff = 0 then .ok (roundZero negative exponent)
  else if maxExponent < leading coeff exponent then .error .overflow
  else
    let last := roundedExponent coeff exponent
    let kept := dropEven coeff (last - exponent).toNat
    if kept = Nat.pow 10 precision then
      if maxExponent < last + precision then .error .overflow
      else .ok (.finite negative (Nat.pow 10 (precision - 1)) (last + 1))
    else .ok (.finite negative kept last)

/-- What an operation gives when an operand is a NaN: a signaling one stops it,
otherwise the first NaN is the result, its payload cut to the precision. -/
def nanResult : Decimal → Decimal → Except Signal Decimal
  | .nan _ true _, _ => .error .invalidOperation
  | _, .nan _ true _ => .error .invalidOperation
  | .nan s false p, _ => .ok (.nan s false (p % Nat.pow 10 precision))
  | _, .nan s false p => .ok (.nan s false (p % Nat.pow 10 precision))
  | _, _ => .error .invalidOperation

end ScenarioMargin.Decimal
