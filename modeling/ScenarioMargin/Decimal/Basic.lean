/-
ScenarioMargin/Decimal/Basic.lean

Decimal floating-point numbers.  A finite number is a sign, a coefficient and a
power of ten; the pair of coefficient and exponent is kept as written, so `1.0`
and `1.00` are the same value in two spellings and zero has a sign.  Beside the
finite numbers stand two infinities and the NaNs, quiet or signaling, with a
payload.

Amounts, prices and factors are all of this type.  Arithmetic on it is in
`Decimal.Arithmetic`; the number that a spelling stands for is `magnitude` with
the sign.
-/
namespace ScenarioMargin

/-- A decimal number in one of its spellings. -/
inductive Decimal where
  | finite (negative : Bool) (coeff : Nat) (exponent : Int)
  | infinity (negative : Bool)
  | nan (negative : Bool) (signaling : Bool) (payload : Nat)
  deriving DecidableEq, Repr, Inhabited

/-- The conditions on which an arithmetic operation gives no result. -/
inductive Decimal.Signal where
  | invalidOperation
  | overflow
  | divisionByZero
  deriving DecidableEq, Repr

namespace Decimal

/-- The whole number `n`, exactly. -/
def ofInt (n : Int) : Decimal :=
  .finite (n < 0) n.natAbs 0

/-- Zero. -/
def zero : Decimal := ofInt 0

/-- One. -/
def one : Decimal := ofInt 1

/-! ### Digits -/

/-- The number of decimal digits of `n`; zero has one. -/
def digitCount (n : Nat) : Nat :=
  if n < 10 then 1 else digitCount (n / 10) + 1

/-- The exponent of the leading digit of `coeff * 10 ^ exponent`. -/
def leading (coeff : Nat) (exponent : Int) : Int :=
  exponent + digitCount coeff - 1

/-! ### Classification -/

/-- A finite number is neither an infinity nor a NaN. -/
def isFinite : Decimal → Bool
  | .finite .. => true
  | _ => false

/-- A NaN of either kind. -/
def isNaN : Decimal → Bool
  | .nan .. => true
  | _ => false

/-- A zero of either sign and any exponent. -/
def isZero : Decimal → Bool
  | .finite _ coeff _ => coeff == 0
  | _ => false

end Decimal

end ScenarioMargin
