/-
ScenarioMargin/FixedPoint.lean

Fixed-point numbers: a whole number of units of `10 ^ -decimals`.  Amounts are
kept in this form in payloads and in the collateral mint.

`fromRaw` gives the amount of a number of units and `toRaw` the number of whole
units in an amount; `truncate` cuts an amount to whole units and leaves it an
amount.  The first two move the point in the working precision and so round
what has more digits than that; the last one never rounds and refuses amounts
that need more digits.
-/
import ScenarioMargin.Decimal.Arithmetic
import ScenarioMargin.Fault

namespace ScenarioMargin

/-- The whole part of a number, toward zero. -/
def Decimal.wholePart : Decimal → Except Fault Int
  | .finite s c e =>
    .ok (signed s
      (if 0 ≤ e then c * Nat.pow 10 e.toNat else dropDown c e.natAbs))
  | .infinity _ => .error .tooLarge
  | .nan .. => .error .illFormed

namespace FixedPoint

/-- The amount of `raw` units. -/
def fromRaw (raw decimals : Int) : Except Decimal.Signal Decimal :=
  (Decimal.ofInt raw).scale (-decimals)

/-- The number of whole units in an amount: the point is moved, and what is
behind it is cut off. -/
def toRaw (amount : Decimal) (decimals : Int) : Except Fault Int := do
  (← amount.scale decimals).wholePart

/-- One unit. -/
def unit (decimals : Int) : Except Decimal.Signal Decimal :=
  Decimal.one.scale (-decimals)

/-- An amount cut to whole units, toward zero. -/
def truncate (amount : Decimal) (decimals : Int) :
    Except Decimal.Signal Decimal := do
  amount.quantizeDown (← unit decimals)

/-- The decimals of the amount per contract in a future's payload. -/
def futureDecimals : Int := 9

/-- The decimals of the amount per contract and of the strike in an option's
payload, unless others are asked for. -/
def optionDecimals : Int := 9

/-- The decimals of a multiplier of legs. -/
def multiplierDecimals : Int := 9

end FixedPoint

end ScenarioMargin
