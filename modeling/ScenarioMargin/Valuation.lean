/-
ScenarioMargin/Valuation.lean

What positions are worth in a market.  A spot instrument is worth the price, a
future the price times its amount per contract, an option its price per unit
times its amount.

The price of a live option comes from a `LiveModel`, which every valuation
takes as a parameter; `blackScholes` is the one in use.  An expired option is
worth its intrinsic value in any model.
-/
import ScenarioMargin.Binary.Exchange
import ScenarioMargin.Instrument
import ScenarioMargin.Pricing.BlackScholes

namespace ScenarioMargin

/-- The figures of a market that a base asset's positions are valued at. -/
structure Market where
  price : Decimal
  volatility : Decimal
  rate : Decimal
  deriving DecidableEq, Repr

/-- The price of an option that expires after `now`, per unit of its
underlying. -/
abbrev LiveModel := (kind : OptionKind) → (strike : Decimal) →
    (expiration now : Int) → Market → Except Fault Decimal

/-- A decimal number as a binary one. -/
def Decimal.asFloat (a : Decimal) : Except Fault Float :=
  match a.toFloat? with
  | some x => .ok x
  | none => .error .illFormed

/-- The price of an option by the formula in binary numbers, as the decimal
number that its text writes. -/
def blackScholes : LiveModel := fun kind strike expiration now market => do
  let spot ← market.price.asFloat
  let strike ← strike.asFloat
  let years ← BlackScholes.years expiration now
  let volatility ← market.volatility.asFloat
  let rate ← market.rate.asFloat
  return .ofFloat (← BlackScholes.price kind spot strike years volatility rate)

/-- The price of an option that has expired; its market's figures must be
numbers all the same. -/
def expiredPrice (kind : OptionKind) (strike : Decimal) (market : Market) :
    Except Fault Decimal := do
  let spot ← market.price.asFloat
  let strike ← strike.asFloat
  let _ ← market.volatility.asFloat
  let _ ← market.rate.asFloat
  return .ofFloat (kind.intrinsic spot strike)

/-- The price of an option, per unit of its underlying. -/
def optionPrice (live : LiveModel) (kind : OptionKind) (strike : Decimal)
    (expiration now : Int) (market : Market) : Except Fault Decimal :=
  if now < expiration then live kind strike expiration now market
  else expiredPrice kind strike market

/-- What one unit of an instrument is worth. -/
def Instrument.value (live : LiveModel) (market : Market) (now : Int) :
    Instrument → Except Fault Decimal
  | .spot => .ok market.price
  | .termFuture amount => market.price.mul amount
  | .perpFuture amount => market.price.mul amount
  | .option kind amount strike expiration => do
    (← optionPrice live kind strike expiration now market).mul amount
  | .unrecognised => .error .notInstrument

/-- What a position is worth, a long one counting negative. -/
def Position.value (live : LiveModel) (market : Market) (now : Int)
    (p : Position) : Except Fault Decimal := do
  let unit ← p.instrument.value live market now
  unit.mul (← p.exposure)

end ScenarioMargin
