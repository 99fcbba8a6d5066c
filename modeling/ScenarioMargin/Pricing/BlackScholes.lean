/-
ScenarioMargin/Pricing/BlackScholes.lean

The price of a European option.  An expired one is worth its intrinsic value;
without volatility, or at a spot or strike that is not positive, it is worth
its intrinsic value against the discounted strike.
-/
import ScenarioMargin.Binary.Magnitude
import ScenarioMargin.Fault
import ScenarioMargin.Pricing.Normal

namespace ScenarioMargin

/-- A gain, or zero where there is none. -/
def positivePart (x : Float) : Float :=
  if 0 < x then x else 0

/-- What exercising an option at once is worth. -/
def OptionKind.intrinsic (kind : OptionKind) (spot strike : Float) : Float :=
  match kind with
  | .call => positivePart (spot - strike)
  | .put => positivePart (strike - spot)

namespace BlackScholes

/-- The seconds of a year. -/
def yearSeconds : Nat := 365 * 24 * 60 * 60

/-- The time from `now` to an expiration in years; none is left after it. -/
def years (expiration now : Int) : Except Fault Float :=
  let x := Binary.nearest false (expiration - now).toNat yearSeconds
  if x.isInf then .error .tooLarge else .ok x

/-- A square that is refused where it leaves the range of binary numbers. -/
def square (x : Float) : Except Fault Float :=
  let y := x * x
  if y.isInf && !x.isInf then .error .tooLarge else .ok y

/-- The price of an option before its expiration, with positive volatility,
spot and strike. -/
def diffusion (kind : OptionKind)
    (spot strike years volatility rate discounted : Float) :
    Except Fault Float := do
  let spread := volatility * years.sqrt
  let moneyness := (spot / strike).log
  let drift := (rate + (← square volatility) / 2) * years
  let d1 := (moneyness + drift) / spread
  let d2 := d1 - spread
  match kind with
  | .call => return spot * Normal.cumulative d1 - discounted * Normal.cumulative d2
  | .put =>
    return discounted * Normal.cumulative (-d2) - spot * Normal.cumulative (-d1)

/-- The price of an option. -/
def price (kind : OptionKind) (spot strike years volatility rate : Float) :
    Except Fault Float :=
  if years ≤ 0 then .ok (kind.intrinsic spot strike)
  else
    let discounted := strike * Float.exp (-rate * years)
    if volatility ≤ 0 || spot ≤ 0 || strike ≤ 0 then
      .ok (kind.intrinsic spot discounted)
    else diffusion kind spot strike years volatility rate discounted

end BlackScholes

end ScenarioMargin
