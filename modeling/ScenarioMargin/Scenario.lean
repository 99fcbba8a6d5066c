/-
ScenarioMargin/Scenario.lean

Shock scenarios.  A risk category has one scenario for each bucket of
settlement periods.  The positions of a base asset are stressed by variants of
the scenario of their bucket: with an option among them by all four
combinations of signs of the two changes, without one by the two signs of the
price change alone.
-/
import ScenarioMargin.Decimal.Arithmetic
import ScenarioMargin.Keyed
import ScenarioMargin.Value.Number

namespace ScenarioMargin

/-- A joint shock, relative to the current figures: a price change of `0.08`
raises the price by eight hundredths. -/
structure Scenario where
  priceChange : Decimal
  volatilityChange : Decimal
  deriving DecidableEq, Repr

/-! ### Buckets -/

/-- The seconds at which a new bucket of settlement periods begins,
ascending. -/
def bucketStarts : List Nat := [3600, 14400, 43200, 86400, 172800]

/-- The number of buckets. -/
def bucketCount : Nat := 6

/-- The numbers of seconds that a settlement period is below. -/
def isBelow : Value → Except Fault (Nat → Bool)
  | .bool b => .ok fun n => b.toNat < n
  | .whole m => .ok fun n => m < n
  | .real x => .ok fun n => x < Float.ofNat n
  | _ => .error .wrongKind

/-- The bucket of a settlement period: the first whose end it is below, or the
last. -/
def bucket (period : Value) : Except Fault (Fin bucketCount) := do
  let below ← isBelow period
  return ⟨bucketStarts.findIdx below, Nat.lt_succ_of_le List.findIdx_le_length⟩

/-! ### Categories -/

/-- The figures of a risk category: the interest rate, the yearly volatility,
and a scenario for each bucket. -/
structure CategoryInfo where
  rate : Decimal
  volatility : Decimal
  scenarios : List Scenario
  /-- there is one scenario for each bucket -/
  complete : scenarios.length = bucketCount
  deriving DecidableEq, Repr

/-- The figures of a risk category, refused without one scenario for each
bucket. -/
def CategoryInfo.make (rate volatility : Decimal) (scenarios : List Scenario) :
    Except Fault CategoryInfo :=
  if h : scenarios.length = bucketCount then .ok ⟨rate, volatility, scenarios, h⟩
  else .error (.scenarioCount scenarios.length)

/-- The scenario of a bucket. -/
def CategoryInfo.scenario (info : CategoryInfo) (b : Fin bucketCount) : Scenario :=
  info.scenarios.get (b.cast info.complete.symm)

/-- The figures of the risk categories in use. -/
abbrev CategoryTable := Keyed RiskCategory CategoryInfo

/-! ### Variants -/

/-- The four combinations of signs of a scenario's changes. -/
def Scenario.signs (s : Scenario) : Except Decimal.Signal (List Scenario) := do
  let volatilityFall ← s.volatilityChange.neg
  let priceFall ← s.priceChange.neg
  return [s, ⟨s.priceChange, volatilityFall⟩, ⟨priceFall, s.volatilityChange⟩,
    ⟨priceFall, volatilityFall⟩]

/-- The two signs of a scenario's price change, without a change of
volatility. -/
def Scenario.priceSigns (s : Scenario) : Except Decimal.Signal (List Scenario) := do
  let priceFall ← s.priceChange.neg
  return [⟨s.priceChange, .zero⟩, ⟨priceFall, .zero⟩]

/-- The scenarios that positions are stressed by, with or without an option
among them. -/
def CategoryInfo.variants (info : CategoryInfo) (period : Value)
    (withOption : Bool) : Except Fault (List Scenario) := do
  let base := info.scenario (← bucket period)
  if withOption then base.signs else base.priceSigns

end ScenarioMargin
