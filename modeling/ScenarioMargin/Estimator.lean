/-
ScenarioMargin/Estimator.lean

The whole way from legs to required collateral.  An `Estimator` holds the
parameters of the risk engine, the table of instrument programs, the risk
profiles and prices of base assets, and a clock.

The clock is read once.  Then the instruments of all legs are resolved, all
base assets are looked up, the statistics are computed and at last the cases,
in this order; the first fault on this way is the fault of the whole.
-/
import ScenarioMargin.Collateral
import ScenarioMargin.Fetch
import ScenarioMargin.Oracle
import ScenarioMargin.Payload

namespace ScenarioMargin

/-- Everything that stays the same from one evaluation to the next. -/
structure Estimator where
  config : CollateralConfig
  categories : CategoryTable
  registry : Keyed String InstrumentKind
  profiles : Keyed Int Profile
  prices : Keyed String Value
  clock : Value

/-- What an evaluation produces. -/
structure Evaluation where
  assets : Keyed Int AssetInfo
  statistics : Keyed Int AssetStatistics
  portfolio : Portfolio
  required : List (Case × Decimal)
  period : Value
  instant : Int

namespace Estimator

/-- The kind of instrument that a program stands for. -/
def kind (estimator : Estimator) (program : String) : Except Fault InstrumentKind :=
  match Keyed.get? program estimator.registry with
  | some k => .ok k
  | none => .error (.unregistered program)

/-- The estimator that knows one more program, or knows it better. -/
def register (estimator : Estimator) (program : String)
    (kind : InstrumentKind) : Estimator :=
  { estimator with registry := Keyed.put program kind estimator.registry }

/-- The profile of a base asset. -/
def profile (estimator : Estimator) (index : Int) : Except Fault Profile := do
  match Keyed.get? index estimator.profiles with
  | some p => return p
  | none => throw (.noProfile (← writeWhole index))

/-- The price at an address. -/
def price (estimator : Estimator) (address : String) : Except Fault Decimal :=
  match Keyed.get? address estimator.prices with
  | some v => OracleValue.price address (.value v)
  | none => .error (.priceMissing address)

/-- The profiles and prices that are at hand, so that no look-up gives way. -/
def sources (estimator : Estimator) : Sources where
  profile index := .now (estimator.profile index)
  price address := .now (estimator.price address)

/-- The position of a leg. -/
def position (estimator : Estimator) (leg : Leg) : Except Fault Position := do
  let kind ← estimator.kind leg.program
  let instrument ← Payload.decode kind leg.data
  return ⟨leg.baseAsset, leg.amount, leg.side, instrument⟩

/-- The positions of legs. -/
def positions (estimator : Estimator) (legs : List Leg) :
    Except Fault (List Position) :=
  legs.mapM estimator.position

/-- The base assets of positions. -/
def assets (estimator : Estimator) (positions : List Position) :
    Except Fault (Keyed Int AssetInfo) :=
  Fetch.assets estimator.sources (positions.map Position.baseAsset)

/-- The evaluation of legs in all cases. -/
def evaluate (live : LiveModel) (estimator : Estimator) (legs : List Leg)
    (cases : List Case) (period : Value) : Except Fault Evaluation := do
  let now ← estimator.clock.toWhole
  let positions ← estimator.positions legs
  let infos ← estimator.assets positions
  let statistics ← portfolioStatistics live positions infos estimator.categories
    estimator.config period now
  let required ← cases.mapM fun c => do
    return (c, ← requiredCollateral statistics.portfolio c estimator.config)
  return ⟨infos, statistics.assets, statistics.portfolio, required, period, now⟩

/-- The collateral that legs require in each case. -/
def required (live : LiveModel) (estimator : Estimator) (legs : List Leg)
    (cases : List Case) (period : Value) : Except Fault (List Decimal) := do
  return (← estimator.evaluate live legs cases period).required.map Prod.snd

end Estimator

end ScenarioMargin
