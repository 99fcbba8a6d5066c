/-
ScenarioMargin/Journal.lean

The journal of a run: what was loaded, found and computed, line by line.  An
entry has a level, a topic and a message; `T` stands where a clock would write
the time.

Entries are told from the results of a run and change none of them.  Of a run
that fails they tell what came before the failure.  A message in which a whole
number is too long cannot be written and leaves no entry; the notice that the
keeper of a journal makes of this is not part of the journal.
-/
import ScenarioMargin.Document
import ScenarioMargin.Report.Sheet

namespace ScenarioMargin

/-- How much an entry matters. -/
inductive Level where
  | debug
  | info
  | error
  deriving DecidableEq, Repr

/-- What an entry is about. -/
inductive Topic where
  | documents
  | estimates
  | scenarios
  | statistics
  | commands
  deriving DecidableEq, Repr

/-- An entry of a journal. -/
structure Entry where
  level : Level
  topic : Topic
  message : String
  deriving DecidableEq, Repr

/-- The word for a level. -/
def Level.name : Level → String
  | .debug => "DEBUG"
  | .info => "INFO"
  | .error => "ERROR"

/-- The name of the journal on a topic. -/
def Topic.name : Topic → String
  | .documents => "rfq_collateral.config_loader"
  | .estimates => "rfq_collateral.calculator"
  | .scenarios => "rfq_collateral.models.scenarios"
  | .statistics => "rfq_collateral.engine"
  | .commands => "rfq_collateral.cli"

/-- An entry as a line. -/
def Entry.line (e : Entry) : String :=
  let level := e.level.name
  let topic := e.topic.name
  let message := e.message
  s!"T {level} {topic}: {message}\n"

namespace Journal

/-- An entry on the side, if its message can be written. -/
def aside (topic : Topic) (message : Except Fault String) : List Entry :=
  match message with
  | .ok text => [⟨.debug, topic, text⟩]
  | .error _ => []

/-- A document was loaded. -/
def loaded (d : Document) : List Entry :=
  aside .documents do
    let name ← d.name.shown
    let legs := toString d.legs.length
    let cases := toString d.cases.length
    let programs := toString d.registry.length
    return s!"Loaded {name}: {legs} legs, {cases} cases, {programs} instrument programs"

/-- A base asset was found. -/
def found (entry : Int × AssetInfo) : List Entry :=
  aside .estimates do
    let index ← writeWhole entry.1
    let category := Named.name entry.2.category
    let price := entry.2.price.toText
    return s!"Base asset {index}: category={category} price={price}"

/-- Scenarios were selected. -/
def selected (period : Value) (bucket count : Nat) : List Entry :=
  aside .scenarios do
    let seconds ← period.shown
    return s!"Settlement period {seconds}s -> bucket {bucket}, {count} scenarios"

/-- A scenario was evaluated. -/
def evaluated (index : Int) (s : Scenario) (result : Decimal) : List Entry :=
  aside .statistics do
    let index ← writeWhole index
    let price := s.priceChange.toText
    let volatility := s.volatilityChange.toText
    let text := result.toText
    return s!"Base asset {index} scenario ({price}, {volatility}): pnl={text}"

/-- A portfolio was made up. -/
def rolledUp (count : Nat) (p : Portfolio) : Entry :=
  let loss := p.maxLoss.toText
  let profit := p.maxProfit.toText
  ⟨.debug, .statistics,
    s!"Portfolio over {count} base assets: max_loss={loss} max_profit={profit}"⟩

/-- Collateral was computed. -/
def computed (legs assets : Nat) (required : List Decimal) : Entry :=
  let amounts := String.intercalate ", " (required.map Decimal.toText)
  ⟨.info, .estimates,
    s!"Collateral for {legs} legs over {assets} base assets: {amounts}"⟩

/-- A command failed. -/
def failed (message : String) : Entry :=
  ⟨.error, .commands, message⟩

/-! ### Runs -/

/-- The entries of items up to the first item that fails. -/
def untilFailure {α : Type} (tell : α → Except Fault (List Entry)) :
    List α → List Entry
  | [] => []
  | a :: rest =>
    match tell a with
    | .ok entries => entries ++ untilFailure tell rest
    | .error _ => []

/-- The scenarios by which one base asset is stressed. -/
def ofVariants (infos : Keyed Int AssetInfo) (categories : CategoryTable)
    (period : Value) (group : Int × List Position) :
    Except Fault (List Entry) := do
  let some info := Keyed.get? group.1 infos | throw .missingKey
  let some category := Keyed.get? info.category categories | throw .missingKey
  let variants ← category.variants period (withOption group.2)
  return selected period (← bucket period) variants.length

/-- The stress of one base asset. -/
def ofGroup (live : LiveModel) (infos : Keyed Int AssetInfo)
    (categories : CategoryTable) (period : Value) (now : Int)
    (group : Int × List Position) : Except Fault (List Entry) := do
  let some info := Keyed.get? group.1 infos | throw .missingKey
  let some category := Keyed.get? info.category categories | throw .missingKey
  let market := info.market category
  let valued ← valuedAt live market now group.2
  let variants ← category.variants period (withOption group.2)
  let results ← variants.mapM fun s => do
    return evaluated group.1 s (← scenarioResult live market now valued s)
  return selected period (← bucket period) variants.length ++ results.flatten

/-- What an evaluation did after the look-up of its base assets. -/
def ofStatistics (live : LiveModel) (estimator : Estimator)
    (positions : List Position) (infos : Keyed Int AssetInfo) (period : Value)
    (now : Int) : List Entry :=
  untilFailure (ofGroup live infos estimator.categories period now)
    (positionsByAsset positions)

/-- The look-up of base assets. -/
def ofLookups (estimator : Estimator) (positions : List Position) : List Entry :=
  (Fetch.history estimator.sources
    (positions.map Position.baseAsset)).found.flatMap found

/-- What an evaluation says at its end. -/
def ofEnd (e : Evaluation) (legs : Nat) : List Entry :=
  [rolledUp e.statistics.length e.portfolio,
    computed legs e.assets.length (e.required.map Prod.snd)]

/-- The evaluation of legs. -/
def ofEvaluation (live : LiveModel) (estimator : Estimator) (legs : List Leg)
    (cases : List Case) (period : Value) : List Entry :=
  match estimator.clock.toWhole, estimator.positions legs with
  | .ok now, .ok positions =>
    let statistics :=
      match estimator.assets positions with
      | .ok infos => ofStatistics live estimator positions infos period now
      | .error _ => []
    let ending :=
      match estimator.evaluate live legs cases period with
      | .ok e => ofEnd e positions.length
      | .error _ => []
    ofLookups estimator positions ++ statistics ++ ending
  | _, _ => []

/-- The table of scenarios of legs. -/
def ofScenarios (estimator : Estimator) (legs : List Leg)
    (period : Value) : List Entry :=
  match estimator.positions legs with
  | .error _ => []
  | .ok positions =>
    let variants :=
      match estimator.assets positions with
      | .ok infos =>
        untilFailure (ofVariants infos estimator.categories period)
          (Sheet.byIndex (positionsByAsset positions))
      | .error _ => []
    ofLookups estimator positions ++ variants

end Journal

end ScenarioMargin
