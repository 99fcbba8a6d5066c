/-
ScenarioMargin/Report/Sheet.lean

The tables of a report: the statistics of base assets, the collateral of cases,
and the scenarios by which positions are stressed.  Base assets come in
ascending order of their indices, cases in the order in which they were asked.
-/
import ScenarioMargin.Decimal.Grouped
import ScenarioMargin.Estimator
import ScenarioMargin.Report.Table

namespace ScenarioMargin.Sheet

/-- Entries by index, in ascending order. -/
def byIndex {β : Type} (table : Keyed Int β) : List (Int × β) :=
  table.mergeSort fun a b => a.1 ≤ b.1

/-- An amount in a cell. -/
def amount (a : Decimal) : Cell :=
  .text a.amountText

/-! ### Base assets -/

/-- The row of a base asset. -/
def assetRow (assets : Keyed Int AssetInfo) (entry : Int × AssetStatistics) :
    Option (List Cell) :=
  (Keyed.get? entry.1 assets).map fun info => [
    .number entry.1, .text (Named.name info.category), amount info.price,
    .number entry.2.scenarioCount, amount entry.2.biggestProfit,
    amount entry.2.biggestLoss, amount entry.2.grossValue]

/-- The statistics of base assets. -/
def ofAssets (e : Evaluation) : Table where
  headings :=
    ["base_asset", "risk_category", "price", "scenarios", "biggest_profit",
      "biggest_loss", "abs_leg_value"]
  rows := (byIndex e.statistics).filterMap (assetRow e.assets)

/-! ### Cases -/

/-- The name of the figure that is at stake in a case. -/
def stakeName (c : Case) : String :=
  if c.isInverted then "max_profit" else "max_loss"

/-- The row of a case and its collateral. -/
def caseRow (entry : Case × Decimal) : List Cell := [
  .text entry.1.multiplier.toText, .text (Named.name entry.1.authority),
  .text (Named.name entry.1.side), .text (stakeName entry.1),
  .text entry.2.toText]

/-- The collateral of cases. -/
def ofCases (e : Evaluation) : Table where
  headings :=
    ["legs_multiplier", "authority", "side", "statistic", "required_collateral"]
  rows := e.required.map caseRow

/-! ### Scenarios -/

/-- The row of a scenario. -/
def scenarioRow (index : Int) (bucket : Nat) (info : AssetInfo) (s : Scenario) :
    Except Fault (List Cell) := do
  let price ← s.priceChange.percentText
  let volatility ← s.volatilityChange.percentText
  let shocked ← info.price.changed s.priceChange
  return [.number index, .number bucket, .text price, .text volatility,
    amount shocked]

/-- The rows of the scenarios of one base asset. -/
def scenarioRows (infos : Keyed Int AssetInfo) (categories : CategoryTable)
    (period : Value) (bucket : Nat) (group : Int × List Position) :
    Except Fault (List (List Cell)) := do
  let some info := Keyed.get? group.1 infos | throw .missingKey
  let some category := Keyed.get? info.category categories | throw .missingKey
  (← category.variants period (withOption group.2)).mapM
    (scenarioRow group.1 bucket info)

/-- The scenarios by which positions are stressed. -/
def ofScenarios (positions : List Position) (infos : Keyed Int AssetInfo)
    (categories : CategoryTable) (period : Value) : Except Fault Table := do
  let bucket ← bucket period
  let rows ← (byIndex (positionsByAsset positions)).mapM
    (scenarioRows infos categories period bucket)
  return ⟨["base_asset", "bucket", "price_change", "volatility_change",
    "shocked_price"], rows.flatten⟩

end ScenarioMargin.Sheet
