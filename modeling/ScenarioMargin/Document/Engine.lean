/-
ScenarioMargin/Document/Engine.lean

The sections of a document that set the risk engine up: the collateral section
and the table of risk categories.

A scenario is a record of its two changes or a pair of them.  What a record
leaves out is zero, save for the decimals of the collateral mint, of which
there are nine.
-/
import ScenarioMargin.Config
import ScenarioMargin.Document.Name
import ScenarioMargin.Scenario
import ScenarioMargin.Value.Field

namespace ScenarioMargin

/-- The parameters in a collateral section. -/
def CollateralConfig.ofValue (v : Value) : Except Fault CollateralConfig := do
  let priceShift ← v.getOr "safety_price_shift_factor" (.whole 0)
  let overall ← v.getOr "overall_safety_factor" (.whole 0)
  let minimum ← (← v.getOr "min_collateral_requirement" (.whole 0)).toWhole
  let mintDecimals ← (← v.getOr "collateral_mint_decimals" (.whole 9)).toWhole
  let variableSize ← (← v.getOr "collateral_for_variable_size_rfq_creation"
    (.whole 0)).toWhole
  let fixedQuote ← (← v.getOr "collateral_for_fixed_quote_amount_rfq_creation"
    (.whole 0)).toWhole
  let priceShiftFactor ← priceShift.toDecimal
  let overallFactor ← overall.toDecimal
  return ⟨priceShiftFactor, overallFactor, minimum, mintDecimals,
    variableSize, fixedQuote⟩

/-- The scenario with these two changes. -/
def Scenario.ofPair (price volatility : Value) : Except Fault Scenario := do
  let priceChange ← price.toDecimal
  let volatilityChange ← volatility.toDecimal
  return ⟨priceChange, volatilityChange⟩

/-- The scenario that a value describes. -/
def Scenario.ofValue (v : Value) : Except Fault Scenario := do
  match v with
  | .record _ =>
    ofPair (← v.getOr "price" (.whole 0)) (← v.getOr "volatility" (.whole 0))
  | _ =>
    match ← v.items with
    | [price, volatility] => ofPair price volatility
    | _ => throw .illFormed

/-- The figures of a risk category that a value describes. -/
def CategoryInfo.ofValue (v : Value) : Except Fault CategoryInfo := do
  let rate ← v.getOr "interest_rate" (.whole 0)
  let volatility ← v.getOr "annualized_30_day_volatility" (.whole 0)
  let scenarios ← (← (← v.getOr "scenarios" (.list [])).items).mapM Scenario.ofValue
  CategoryInfo.make (← rate.toDecimal) (← volatility.toDecimal) scenarios

/-- One entry of a table of risk categories. -/
def CategoryTable.entry (field : String × Value) :
    Except Fault (RiskCategory × CategoryInfo) := do
  let category ← Named.ofValue (.text field.1)
  return (category, ← CategoryInfo.ofValue field.2)

/-- The table of risk categories that a record describes; of a repeated
category the last entry counts. -/
def CategoryTable.ofValue (v : Value) : Except Fault CategoryTable := do
  return Keyed.ofEntries (← (← v.fields).mapM entry)

end ScenarioMargin
