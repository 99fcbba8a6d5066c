/-
ScenarioMargin/Report.lean

The texts that are printed: the report of an evaluation, the table of
scenarios, and the summary of a document.
-/
import ScenarioMargin.Document
import ScenarioMargin.Report.Sheet
import ScenarioMargin.Text.Quoted

namespace ScenarioMargin

/-- The lines of a text, one under the other. -/
def unlines (lines : List String) : String :=
  String.intercalate "\n" lines

/-- What stands in place of a table of legs without rows. -/
def noLegs : String := "(no legs)"

/-- What stands in place of a table of cases without rows. -/
def noCases : String := "(no cases)"

namespace Report

/-- The report of an evaluation. -/
def ofEvaluation (name : Value) (e : Evaluation) : Except Fault String := do
  let name ← name.shown
  let period ← e.period.shown
  let instant ← writeWhole e.instant
  let assets ← (Sheet.ofAssets e).textOr noLegs
  let loss := e.portfolio.maxLoss.amountText
  let profit := e.portfolio.maxProfit.amountText
  let cases ← (Sheet.ofCases e).textOr noCases
  return unlines [
    s!"=== Collateral estimate: {name} ===",
    s!"Settlement period: {period}s",
    s!"Valued at: {instant}",
    "",
    assets,
    "",
    s!"Max loss:   {loss}",
    s!"Max profit: {profit}",
    "",
    cases]

/-- The table of scenarios under its heading. -/
def ofScenarios (name : Value) (t : Table) : Except Fault String := do
  let name ← name.shown
  return unlines ["", s!"=== Scenarios: {name} ===", ← t.textOr noLegs]

/-- The names of categories as a list. -/
def categoryNames (categories : CategoryTable) : String :=
  "[" ++ String.intercalate ", "
    (categories.keys.map fun c => Text.quoted (Named.name c)) ++ "]"

/-- The summary of a document. -/
def ofDocument (d : Document) : Except Fault String := do
  let name ← d.name.shown
  let shift := d.config.priceShiftFactor.toText
  let overall := d.config.overallFactor.toText
  let minimum := (← d.config.minCollateral).toText
  let decimals ← writeWhole d.config.mintDecimals
  let categories := categoryNames d.categories
  let programs := toString d.registry.length
  let legs := toString d.legs.length
  let cases := toString d.cases.length
  let period ← writeWhole d.period
  return unlines [
    "",
    s!"=== Config: {name} ===",
    s!"Safety price shift factor: {shift}",
    s!"Overall safety factor:     {overall}",
    s!"Min collateral:            {minimum}",
    s!"Collateral mint decimals:  {decimals}",
    s!"Risk categories: {categories}",
    s!"Instrument programs: {programs}",
    s!"Legs: {legs}  Cases: {cases}",
    s!"Settlement period: {period}s"]

end Report

end ScenarioMargin
