/-
ScenarioMargin/Document.lean

Whole documents.  A document sets a portfolio up with everything its evaluation
needs: the risk engine, the base assets, the legs and the cases, the settlement
period, and perhaps the instant of valuation.
-/
import ScenarioMargin.Document.Assets
import ScenarioMargin.Document.Engine
import ScenarioMargin.Document.Trade
import ScenarioMargin.Estimator

namespace ScenarioMargin

/-- A document that has been read. -/
structure Document where
  name : Value
  config : CollateralConfig
  categories : CategoryTable
  registry : Keyed String InstrumentKind
  profiles : Keyed Int Profile
  prices : Keyed String Value
  legs : List Leg
  cases : List Case
  period : Int
  now : Option Int

namespace Document

/-- The instant that a document sets, if it sets one. -/
def instant (v : Value) : Except Fault (Option Int) := do
  match ← v.get "now" with
  | some now => return some (← now.toWhole)
  | none => return none

/-- The document that a record describes.  Its sections are read in a set
order, so that of several faults the one of the earliest section is reported. -/
def ofValue (v : Value) : Except Fault Document := do
  let entries ← assetEntries (← v.getOr "base_assets" (.list []))
  let name ← v.getOr "name" (.text "portfolio")
  let config ← CollateralConfig.ofValue (← v.getOr "collateral" (.record []))
  let categories ← CategoryTable.ofValue (← v.getOr "risk_categories" (.record []))
  let registry ← programsOfValue (← v.getOr "instruments" (.record []))
  let legs ← Leg.listOfValue (← v.getOr "legs" (.list []))
  let cases ← Case.listOfValue (← v.getOr "cases" (.list []))
  let period ← (← v.getOr "settlement_period" (.whole 0)).toWhole
  let now ← instant v
  return {
    name, config, categories, registry
    profiles := profilesOf entries
    prices := pricesOf entries
    legs, cases, period, now }

/-- The estimator that a document sets up; a document without an instant goes
by the clock. -/
def estimator (d : Document) (clock : Value) : Estimator where
  config := d.config
  categories := d.categories
  registry := d.registry
  profiles := d.profiles
  prices := d.prices
  clock := d.now.elim clock .whole

end Document

end ScenarioMargin
