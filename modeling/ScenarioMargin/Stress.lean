/-
ScenarioMargin/Stress.lean

The statistics of one base asset.  Its positions are valued in the current
market and again under each scenario; the result of a scenario is the sum of
the changes, and the statistics hold the best and the worst result, the gross
value of the positions and the number of scenarios.
-/
import ScenarioMargin.Scenario
import ScenarioMargin.Valuation

namespace ScenarioMargin

/-- The risk category and the price of a base asset. -/
structure AssetInfo where
  category : RiskCategory
  price : Decimal
  deriving DecidableEq, Repr

/-- What the positions in one base asset can gain and lose. -/
structure AssetStatistics where
  biggestProfit : Decimal
  biggestLoss : Decimal
  grossValue : Decimal
  scenarioCount : Nat
  deriving DecidableEq, Repr

/-- The best and the worst of the results so far. -/
structure Extremes where
  best : Decimal
  worst : Decimal
  deriving DecidableEq, Repr

/-- Before the first result, the best is below and the worst above all
numbers. -/
def Extremes.start : Extremes := ⟨.infinity true, .infinity false⟩

/-- The extremes with one more result. -/
def Extremes.take (e : Extremes) (result : Decimal) :
    Except Decimal.Signal Extremes := do
  let best ← e.best.larger result
  let worst ← e.worst.smaller result
  return ⟨best, worst⟩

/-- The current market of a base asset. -/
def AssetInfo.market (info : AssetInfo) (category : CategoryInfo) : Market :=
  ⟨info.price, category.volatility, category.rate⟩

/-- A figure after a relative change. -/
def Decimal.changed (a change : Decimal) : Except Signal Decimal := do
  a.mul (← one.add change)

/-- The market after a shock. -/
def Market.shocked (market : Market) (s : Scenario) :
    Except Decimal.Signal Market := do
  let price ← market.price.changed s.priceChange
  let volatility ← market.volatility.changed s.volatilityChange
  return ⟨price, volatility, market.rate⟩

/-- The change of a position's value from `before` to its value in a market. -/
def Position.change (live : LiveModel) (market : Market) (now : Int)
    (p : Position) (before : Decimal) : Except Fault Decimal := do
  (← p.value live market now).sub before

/-- The result of a scenario for positions with their current values. -/
def scenarioResult (live : LiveModel) (market : Market) (now : Int)
    (valued : List (Position × Decimal)) (s : Scenario) :
    Except Fault Decimal := do
  let shocked ← market.shocked s
  valued.foldlM
    (fun sum entry => do sum.add (← entry.1.change live shocked now entry.2))
    .zero

/-- The sum of the magnitudes of values. -/
def grossValue (values : List Decimal) : Except Decimal.Signal Decimal :=
  values.foldlM (fun sum v => do sum.add (← v.abs)) .zero

/-- Whether an option is among positions. -/
def withOption (positions : List Position) : Bool :=
  positions.any fun p => p.instrument.isOption

/-- Positions with their values in a market. -/
def valuedAt (live : LiveModel) (market : Market) (now : Int)
    (positions : List Position) : Except Fault (List (Position × Decimal)) :=
  positions.mapM fun p => do return (p, ← p.value live market now)

/-- The statistics of the positions in one base asset. -/
def assetStatistics (live : LiveModel) (positions : List Position)
    (info : AssetInfo) (category : CategoryInfo) (period : Value) (now : Int) :
    Except Fault AssetStatistics := do
  let market := info.market category
  let valued ← valuedAt live market now positions
  let scenarios ← category.variants period (withOption positions)
  let extremes ← scenarios.foldlM
    (fun e s => do e.take (← scenarioResult live market now valued s))
    Extremes.start
  let gross ← grossValue (valued.map Prod.snd)
  return ⟨extremes.best, extremes.worst, gross, scenarios.length⟩

end ScenarioMargin
