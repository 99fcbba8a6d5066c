/-
ScenarioMargin/Portfolio.lean

The statistics of a whole portfolio.  Positions are grouped by base asset in
the order in which base assets are first seen, and each group gets its
statistics.  The roll-up adds these, adds a buffer in proportion to the gross
value to both sides, and applies an overall factor.
-/
import ScenarioMargin.Config
import ScenarioMargin.Keyed
import ScenarioMargin.Stress

namespace ScenarioMargin

/-! ### Roll-up -/

/-- The greatest loss and the greatest profit of a portfolio, buffers included;
either may be negative. -/
structure Portfolio where
  maxLoss : Decimal
  maxProfit : Decimal
  deriving DecidableEq, Repr

/-- Sums over base assets. -/
structure Totals where
  profits : Decimal
  losses : Decimal
  gross : Decimal
  deriving DecidableEq, Repr

/-- The sums over no base assets. -/
def Totals.start : Totals := ⟨.zero, .zero, .zero⟩

/-- The sums with one more base asset. -/
def Totals.take (t : Totals) (s : AssetStatistics) :
    Except Decimal.Signal Totals := do
  let profits ← t.profits.add s.biggestProfit
  let losses ← t.losses.sub s.biggestLoss
  let gross ← t.gross.add s.grossValue
  return ⟨profits, losses, gross⟩

/-- The portfolio that base assets make up. -/
def Portfolio.ofStatistics (groups : List AssetStatistics)
    (config : CollateralConfig) : Except Decimal.Signal Portfolio := do
  let totals ← groups.foldlM Totals.take Totals.start
  let buffer ← totals.gross.mul config.priceShiftFactor
  let profits ← totals.profits.add buffer
  let losses ← totals.losses.add buffer
  let overall ← Decimal.one.add config.overallFactor
  let maxLoss ← losses.mul overall
  let maxProfit ← profits.mul overall
  return ⟨maxLoss, maxProfit⟩

/-! ### Grouping -/

/-- The positions of each base asset, in the order in which base assets are
first seen. -/
def positionsByAsset (positions : List Position) : Keyed Int (List Position) :=
  Keyed.groupBy Position.baseAsset positions

/-- The statistics of one group of positions, given all base assets and
categories. -/
def groupStatistics (live : LiveModel) (infos : Keyed Int AssetInfo)
    (categories : CategoryTable) (period : Value) (now : Int)
    (group : Int × List Position) : Except Fault (Int × AssetStatistics) := do
  let some info := Keyed.get? group.1 infos | throw .missingKey
  let some category := Keyed.get? info.category categories
    | throw (.categoryMissing info.category)
  return (group.1, ← assetStatistics live group.2 info category period now)

/-- What the base assets of positions and their whole portfolio can gain and
lose. -/
structure PortfolioStatistics where
  assets : Keyed Int AssetStatistics
  portfolio : Portfolio
  deriving DecidableEq, Repr

/-- The statistics of positions. -/
def portfolioStatistics (live : LiveModel) (positions : List Position)
    (infos : Keyed Int AssetInfo) (categories : CategoryTable)
    (config : CollateralConfig) (period : Value) (now : Int) :
    Except Fault PortfolioStatistics := do
  let assets ← (positionsByAsset positions).mapM
    (groupStatistics live infos categories period now)
  let portfolio ← Portfolio.ofStatistics (assets.map Prod.snd) config
  return ⟨assets, portfolio⟩

end ScenarioMargin
