/-
ScenarioMargin/Config.lean

The parameters of the risk engine that are not those of a risk category.
-/
import ScenarioMargin.FixedPoint

namespace ScenarioMargin

/-- The safety factors, and the collateral amounts in units of the collateral
mint. -/
structure CollateralConfig where
  priceShiftFactor : Decimal
  overallFactor : Decimal
  minimum : Int
  mintDecimals : Int
  variableSize : Int
  fixedQuote : Int
  deriving DecidableEq, Repr

/-- The least collateral that is ever required. -/
def CollateralConfig.minCollateral (config : CollateralConfig) :
    Except Decimal.Signal Decimal :=
  FixedPoint.fromRaw config.minimum config.mintDecimals

end ScenarioMargin
