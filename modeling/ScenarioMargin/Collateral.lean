/-
ScenarioMargin/Collateral.lean

Required collateral.  A case picks the loss or the profit of a portfolio,
whichever is at stake for its party on its side of the quote, scales it by its
multiplier and raises it to the least collateral.
-/
import ScenarioMargin.Portfolio

namespace ScenarioMargin

/-- A question for collateral: for which party, on which side of the quote, for
how many times the legs. -/
structure Case where
  multiplier : Decimal
  authority : Authority
  side : QuoteSide
  deriving DecidableEq, Repr

/-- Whether the portfolio's profit is what the party may lose: a bid turns the
portfolio around, and so does a taker. -/
def Case.isInverted (c : Case) : Bool :=
  (c.side == .bid) != (c.authority == .taker)

/-- The figure of a portfolio that is at stake in a case. -/
def Portfolio.atStake (portfolio : Portfolio) (c : Case) : Decimal :=
  if c.isInverted then portfolio.maxProfit else portfolio.maxLoss

/-- The collateral that a case requires. -/
def requiredCollateral (portfolio : Portfolio) (c : Case)
    (config : CollateralConfig) : Except Decimal.Signal Decimal := do
  let risk ← (portfolio.atStake c).larger .zero
  let scaled ← risk.mul c.multiplier
  scaled.larger (← config.minCollateral)

end ScenarioMargin
