/-
ScenarioMargin/Proofs/Audit.lean

Auditing the table of cases.  A row shows the multiplier of a case, the name of
the figure that is at stake in it, and the collateral that it requires.
Whoever has the portfolio and the parameters can work the collateral out again
from such a row: its texts give both numbers back without loss, and the figure
that it names is the one that was taken.

The name is not kept from the calculation but found anew when the table is
made.  Both go by whether the case turns the portfolio around
(`figureNamed_stakeName`).

Main result: `Sheet.ofCases_audited`.
-/
import ScenarioMargin.Proofs.Decimal.Written
import ScenarioMargin.Proofs.Floor
import ScenarioMargin.Proofs.Lifecycle
import ScenarioMargin.Report.Sheet

namespace ScenarioMargin

/-- Collateral comes out of the arithmetic, so that its text gives it back. -/
theorem requiredCollateral_isWritable {portfolio : Portfolio} {c : Case}
    {config : CollateralConfig} {r : Decimal}
    (h : requiredCollateral portfolio c config = .ok r) : r.IsWritable := by
  obtain ⟨risk, scaled, least, -, product, raised, larger⟩ :=
    requiredCollateral_eq_ok.mp h
  rcases Decimal.larger_eq_or larger with rfl | rfl
  · exact Decimal.mul_isWritable product
  · rw [CollateralConfig.minCollateral, FixedPoint.fromRaw] at raised
    exact Decimal.scale_isWritable raised

namespace Sheet

variable {portfolio : Portfolio} {config : CollateralConfig}
  {c : Case} {r : Decimal}

/-- The figure of a portfolio that a text names. -/
inductive FigureNamed (portfolio : Portfolio) : String → Decimal → Prop
  | loss : FigureNamed portfolio "max_loss" portfolio.maxLoss
  | profit : FigureNamed portfolio "max_profit" portfolio.maxProfit

/-- The figure that is named for a case is the one at stake in it. -/
theorem figureNamed_stakeName (portfolio : Portfolio) (c : Case) :
    FigureNamed portfolio (stakeName c) (portfolio.atStake c) := by
  rw [stakeName, Portfolio.atStake]
  split
  · exact .profit
  · exact .loss

/-- The collateral for a figure, worked out in the arithmetic: the figure, or
zero if it is below, times the multiplier, or the least collateral if that is
more. -/
def Covers (config : CollateralConfig) (figure multiplier amount : Decimal) :
    Prop :=
  ∃ risk scaled least, figure.larger .zero = .ok risk ∧
    risk.mul multiplier = .ok scaled ∧
    config.minCollateral = .ok least ∧ scaled.larger least = .ok amount

/-- A row tells about a case with its collateral: both numbers are read from
their texts, and the collateral covers the figure that is named. -/
inductive Audits (portfolio : Portfolio) (config : CollateralConfig) (c : Case)
    (required : Decimal) : List Cell → Prop
  | row {multiplier statistic amount : String} {figure : Decimal}
      (readMultiplier : Decimal.parse? multiplier = some c.multiplier)
      (readAmount : Decimal.parse? amount = some required)
      (named : FigureNamed portfolio statistic figure)
      (covers : Covers config figure c.multiplier required) :
      Audits portfolio config c required [
        .text multiplier, .text (Named.name c.authority),
        .text (Named.name c.side), .text statistic, .text amount]

theorem caseRow_audits (writable : c.multiplier.IsWritable)
    (h : requiredCollateral portfolio c config = .ok r) :
    Audits portfolio config c r (caseRow (c, r)) := by
  have multiplier := Decimal.parse?_toText_iff.mpr writable
  have amount := Decimal.parse?_toText_iff.mpr (requiredCollateral_isWritable h)
  exact .row multiplier amount (figureNamed_stakeName portfolio c)
    (requiredCollateral_eq_ok.mp h)

/-- **Printed cases can be audited.**  The table of an evaluation has one row
for each case, in the order in which they were asked.  If the multipliers are
numbers that numerals can write, each row gives back the multiplier of its case
and the collateral, in the very spellings that these have, and the collateral
is what the named figure of the portfolio requires in the arithmetic. -/
theorem ofCases_audited (live : LiveModel) (estimator : Estimator)
    (legs : List Leg) (cases : List Case) (period : Value) (e : Evaluation)
    (evaluated : estimator.evaluate live legs cases period = .ok e)
    (writable : ∀ c ∈ cases, c.multiplier.IsWritable) :
    e.required.map Prod.fst = cases ∧
      List.Forall₂ (fun entry row =>
        Audits e.portfolio estimator.config entry.1 entry.2 row) e.required
        (ofCases e).rows := by
  obtain ⟨now, positions, infos, s, required, -, -, -, -, each, rfl⟩ :=
    Estimator.evaluate_eq_ok.mp evaluated
  have order : required.map Prod.fst = cases := by
    refine (map_eq_of_forall₂ each ?_).symm.trans (List.map_id cases)
    rintro c _ ⟨a, -, rfl⟩
    rfl
  refine ⟨order, ?_⟩
  rw [ofCases, List.forall₂_map_right_iff, List.forall₂_same]
  intro entry mem
  obtain ⟨c, asked, r, amount, rfl⟩ := exists_of_forall₂ each mem
  exact caseRow_audits (writable c asked) amount

end Sheet

/-- Cases with a trailing zero, an exponent, a negative zero and an infinity
for their multipliers. -/
def Sample.asked : List Case := [
  ⟨.finite false 250 (-2), .taker, .ask⟩, ⟨.finite false 3 4, .maker, .ask⟩,
  ⟨.finite true 0 (-9), .maker, .bid⟩, ⟨.infinity false, .taker, .ask⟩]

/-- The table of these cases, each row of which can be audited. -/
theorem sample_audited :
    (∀ c ∈ Sample.asked, c.multiplier.IsWritable) ∧
      ∃ e, Sample.estimator.evaluate Sample.live Sample.request.legs
        Sample.asked (.whole 3600) = .ok e ∧
        List.Forall₂ (fun entry row =>
          Sheet.Audits e.portfolio Sample.config entry.1 entry.2 row) e.required
          (Sheet.ofCases e).rows ∧
        (Sheet.ofCases e).rows.mapM (·.mapM Cell.shown) = .ok [
          ["2.50", "taker", "ask", "max_profit", "60.50000000000000000000000"],
          ["3E+4", "maker", "ask", "max_loss", "5.000000"],
          ["-0E-9", "maker", "bid", "max_profit", "5.000000"],
          ["Infinity", "taker", "ask", "max_profit", "Infinity"]] := by
  have run :
      (Sample.estimator.evaluate Sample.live Sample.request.legs Sample.asked
        (.whole 3600)).map
      (fun e => (Sheet.ofCases e).rows.mapM (·.mapM Cell.shown)) = .ok (.ok [
        ["2.50", "taker", "ask", "max_profit", "60.50000000000000000000000"],
        ["3E+4", "maker", "ask", "max_loss", "5.000000"],
        ["-0E-9", "maker", "bid", "max_profit", "5.000000"],
        ["Infinity", "taker", "ask", "max_profit",
          "Infinity"]]) := by decide +kernel
  have writable : ∀ c ∈ Sample.asked, c.multiplier.IsWritable := by decide +kernel
  obtain ⟨e, evaluated, rows⟩ := map_eq_ok.mp run
  obtain ⟨-, audited⟩ := Sheet.ofCases_audited _ _ _ _ _ e evaluated writable
  exact ⟨writable, e, evaluated, audited, rows⟩

end ScenarioMargin
