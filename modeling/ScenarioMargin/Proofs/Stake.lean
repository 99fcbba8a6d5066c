/-
ScenarioMargin/Proofs/Stake.lean

What is at stake in positions, as a function of the positions.  Where nothing
has to be rounded, a portfolio's loss and profit are `Reference.stake`, and
what a case requires is that figure raised to zero, times the multiplier,
raised to the least collateral (`Evaluable.portfolio`, `Evaluable.required`).

The risk of a base asset is the greatest of its gains, as they count for the
party (`risk_isGreatest`).  Which shocks the gains are taken over depends on
whether an option is among the positions; but positions without an option gain
the same in a shock whatever it does to the volatility, so their risk bounds
their gains in the larger set of shocks as well (`turned_gain_le_risk`).
-/
import ScenarioMargin.Proofs.Decimal.Order
import ScenarioMargin.Proofs.Unrounded

namespace ScenarioMargin

open Decimal

/-! ### Extremes of lists -/

theorem isGreatest_max? {l : List ℚ} (h : l ≠ []) :
    IsGreatest {x | x ∈ l} (l.max?.getD 0) := by
  obtain ⟨m, found⟩ := Option.isSome_iff_exists.mp (List.isSome_max?_of_ne_nil h)
  rw [found, Option.getD_some]
  exact List.max?_eq_some_iff.mp found

theorem isLeast_min? {l : List ℚ} (h : l ≠ []) :
    IsLeast {x | x ∈ l} (l.min?.getD 0) := by
  obtain ⟨m, found⟩ := Option.isSome_iff_exists.mp (List.isSome_min?_of_ne_nil h)
  rw [found, Option.getD_some]
  exact List.min?_eq_some_iff.mp found

namespace Reference

/-! ### Risks -/

/-- A gain as it counts for the party: a risk where the portfolio is inverted,
and else with the other sign. -/
def turned (inverted : Bool) (x : ℚ) : ℚ :=
  if inverted then x else -x

@[simp] theorem turned_zero (inverted : Bool) : turned inverted 0 = 0 := by
  cases inverted <;> simp [turned]

theorem turned_add (inverted : Bool) (x y : ℚ) :
    turned inverted (x + y) = turned inverted x + turned inverted y := by
  cases inverted <;> simp [turned, add_comm]

theorem turned_mul (inverted : Bool) (m x : ℚ) :
    turned inverted (m * x) = m * turned inverted x := by
  cases inverted <;> simp [turned]

theorem shocks_ne_nil (s : Shock) (withOption : Bool) :
    shocks s withOption ≠ [] := by
  cases withOption <;> exact List.cons_ne_nil _ _

variable {u : OptionPrice} {S : Setting}

/-- The risk of a base asset is the greatest of its gains, as they count. -/
theorem risk_isGreatest (inverted : Bool) (positions : List Position) (i : Int) :
    IsGreatest
      ((fun s =>
        turned inverted (gain u (S.figures i) (positionsIn positions i) s)) ''
        {s | s ∈ shocks (S.shock i) (withOption (positionsIn positions i))})
      (risk u S inverted positions i) := by
  have nonempty : gains u S positions i ≠ [] := by
    rw [gains, Ne, List.map_eq_nil_iff]
    exact shocks_ne_nil _ _
  have among : ∀ s ∈ shocks (S.shock i) (withOption (positionsIn positions i)),
      gain u (S.figures i) (positionsIn positions i) s ∈ gains u S positions i :=
    fun s hs => List.mem_map_of_mem hs
  cases inverted with
  | true =>
    have greatest := isGreatest_max? nonempty
    obtain ⟨s, hs, attained⟩ := List.mem_map.mp greatest.1
    refine ⟨⟨s, hs, attained⟩, ?_⟩
    rintro _ ⟨s', hs', rfl⟩
    exact greatest.2 (among s' hs')
  | false =>
    have least := isLeast_min? nonempty
    obtain ⟨s, hs, attained⟩ := List.mem_map.mp least.1
    refine ⟨⟨s, hs, congrArg Neg.neg attained⟩, ?_⟩
    rintro _ ⟨s', hs', rfl⟩
    exact neg_le_neg (least.2 (among s' hs'))

/-- Without an option, gains do not depend on the volatility. -/
theorem gain_of_not_withOption {positions : List Position}
    (h : withOption positions = false) (f : Figures) (s : Shock) :
    gain u f positions s = gain u f positions ⟨s.price, 0⟩ := by
  rw [gain, gain]
  congr 1
  apply List.map_congr_left
  intro p hp
  have other : p.instrument.isOption = false := by
    simpa using List.any_eq_false.mp h p hp
  cases instrument : p.instrument with
  | option kind amount strike expiration =>
    rw [instrument] at other
    cases other
  | _ => rfl

/-- The price change of every shock is one that positions without an option are
stressed by. -/
theorem price_mem_shocks {t s : Shock} {withOption : Bool}
    (h : s ∈ shocks t withOption) : ⟨s.price, 0⟩ ∈ shocks t false := by
  cases withOption
  · simp only [shocks, Bool.false_eq_true, if_false, List.mem_cons,
      List.not_mem_nil, or_false] at h ⊢
    rcases h with rfl | rfl <;> simp
  · simp only [shocks, if_true, List.mem_cons, List.not_mem_nil, or_false] at h
    rcases h with rfl | rfl | rfl | rfl <;> simp [shocks]

/-- Gains in all shocks that positions may be stressed by together with others
are bounded by their own risk. -/
theorem turned_gain_le_risk (inverted : Bool) {positions : List Position}
    {i : Int} {more : Bool}
    (h : withOption (positionsIn positions i) = true → more = true) {s : Shock}
    (hs : s ∈ shocks (S.shock i) more) :
    turned inverted (gain u (S.figures i) (positionsIn positions i) s) ≤
      risk u S inverted positions i := by
  apply (risk_isGreatest inverted positions i).2
  cases option : withOption (positionsIn positions i) with
  | true =>
    rw [h option] at hs
    exact ⟨s, hs, rfl⟩
  | false =>
    rw [gain_of_not_withOption option]
    exact ⟨_, price_mem_shocks hs, rfl⟩

/-- Without positions in a base asset there is no risk. -/
theorem risk_of_notMem (inverted : Bool) {positions : List Position} {i : Int}
    (h : i ∉ positions.map Position.baseAsset) :
    risk u S inverted positions i = 0 := by
  have none : positionsIn positions i = [] := by
    rw [positionsIn, List.filter_eq_nil_iff]
    intro p hp same
    exact h (List.mem_map.mpr ⟨p, hp, of_decide_eq_true same⟩)
  obtain ⟨s, -, attained⟩ :=
    (risk_isGreatest (u := u) (S := S) inverted positions i).1
  rw [← attained, none]
  exact turned_zero inverted

end Reference

/-! ### Evaluation without rounding -/

/-- Positions with finite figures whose base assets are in the tables and whose
options have prices. -/
structure Evaluable (live : LiveModel) (u : OptionPrice) (now : Int)
    (S : Setting) (infos : Keyed Int AssetInfo) (categories : CategoryTable)
    (period : Value) (positions : List Position) : Prop where
  holds : S.Holds positions infos categories period
  finite : ∀ p ∈ positions, p.IsFinite ∧ S.IsFinite p.baseAsset
  priced : AllPriced live u now S positions

namespace Evaluable

variable {live : LiveModel} {u : OptionPrice} {now : Int} {S : Setting}
  {infos : Keyed Int AssetInfo}
variable {categories : CategoryTable} {period : Value}
  {positions : List Position} {config : CollateralConfig}

/-- The loss and the profit of a portfolio are what is at stake on either
side. -/
theorem portfolio (h : Evaluable live u now S infos categories period positions)
    (shift : config.priceShiftFactor.isFinite)
    (overall : config.overallFactor.isFinite)
    (exact : (Exact.figure u S config positions).NoRounding) :
    ∃ s, portfolioStatistics live positions infos categories config period now =
      .ok s ∧
      s.portfolio.maxLoss.Reads (Reference.stake u S config false positions) ∧
      s.portfolio.maxProfit.Reads (Reference.stake u S config true positions) := by
  obtain ⟨s, hs, reads⟩ :=
    portfolioStatistics_attained h.holds h.finite h.priced shift overall exact
  rw [Exact.figure_value] at reads
  exact ⟨s, hs, reads.loss, reads.profit⟩

/-- What a case requires, where there is a least collateral. -/
theorem required (h : Evaluable live u now S infos categories period positions)
    (shift : config.priceShiftFactor.isFinite)
    (overall : config.overallFactor.isFinite) {s : PortfolioStatistics}
    (hs : portfolioStatistics live positions infos categories config period
      now = .ok s) {least : Decimal}
    (hl : config.minCollateral = .ok least) {c : Case}
    (multiplier : c.multiplier.isFinite)
    (exact : (Exact.required u S config c positions).NoRounding) :
    ∃ r, requiredCollateral s.portfolio c config = .ok r ∧
      r.Reads (Reference.required u S config c positions) := by
  have step : config.mintDecimals.natAbs ≤ maxStep := by
    have := step_of_scale hl
    omega
  obtain ⟨s', r, hs', hr, reads⟩ :=
    required_attained h.holds h.finite h.priced shift overall step multiplier exact
  rw [hs] at hs'
  obtain rfl := Except.ok.inj hs'
  rw [Exact.required_value] at reads
  exact ⟨r, hr, reads⟩

end Evaluable

/-- The least collateral is the minimum in units of the mint, where that need
not be rounded. -/
theorem minCollateral_reads {u : OptionPrice} {S : Setting}
    {config : CollateralConfig} {c : Case} {positions : List Position}
    (exact : (Exact.required u S config c positions).NoRounding)
    {least : Decimal} (hl : config.minCollateral = .ok least) :
    least.Reads (config.minimum * 10 ^ (-config.mintDecimals)) := by
  obtain ⟨-, collateral⟩ := Exact.noRounding_bind.mp exact
  obtain ⟨-, collateral⟩ := Exact.noRounding_bind.mp collateral
  obtain ⟨minimum, -⟩ := Exact.noRounding_bind.mp collateral
  obtain ⟨a, ha, reads⟩ :=
    attains_of_map (ofInt_scale_quantity (step_of_scale hl)) minimum
  rw [CollateralConfig.minCollateral, FixedPoint.fromRaw, ha] at hl
  obtain rfl := Except.ok.inj hl
  exact reads

theorem Sample.book_evaluable :
    Evaluable Sample.live Sample.price 0 Sample.setting Sample.infos
      Sample.categories (.whole 3600) Sample.book where
  holds := ⟨by decide, by decide, by decide⟩
  finite := Sample.forall_book ⟨⟨rfl, trivial⟩, rfl, rfl, rfl, rfl, rfl⟩
    ⟨⟨rfl, rfl⟩, rfl, rfl, rfl, rfl, rfl⟩ ⟨⟨rfl, rfl⟩, rfl, rfl, rfl, rfl, rfl⟩
  priced := Sample.book_priced

end ScenarioMargin
