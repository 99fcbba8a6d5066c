/-
ScenarioMargin/Proofs/TwoSided.lean

The two sides of a portfolio.  Whoever owns it and whoever stands on the other
side cannot both be sure of a gain: the worst result of a base asset is at most
its best one, and so the portfolio's loss and profit are never both below
zero.  All roundings are included, and nothing is assumed of the prices of
options.

For one base asset the reason is the last scenario: its result is at most the
best and at least the worst.  It is also why gross values are defined.  A
position that is worth a NaN makes the result of every scenario a NaN, which
cannot be compared; so where the statistics return, all positions have a
defined value, and the sum of their magnitudes is on the upper side of zero.

The roll-up then keeps `-losses ≤ profits`: each base asset takes its worst
result from the losses and adds its best one to the profits, the buffer is
added to both, and the overall factor multiplies both.  The buffer must not be
negative for this, and neither must the overall factor (`1 + overallFactor`);
those are the two hypotheses.

Main result: `portfolioStatistics_twoSided`.
-/
import ScenarioMargin.Proofs.Decimal.Order
import ScenarioMargin.Proofs.Grouping
import ScenarioMargin.Proofs.Returns

namespace ScenarioMargin

open Decimal

variable {live : LiveModel} {now : Int}

/-! ### Scenarios -/

/-- A change is defined only if both values are. -/
theorem defined_of_change {market : Market} {p : Position} {before d : Decimal}
    (h : p.change live market now before = .ok d) (defined : d ≤ d) :
    before ≤ before ∧ ∃ after, p.value live market now = .ok after ∧
      after ≤ after := by
  obtain ⟨after, value, difference⟩ := Position.change_eq_ok.mp h
  obtain ⟨definedAfter, definedBefore⟩ := defined_of_sub difference defined
  exact ⟨definedBefore, after, value, definedAfter⟩

/-- A sum of changes is defined only if it starts from something defined and
all changes are defined. -/
theorem defined_of_changes {market : Market}
    {valued : List (Position × Decimal)} {start r : Decimal}
    (h : valued.foldlM
      (fun sum entry => do sum.add (← entry.1.change live market now entry.2))
      start =
      (.ok r : Except Fault Decimal)) (defined : r ≤ r) :
    start ≤ start ∧ ∀ entry ∈ valued, ∃ d,
      entry.1.change live market now entry.2 = .ok d ∧ d ≤ d := by
  induction valued generalizing start with
  | nil =>
    rw [List.foldlM_nil, pure_eq_ok] at h
    exact ⟨h ▸ defined, fun _ absurd => nomatch absurd⟩
  | cons entry valued ih =>
    obtain ⟨sum, step, rest⟩ := foldlM_cons_eq_ok.mp h
    obtain ⟨definedSum, others⟩ := ih rest
    obtain ⟨change, changes, adds⟩ := bind_eq_ok.mp step
    obtain ⟨definedStart, definedChange⟩ :=
      defined_of_add (lift_eq_ok.mp adds) definedSum
    exact ⟨definedStart,
      List.forall_mem_cons.mpr ⟨⟨change, changes, definedChange⟩, others⟩⟩

/-- The result of a scenario is defined only if all values before and after the
shock are. -/
theorem defined_of_scenarioResult {market : Market}
    {valued : List (Position × Decimal)} {s : Scenario} {r : Decimal}
    (h : scenarioResult live market now valued s = .ok r) (defined : r ≤ r) :
    ∃ shocked, market.shocked s = .ok shocked ∧ ∀ entry ∈ valued,
      entry.2 ≤ entry.2 ∧ ∃ after, entry.1.value live shocked now = .ok after ∧
        after ≤ after := by
  obtain ⟨shocked, shock, sum⟩ := bind_eq_ok.mp h
  refine ⟨shocked, lift_eq_ok.mp shock, fun entry mem => ?_⟩
  obtain ⟨d, change, definedChange⟩ := (defined_of_changes sum defined).2 entry mem
  exact defined_of_change change definedChange

/-- A result lies between the extremes that it was taken into. -/
theorem Extremes.between_of_take {e e' : Extremes} {r : Decimal}
    (h : e.take r = .ok e') : e'.worst ≤ r ∧ r ≤ e'.best := by
  obtain ⟨best, worst⟩ := Extremes.take_eq_ok.mp h
  exact ⟨smaller_le_right worst, le_larger_right best⟩

/-! ### Base assets -/

/-- Statistics of a base asset whose worst result is at most its best one, and
whose gross value is not negative. -/
structure AssetStatistics.TwoSided (s : AssetStatistics) : Prop where
  sides : s.biggestLoss ≤ s.biggestProfit
  gross : zero ≤ s.grossValue

/-- The magnitudes of defined values have a sum on the upper side of zero. -/
theorem zero_le_grossValue {values : List Decimal} {g : Decimal}
    (h : grossValue values = .ok g) (defined : ∀ v ∈ values, v ≤ v) :
    zero ≤ g := by
  refine foldlM_invariant h (by decide : zero ≤ zero) ?_
  intro sum v sum' hv upper step
  obtain ⟨magnitude, abs, adds⟩ := bind_eq_ok.mp step
  exact zero_le_add upper (zero_le_abs (defined v hv) abs) adds

theorem assetStatistics_twoSided {positions : List Position} {info : AssetInfo}
    {category : CategoryInfo} {period : Value} {s : AssetStatistics}
    (h : assetStatistics live positions info category period now = .ok s) :
    s.TwoSided := by
  obtain ⟨valued, scenarios, extremes, -, variants, loop, gross, best, worst,
    -⟩ := assetStatistics_eq_ok.mp h
  -- the last scenario has a result between the extremes
  obtain ⟨e, last, -, step⟩ := foldlM_last loop (variants_ne_nil variants)
  obtain ⟨r, result, taken⟩ := bind_eq_ok.mp step
  obtain ⟨low, high⟩ := Extremes.between_of_take (lift_eq_ok.mp taken)
  constructor
  · rw [best, worst]
    exact Decimal.le_trans low high
  · -- what lies between two numbers is defined, and so are all values
    obtain ⟨_, -, defined⟩ := defined_of_scenarioResult result (le_refl_left high)
    refine zero_le_grossValue gross ?_
    intro v hv
    obtain ⟨entry, mem, rfl⟩ := List.mem_map.mp hv
    exact (defined entry mem).1

/-! ### Roll-up -/

/-- Sums whose losses are at least what the profits are below zero, over a
gross value that is not negative. -/
structure Totals.TwoSided (t : Totals) : Prop where
  sides : t.losses.flip ≤ t.profits
  gross : zero ≤ t.gross

theorem Totals.start_twoSided : Totals.start.TwoSided :=
  ⟨by decide, by decide⟩

/-- One more base asset. -/
theorem Totals.TwoSided.take {t t' : Totals} {s : AssetStatistics}
    (ht : t.TwoSided) (hs : s.TwoSided) (h : t.take s = .ok t') :
    t'.TwoSided := by
  obtain ⟨profits, losses, gross⟩ := Totals.take_eq_ok.mp h
  exact ⟨flip_sub_le_add ht.sides hs.sides _ _ losses profits,
    zero_le_add ht.gross hs.gross gross⟩

/-- The buffer and the overall factor leave the sides apart. -/
theorem Portfolio.ofStatistics_twoSided {groups : List AssetStatistics}
    (sound : ∀ s ∈ groups, s.TwoSided)
    {config : CollateralConfig} (shift : zero ≤ config.priceShiftFactor)
    (overall : ofInt (-1) ≤ config.overallFactor) {p : Portfolio}
    (h : Portfolio.ofStatistics groups config = .ok p) :
    p.maxLoss.flip ≤ p.maxProfit := by
  obtain ⟨totals, buffer, profits, losses, factor, sums, scaled, hp, hl, one,
    loss, profit⟩ :=
    Portfolio.ofStatistics_eq_ok.mp h
  have apart : totals.TwoSided :=
    foldlM_invariant sums Totals.start_twoSided fun _ s _ hs before step =>
      before.take (sound s hs) step
  have bufferSide : zero ≤ buffer := zero_le_mul apart.gross shift scaled
  have buffered : losses.flip ≤ profits :=
    flip_add_le_add apart.sides bufferSide _ _ hl hp
  exact flip_mul_le_mul buffered (zero_le_one_add overall one) _ _ loss profit

/-- Of two numbers that are on either side of zero, or further apart, one is
not below zero. -/
theorem zero_le_or_zero_le {loss profit : Decimal} (h : loss.flip ≤ profit) :
    zero ≤ loss ∨ zero ≤ profit := by
  have apart := flip_le_iff.mp h
  rcases Quantity.le_total_zero (Quantity.le_refl_left apart) with low | high
  · left
    have mirror := Quantity.opposite_le_opposite low
    rw [Quantity.opposite_opposite, Quantity.opposite_zero] at mirror
    exact zero_le_iff.mpr mirror
  · right
    exact zero_le_iff.mpr (Quantity.le_trans high apart)

/-! ### Portfolios -/

/-- **Two sides.**  With a buffer and an overall factor that are not negative,
wherever the statistics of positions return: no base asset's worst result is
above its best one, gross values are not negative, and the portfolio's profit is
at least its loss with the other sign; so one of the two is not below zero. -/
theorem portfolioStatistics_twoSided (live : LiveModel)
    (positions : List Position) (infos : Keyed Int AssetInfo)
    (categories : CategoryTable) {config : CollateralConfig}
    (shift : zero ≤ config.priceShiftFactor)
    (overall : ofInt (-1) ≤ config.overallFactor) (period : Value) (now : Int)
    {s : PortfolioStatistics}
    (h : portfolioStatistics live positions infos categories config period now =
      .ok s) :
    (∀ a ∈ s.assets, a.2.biggestLoss ≤ a.2.biggestProfit ∧ zero ≤ a.2.grossValue) ∧
      s.portfolio.maxLoss.flip ≤ s.portfolio.maxProfit ∧
      (zero ≤ s.portfolio.maxLoss ∨ zero ≤ s.portfolio.maxProfit) := by
  obtain ⟨groups, rollUp⟩ := portfolioStatistics_eq_ok.mp h
  have sound : ∀ a ∈ s.assets, a.2.TwoSided := by
    intro a ha
    obtain ⟨group, -, statistics⟩ := exists_of_forall₂ groups ha
    obtain ⟨info, category, -, -, statistics, -⟩ :=
      groupStatistics_eq_ok.mp statistics
    exact assetStatistics_twoSided statistics
  have apart : s.portfolio.maxLoss.flip ≤ s.portfolio.maxProfit := by
    refine Portfolio.ofStatistics_twoSided ?_ shift overall rollUp
    intro t ht
    obtain ⟨a, ha, rfl⟩ := List.mem_map.mp ht
    exact sound a ha
  exact ⟨fun a ha => ⟨(sound a ha).sides, (sound a ha).gross⟩, apart,
    zero_le_or_zero_le apart⟩

/-- The small book's loss is below zero, and its profit is well above the loss
with the other sign. -/
theorem sample_twoSided :
    zero ≤ Sample.config.priceShiftFactor ∧
      ofInt (-1) ≤ Sample.config.overallFactor ∧
      portfolioStatistics Sample.live Sample.book Sample.infos Sample.categories
        Sample.config (.whole 3600) 0 = .ok Sample.statistics ∧
      ¬ zero ≤ Sample.statistics.portfolio.maxLoss ∧
      (∀ a ∈ Sample.statistics.assets, a.2.biggestLoss ≤ a.2.biggestProfit ∧
        zero ≤ a.2.grossValue) ∧
      Sample.statistics.portfolio.maxLoss.flip ≤
        Sample.statistics.portfolio.maxProfit := by
  have shift : zero ≤ Sample.config.priceShiftFactor := by decide +kernel
  have overall : ofInt (-1) ≤ Sample.config.overallFactor := by decide +kernel
  have run : portfolioStatistics Sample.live Sample.book Sample.infos
      Sample.categories Sample.config (.whole 3600) 0 =
        .ok Sample.statistics := by decide +kernel
  have law := portfolioStatistics_twoSided Sample.live Sample.book Sample.infos
    Sample.categories shift overall (.whole 3600) 0 run
  exact ⟨shift, overall, run, by decide +kernel, law.1, law.2.1⟩

end ScenarioMargin
