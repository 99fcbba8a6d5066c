/-
ScenarioMargin/Proofs/Netting.lean

Netting never costs more.  Two lists of positions are evaluated apart and one
behind the other, with the same tables and nothing to round.  Together they can
lose no more than the sum of what they can lose apart, and gain no more than
the sum of what they can gain; so one collateral for both is at most the sum of
the two.

In a base asset that both lists share, the greatest of the sums of gains is at
most the sum of the greatest gains.  The shocks need not be the same in the
three runs: where only one of the lists has an option in the base asset, the
other is stressed by two shocks when it stands alone and by four in the common
run.  It gains nothing from the other two (`Reference.turned_gain_le_risk`).
Gross values add up exactly, so the buffer may have either sign.  The overall
factor must not turn the figures around, which is the one hypothesis on the
config.

Main result: `portfolioStatistics_append`.
-/
import ScenarioMargin.Proofs.Stake

namespace ScenarioMargin

open Decimal

/-- At most the exact sum of two numbers, all three of them finite. -/
def Decimal.AtMostSum (c a b : Decimal) : Prop :=
  ∃ x y z : ℚ, a.Reads x ∧ b.Reads y ∧ c.Reads z ∧ z ≤ x + y

namespace Reference

variable {u : OptionPrice} {S : Setting} {as bs : List Position}

/-! ### Positions behind each other -/

theorem positionsIn_append (i : Int) :
    positionsIn (as ++ bs) i = positionsIn as i ++ positionsIn bs i :=
  List.filter_append ..

theorem withOption_append :
    withOption (as ++ bs) = (withOption as || withOption bs) :=
  List.any_append

theorem gain_append (f : Figures) (s : Shock) :
    gain u f (as ++ bs) s = gain u f as s + gain u f bs s := by
  rw [gain, List.map_append, List.sum_append]
  rfl

theorem gross_append : gross u S (as ++ bs) = gross u S as + gross u S bs := by
  rw [gross, List.map_append, List.sum_append]
  rfl

/-- The greatest sum of gains is at most the sum of the greatest gains,
whichever of the two has an option. -/
theorem risk_append_le (inverted : Bool) (i : Int) :
    risk u S inverted (as ++ bs) i ≤
      risk u S inverted as i + risk u S inverted bs i := by
  obtain ⟨s, hs, attained⟩ :=
    (risk_isGreatest (u := u) (S := S) inverted (as ++ bs) i).1
  rw [← attained]
  dsimp only
  rw [positionsIn_append, gain_append, turned_add]
  rw [positionsIn_append, withOption_append] at hs
  refine add_le_add (turned_gain_le_risk inverted ?_ hs)
    (turned_gain_le_risk inverted ?_ hs)
  · intro h
    rw [h, Bool.true_or]
  · intro h
    rw [h, Bool.or_true]

/-- The risks of all base assets of both lists. -/
theorem sum_risk_append_le (inverted : Bool) :
    ∑ i ∈ ((as ++ bs).map Position.baseAsset).toFinset,
      risk u S inverted (as ++ bs) i ≤
        ∑ i ∈ (as.map Position.baseAsset).toFinset,
          risk u S inverted as i + ∑ i ∈ (bs.map Position.baseAsset).toFinset,
          risk u S inverted bs i := by
  rw [List.map_append, List.toFinset_append]
  -- a list has no risk in the base assets that only the other one holds
  have left : ∑ i ∈ (as.map Position.baseAsset).toFinset, risk u S inverted as i =
      ∑ i ∈ (as.map Position.baseAsset).toFinset ∪
        (bs.map Position.baseAsset).toFinset, risk u S inverted as i :=
    Finset.sum_subset Finset.subset_union_left fun i _ absent =>
      risk_of_notMem inverted (List.mem_toFinset.not.mp absent)
  have right : ∑ i ∈ (bs.map Position.baseAsset).toFinset, risk u S inverted bs i =
      ∑ i ∈ (as.map Position.baseAsset).toFinset ∪
        (bs.map Position.baseAsset).toFinset, risk u S inverted bs i :=
    Finset.sum_subset Finset.subset_union_right fun i _ absent =>
      risk_of_notMem inverted (List.mem_toFinset.not.mp absent)
  rw [left, right, ← Finset.sum_add_distrib]
  exact Finset.sum_le_sum fun i _ => risk_append_le inverted i

variable {config : CollateralConfig} (upright : 0 ≤ 1 + config.overallFactor.number)

include upright

theorem stake_append_le (inverted : Bool) :
    stake u S config inverted (as ++ bs) ≤
      stake u S config inverted as + stake u S config inverted bs := by
  rw [stake, stake, stake, ← add_mul, gross_append]
  apply mul_le_mul_of_nonneg_right _ upright
  have risks := @sum_risk_append_le u S as bs inverted
  linarith

/-- Raised to zero, scaled and raised to the least collateral, what is at stake
is still at most the sum. -/
theorem required_append_le {c : Case} (multiplier : 0 ≤ c.multiplier.number)
    (least : 0 ≤ (config.minimum : ℚ) * 10 ^ (-config.mintDecimals)) :
    required u S config c (as ++ bs) ≤
      required u S config c as + required u S config c bs := by
  rw [required, required, required]
  have stakes := @stake_append_le u S as bs config upright c.isInverted
  generalize stake u S config c.isInverted (as ++ bs) = z at stakes ⊢
  generalize stake u S config c.isInverted as = x at stakes ⊢
  generalize stake u S config c.isInverted bs = y at stakes ⊢
  generalize (config.minimum : ℚ) * 10 ^ (-config.mintDecimals) = l at least ⊢
  have raised : max z 0 ≤ max x 0 + max y 0 :=
    max_le (stakes.trans (add_le_add (le_max_left x 0) (le_max_left y 0)))
      (add_nonneg (le_max_right x 0) (le_max_right y 0))
  have scaled : max z 0 * c.multiplier.number ≤
      max x 0 * c.multiplier.number + max y 0 * c.multiplier.number := by
    rw [← add_mul]
    exact mul_le_mul_of_nonneg_right raised multiplier
  apply max_le
  · exact scaled.trans (add_le_add (le_max_left _ l) (le_max_left _ l))
  · exact (le_max_right _ l).trans
      (le_add_of_nonneg_right (least.trans (le_max_right _ l)))

end Reference

/-! ### Fewer positions in the same tables -/

section Fewer

variable {live : LiveModel} {u : OptionPrice} {now : Int} {S : Setting}
  {infos : Keyed Int AssetInfo}
variable {categories : CategoryTable} {period : Value}
  {positions fewer : List Position} (h : fewer ⊆ positions)

include h

/-- The markets in which the options among fewer positions are priced are among
those of all. -/
theorem AllPriced.of_subset (priced : AllPriced live u now S positions) :
    AllPriced live u now S fewer := by
  intro p hp
  refine ⟨(priced p (h hp)).1, ?_⟩
  intro s hs kind amount strike expiration instrument
  -- with an option among the fewer, there is one among all, and both are
  -- stressed alike
  have option : ∀ {l : List Position}, p ∈ l →
      withOption (Reference.positionsIn l p.baseAsset) = true := by
    intro l hl
    refine List.any_eq_true.mpr
      ⟨p, List.mem_filter.mpr ⟨hl, decide_eq_true rfl⟩, ?_⟩
    rw [instrument]
    rfl
  rw [option hp, ← option (h hp)] at hs
  exact (priced p (h hp)).2 s hs kind amount strike expiration instrument

theorem Evaluable.of_subset
    (all : Evaluable live u now S infos categories period positions) :
    Evaluable live u now S infos categories period fewer where
  holds :=
    ⟨fun p hp => all.holds.info p (h hp),
      fun p hp => all.holds.category p (h hp),
    fun p hp => all.holds.bucket p (h hp)⟩
  finite p hp := all.finite p (h hp)
  priced := all.priced.of_subset h

end Fewer

/-! ### Netting -/

/-- A factor that is not below minus one, as a rational number. -/
theorem upright_number {config : CollateralConfig}
    (overall : config.overallFactor.isFinite)
    (upright : ofInt (-1) ≤ config.overallFactor) :
    0 ≤ 1 + config.overallFactor.number := by
  have reads : config.overallFactor.quantity =
      .rational config.overallFactor.number := reads_number overall
  have bound : (ofInt (-1)).quantity ≤ config.overallFactor.quantity := upright
  rw [quantity_ofInt, reads, Quantity.rational_le_rational] at bound
  push_cast at bound
  linarith

section Netting

variable {live : LiveModel} {u : OptionPrice} {now : Int} {S : Setting}
  {infos : Keyed Int AssetInfo}
variable {categories : CategoryTable} {period : Value} {as bs : List Position}
  {config : CollateralConfig}

/-- **Netting.**  Two lists of positions are evaluated apart and one behind the
other, with finite figures, options at any prices, and no operation that has to
round.  Then all three evaluations return, and the portfolio of both can lose
and gain at most the sum of what the two can.  With a least collateral and a
multiplier that are not negative, each case requires of both at most the sum of
what it requires of the two. -/
theorem portfolioStatistics_append
    (h : Evaluable live u now S infos categories period (as ++ bs))
    (shift : config.priceShiftFactor.isFinite)
    (overall : config.overallFactor.isFinite)
    (upright : ofInt (-1) ≤ config.overallFactor)
    (exactA : (Exact.figure u S config as).NoRounding)
    (exactB : (Exact.figure u S config bs).NoRounding)
    (exactAB : (Exact.figure u S config (as ++ bs)).NoRounding) :
    ∃ a b ab,
      portfolioStatistics live as infos categories config period now = .ok a ∧
      portfolioStatistics live bs infos categories config period now = .ok b ∧
      portfolioStatistics live (as ++ bs) infos categories config period now =
        .ok ab ∧
      ab.portfolio.maxLoss.AtMostSum a.portfolio.maxLoss b.portfolio.maxLoss ∧
      ab.portfolio.maxProfit.AtMostSum a.portfolio.maxProfit b.portfolio.maxProfit ∧
      ∀ (c : Case) (least : Decimal), config.minCollateral = .ok least →
        zero ≤ least →
        c.multiplier.isFinite → zero ≤ c.multiplier →
        (Exact.required u S config c as).NoRounding →
        (Exact.required u S config c bs).NoRounding →
        (Exact.required u S config c (as ++ bs)).NoRounding →
        ∃ ra rb rab, requiredCollateral a.portfolio c config = .ok ra ∧
          requiredCollateral b.portfolio c config = .ok rb ∧
          requiredCollateral ab.portfolio c config = .ok rab ∧
          rab.AtMostSum ra rb := by
  have first : Evaluable live u now S infos categories period as :=
    h.of_subset (List.subset_append_left as bs)
  have second : Evaluable live u now S infos categories period bs :=
    h.of_subset (List.subset_append_right as bs)
  have factor := upright_number overall upright
  obtain ⟨a, runA, lossA, profitA⟩ := first.portfolio shift overall exactA
  obtain ⟨b, runB, lossB, profitB⟩ := second.portfolio shift overall exactB
  obtain ⟨ab, runAB, lossAB, profitAB⟩ := h.portfolio shift overall exactAB
  refine ⟨a, b, ab, runA, runB, runAB,
    ⟨_, _, _, lossA, lossB, lossAB, Reference.stake_append_le factor false⟩, ⟨_,
      _, _, profitA, profitB, profitAB, Reference.stake_append_le factor true⟩,
    ?_⟩
  intro c least hl upper multiplier unsigned exactA exactB exactAB
  obtain ⟨ra, hra, readsA⟩ := first.required shift overall runA hl multiplier exactA
  obtain ⟨rb, hrb, readsB⟩ :=
    second.required shift overall runB hl multiplier exactB
  obtain ⟨rab, hrab, readsAB⟩ :=
    h.required shift overall runAB hl multiplier exactAB
  have floor := (minCollateral_reads exactA hl).nonneg upper
  exact ⟨ra, rb, rab, hra, hrb, hrab, _, _, _, readsA, readsB, readsAB,
    Reference.required_append_le factor
      ((reads_number multiplier).nonneg unsigned) floor⟩

/-- Of the small book, the option is evaluated apart from the spot position in
the same base asset. -/
theorem sample_append :
    ∃ a b ab ra rb rab,
      portfolioStatistics Sample.live
        (Sample.book.take 2) Sample.infos Sample.categories Sample.config
        (.whole 3600) 0 = .ok a ∧
      portfolioStatistics Sample.live
        (Sample.book.drop 2) Sample.infos Sample.categories Sample.config
        (.whole 3600) 0 = .ok b ∧
      portfolioStatistics Sample.live Sample.book Sample.infos
        Sample.categories Sample.config (.whole 3600) 0 = .ok ab ∧
      ab.portfolio.maxLoss.AtMostSum a.portfolio.maxLoss b.portfolio.maxLoss ∧
      requiredCollateral a.portfolio ⟨.one, .taker, .ask⟩ Sample.config = .ok ra ∧
      requiredCollateral b.portfolio ⟨.one, .taker, .ask⟩ Sample.config = .ok rb ∧
      requiredCollateral ab.portfolio ⟨.one, .taker, .ask⟩ Sample.config =
        .ok rab ∧ rab.AtMostSum ra rb := by
  have exactly : ∀ l ∈ [Sample.book.take 2, Sample.book.drop 2, Sample.book],
      (Exact.required Sample.price Sample.setting Sample.config
        ⟨.one, .taker, .ask⟩ l).NoRounding := by
    have digits : ∀ l ∈ [Sample.book.take 2, Sample.book.drop 2, Sample.book],
        ∀ q ∈ (Exact.required Sample.price Sample.setting Sample.config
          ⟨.one, .taker, .ask⟩ l).results,
          (q * 10 ^ 6).den = 1 ∧ |q * 10 ^ 6| < 10 ^ precision := by decide +kernel
    exact fun l hl => Exact.noRounding_of_scaled (by decide) (digits l hl)
  have exactA := exactly (Sample.book.take 2) (by simp)
  have exactB := exactly (Sample.book.drop 2) (by simp)
  have exactAB := exactly Sample.book (by simp)
  have whole : Evaluable Sample.live Sample.price 0 Sample.setting Sample.infos
      Sample.categories (.whole 3600)
      (Sample.book.take 2 ++ Sample.book.drop 2) := Sample.book_evaluable
  obtain ⟨a, b, ab, runA, runB, runAB, loss, -, cases⟩ :=
    portfolioStatistics_append whole
      (rfl : Sample.config.priceShiftFactor.isFinite) rfl (by decide +kernel)
      (Exact.noRounding_bind.mp exactA).1 (Exact.noRounding_bind.mp exactB).1
      (Exact.noRounding_bind.mp exactAB).1
  obtain ⟨ra, rb, rab, hra, hrb, hrab, sum⟩ :=
    cases ⟨.one, .taker, .ask⟩ (.finite false 5000000 (-6)) (by decide +kernel)
      (by decide +kernel) rfl (by decide +kernel) exactA exactB exactAB
  exact ⟨a, b, ab, ra, rb, rab, runA, runB, runAB, loss, hra, hrb, hrab, sum⟩

end Netting

end ScenarioMargin
