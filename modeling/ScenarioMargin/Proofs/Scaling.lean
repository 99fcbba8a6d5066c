/-
ScenarioMargin/Proofs/Scaling.lean

The multiplier of a case means that many times the legs.  Where nothing has to
be rounded, a case with multiplier `m` requires the same as a case with
multiplier one does of the positions with all amounts `m` times as large.

Gains, and so risks, are linear in the amounts; a factor that is not negative
does not change which gain is the greatest (`risk_times`), leaves the
magnitudes of values apart by itself (`gross_times`) and passes through both
buffers (`stake_times`) and through the raising to zero.  It stops at the least
collateral, which no multiplier scales.  Above it, what is required is the
multiplier times a figure of the portfolio, and so additive and linear.

Main result: `requiredCollateral_times`.
-/
import ScenarioMargin.Proofs.Returns
import ScenarioMargin.Proofs.Stake

namespace ScenarioMargin

open Decimal

/-- The same position with its amount multiplied, in whatever spelling. -/
structure Position.Times (m : ℚ) (p q : Position) : Prop where
  baseAsset : q.baseAsset = p.baseAsset
  side : q.side = p.side
  instrument : q.instrument = p.instrument
  amount : q.amount.Reads (p.amount.number * m)

namespace Reference

variable {u : OptionPrice} {S : Setting} {m : ℚ} {as bs : List Position}

/-! ### Multiplied amounts -/

theorem signed_times {p q : Position} (h : p.Times m q) :
    signed q = m * signed p := by
  rw [signed, signed, h.side]
  cases p.side
  · rw [h.amount.number]
    ring
  · rw [h.amount.number]
    ring

variable (h : List.Forall₂ (Position.Times m) as bs)

include h

theorem map_times {α : Type} {f : Position → α}
    (same : ∀ p q, p.Times m q → f q = f p) : bs.map f = as.map f := by
  induction h with
  | nil => rfl
  | cons head _ ih => rw [List.map_cons, List.map_cons, same _ _ head, ih]

/-- A sum over positions is multiplied with its terms. -/
theorem sum_times {f g : Position → ℚ}
    (scales : ∀ p q, p.Times m q → g q = m * f p) :
    (bs.map g).sum = m * (as.map f).sum := by
  induction h with
  | nil => simp
  | cons head _ ih =>
    rw [List.map_cons, List.map_cons, List.sum_cons, List.sum_cons,
      scales _ _ head, ih, mul_add]

theorem positionsIn_times (i : Int) :
    List.Forall₂ (Position.Times m) (positionsIn as i) (positionsIn bs i) := by
  refine List.rel_filter ?_ h
  intro p q times
  simp only [times.baseAsset]

theorem withOption_times : withOption bs = withOption as := by
  have kinds :=
    map_times h (f := fun p => p.instrument.isOption) fun p q times => by
      rw [times.instrument]
  calc withOption bs = (bs.map fun p => p.instrument.isOption).any id := by
        rw [List.any_map]; rfl
    _ = withOption as := by rw [kinds, List.any_map]; rfl

theorem gain_times (f : Figures) (s : Shock) :
    gain u f bs s = m * gain u f as s := by
  refine sum_times h ?_
  intro p q times
  rw [signed_times times, times.instrument, mul_assoc]

variable (unsigned : 0 ≤ m)

include unsigned

theorem gross_times : gross u S bs = m * gross u S as := by
  refine sum_times h ?_
  intro p q times
  rw [worth, worth, signed_times times, times.instrument, times.baseAsset,
    mul_assoc, abs_mul, abs_of_nonneg unsigned]

/-- The greatest gain stays the greatest. -/
theorem risk_times (inverted : Bool) (i : Int) :
    risk u S inverted bs i = m * risk u S inverted as i := by
  have greatest := (monotone_mul_left_of_nonneg unsigned).map_isGreatest
    (risk_isGreatest (u := u) (S := S) inverted as i)
  have gains :
      (fun s =>
        m * turned inverted (gain u (S.figures i) (positionsIn as i) s)) =
      fun s => turned inverted (gain u (S.figures i) (positionsIn bs i) s) := by
    funext s
    rw [gain_times (positionsIn_times h i), turned_mul]
  rw [Set.image_image, gains,
    ← withOption_times (positionsIn_times h i)] at greatest
  exact (risk_isGreatest inverted bs i).unique greatest

theorem stake_times (config : CollateralConfig) (inverted : Bool) :
    stake u S config inverted bs = m * stake u S config inverted as := by
  have assets : bs.map Position.baseAsset = as.map Position.baseAsset :=
    map_times h fun _ _ times => times.baseAsset
  rw [stake, stake, assets, gross_times h unsigned,
    Finset.sum_congr rfl fun i _ => risk_times h unsigned inverted i,
    ← Finset.mul_sum]
  ring

/-- A multiplier may be taken from the case into the amounts. -/
theorem required_times (config : CollateralConfig) {c d : Case}
    (inverted : d.isInverted = c.isInverted)
    (multiplier : c.multiplier.number = m) (one : d.multiplier.number = 1) :
    required u S config d bs = required u S config c as := by
  have raised : max (m * stake u S config c.isInverted as) 0 =
      m * max (stake u S config c.isInverted as) 0 := by
    rw [mul_max_of_nonneg _ _ unsigned, mul_zero]
  rw [required, required, inverted, multiplier, one, stake_times h unsigned,
    raised, mul_one, mul_comm]

end Reference

/-- A figure that is not negative, times the multiplier and raised to a floor:
above the floor it is additive and linear in the multiplier. -/
theorem max_mul_linear {x m n floor : ℚ} (hx : 0 ≤ x) (hn : 0 ≤ n)
    (aboveM : ¬ max (x * m) floor ≤ floor)
    (aboveN : ¬ max (x * n) floor ≤ floor) :
    max (x * (m + n)) floor = max (x * m) floor + max (x * n) floor ∧
      m * max (x * n) floor = n * max (x * m) floor := by
  have floorM : floor ≤ x * m :=
    le_of_not_ge fun below => aboveM (max_le below le_rfl)
  have floorN : floor ≤ x * n :=
    le_of_not_ge fun below => aboveN (max_le below le_rfl)
  have floorSum : floor ≤ x * (m + n) := by
    rw [mul_add]
    exact floorM.trans (le_add_of_nonneg_right (mul_nonneg hx hn))
  rw [max_eq_left floorM, max_eq_left floorN, max_eq_left floorSum]
  constructor <;> ring

section Scaling

variable {live : LiveModel} {u : OptionPrice} {now : Int} {S : Setting}
  {infos : Keyed Int AssetInfo}
variable {categories : CategoryTable} {period : Value}
  {positions multiplied : List Position}
variable {config : CollateralConfig}

/-- Multiplied amounts are finite, and leave what is valued and in which
markets. -/
theorem Evaluable.times
    (h : Evaluable live u now S infos categories period positions) {m : ℚ}
    (scaled : List.Forall₂ (Position.Times m) positions multiplied) :
    Evaluable live u now S infos categories period multiplied := by
  refine ⟨⟨?_, ?_, ?_⟩, ?_, ?_⟩
  all_goals
    intro q hq
    obtain ⟨p, hp, same⟩ := exists_of_forall₂ scaled hq
    try rw [same.baseAsset]
  · exact h.holds.info p hp
  · exact h.holds.category p hp
  · exact h.holds.bucket p hp
  · refine ⟨⟨same.amount.isFinite, ?_⟩, (h.finite p hp).2⟩
    rw [same.instrument]
    exact (h.finite p hp).1.terms
  · have priced := h.priced p hp
    rw [← Reference.withOption_times
      (Reference.positionsIn_times scaled p.baseAsset)] at priced
    simp only [Priced, same.instrument]
    exact priced

/-- **Scaling.**  Positions are evaluated with a multiplier that is not
negative, and the same positions with all amounts multiplied are evaluated with
multiplier one, with finite figures, options at any prices, and no operation
that has to round.  Then both evaluations return and require numerically the
same.  What the positions require above the least collateral is additive and
linear in the multiplier. -/
theorem requiredCollateral_times
    (h : Evaluable live u now S infos categories period positions)
    (shift : config.priceShiftFactor.isFinite)
    (overall : config.overallFactor.isFinite) {least : Decimal}
    (hl : config.minCollateral = .ok least) {m : Decimal}
    (multiplier : m.isFinite)
    (unsigned : zero ≤ m) (authority : Authority) (side : QuoteSide)
    (scaled : List.Forall₂ (Position.Times m.number) positions multiplied)
    (exact : (Exact.required u S config
      ⟨m, authority, side⟩ positions).NoRounding)
    (exactTimes : (Exact.required u S config
      ⟨.one, authority, side⟩ multiplied).NoRounding) :
    ∃ s t r r',
      portfolioStatistics live positions infos categories config period now =
        .ok s ∧
      portfolioStatistics live multiplied infos categories config period now =
        .ok t ∧
      requiredCollateral s.portfolio ⟨m, authority, side⟩ config = .ok r ∧
      requiredCollateral t.portfolio ⟨.one, authority, side⟩ config = .ok r' ∧
      r.Same r' ∧
      ∀ n sum : Decimal, n.isFinite → zero ≤ n → sum.Reads (m.number + n.number) →
        (Exact.required u S config ⟨n, authority, side⟩ positions).NoRounding →
        (Exact.required u S config ⟨sum, authority, side⟩ positions).NoRounding →
        ∃ rn rs,
          requiredCollateral s.portfolio ⟨n, authority, side⟩ config = .ok rn ∧
          requiredCollateral s.portfolio ⟨sum, authority, side⟩ config = .ok rs ∧
          (¬ r ≤ least → ¬ rn ≤ least →
            rs.number = r.number + rn.number ∧
            m.number * rn.number = n.number * r.number) := by
  have h' := h.times scaled
  have nonneg : 0 ≤ m.number := (reads_number multiplier).nonneg unsigned
  obtain ⟨s, run, -, -⟩ :=
    h.portfolio shift overall (Exact.noRounding_bind.mp exact).1
  obtain ⟨t, runTimes, -, -⟩ :=
    h'.portfolio shift overall (Exact.noRounding_bind.mp exactTimes).1
  obtain ⟨r, hr, reads⟩ := h.required shift overall run hl multiplier exact
  obtain ⟨r', hr', reads'⟩ := h'.required shift overall runTimes hl rfl exactTimes
  rw [Reference.required_times scaled nonneg config (c := ⟨m, authority, side⟩)
    (d := ⟨.one, authority, side⟩) rfl rfl reads_one.number] at reads'
  refine ⟨s, t, r, r', run, runTimes, hr, hr', reads.trans reads'.symm, ?_⟩
  -- the same portfolio under other multipliers
  intro n sum finite upper readsSum exactN exactSum
  obtain ⟨rn, hrn, readsN⟩ := h.required shift overall run hl finite exactN
  obtain ⟨rs, hrs, readsS⟩ :=
    h.required shift overall run hl readsSum.isFinite exactSum
  refine ⟨rn, rs, hrn, hrs, ?_⟩
  intro above aboveN
  have floor := minCollateral_reads exact hl
  rw [Decimal.Reads, Reference.required] at reads readsN readsS
  have aboveM : ¬ r.quantity ≤ least.quantity := above
  have aboveN : ¬ rn.quantity ≤ least.quantity := aboveN
  rw [reads, floor, Quantity.rational_le_rational] at aboveM
  rw [readsN, floor, Quantity.rational_le_rational] at aboveN
  rw [Decimal.Reads.number readsS, Decimal.Reads.number reads,
    Decimal.Reads.number readsN, readsSum.number]
  exact max_mul_linear (le_max_right _ 0)
    ((reads_number finite).nonneg upper) aboveM aboveN

/-- The small book with one and a half times its amounts. -/
def Sample.largerBook : List Position :=
  [⟨0, .finite false 3000 (-3), .long, .spot⟩,
   ⟨1, .finite false 225 (-2), .short, .perpFuture (.ofInt 10)⟩,
   ⟨0, .finite false 45 (-1), .short, .option .call .one (.ofInt 100) 10⟩]

theorem Sample.book_times :
    List.Forall₂ (Position.Times (3 / 2)) Sample.book Sample.largerBook :=
  .cons ⟨rfl, rfl, rfl, reads_of_number rfl (by decide +kernel)⟩
    (.cons ⟨rfl, rfl, rfl, reads_of_number rfl (by decide +kernel)⟩
      (.cons ⟨rfl, rfl, rfl, reads_of_number rfl (by decide +kernel)⟩ .nil))

/-- Multipliers of one and a half and of one half above the least collateral,
and of their sum. -/
theorem sample_times :
    ∃ t r' rs,
      portfolioStatistics Sample.live Sample.book Sample.infos Sample.categories
        Sample.config (.whole 3600) 0 = .ok Sample.statistics ∧
      portfolioStatistics Sample.live Sample.largerBook Sample.infos
        Sample.categories Sample.config (.whole 3600) 0 = .ok t ∧
      requiredCollateral Sample.statistics.portfolio
        ⟨.finite false 15 (-1), .taker, .ask⟩ Sample.config =
          .ok (.finite false 431062500 (-7)) ∧
      requiredCollateral t.portfolio ⟨.one, .taker, .ask⟩ Sample.config = .ok r' ∧
      (Decimal.finite false 431062500 (-7)).Same r' ∧
      requiredCollateral Sample.statistics.portfolio
        ⟨.finite false 5 (-1), .taker, .ask⟩ Sample.config =
          .ok (.finite false 143687500 (-7)) ∧
      requiredCollateral Sample.statistics.portfolio
        ⟨.ofInt 2, .taker, .ask⟩ Sample.config = .ok rs ∧
      rs.number = (Decimal.finite false 431062500 (-7)).number +
        (Decimal.finite false 143687500 (-7)).number := by
  have run : portfolioStatistics Sample.live Sample.book Sample.infos
      Sample.categories Sample.config (.whole 3600) 0 =
        .ok Sample.statistics := by decide +kernel
  have required : requiredCollateral Sample.statistics.portfolio
      ⟨.finite false 15 (-1), .taker, .ask⟩ Sample.config =
        .ok (.finite false 431062500 (-7)) := by decide +kernel
  have requiredHalf : requiredCollateral Sample.statistics.portfolio
      ⟨.finite false 5 (-1), .taker, .ask⟩ Sample.config =
        .ok (.finite false 143687500 (-7)) := by decide +kernel
  have exactly : ∀ m ∈ [.finite false 15 (-1), .finite false 5 (-1), .ofInt 2],
      (Exact.required Sample.price Sample.setting Sample.config
        ⟨m, .taker, .ask⟩ Sample.book).NoRounding := by
    have digits : ∀ m ∈ [.finite false 15 (-1), .finite false 5 (-1), .ofInt 2],
        ∀ q ∈ (Exact.required Sample.price Sample.setting Sample.config
          ⟨m, .taker, .ask⟩ Sample.book).results,
          (q * 10 ^ 6).den = 1 ∧ |q * 10 ^ 6| < 10 ^ precision := by decide +kernel
    exact fun m hm => Exact.noRounding_of_scaled (by decide) (digits m hm)
  have digits : ∀ q ∈ (Exact.required Sample.price Sample.setting Sample.config
        ⟨.one, .taker, .ask⟩
      Sample.largerBook).results, (q * 10 ^ 6).den = 1 ∧
      |q * 10 ^ 6| < 10 ^ precision := by decide +kernel
  have multiplier : (Decimal.finite false 15 (-1)).number = 3 / 2 := by
    decide +kernel
  obtain ⟨s, t, r, r', hs, runTimes, hr, hr', same, linear⟩ :=
    requiredCollateral_times Sample.book_evaluable
      (rfl : Sample.config.priceShiftFactor.isFinite)
      rfl (by decide +kernel : Sample.config.minCollateral =
        .ok (.finite false 5000000 (-6)))
      (m := .finite false 15 (-1)) rfl (by decide +kernel) .taker .ask
        (multiplier ▸ Sample.book_times)
      (exactly _ (by simp)) (Exact.noRounding_of_scaled (by decide) digits)
  obtain rfl := Except.ok.inj (run.symm.trans hs)
  obtain rfl := Except.ok.inj (required.symm.trans hr)
  obtain ⟨rn, rs, hrn, hrs, sum⟩ :=
    linear (.finite false 5 (-1)) (.ofInt 2) rfl (by decide +kernel)
      (reads_of_number rfl (by decide +kernel)) (exactly _ (by simp))
      (exactly _ (by simp))
  obtain rfl := Except.ok.inj (requiredHalf.symm.trans hrn)
  exact ⟨t, r', rs, run, runTimes, required, hr', same, requiredHalf, hrs,
    (sum (by decide +kernel) (by decide +kernel)).1⟩

end Scaling

end ScenarioMargin
