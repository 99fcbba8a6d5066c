/-
ScenarioMargin/Proofs/Unrounded.lean

The engine attains the formula.  Each of its functions is followed beside its
operations on rational numbers: where all exact results fit the precision, it
succeeds and stands for their value.  The orders in which the engine groups
positions, adds and compares are those of `Exact.required`; that they do not
matter is in `Proofs.Reference`.

Three things are not of the arithmetic and enter as hypotheses.  The base
assets and the bucket must be in the tables (`Setting.Holds`), and options must
have prices that depend on the market's figures only, in the markets that occur
(`Priced`); which prices these are is left open, also for expired options,
whose intrinsic value is made in binary arithmetic.  The mint's decimals must
be a step that the arithmetic takes (`Decimal.maxStep`), as it refuses to move
the point further even where the number would fit.

Main result: `requiredCollateral_exact`.
-/
import ScenarioMargin.Proofs.Reference

namespace ScenarioMargin

open Decimal

/-! ### Finite inputs -/

/-- Instruments that can be valued, with finite amounts per contract. -/
def Instrument.HasFiniteTerms : Instrument → Prop
  | .spot => True
  | .termFuture amount => amount.isFinite
  | .perpFuture amount => amount.isFinite
  | .option _ amount _ _ => amount.isFinite
  | .unrecognised => False

/-- Positions of finite size in such instruments. -/
structure Position.IsFinite (p : Position) : Prop where
  amount : p.amount.isFinite
  terms : p.instrument.HasFiniteTerms

/-- Base assets with finite figures. -/
structure Setting.IsFinite (S : Setting) (i : Int) : Prop where
  price : (S.info i).price.isFinite
  volatility : (S.category i).volatility.isFinite
  rate : (S.category i).rate.isFinite
  priceChange : (S.scenario i).priceChange.isFinite
  volatilityChange : (S.scenario i).volatilityChange.isFinite

/-! ### Readings -/

/-- Markets whose figures are these. -/
structure Market.Reads (m : Market) (f : Figures) : Prop where
  price : m.price.Reads f.price
  volatility : m.volatility.Reads f.volatility
  rate : m.rate.Reads f.rate

/-- Scenarios whose changes are these. -/
structure Scenario.Reads (s : Scenario) (t : Shock) : Prop where
  price : s.priceChange.Reads t.price
  volatility : s.volatilityChange.Reads t.volatility

/-- Statistics of base assets whose figures are these. -/
structure AssetStatistics.Reads (s : AssetStatistics) (t : Exact.Statistics) :
    Prop where
  best : s.biggestProfit.Reads t.best
  worst : s.biggestLoss.Reads t.worst
  gross : s.grossValue.Reads t.gross

/-- Sums over base assets that are these. -/
structure Totals.Reads (t : Totals) (s : Exact.Sums) : Prop where
  profits : t.profits.Reads s.profits
  losses : t.losses.Reads s.losses
  gross : t.gross.Reads s.gross

/-- Portfolios whose figures are these. -/
structure Portfolio.Reads (p : Portfolio) (f : Exact.Figure) : Prop where
  loss : p.maxLoss.Reads f.loss
  profit : p.maxProfit.Reads f.profit

theorem Setting.IsFinite.market {S : Setting} {i : Int} (h : S.IsFinite i) :
    ((S.info i).market (S.category i)).Reads (S.figures i) :=
  ⟨reads_number h.price, reads_number h.volatility, reads_number h.rate⟩

theorem Setting.IsFinite.scenario {S : Setting} {i : Int} (h : S.IsFinite i) :
    (S.scenario i).Reads (S.shock i) :=
  ⟨reads_number h.priceChange, reads_number h.volatilityChange⟩

/-- A position's option, if it is one, has the price of `u` in every market
with these figures. -/
def Priced (live : LiveModel) (u : OptionPrice) (now : Int) (p : Position)
    (f : Figures) : Prop :=
  ∀ kind amount strike expiration,
    p.instrument = .option kind amount strike expiration →
    ∀ market : Market, market.Reads f →
      ∃ d, optionPrice live kind strike expiration now market = .ok d ∧
        d.Reads (u kind strike expiration f)

variable {live : LiveModel} {u : OptionPrice} {now : Int} {p : Position}
  {market : Market} {f : Figures}

/-! ### Positions -/

theorem exposure_attained (h : p.amount.isFinite) :
    Attains Reads p.exposure (Exact.exposure p) := by
  rw [Position.exposure, Exact.exposure]
  cases p.side
  · exact (reads_number h).neg
  · exact .pure (reads_number h)

theorem unit_attained (h : p.IsFinite) (priced : Priced live u now p f)
    (reads : market.Reads f) :
    Attains Reads (p.instrument.value live market now)
      (Exact.unit u f p.instrument) := by
  have terms := h.terms
  cases instrument : p.instrument with
  | spot => exact .pure reads.price
  | termFuture amount =>
    rw [instrument] at terms
    exact (reads.price.mul (reads_number terms)).lift
  | perpFuture amount =>
    rw [instrument] at terms
    exact (reads.price.mul (reads_number terms)).lift
  | option kind amount strike expiration =>
    rw [instrument] at terms
    obtain ⟨d, price, unit⟩ :=
      priced kind amount strike expiration instrument market reads
    exact Attains.bind_left price (unit.mul (reads_number terms)).lift
  | unrecognised =>
    rw [instrument] at terms
    exact terms.elim

theorem worth_attained (h : p.IsFinite) (priced : Priced live u now p f)
    (reads : market.Reads f) :
    Attains Reads (p.value live market now) (Exact.worth u f p) := by
  refine (unit_attained h priced reads).bind ?_
  intro unit x hx
  refine (exposure_attained h.amount).lift.bind ?_
  exact fun exposure y hy => (hx.mul hy).lift

/-! ### Scenarios -/

theorem changed_attained {a change : Decimal} {x y : ℚ} (ha : a.Reads x)
    (hc : change.Reads y) :
    Attains Reads (a.changed change) (Exact.changed x y) :=
  (reads_one.add hc).bind fun _ _ factor => ha.mul factor

theorem shocked_attained {s : Scenario} {t : Shock} (reads : market.Reads f)
    (hs : s.Reads t) :
    Attains Market.Reads (market.shocked s) (Exact.shocked f t) := by
  refine (changed_attained reads.price hs.price).bind ?_
  intro price x hx
  refine (changed_attained reads.volatility hs.volatility).bind ?_
  exact fun volatility y hy => .pure ⟨hx, hy, reads.rate⟩

variable {positions : List Position}

/-- A valued position beside its exact worth. -/
structure EntryReads (positions : List Position) (a : Position × Decimal)
    (b : Position × ℚ) : Prop where
  position : a.1 = b.1
  mem : a.1 ∈ positions
  value : a.2.Reads b.2

theorem valuedAt_attained (finite : ∀ p ∈ positions, p.IsFinite)
    (priced : ∀ p ∈ positions, Priced live u now p f) (reads : market.Reads f) :
    Attains (List.Forall₂ (EntryReads positions))
      (valuedAt live market now positions)
      (positions.mapM fun p => do return (p, ← Exact.worth u f p)) := by
  refine Attains.mapM (beside_itself positions) ?_
  rintro p _ ⟨rfl, hp⟩
  exact (worth_attained (finite p hp) (priced p hp) reads).bind fun v x hx =>
    .pure ⟨rfl, hp, hx⟩

theorem scenarioResult_attained (finite : ∀ p ∈ positions, p.IsFinite)
    {s : Scenario} {t : Shock}
    (priced : ∀ p ∈ positions, Priced live u now p (f.shocked t))
    (reads : market.Reads f) (hs : s.Reads t)
    {valued : List (Position × Decimal)} {valued' : List (Position × ℚ)}
    (entries : List.Forall₂ (EntryReads positions) valued valued') :
    Attains Reads (scenarioResult live market now valued s)
      (Exact.gain u f valued' t) := by
  -- options are priced at the exact shocked figures, so it matters which ones
  -- are attained
  refine (shocked_attained reads hs).lift.bind_value ?_
  intro shocked shockedReads
  rw [Exact.shocked_value] at shockedReads ⊢
  refine Attains.foldlM entries ?_ reads_zero
  rintro sum x ⟨p, before⟩ ⟨_, y⟩ sums ⟨rfl, hp, hy⟩
  have change : Attains Reads (p.change live shocked now before)
      (Exact.change u (f.shocked t) p y) :=
    (worth_attained (finite p hp) (priced p hp) shockedReads).bind
      fun after z hz => (hz.sub hy).lift
  exact change.bind fun d z hz => (sums.add hz).lift

/-- The scenarios are the shocks of the formula. -/
theorem variants_attained {category : CategoryInfo} {period : Value}
    {b : Fin bucketCount} {t : Shock} (hb : bucket period = .ok b)
    (hs : (category.scenario b).Reads t) (withOption : Bool) :
    Attains (fun as bs => List.Forall₂ (fun s t' => s.Reads t' ∧
      t' ∈ Reference.shocks t withOption) as bs ∧ bs ≠ [])
      (category.variants period withOption) (Exact.shocks t withOption) := by
  refine Attains.bind_left hb ?_
  cases withOption
  · refine Attains.lift (hs.price.neg.bind_value ?_)
    intro priceFall fall
    refine .pure
      ⟨.cons ⟨⟨hs.price, reads_zero⟩, ?_⟩ (.cons ⟨⟨fall, reads_zero⟩, ?_⟩ .nil),
        List.cons_ne_nil _ _⟩
    all_goals simp [Reference.shocks]
  · refine Attains.lift (hs.volatility.neg.bind_value ?_)
    intro volatilityFall volatility
    refine hs.price.neg.bind_value ?_
    intro priceFall price
    refine .pure ⟨.cons ⟨hs, ?_⟩
      (.cons ⟨⟨hs.price, volatility⟩, ?_⟩ (.cons ⟨⟨price, hs.volatility⟩, ?_⟩
      (.cons ⟨⟨price, volatility⟩, ?_⟩ .nil))), List.cons_ne_nil _ _⟩
    all_goals simp [Reference.shocks]

/-! ### Extremes -/

/-- One more result: the extremes stand for the greatest and the least of
all. -/
theorem take_reads {e : Extremes} {best worst x : ℚ} {result : Decimal}
    (hb : e.best.Reads best) (hw : e.worst.Reads worst) (hr : result.Reads x) :
    ∃ e', e.take result = .ok e' ∧ e'.best.Reads (max best x) ∧
      e'.worst.Reads (min worst x) := by
  obtain ⟨b, larger, readsB⟩ := hb.larger hr
  obtain ⟨w, smaller, readsW⟩ := hw.smaller hr
  refine ⟨⟨b, w⟩, ?_, readsB, readsW⟩
  rw [Extremes.take, larger, smaller]
  rfl

/-- The first result is both the greatest and the least. -/
theorem take_start {x : ℚ} {result : Decimal} (hr : result.Reads x) :
    ∃ e, Extremes.start.take result = .ok e ∧ e.best.Reads x ∧ e.worst.Reads x := by
  obtain ⟨b, larger, readsB⟩ := hr.larger_infinity
  obtain ⟨w, smaller, readsW⟩ := hr.smaller_infinity
  refine ⟨⟨b, w⟩, ?_, readsB, readsW⟩
  rw [Extremes.take, Extremes.start, larger, smaller]
  rfl

section Extremes

variable {α β : Type} {R : α → β → Prop} {result : α → Except Fault Decimal}
  {gain : β → Exact ℚ}

/-- Results taken one by one attain the greatest and the least of all gains. -/
theorem extremes_attained {as : List α} {bs : List β} (lists : List.Forall₂ R as bs)
    (each : ∀ a b, R a b → Attains Reads (result a) (gain b)) {e : Extremes}
    {best worst : ℚ} (hb : e.best.Reads best) (hw : e.worst.Reads worst) :
    Attains (fun e gains => e.best.Reads (gains.foldl max best) ∧
      e.worst.Reads (gains.foldl min worst))
      (as.foldlM (fun e a => do e.take (← result a)) e) (bs.mapM gain) := by
  -- the engine compares as it goes, the exact side collects all gains first;
  -- the extremes so far are the invariant
  induction lists generalizing e best worst with
  | nil => exact .pure ⟨hb, hw⟩
  | cons head _ ih =>
    rw [List.foldlM_cons, List.mapM_cons, bind_assoc]
    refine (each _ _ head).bind ?_
    intro r x hr
    obtain ⟨e', taken, best', worst'⟩ := take_reads hb hw hr
    refine Attains.bind_left (by rw [taken]; rfl) ?_
    exact (ih best' worst').bind_pure fun e gains related => related

/-- From the start on, there must be a first result. -/
theorem extremes_start_attained {as : List α} {bs : List β}
    (lists : List.Forall₂ R as bs) (nonempty : bs ≠ [])
    (each : ∀ a b, R a b → Attains Reads (result a) (gain b)) :
    Attains (fun e gains => e.best.Reads (gains.max?.getD 0) ∧
      e.worst.Reads (gains.min?.getD 0))
      (as.foldlM (fun e a => do e.take (← result a)) Extremes.start)
        (bs.mapM gain) := by
  cases lists with
  | nil => exact absurd rfl nonempty
  | cons head rest =>
    rw [List.foldlM_cons, List.mapM_cons, bind_assoc]
    refine (each _ _ head).bind ?_
    intro r x hr
    obtain ⟨e, taken, best, worst⟩ := take_start hr
    refine Attains.bind_left (by rw [taken]; rfl) ?_
    exact (extremes_attained rest each best worst).bind_pure
      fun e gains related => related

end Extremes

/-! ### Base assets -/

theorem grossValue_attained {values : List Decimal} {values' : List ℚ}
    (reads : List.Forall₂ Reads values values') :
    Attains Reads (grossValue values) (values'.foldlM Exact.addMagnitude 0) := by
  refine Attains.foldlM reads ?_ reads_zero
  intro sum x v y sums hy
  exact hy.abs.bind fun m z hz => sums.add hz

theorem assetStatistics_attained {info : AssetInfo} {category : CategoryInfo}
    {period : Value} {b : Fin bucketCount}
    {t : Shock} (finite : ∀ p ∈ positions, p.IsFinite)
    (reads : (info.market category).Reads f) (hb : bucket period = .ok b)
    (hs : (category.scenario b).Reads t)
    (priced : ∀ p ∈ positions, Priced live u now p f)
    (pricedShocked : ∀ p ∈ positions,
      ∀ s ∈ Reference.shocks t (withOption positions),
        Priced live u now p (f.shocked s)) :
    Attains AssetStatistics.Reads
      (assetStatistics live positions info category period now)
      (Exact.statistics u f t positions) := by
  refine (valuedAt_attained finite priced reads).bind ?_
  intro valued valued' entries
  refine (variants_attained hb hs (withOption positions)).bind ?_
  rintro scenarios shocks ⟨lists, nonempty⟩
  -- every scenario is one of the shocks in which options are known to be
  -- priced
  have each : ∀ s s', s.Reads s' ∧ s' ∈ Reference.shocks t (withOption positions) →
      Attains Reads (scenarioResult live (info.market category) now valued s)
        (Exact.gain u f valued' s') := by
    rintro s s' ⟨hs, mem⟩
    exact scenarioResult_attained finite
      (fun p hp => pricedShocked p hp s' mem) reads hs entries
  refine (extremes_start_attained lists nonempty each).bind ?_
  rintro extremes gains ⟨best, worst⟩
  have values :
      List.Forall₂ Reads (valued.map Prod.snd) (valued'.map Prod.snd) := by
    rw [List.forall₂_map_left_iff, List.forall₂_map_right_iff]
    exact entries.imp fun _ _ entry => entry.value
  refine (grossValue_attained values).lift.bind ?_
  exact fun gross x hx => .pure ⟨best, worst, hx⟩

/-! ### Roll-up -/

theorem take_attained {t : Totals} {t' : Exact.Sums} {s : AssetStatistics}
    {s' : Exact.Statistics} (ht : t.Reads t') (hs : s.Reads s') :
    Attains Totals.Reads (t.take s) (t'.take s') := by
  refine (ht.profits.add hs.best).bind ?_
  intro profits x hx
  refine (ht.losses.sub hs.worst).bind ?_
  intro losses y hy
  exact (ht.gross.add hs.gross).bind fun gross z hz => .pure ⟨hx, hy, hz⟩

theorem ofStatistics_attained {groups : List AssetStatistics}
    {groups' : List Exact.Statistics}
    (reads : List.Forall₂ AssetStatistics.Reads groups groups')
    {config : CollateralConfig} (shift : config.priceShiftFactor.isFinite)
    (overall : config.overallFactor.isFinite) :
    Attains Portfolio.Reads (Portfolio.ofStatistics groups config)
      (Exact.portfolio config groups') := by
  refine (Attains.foldlM reads (fun _ _ _ _ => take_attained)
    ⟨reads_zero, reads_zero, reads_zero⟩).bind ?_
  intro totals sums hsums
  refine (hsums.gross.mul (reads_number shift)).bind ?_
  intro buffer x hx
  refine (hsums.profits.add hx).bind ?_
  intro profits y hy
  refine (hsums.losses.add hx).bind ?_
  intro losses z hz
  refine (reads_one.add (reads_number overall)).bind ?_
  intro factor w hw
  refine (hz.mul hw).bind ?_
  intro maxLoss a ha
  exact (hy.mul hw).bind fun maxProfit b hb => .pure ⟨ha, hb⟩

/-! ### Required collateral -/

theorem requiredCollateral_attained {portfolio : Portfolio}
    {figure : Exact.Figure} (reads : portfolio.Reads figure) {c : Case}
    (multiplier : c.multiplier.isFinite) {config : CollateralConfig}
    (step : config.mintDecimals.natAbs ≤ maxStep) :
    Attains Reads (requiredCollateral portfolio c config)
      (Exact.collateral config c figure) := by
  -- the figure at stake, raised to zero; comparisons are no operations of the
  -- exact side
  have stake : (portfolio.atStake c).Reads
      (if c.isInverted then figure.profit else figure.loss) := by
    rw [Portfolio.atStake]
    cases c.isInverted
    · exact reads.loss
    · exact reads.profit
  obtain ⟨risk, raised, readsRisk⟩ := stake.larger reads_zero
  refine Attains.bind_left raised ?_
  refine (readsRisk.mul (reads_number multiplier)).bind ?_
  intro scaled x hx
  have least : Attains Reads config.minCollateral
      (Exact.result (config.minimum * 10 ^ (-config.mintDecimals))) :=
    attains_of_map (ofInt_scale_quantity (by omega))
  refine least.bind ?_
  intro amount y hy
  obtain ⟨r, larger, readsR⟩ := hx.larger hy
  exact .of_ok larger readsR

/-! ### The whole -/

/-- Every group is that of the base asset of a position. -/
theorem mem_positionsByAsset {group : Int × List Position}
    (h : group ∈ positionsByAsset positions) :
    ∃ p ∈ positions,
      group = (p.baseAsset, Reference.positionsIn positions p.baseAsset) := by
  rw [positionsByAsset, Keyed.groupBy_eq, List.mem_map] at h
  obtain ⟨i, hi, rfl⟩ := h
  obtain ⟨p, hp, rfl⟩ := List.mem_map.mp (List.mem_eraseDups.mp hi)
  exact ⟨p, hp, rfl⟩

/-- Options have the prices of `u` in all markets in which the positions are
valued. -/
def AllPriced (live : LiveModel) (u : OptionPrice) (now : Int) (S : Setting)
    (positions : List Position) : Prop :=
  ∀ p ∈ positions, Priced live u now p (S.figures p.baseAsset) ∧
    ∀ s ∈ Reference.shocks (S.shock p.baseAsset) (withOption
      (Reference.positionsIn positions p.baseAsset)),
      Priced live u now p ((S.figures p.baseAsset).shocked s)

variable {S : Setting} {infos : Keyed Int AssetInfo}
  {categories : CategoryTable} {period : Value}

theorem groupStatistics_attained (holds : S.Holds positions infos categories period)
    (finite : ∀ p ∈ positions, p.IsFinite ∧ S.IsFinite p.baseAsset)
    (priced : AllPriced live u now S positions) {group : Int × List Position}
    (h : group ∈ positionsByAsset positions) :
    Attains (fun s t => s.2.Reads t)
      (groupStatistics live infos categories period now group)
      (Exact.statistics u (S.figures group.1) (S.shock group.1) group.2) := by
  obtain ⟨p, hp, rfl⟩ := mem_positionsByAsset h
  -- what holds of the group's positions is known under their own base assets
  have within : ∀ q ∈ Reference.positionsIn positions p.baseAsset,
      q ∈ positions ∧ q.baseAsset = p.baseAsset := by
    intro q hq
    obtain ⟨mem, same⟩ := List.mem_filter.mp hq
    exact ⟨mem, of_decide_eq_true same⟩
  have assets := (finite p hp).2
  have statistics : Attains AssetStatistics.Reads
      (assetStatistics live (Reference.positionsIn positions p.baseAsset)
        (S.info p.baseAsset) (S.category p.baseAsset) period now)
      (Exact.statistics u (S.figures p.baseAsset) (S.shock p.baseAsset)
        (Reference.positionsIn positions p.baseAsset)) := by
    refine assetStatistics_attained (fun q hq => (finite q (within q hq).1).1)
      assets.market (holds.bucket p hp) assets.scenario ?_ ?_
    · intro q hq
      obtain ⟨mem, same⟩ := within q hq
      rw [← same]
      exact (priced q mem).1
    · intro q hq s hs
      obtain ⟨mem, same⟩ := within q hq
      rw [← same] at hs ⊢
      exact (priced q mem).2 s hs
  rw [groupStatistics]
  simp only [holds.info p hp, holds.category p hp]
  exact statistics.bind_pure_left fun s t reads => reads

/-- The engine attains the portfolio of `Exact.figure`. -/
theorem portfolioStatistics_attained
    (holds : S.Holds positions infos categories period)
    (finite : ∀ p ∈ positions, p.IsFinite ∧ S.IsFinite p.baseAsset)
    (priced : AllPriced live u now S positions)
    {config : CollateralConfig} (shift : config.priceShiftFactor.isFinite)
    (overall : config.overallFactor.isFinite) :
    Attains (fun s f => s.portfolio.Reads f)
      (portfolioStatistics live positions infos categories config period now)
      (Exact.figure u S config positions) := by
  have each : ∀ g h, g = h ∧ g ∈ positionsByAsset positions →
      Attains (fun s t => s.2.Reads t)
        (groupStatistics live infos categories period now g)
        (Exact.statistics u (S.figures h.1) (S.shock h.1) h.2) := by
    rintro g _ ⟨rfl, hg⟩
    exact groupStatistics_attained holds finite priced hg
  refine (Attains.mapM (beside_itself _) each).bind ?_
  intro assets groups related
  have reads : List.Forall₂ AssetStatistics.Reads (assets.map Prod.snd) groups := by
    rw [List.forall₂_map_left_iff]
    exact related
  exact (ofStatistics_attained reads shift overall).lift.bind_pure_left
    fun p f portfolio => portfolio

/-- Where no operation has to round, the engine attains all of
`Exact.required`. -/
theorem required_attained (holds : S.Holds positions infos categories period)
    (finite : ∀ p ∈ positions, p.IsFinite ∧ S.IsFinite p.baseAsset)
    (priced : AllPriced live u now S positions)
    {config : CollateralConfig} (shift : config.priceShiftFactor.isFinite)
    (overall : config.overallFactor.isFinite)
    (step : config.mintDecimals.natAbs ≤ maxStep) {c : Case}
    (multiplier : c.multiplier.isFinite)
    (noRounding : (Exact.required u S config c positions).NoRounding) :
    ∃ s r,
      portfolioStatistics live positions infos categories config period now =
        .ok s ∧
      requiredCollateral s.portfolio c config = .ok r ∧
      r.Reads (Exact.required u S config c positions).value := by
  -- the operations are first those of the statistics, then those of the case
  obtain ⟨figure, collateral⟩ := Exact.noRounding_bind.mp noRounding
  obtain ⟨s, hs, reads⟩ :=
    portfolioStatistics_attained holds finite priced shift overall figure
  obtain ⟨r, hr, required⟩ :=
    requiredCollateral_attained reads multiplier step collateral
  exact ⟨s, r, hs, hr, required⟩

section Order

variable {positions' : List Position}

theorem Setting.Holds.perm (h : positions.Perm positions')
    (holds : S.Holds positions infos categories period) :
    S.Holds positions' infos categories period :=
  ⟨fun p hp => holds.info p (h.mem_iff.mpr hp),
    fun p hp => holds.category p (h.mem_iff.mpr hp),
    fun p hp => holds.bucket p (h.mem_iff.mpr hp)⟩

theorem AllPriced.perm (h : positions.Perm positions')
    (priced : AllPriced live u now S positions) :
    AllPriced live u now S positions' := by
  intro p hp
  rw [← Reference.withOption_perm (Reference.positionsIn_perm h p.baseAsset)]
  exact priced p (h.mem_iff.mpr hp)

end Order

/-- **Exact reference.**  Positions, tables, config and a case are given with
finite figures, and options with any prices.  In every order of the positions
in which no operation has to round, the engine returns, and what is required is
the value of one formula, the same for all these orders. -/
theorem requiredCollateral_exact (holds : S.Holds positions infos categories period)
    (finite : ∀ p ∈ positions, p.IsFinite ∧ S.IsFinite p.baseAsset)
    (priced : AllPriced live u now S positions)
    {config : CollateralConfig} (shift : config.priceShiftFactor.isFinite)
    (overall : config.overallFactor.isFinite)
    (step : config.mintDecimals.natAbs ≤ maxStep) {c : Case}
    (multiplier : c.multiplier.isFinite) {order : List Position}
    (reordered : positions.Perm order)
    (noRounding : (Exact.required u S config c order).NoRounding) :
    ∃ s r, portfolioStatistics live order infos categories config period now =
      .ok s ∧
      requiredCollateral s.portfolio c config = .ok r ∧
      r.quantity = .rational (Reference.required u S config c positions) := by
  rw [Reference.required_perm reordered, ← Exact.required_value]
  exact required_attained (holds.perm reordered)
    (fun p hp => finite p (reordered.mem_iff.mpr hp))
    (priced.perm reordered) shift overall step multiplier noRounding

/-! ### On the small book -/

namespace Sample

/-- The price of options in `Sample.live`. -/
def price : OptionPrice := fun _ strike _ f => max (f.price - strike.number) 0

def setting : Setting where
  info i := if i = 0 then ⟨.low, .ofInt 100⟩ else ⟨.high, .finite false 25 (-1)⟩
  category _ := category
  bucket := ⟨1, by decide⟩

/-- The price is that one where the difference to the strike need not be
rounded. -/
theorem priced_of_fits {p : Position} {f : Figures}
    (fits : ∀ kind amount strike expiration,
      p.instrument = .option kind amount strike expiration →
      0 < expiration ∧ strike.isFinite ∧ Exact.Fits (f.price - strike.number)) :
    Priced Sample.live Sample.price 0 p f := by
  intro kind amount strike expiration instrument market reads
  obtain ⟨ahead, finite, difference⟩ :=
    fits kind amount strike expiration instrument
  have noRounding : (Exact.result (f.price - strike.number)).NoRounding := by
    intro q hq
    rw [List.mem_singleton.mp hq]
    exact difference
  obtain ⟨d, hd, readsD⟩ := reads.price.sub (reads_number finite) noRounding
  obtain ⟨r, hr, readsR⟩ := readsD.larger reads_zero
  refine ⟨r, ?_, readsR⟩
  rw [optionPrice, if_pos ahead, Sample.live, hd]
  show (liftM (d.larger zero) : Except Fault Decimal) = _
  rw [hr]
  rfl

theorem forall_book {Q : Position → Prop}
    (spot : Q ⟨0, .finite false 2000 (-3), .long, .spot⟩)
    (future : Q ⟨1, .finite false 15 (-1), .short, .perpFuture (.ofInt 10)⟩)
    (option : Q ⟨0, .finite false 3000 (-3), .short,
      .option .call .one (.ofInt 100) 10⟩) : ∀ p ∈ book, Q p := by
  intro p hp
  simp only [book, List.mem_cons, List.not_mem_nil, or_false] at hp
  rcases hp with rfl | rfl | rfl
  · exact spot
  · exact future
  · exact option

theorem book_priced : AllPriced Sample.live Sample.price 0 setting book := by
  have digits : ∀ f ∈ setting.figures 0 ::
      (Reference.shocks (setting.shock 0) (withOption
        (Reference.positionsIn book 0))).map (setting.figures 0).shocked,
      ((f.price - (Decimal.ofInt 100).number) * 10 ^ 6).den = 1 ∧
        |(f.price - (Decimal.ofInt 100).number) * 10 ^ 6| < 10 ^ precision := by
    decide +kernel
  have noOption : ∀ {p : Position} {f : Figures},
      (∀ kind amount strike expiration,
        p.instrument ≠ .option kind amount strike expiration) →
      Priced Sample.live Sample.price 0 p f :=
    fun other kind amount strike expiration instrument =>
      absurd instrument (other kind amount strike expiration)
  refine forall_book ⟨noOption nofun, fun _ _ => noOption nofun⟩
    ⟨noOption nofun, fun _ _ => noOption nofun⟩
    ⟨priced_of_fits ?_, fun s hs => priced_of_fits ?_⟩
  · rintro _ _ _ _ ⟨⟩
    have current := digits _ List.mem_cons_self
    exact ⟨by decide, rfl, Exact.fits_of_scaled (by decide) current.1 current.2⟩
  · rintro _ _ _ _ ⟨⟩
    have shocked := digits _ (List.mem_cons_of_mem _ (List.mem_map_of_mem hs))
    exact ⟨by decide, rfl, Exact.fits_of_scaled (by decide) shocked.1 shocked.2⟩

end Sample

/-- What a taker must have for the small book on the ask side, its positions in
the other order. -/
theorem sample_exact :
    ∃ s r, portfolioStatistics Sample.live Sample.book.reverse Sample.infos
      Sample.categories Sample.config
        (.whole 3600) 0 = .ok s ∧
      requiredCollateral s.portfolio ⟨.one, .taker, .ask⟩ Sample.config = .ok r ∧
      r.quantity = .rational
        (Reference.required Sample.price Sample.setting Sample.config
          ⟨.one, .taker, .ask⟩ Sample.book) := by
  have holds : Sample.setting.Holds Sample.book Sample.infos Sample.categories
      (.whole 3600) :=
    ⟨by decide, by decide, by decide⟩
  have finite : ∀ p ∈ Sample.book,
      p.IsFinite ∧ Sample.setting.IsFinite p.baseAsset :=
    Sample.forall_book ⟨⟨rfl, trivial⟩, rfl, rfl, rfl, rfl, rfl⟩
      ⟨⟨rfl, rfl⟩, rfl, rfl, rfl, rfl, rfl⟩
      ⟨⟨rfl, rfl⟩, rfl, rfl, rfl, rfl, rfl⟩
  have digits : ∀ q ∈ (Exact.required Sample.price Sample.setting Sample.config
        ⟨.one, .taker, .ask⟩
      Sample.book.reverse).results, (q * 10 ^ 6).den = 1 ∧
      |q * 10 ^ 6| < 10 ^ precision := by decide +kernel
  have noRounding :
      (Exact.required Sample.price Sample.setting Sample.config
        ⟨.one, .taker, .ask⟩
      Sample.book.reverse).NoRounding := fun q hq =>
    Exact.fits_of_scaled (by decide) (digits q hq).1 (digits q hq).2
  exact requiredCollateral_exact holds finite Sample.book_priced
    rfl rfl (by decide) rfl (List.reverse_perm _).symm noRounding

end ScenarioMargin
