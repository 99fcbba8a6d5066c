/-
ScenarioMargin/Proofs/Returns.lean

What has happened when a computation returns.  One rule for each way in which
computations are put together (`bind_eq_ok`, `mapM_eq_ok`, `foldlM_invariant`),
its counterpart for computations that stop (`bind_eq_error`), and one statement
for each function of the engine that says of what steps a successful call is
made (`assetStatistics_eq_ok` and so on up to `requiredCollateral_eq_ok`).

A property of what the engine returns is then proved of the numbers in these
steps, and no function is opened again.
-/
import Mathlib.Data.List.Forall2
import ScenarioMargin.Collateral

namespace ScenarioMargin

variable {ε α β σ : Type}

/-! ### Rules -/

theorem pure_eq_ok {a b : α} : (pure a : Except ε α) = .ok b ↔ a = b :=
  Except.ok.injEq a b ▸ Iff.rfl

/-- A step and what follows it return when the step does and what follows does
then. -/
theorem bind_eq_ok {x : Except ε α} {f : α → Except ε β} {b : β} :
    (x >>= f) = .ok b ↔ ∃ a, x = .ok a ∧ f a = .ok b := by
  cases x with
  | error e => exact ⟨nofun, nofun⟩
  | ok a => exact ⟨fun h => ⟨a, rfl, h⟩, fun ⟨_, same, h⟩ => Except.ok.inj same ▸ h⟩

/-- An operation of the arithmetic returns the same where its signals are
faults. -/
theorem lift_eq_ok {x : Except Decimal.Signal α} {a : α} :
    (liftM x : Except Fault α) = .ok a ↔ x = .ok a := by
  cases x with
  | error e => exact ⟨nofun, nofun⟩
  | ok b => exact ⟨fun h => congrArg _ (Except.ok.inj h),
    fun h => congrArg _ (Except.ok.inj h)⟩

theorem map_eq_ok {f : α → β} {x : Except ε α} {b : β} : x.map f = .ok b ↔
    ∃ a, x = .ok a ∧ f a = b := by
  cases x with
  | error e => exact ⟨nofun, nofun⟩
  | ok a => exact ⟨fun h => ⟨a, rfl, Except.ok.inj h⟩,
    fun ⟨_, same, h⟩ => congrArg _ (Except.ok.inj same ▸ h)⟩

/-- A loop that collects results returns when all of its calls do. -/
theorem mapM_eq_ok {f : α → Except ε β} {as : List α} {bs : List β} :
    as.mapM f = .ok bs ↔ List.Forall₂ (fun a b => f a = .ok b) as bs := by
  induction as generalizing bs with
  | nil => rw [List.mapM_nil, pure_eq_ok, List.forall₂_nil_left_iff, eq_comm]
  | cons a as ih =>
    simp only [List.mapM_cons, bind_eq_ok, pure_eq_ok, ih,
      List.forall₂_cons_left_iff]
    constructor
    · rintro ⟨b, first, rest, others, rfl⟩
      exact ⟨b, rest, first, others, rfl⟩
    · rintro ⟨b, rest, first, others, rfl⟩
      exact ⟨b, first, rest, others, rfl⟩

/-- Loops over a list whose calls are the same. -/
theorem mapM_congr {f g : α → Except ε β} {as : List α}
    (same : ∀ a ∈ as, f a = g a) : as.mapM f = as.mapM g := by
  induction as with
  | nil => rfl
  | cons a as ih =>
    rw [List.forall_mem_cons] at same
    rw [List.mapM_cons, List.mapM_cons, same.1, ih same.2]

/-- What is done with each result can be done in the loop. -/
theorem map_mapM {γ : Type} {f : α → Except ε β} {h : β → γ} {as : List α} :
    (List.map h) <$> as.mapM f = as.mapM fun a => h <$> f a := by
  induction as with
  | nil => rfl
  | cons a as ih =>
    rw [List.mapM_cons, List.mapM_cons, ← ih]
    cases f a with
    | error e => rfl
    | ok b => cases as.mapM f <;> rfl

/-- Steps that begin alike are the same if what follows a first step that
returns is. -/
theorem bind_congr_ok {x : Except ε α} {f g : α → Except ε β}
    (same : ∀ a, x = .ok a → f a = g a) : x >>= f = x >>= g := by
  cases x with
  | error e => rfl
  | ok a => exact same a rfl

/-- Everything in the second of two related lists is related to something in
the first. -/
theorem exists_of_forall₂ {R : α → β → Prop} {as : List α} {bs : List β}
    (h : List.Forall₂ R as bs) {b : β} (mem : b ∈ bs) : ∃ a ∈ as, R a b := by
  induction h with
  | nil => cases mem
  | @cons a' b' as bs head _ ih =>
    rcases List.mem_cons.mp mem with rfl | later
    · exact ⟨a', List.mem_cons_self, head⟩
    · obtain ⟨a, ha, related⟩ := ih later
      exact ⟨a, List.mem_cons_of_mem a' ha, related⟩

/-- Related lists read alike where what is related does. -/
theorem map_eq_of_forall₂ {γ : Type} {R : α → β → Prop} {as : List α}
    {bs : List β} (h : List.Forall₂ R as bs) {f : α → γ} {g : β → γ}
    (each : ∀ a b, R a b → f a = g b) : as.map f = bs.map g := by
  rw [← List.forall₂_eq_eq_eq, List.forall₂_map_left_iff,
    List.forall₂_map_right_iff]
  exact h.imp each

/-- Loops over related lists are the same where the calls for what is related
are. -/
theorem mapM_eq_of_forall₂ {γ : Type} {R : α → β → Prop} {f : α → Except ε γ}
    {g : β → Except ε γ} {as : List α} {bs : List β} (h : List.Forall₂ R as bs)
    (same : ∀ a b, R a b → f a = g b) : as.mapM f = bs.mapM g := by
  induction h with
  | nil => rfl
  | cons head _ ih => rw [List.mapM_cons, List.mapM_cons, same _ _ head, ih]

section Loops

variable {f : σ → α → Except ε σ} {as : List α} {s t : σ}

theorem foldlM_cons_eq_ok {a : α} :
    (a :: as).foldlM f s = .ok t ↔
      ∃ s', f s a = .ok s' ∧ as.foldlM f s' = .ok t := by
  rw [List.foldlM_cons, bind_eq_ok]

/-- What holds at the start and is kept by each step of a loop holds of what
the loop returns. -/
theorem foldlM_invariant {P : σ → Prop} (h : as.foldlM f s = .ok t) (start : P s)
    (step : ∀ s a s', a ∈ as → P s → f s a = .ok s' → P s') : P t := by
  induction as generalizing s with
  | nil =>
    rw [List.foldlM_nil, pure_eq_ok] at h
    rwa [← h]
  | cons a as ih =>
    obtain ⟨s', first, rest⟩ := foldlM_cons_eq_ok.mp h
    refine ih rest (step s a s' List.mem_cons_self start first) ?_
    exact fun s b s'' later => step s b s'' (List.mem_cons_of_mem a later)

/-- A loop that returns takes a step for each item. -/
theorem foldlM_mem (h : as.foldlM f s = .ok t) {a : α} (ha : a ∈ as) :
    ∃ s' s'', f s' a = .ok s'' := by
  induction as generalizing s with
  | nil => cases ha
  | cons b as ih =>
    obtain ⟨s', first, rest⟩ := foldlM_cons_eq_ok.mp h
    rcases List.mem_cons.mp ha with rfl | later
    · exact ⟨s, s', first⟩
    · exact ih rest later

/-- A loop over something ends with a step. -/
theorem foldlM_last (h : as.foldlM f s = .ok t) (nonempty : as ≠ []) :
    ∃ s', ∃ a ∈ as, f s' a = .ok t := by
  induction as generalizing s with
  | nil => exact absurd rfl nonempty
  | cons a as ih =>
    obtain ⟨s', first, rest⟩ := foldlM_cons_eq_ok.mp h
    rcases eq_or_ne as [] with rfl | more
    · rw [List.foldlM_nil, pure_eq_ok] at rest
      exact ⟨s, a, List.mem_cons_self, rest ▸ first⟩
    · obtain ⟨s'', b, later, last⟩ := ih rest more
      exact ⟨s'', b, List.mem_cons_of_mem a later, last⟩

end Loops

/-! ### Rules for computations that stop -/

/-- A step and what follows it stop when the step does, or when what follows
does then. -/
theorem bind_eq_error {x : Except ε α} {f : α → Except ε β} {e : ε} :
    (x >>= f) = .error e ↔ x = .error e ∨ ∃ a, x = .ok a ∧ f a = .error e := by
  cases x with
  | error e' =>
    constructor
    · exact fun h => .inl (congrArg _ (Except.error.inj h))
    · rintro (⟨⟨⟩⟩ | ⟨_, ⟨⟩, _⟩)
      rfl
  | ok a =>
    constructor
    · exact fun h => .inr ⟨a, rfl, h⟩
    · rintro (⟨⟨⟩⟩ | ⟨_, ⟨⟩, h⟩)
      exact h

/-- A computation returns unless it stops. -/
theorem returns_of_ne_error {x : Except ε α} (h : ∀ e, x ≠ .error e) :
    ∃ a, x = .ok a := by
  cases x with
  | error e => exact absurd rfl (h e)
  | ok a => exact ⟨a, rfl⟩

theorem pure_ne_error {a : α} {e : ε} : (pure a : Except ε α) ≠ .error e := nofun

theorem map_eq_error {f : α → β} {x : Except ε α} {e : ε} : f <$> x = .error e ↔
    x = .error e := by
  rw [map_eq_pure_bind, bind_eq_error]
  simp [pure_ne_error]

/-- A signal of the arithmetic is a fault. -/
theorem lift_eq_error {x : Except Decimal.Signal α} {e : Fault} :
    (liftM x : Except Fault α) = .error e ↔
      ∃ signal, x = .error signal ∧ e = .signal signal := by
  cases x with
  | error signal =>
    constructor
    · intro h
      exact ⟨signal, rfl, (Except.error.inj h).symm⟩
    · rintro ⟨_, ⟨⟩, rfl⟩
      rfl
  | ok a => exact ⟨nofun, nofun⟩

/-! ### Positions and scenarios -/

variable {live : LiveModel} {market : Market} {now : Int}

theorem Position.change_eq_ok {p : Position} {before d : Decimal} :
    p.change live market now before = .ok d ↔
      ∃ after, p.value live market now = .ok after ∧ after.sub before = .ok d := by
  simp only [Position.change, bind_eq_ok, lift_eq_ok]

theorem Extremes.take_eq_ok {e e' : Extremes} {r : Decimal} :
    e.take r = .ok e' ↔
      e.best.larger r = .ok e'.best ∧ e.worst.smaller r = .ok e'.worst := by
  simp only [Extremes.take, bind_eq_ok, pure_eq_ok]
  constructor
  · rintro ⟨best, hb, worst, hw, rfl⟩
    exact ⟨hb, hw⟩
  · rintro ⟨hb, hw⟩
    exact ⟨_, hb, _, hw, rfl⟩

/-- The variants of the scenario of a bucket. -/
theorem variants_of_bucket {category : CategoryInfo} {period : Value}
    {b : Fin bucketCount} (h : bucket period = .ok b) (withOption : Bool) :
    category.variants period withOption =
      liftM (if withOption then (category.scenario b).signs
        else (category.scenario b).priceSigns) := by
  rw [CategoryInfo.variants, h]
  cases withOption <;> rfl

/-- Four scenarios with an option among the positions, two without. -/
theorem variants_length {category : CategoryInfo} {period : Value}
    {withOption : Bool} {scenarios : List Scenario}
    (h : category.variants period withOption = .ok scenarios) :
    scenarios.length = if withOption then 4 else 2 := by
  obtain ⟨b, -, h⟩ := bind_eq_ok.mp h
  cases withOption
  · obtain ⟨fall, -, h⟩ := bind_eq_ok.mp (lift_eq_ok.mp h)
    rw [← pure_eq_ok.mp h]
    rfl
  · obtain ⟨volatilityFall, -, h⟩ := bind_eq_ok.mp (lift_eq_ok.mp h)
    obtain ⟨priceFall, -, h⟩ := bind_eq_ok.mp h
    rw [← pure_eq_ok.mp h]
    rfl

/-- There is a scenario whatever the category. -/
theorem variants_ne_nil {category : CategoryInfo} {period : Value}
    {withOption : Bool} {scenarios : List Scenario}
    (h : category.variants period withOption = .ok scenarios) :
    scenarios ≠ [] := by
  rintro rfl
  have length := variants_length h
  cases withOption <;> cases length

/-! ### Base assets -/

section Assets

variable {positions : List Position} {info : AssetInfo}
  {category : CategoryInfo} {period : Value}

/-- The steps from the positions in a base asset to their statistics. -/
theorem assetStatistics_eq_ok {s : AssetStatistics} :
    assetStatistics live positions info category period now = .ok s ↔
      ∃ valued scenarios extremes,
        valuedAt live (info.market category) now positions = .ok valued ∧
        category.variants period (withOption positions) = .ok scenarios ∧
        scenarios.foldlM (fun e s => do
          e.take (← scenarioResult live (info.market category) now valued s))
          Extremes.start = .ok extremes ∧
        grossValue (valued.map Prod.snd) = .ok s.grossValue ∧
        s.biggestProfit = extremes.best ∧ s.biggestLoss = extremes.worst ∧
        s.scenarioCount = scenarios.length := by
  simp only [assetStatistics, bind_eq_ok, lift_eq_ok, pure_eq_ok]
  constructor
  · rintro ⟨valued, hv, scenarios, hs, extremes, he, gross, hg, rfl⟩
    exact ⟨valued, scenarios, extremes, hv, hs, he, hg, rfl, rfl, rfl⟩
  · rintro ⟨valued, scenarios, extremes, hv, hs, he, hg, best, worst, count⟩
    refine ⟨valued, hv, scenarios, hs, extremes, he, s.grossValue, hg, ?_⟩
    rw [← best, ← worst, ← count]

variable {infos : Keyed Int AssetInfo} {categories : CategoryTable}

/-- The statistics of a group are those of its positions, under the tables'
figures for its base asset. -/
theorem groupStatistics_eq_ok {group : Int × List Position}
    {a : Int × AssetStatistics} :
    groupStatistics live infos categories period now group = .ok a ↔
      ∃ info category, Keyed.get? group.1 infos = some info ∧
        Keyed.get? info.category categories = some category ∧
        assetStatistics live group.2 info category period now = .ok a.2 ∧
        a.1 = group.1 := by
  rw [groupStatistics]
  cases Keyed.get? group.1 infos with
  | none =>
    constructor
    · intro h
      cases h
    · rintro ⟨_, _, absent, -⟩
      cases absent
  | some info =>
    dsimp only
    cases found : Keyed.get? info.category categories with
    | none =>
      constructor
      · intro h
        cases h
      · rintro ⟨_, _, ⟨⟩, absent, -⟩
        rw [found] at absent
        cases absent
    | some category =>
      simp only [bind_eq_ok, pure_eq_ok]
      constructor
      · rintro ⟨s, hs, rfl⟩
        exact ⟨info, category, rfl, found, hs, rfl⟩
      · rintro ⟨_, _, ⟨⟩, same, hs, key⟩
        rw [found] at same
        obtain rfl := Option.some.inj same
        exact ⟨a.2, hs, by rw [← key]⟩

/-! ### Roll-up -/

theorem Totals.take_eq_ok {t t' : Totals} {s : AssetStatistics} :
    t.take s = .ok t' ↔ t.profits.add s.biggestProfit = .ok t'.profits ∧
      t.losses.sub s.biggestLoss = .ok t'.losses ∧
      t.gross.add s.grossValue = .ok t'.gross := by
  simp only [Totals.take, bind_eq_ok, pure_eq_ok]
  constructor
  · rintro ⟨profits, hp, losses, hl, gross, hg, rfl⟩
    exact ⟨hp, hl, hg⟩
  · rintro ⟨hp, hl, hg⟩
    exact ⟨_, hp, _, hl, _, hg, rfl⟩

/-- The steps from the statistics of base assets to a portfolio. -/
theorem Portfolio.ofStatistics_eq_ok {groups : List AssetStatistics}
    {config : CollateralConfig} {p : Portfolio} :
    Portfolio.ofStatistics groups config = .ok p ↔
      ∃ totals buffer profits losses overall,
        groups.foldlM Totals.take Totals.start = .ok totals ∧
        totals.gross.mul config.priceShiftFactor = .ok buffer ∧
        totals.profits.add buffer = .ok profits ∧
        totals.losses.add buffer = .ok losses ∧
        Decimal.one.add config.overallFactor = .ok overall ∧
        losses.mul overall = .ok p.maxLoss ∧
        profits.mul overall = .ok p.maxProfit := by
  simp only [Portfolio.ofStatistics, bind_eq_ok, pure_eq_ok]
  constructor
  · rintro ⟨totals, ht, buffer, hb, profits, hp, losses, hl, overall, ho,
      maxLoss, loss, maxProfit, profit, rfl⟩
    exact ⟨totals, buffer, profits, losses, overall, ht, hb, hp, hl,
      ho, loss, profit⟩
  · rintro ⟨totals, buffer, profits, losses, overall, ht, hb, hp, hl,
      ho, loss, profit⟩
    exact ⟨totals, ht, buffer, hb, profits, hp, losses, hl, overall, ho, _,
      loss, _, profit, rfl⟩

theorem portfolioStatistics_eq_ok {config : CollateralConfig}
    {s : PortfolioStatistics} :
    portfolioStatistics live positions infos categories config period now = .ok s ↔
      List.Forall₂ (fun group a =>
        groupStatistics live infos categories period now group = .ok a)
        (positionsByAsset positions) s.assets ∧
      Portfolio.ofStatistics (s.assets.map Prod.snd) config = .ok s.portfolio := by
  simp only [portfolioStatistics, bind_eq_ok, lift_eq_ok, pure_eq_ok, mapM_eq_ok]
  constructor
  · rintro ⟨assets, ha, portfolio, hp, rfl⟩
    exact ⟨ha, hp⟩
  · rintro ⟨ha, hp⟩
    exact ⟨_, ha, _, hp, rfl⟩

end Assets

/-! ### Required collateral -/

/-- The steps from a portfolio to the collateral that a case requires. -/
theorem requiredCollateral_eq_ok {portfolio : Portfolio} {c : Case}
    {config : CollateralConfig} {r : Decimal} :
    requiredCollateral portfolio c config = .ok r ↔
      ∃ risk scaled least, (portfolio.atStake c).larger .zero = .ok risk ∧
        risk.mul c.multiplier = .ok scaled ∧
        config.minCollateral = .ok least ∧ scaled.larger least = .ok r := by
  simp only [requiredCollateral, bind_eq_ok]
  constructor
  · rintro ⟨risk, hr, scaled, hs, least, hl, h⟩
    exact ⟨risk, scaled, least, hr, hs, hl, h⟩
  · rintro ⟨risk, scaled, least, hr, hs, hl, h⟩
    exact ⟨risk, hr, scaled, hs, least, hl, h⟩

end ScenarioMargin
