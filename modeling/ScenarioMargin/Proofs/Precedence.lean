/-
ScenarioMargin/Proofs/Precedence.lean

Which of several faults an evaluation ends with.  Any number of legs, base
assets and cases may have faults at once.  An evaluation goes through four
phases, each over a list of its own: the legs; the base assets as they are
first seen, for their prices; the same base assets, for the statistics of their
positions; the roll-up and the cases.  It ends with the first fault of the
first phase that has one.

`Estimator.evaluate_eq_error` says so in one line; what follows are the phases
apart.

Main result: `Estimator.evaluate_precedence`.
-/
import ScenarioMargin.Journal
import ScenarioMargin.Proofs.Lifecycle
import ScenarioMargin.Proofs.Stops

namespace ScenarioMargin

/-- A case has no amount: an operation on the way to what it requires has no
result. -/
def Portfolio.Uncovered (portfolio : Portfolio) (config : CollateralConfig)
    (c : Case) (e : Fault) : Prop :=
  ∃ signal, requiredCollateral portfolio c config = .error signal ∧
    e = .signal signal

namespace Estimator

variable {live : LiveModel} {estimator : Estimator} {legs : List Leg}
  {cases : List Case} {period : Value} {now : Int}

/-! ### Phases -/

/-- The statistics of positions stop at a base asset or at the roll-up. -/
theorem portfolioStatistics_eq_error {positions : List Position}
    {infos : Keyed Int AssetInfo}
    (found : estimator.assets positions = .ok infos) {e : Fault} :
    portfolioStatistics live positions infos estimator.categories
      estimator.config period now = .error e ↔
      FirstFault (Unstressed live estimator positions period now)
        (Fetch.firstSeen (positions.map Position.baseAsset)) e ∨
      ∃ groups, (positionsByAsset positions).mapM
        (groupStatistics live infos estimator.categories period now) =
          .ok groups ∧
        ∃ signal,
          Portfolio.ofStatistics (groups.map Prod.snd) estimator.config =
            .error signal ∧
          e = .signal signal := by
  simp only [portfolioStatistics, bind_eq_error, lift_eq_error, pure_ne_error,
    and_false, exists_false, or_false, groups_eq_error found]

theorem cases_eq_error {config : CollateralConfig}
    {portfolio : Portfolio} {e : Fault} :
    (cases.mapM
      fun c => do return (c, ← requiredCollateral portfolio c config) :
      Except Fault (List (Case × Decimal))) =
        .error e ↔ FirstFault (portfolio.Uncovered config) cases e := by
  rw [mapM_eq_error]
  refine firstFault_congr fun c _ e => ?_
  simp only [bind_eq_error, lift_eq_error, pure_ne_error, and_false,
    exists_false, or_false, Portfolio.Uncovered]

/-- An evaluation ends with the first fault of the first phase that has one. -/
theorem evaluate_eq_error (clock : estimator.clock.toWhole = .ok now) {e : Fault} :
    estimator.evaluate live legs cases period = .error e ↔
      FirstFault estimator.Unresolved legs e ∨
      ∃ positions, estimator.positions legs = .ok positions ∧
        (FirstFault estimator.Unpriced
          (Fetch.firstSeen (legs.map Leg.baseAsset)) e ∨
        ∃ infos, estimator.assets positions = .ok infos ∧
          (portfolioStatistics live positions infos estimator.categories
            estimator.config period now = .error e ∨
          ∃ s, portfolioStatistics live positions infos estimator.categories
            estimator.config period now = .ok s ∧
            FirstFault (s.portfolio.Uncovered estimator.config) cases e)) := by
  simp only [evaluate, clock, bind_eq_error, pure_ne_error, reduceCtorEq,
    false_or, or_false, and_false, exists_false, Except.ok.injEq,
    exists_eq_left', positions_eq_error, cases_eq_error]
  refine or_congr_right (exists_congr fun positions => and_congr_right fun h => ?_)
  rw [assets_eq_error, baseAssets_of_positions h]

/-! ### Precedence -/

/-- An evaluation ends with a fault: there is no evaluation, and no amount for
any case. -/
def StopsWith (live : LiveModel) (estimator : Estimator) (legs : List Leg)
    (cases : List Case) (period : Value) (e : Fault) : Prop :=
  estimator.evaluate live legs cases period = .error e ∧
    estimator.required live legs cases period = .error e

theorem stopsWith_of_evaluate {e : Fault}
    (h : estimator.evaluate live legs cases period = .error e) :
    estimator.StopsWith live legs cases period e := by
  refine ⟨h, ?_⟩
  rw [required, h]
  rfl

/-- Nothing but the registry has a say in the first leg whose instrument is not
known. -/
theorem stopsWith_of_unresolved {e : Fault}
    (first : FirstFault estimator.Unresolved legs e)
    {other : Estimator} (registry : other.registry = estimator.registry)
    (clock : other.clock.toWhole = .ok now) (live : LiveModel)
    (cases : List Case) (period : Value) :
    other.StopsWith live legs cases period e ∧
      Journal.ofEvaluation live other legs cases period = [] := by
  have first' : FirstFault other.Unresolved legs e := by
    refine (firstFault_congr fun leg _ e => ?_).mp first
    rw [← position_eq_error, ← position_eq_error, position, position, kind,
      kind, registry]
  constructor
  · exact stopsWith_of_evaluate ((evaluate_eq_error clock).mpr (.inl first'))
  · rw [Journal.ofEvaluation, clock, positions_eq_error.mpr first']

theorem exists_firstFault_firstSeen {fails : Int → Fault → Prop}
    (h : ∃ leg ∈ legs, ∃ e, fails leg.baseAsset e) :
    ∃ e, FirstFault fails (Fetch.firstSeen (legs.map Leg.baseAsset)) e := by
  obtain ⟨leg, hleg, e, failed⟩ := h
  exact exists_firstFault ⟨leg.baseAsset,
    List.mem_eraseDups.mpr (List.mem_map_of_mem hleg), e, failed⟩

theorem not_firstFault_firstSeen {fails : Int → Fault → Prop}
    (h : ∀ leg ∈ legs, ∀ e, ¬ fails leg.baseAsset e) {e : Fault} :
    ¬ FirstFault fails (Fetch.firstSeen (legs.map Leg.baseAsset)) e := by
  refine not_firstFault fun i hi => ?_
  obtain ⟨leg, hleg, rfl⟩ := List.mem_map.mp (List.mem_eraseDups.mp hi)
  exact h leg hleg

/-- Legs whose instruments are all known have positions. -/
theorem positions_returns
    (known : ∀ leg ∈ legs, ∀ e, ¬ estimator.Unresolved leg e) :
    ∃ positions, estimator.positions legs = .ok positions :=
  returns_of_ne_error fun _ h => not_firstFault known (positions_eq_error.mp h)

/-- The last phase, over the cases: what is left once the positions have
statistics. -/
theorem evaluate_of_statistics (clock : estimator.clock.toWhole = .ok now)
    {positions : List Position} {infos : Keyed Int AssetInfo}
    (resolved : estimator.positions legs = .ok positions)
    (found : estimator.assets positions = .ok infos) {s : PortfolioStatistics}
    (statistics : portfolioStatistics live positions infos
      estimator.categories estimator.config period now = .ok s) :
    ((∃ c ∈ cases, ∃ e, s.portfolio.Uncovered estimator.config c e) →
      ∃ e, FirstFault (s.portfolio.Uncovered estimator.config) cases e ∧
        estimator.StopsWith live legs cases period e) ∧
    ((∀ c ∈ cases, ∀ e, ¬ s.portfolio.Uncovered estimator.config c e) →
      ∃ evaluation, estimator.evaluate live legs cases period =
        .ok evaluation) := by
  constructor
  · intro uncovered
    obtain ⟨e, first⟩ := exists_firstFault uncovered
    exact ⟨e, first, stopsWith_of_evaluate <| (evaluate_eq_error clock).mpr <|
      .inr ⟨positions, resolved, .inr ⟨infos, found, .inr ⟨s, statistics, first⟩⟩⟩⟩
  · intro covered
    obtain ⟨required, hrequired⟩ := returns_of_ne_error fun e h =>
      not_firstFault covered (cases_eq_error.mp h)
    refine ⟨⟨infos, s.assets, s.portfolio, required, period, now⟩, ?_⟩
    simp only [evaluate, bind_eq_ok, pure_eq_ok]
    exact ⟨now, clock, positions, resolved, infos, found, s, statistics,
      required, hrequired, rfl⟩

/-- **Precedence.**  An evaluation whose clock can be read ends as follows,
however many faults there are.

* If the instrument of a leg is not known, with the fault of the first such
  leg.  The profiles and prices, the tables and factors and the cases do not
  matter then, and no base asset is looked up.
* Otherwise, if a base asset has no price, with the fault of the first such
  base asset, as these are first seen.
* Otherwise, if the positions in a base asset have no statistics, with the
  fault of the first such base asset, as these are first seen; it names the
  category where the table lacks the category.
* Otherwise, if the roll-up has no result, with its signal; and if it has one,
  with the signal of the first case that has no amount.
* Otherwise there is an evaluation.

Where it ends with a fault, there is neither an evaluation nor an amount for
any case. -/
theorem evaluate_precedence (live : LiveModel) (estimator : Estimator)
    (legs : List Leg) (cases : List Case) (period : Value) {now : Int}
    (clock : estimator.clock.toWhole = .ok now) :
    ((∃ leg ∈ legs, ∃ e, estimator.Unresolved leg e) →
      ∃ e, FirstFault estimator.Unresolved legs e ∧
        ∀ (other : Estimator) (now' : Int) live' cases' period',
          other.registry = estimator.registry →
          other.clock.toWhole = .ok now' →
          other.StopsWith live' legs cases' period' e ∧
          Journal.ofEvaluation live' other legs cases' period' = []) ∧
    ((∀ leg ∈ legs, ∀ e, ¬ estimator.Unresolved leg e) →
      (∃ leg ∈ legs, ∃ e, estimator.Unpriced leg.baseAsset e) →
      ∃ e, FirstFault estimator.Unpriced
        (Fetch.firstSeen (legs.map Leg.baseAsset)) e ∧
        estimator.StopsWith live legs cases period e) ∧
    ((∀ leg ∈ legs, ∀ e, ¬ estimator.Unresolved leg e) →
      (∀ leg ∈ legs, ∀ e, ¬ estimator.Unpriced leg.baseAsset e) →
      ∃ positions infos, estimator.positions legs = .ok positions ∧
        estimator.assets positions = .ok infos ∧
        ((∃ leg ∈ legs, ∃ e,
          Unstressed live estimator positions period now leg.baseAsset e) →
          ∃ e, FirstFault (Unstressed live estimator positions period now)
              (Fetch.firstSeen (legs.map Leg.baseAsset)) e ∧
            estimator.StopsWith live legs cases period e) ∧
        ((∀ leg ∈ legs, ∀ e,
          ¬ Unstressed live estimator positions period now leg.baseAsset e) →
          ∃ groups, (positionsByAsset positions).mapM
            (groupStatistics live infos estimator.categories period now) =
              .ok groups ∧
            (∀ signal,
              Portfolio.ofStatistics (groups.map Prod.snd) estimator.config =
                .error signal →
              estimator.StopsWith live legs cases period (.signal signal)) ∧
            ∀ portfolio,
              Portfolio.ofStatistics (groups.map Prod.snd) estimator.config =
                .ok portfolio →
              ((∃ c ∈ cases, ∃ e, portfolio.Uncovered estimator.config c e) →
                ∃ e, FirstFault (portfolio.Uncovered estimator.config) cases e ∧
                  estimator.StopsWith live legs cases period e) ∧
              ((∀ c ∈ cases, ∀ e, ¬ portfolio.Uncovered estimator.config c e) →
                ∃ evaluation, estimator.evaluate live legs cases period =
                  .ok evaluation))) := by
  refine ⟨?_, ?_, ?_⟩
  · intro unresolved
    obtain ⟨e, first⟩ := exists_firstFault unresolved
    exact ⟨e, first, fun other now' live' cases' period' registry clock' =>
      stopsWith_of_unresolved first registry clock' live' cases' period'⟩
  · intro known unpriced
    obtain ⟨positions, resolved⟩ := positions_returns known
    obtain ⟨e, first⟩ := exists_firstFault_firstSeen unpriced
    exact ⟨e, first, stopsWith_of_evaluate <| (evaluate_eq_error clock).mpr <|
      .inr ⟨positions, resolved, .inl first⟩⟩
  · intro known priced
    obtain ⟨positions, resolved⟩ := positions_returns known
    have order := baseAssets_of_positions resolved
    obtain ⟨infos, found⟩ := returns_of_ne_error fun e h =>
      not_firstFault_firstSeen priced (order ▸ assets_eq_error.mp h)
    -- what stops the statistics stops the evaluation
    have stops : ∀ e, portfolioStatistics live positions infos
        estimator.categories estimator.config period now = .error e →
          estimator.StopsWith live legs cases period e := fun e h =>
      stopsWith_of_evaluate <| (evaluate_eq_error clock).mpr <|
        .inr ⟨positions, resolved, .inr ⟨infos, found, .inl h⟩⟩
    refine ⟨positions, infos, resolved, found, ?_, ?_⟩
    · intro unstressed
      obtain ⟨e, first⟩ := exists_firstFault_firstSeen unstressed
      exact ⟨e, first, stops e <| (portfolioStatistics_eq_error found).mpr <|
        .inl (order ▸ first)⟩
    · intro stressed
      obtain ⟨groups, hgroups⟩ := returns_of_ne_error fun e h =>
        not_firstFault_firstSeen stressed (order ▸ (groups_eq_error found).mp h)
      refine ⟨groups, hgroups, ?_, ?_⟩
      · intro signal rollUp
        exact stops _ <| (portfolioStatistics_eq_error found).mpr <|
          .inr ⟨groups, hgroups, signal, rollUp, rfl⟩
      · intro portfolio rollUp
        have statistics : portfolioStatistics live positions infos
            estimator.categories estimator.config period now =
              .ok ⟨groups, portfolio⟩ :=
          portfolioStatistics_eq_ok.mpr ⟨mapM_eq_ok.mp hgroups, rollUp⟩
        exact evaluate_of_statistics clock resolved found statistics

end Estimator

/-- Legs of which two have instruments that are not known, all three without a
risk profile. -/
def Sample.faultyLegs : List Leg :=
  [⟨7, .one, .long, "spot", [], by decide +kernel⟩,
   ⟨8, .one, .short, "option", [2], by decide +kernel⟩,
   ⟨9, .one, .long, "swap", [], by decide +kernel⟩]

/-- The payload of the second leg is what the evaluation ends with, whatever
else is amiss. -/
theorem sample_precedence :
    Sample.estimator.clock.toWhole = .ok 0 ∧
      ∃ e, FirstFault Sample.estimator.Unresolved Sample.faultyLegs e ∧
        e = .payloadTooShort .option 27 1 ∧
        Sample.estimator.StopsWith Sample.live Sample.faultyLegs []
          (.whole 0) e := by
  have unresolved : ∃ leg ∈ Sample.faultyLegs, ∃ e,
      Sample.estimator.Unresolved leg e :=
    ⟨_, List.mem_cons_of_mem _ List.mem_cons_self, _,
      .malformed (rfl : Keyed.get? "option" Sample.estimator.registry =
        some .option) (.short (by decide))⟩
  obtain ⟨e, first, stops⟩ :=
    (Estimator.evaluate_precedence Sample.live Sample.estimator
      Sample.faultyLegs []
    (.whole 0) rfl).1 unresolved
  have run := (stops Sample.estimator 0 Sample.live [] (.whole 0) rfl rfl).1
  have fault :
      Sample.estimator.required Sample.live Sample.faultyLegs [] (.whole 0) =
      .error (.payloadTooShort .option 27 1) := by decide +kernel
  exact ⟨rfl, e, first, Except.error.inj (run.2.symm.trans fault), run⟩

end ScenarioMargin
