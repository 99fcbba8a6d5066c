/-
ScenarioMargin/Proofs/Refusal.lean

Documents that the commands refuse.  A command refuses a document with status 1
and a message; a fault without a message is not caught.  The estimate and the
table of scenarios are made on two ways that begin alike: the document is read,
the legs are resolved, the base assets are looked up.  Up to there both
commands have the same faults.

Beyond that nothing has a message (`Quiet`) but one fault: the table of risk
categories lacks the category of a base asset in use.  The estimate names the
category.  The table of scenarios looks the category up as a key like any
other, so it ends with a fault that is not caught.

Main result: `CommandLine.perform_scenarios_of_refused`.
-/
import ScenarioMargin.CommandLine
import ScenarioMargin.Proofs.Inert
import ScenarioMargin.Proofs.Precedence

namespace ScenarioMargin

variable {α β σ : Type}

/-! ### Faults without a message -/

/-- No fault that a computation ends with has a message. -/
def Quiet (x : Except Fault α) : Prop :=
  ∀ e, x = .error e → e.message? = none

namespace Quiet

variable {x : Except Fault α}

theorem ok (a : α) : Quiet (.ok a) := nofun

theorem pure (a : α) : Quiet (Pure.pure a) := nofun

theorem error {e : Fault} (h : e.message? = none) :
    Quiet (.error e : Except Fault α) := by
  rintro _ ⟨⟩
  exact h

theorem bind {f : α → Except Fault β} (first : Quiet x)
    (next : ∀ a, Quiet (f a)) : Quiet (x >>= f) := by
  intro e h
  rcases bind_eq_error.mp h with h | ⟨a, -, h⟩
  · exact first e h
  · exact next a e h

/-- Signals of the arithmetic have no message. -/
theorem lift (x : Except Decimal.Signal α) : Quiet (liftM x : Except Fault α) := by
  intro e h
  obtain ⟨signal, -, rfl⟩ := lift_eq_error.mp h
  rfl

theorem mapM {f : α → Except Fault β} {as : List α} (each : ∀ a, Quiet (f a)) :
    Quiet (as.mapM f) := by
  intro e h
  obtain ⟨_, a, _, -, failed, -⟩ := mapM_eq_error.mp h
  exact each a e failed

/-- What cannot be written has no message. -/
theorem writing {p : Prop} (h : StopsIff x p) : Quiet x := by
  intro e stopped
  obtain ⟨-, rfl⟩ := (h e).mp stopped
  rfl

theorem foldlM {f : σ → α → Except Fault σ} {as : List α}
    (step : ∀ s a, Quiet (f s a)) (s : σ) : Quiet (as.foldlM f s) := by
  induction as generalizing s with
  | nil => exact .pure s
  | cons a as ih =>
    rw [List.foldlM_cons]
    exact (step s a).bind ih

end Quiet

theorem Value.toWhole_quiet (v : Value) : Quiet v.toWhole := by
  cases v with
  | bool b => exact .ok _
  | whole n => exact .ok _
  | real x =>
    rw [toWhole]
    split
    · exact .ok _
    · split_ifs
      · exact .error rfl
      · exact .error rfl
  | text s =>
    rw [toWhole]
    split
    · exact .ok _
    · exact .error rfl
  | null | list vs | record fs => exact .error rfl

theorem Value.part_quiet (v : Value) : Quiet v.part := by
  rw [part]
  split
  · exact .error rfl
  · split_ifs
    · exact .error rfl
    · exact .ok _

theorem Value.ofParts_quiet (sign digits last : Value) :
    Quiet (ofParts sign digits last) := by
  have signPart : Quiet sign.signPart := by
    refine sign.part_quiet.bind fun n => ?_
    split_ifs
    · exact .pure _
    · exact .pure _
    · exact .error rfl
  have lastPart : Quiet last.lastPart := by
    unfold Value.lastPart
    split
    · split_ifs
      · exact .ok _
      · exact .ok _
      · exact .ok _
      · exact .error rfl
    · exact fun e h => last.part_quiet e (map_eq_error.mp h)
  have digitsPart : Quiet digits.digitsPart := by
    unfold Value.digitsPart
    split
    · refine fun e h => (Quiet.mapM fun d => ?_) e (map_eq_error.mp h)
      refine d.part_quiet.bind fun n => ?_
      split_ifs
      · exact .pure _
      · exact .error rfl
    · exact .error rfl
  refine signPart.bind fun negative => lastPart.bind fun last =>
    digitsPart.bind fun coeff => ?_
  cases last with
  | infinity => exact .pure _
  | nan signaling => exact .pure _
  | exponent e =>
    dsimp only
    split
    · exact .pure _
    · exact .error rfl

/-- What is no number has no message of its own. -/
theorem Value.toDecimal_quiet (v : Value) : Quiet v.toDecimal := by
  unfold toDecimal
  split
  case h_4 =>
    split
    · exact .ok _
    · exact .error rfl
  case h_5 => exact ofParts_quiet _ _ _
  all_goals first | exact .ok _ | exact .error rfl

theorem Value.need_quiet (v : Value) (key : String) : Quiet (v.need key) := by
  unfold need
  split
  · split
    · exact .ok _
    · exact .error rfl
  · exact .error rfl

theorem OracleValue.number_quiet (v : OracleValue) : Quiet v.number := by
  unfold number
  split
  · exact (Value.toWhole_quiet _).bind fun _ =>
      (Value.toWhole_quiet _).bind fun _ => .lift _
  · refine (Value.need_quiet _ _).bind fun mantissa =>
      mantissa.toWhole_quiet.bind fun _ => ?_
    exact (Value.need_quiet _ _).bind fun scale =>
      scale.toWhole_quiet.bind fun _ => .lift _
  · exact Value.toDecimal_quiet _

/-! ### Statistics -/

/-- A model whose faults have no message. -/
def LiveModel.Quiet (live : LiveModel) : Prop :=
  ∀ kind strike expiration now market,
    ScenarioMargin.Quiet (live kind strike expiration now market)

theorem Decimal.asFloat_quiet (a : Decimal) : Quiet a.asFloat := by
  rw [asFloat]
  split
  · exact .ok _
  · exact .error rfl

theorem blackScholes_quiet : LiveModel.Quiet blackScholes := by
  intro kind strike expiration now market
  refine (Decimal.asFloat_quiet _).bind fun spot =>
    (Decimal.asFloat_quiet _).bind fun strike => ?_
  have years : Quiet (BlackScholes.years expiration now) := by
    rw [BlackScholes.years]
    split_ifs
    · exact .error rfl
    · exact .ok _
  refine years.bind fun years => ?_
  refine (Decimal.asFloat_quiet _).bind fun volatility =>
    (Decimal.asFloat_quiet _).bind fun rate => ?_
  have square (x : Float) : Quiet (BlackScholes.square x) := by
    rw [BlackScholes.square]
    split_ifs
    · exact .error rfl
    · exact .ok _
  have price :
      Quiet (BlackScholes.price kind spot strike years volatility rate) := by
    rw [BlackScholes.price]
    split_ifs
    · exact .ok _
    · exact .ok _
    · refine (square _).bind fun _ => ?_
      cases kind
      · exact .pure _
      · exact .pure _
  exact price.bind fun _ => .pure _

section Stress

variable {live : LiveModel} (quiet : live.Quiet) (market : Market) (now : Int)

include quiet

theorem Position.value_quiet (p : Position) : Quiet (p.value live market now) := by
  have instrument : Quiet (p.instrument.value live market now) := by
    cases p.instrument with
    | spot => exact .ok _
    | termFuture amount => exact .lift _
    | perpFuture amount => exact .lift _
    | option kind amount strike expiration =>
      refine Quiet.bind ?_ fun _ => .lift _
      rw [optionPrice]
      split_ifs
      · exact quiet _ _ _ _ _
      · refine (Decimal.asFloat_quiet _).bind fun _ =>
          (Decimal.asFloat_quiet _).bind fun _ => ?_
        exact (Decimal.asFloat_quiet _).bind fun _ =>
          (Decimal.asFloat_quiet _).bind fun _ => .pure _
    | unrecognised => exact .error rfl
  exact instrument.bind fun _ => (Quiet.lift _).bind fun _ => .lift _

theorem scenarioResult_quiet (valued : List (Position × Decimal)) (s : Scenario) :
    Quiet (scenarioResult live market now valued s) := by
  refine (Quiet.lift _).bind fun shocked => Quiet.foldlM (fun sum entry => ?_) _
  refine Quiet.bind ?_ fun change => .lift _
  exact (entry.1.value_quiet quiet shocked now).bind fun _ => .lift _

end Stress

/-- The scenarios of a whole number of seconds are at hand. -/
theorem CategoryInfo.variants_quiet (category : CategoryInfo) (seconds : Int)
    (withOption : Bool) :
    Quiet (category.variants (.whole seconds) withOption) := by
  refine Quiet.bind (.ok _) fun b => ?_
  cases withOption
  · exact .lift _
  · exact .lift _

theorem assetStatistics_quiet {live : LiveModel} (quiet : live.Quiet)
    (positions : List Position) (info : AssetInfo) (category : CategoryInfo)
    (seconds now : Int) :
    Quiet (assetStatistics live positions info category (.whole seconds) now) := by
  have valued : Quiet (valuedAt live (info.market category) now positions) :=
    .mapM fun p => (p.value_quiet quiet _ _).bind fun _ => .pure _
  refine valued.bind fun valued =>
    (category.variants_quiet seconds _).bind fun scenarios => ?_
  refine Quiet.bind (.foldlM (fun e s => ?_) _) fun extremes =>
    (Quiet.lift _).bind fun gross => .pure _
  exact (scenarioResult_quiet quiet _ _ valued s).bind fun _ => .lift _

/-! ### Estimates -/

namespace Estimator

variable {live : LiveModel} {estimator : Estimator} {legs : List Leg}
  {cases : List Case} {seconds now : Int}

/-- What is wrong with a leg is no category. -/
theorem Unresolved.ne_categoryMissing {leg : Leg} {e : Fault}
    (h : estimator.Unresolved leg e) (category : RiskCategory) :
    e ≠ .categoryMissing category := by
  have payload {kind : InstrumentKind} {bytes : List UInt8} {e : Fault}
      (h : Payload.Malformed kind bytes e) :
      e ≠ .categoryMissing category := by
    cases h <;> exact nofun
  rcases h with _ | ⟨-, malformed⟩
  · exact nofun
  · exact payload malformed

/-- What is wrong with a price is no category. -/
theorem Unpriced.ne_categoryMissing {index : Int} {e : Fault}
    (h : estimator.Unpriced index e) (category : RiskCategory) :
    e ≠ .categoryMissing category := by
  rcases h with _ | _ | _ | ⟨-, -, unreadable⟩
  · exact nofun
  · exact nofun
  · exact nofun
  · rintro rfl
    rw [OracleValue.price] at unreadable
    split at unreadable
    · split_ifs at unreadable
      cases unreadable
    · next e read =>
      split_ifs at unreadable
      · cases unreadable
      · obtain rfl := Except.error.inj unreadable
        cases OracleValue.number_quiet _ _ read

/-- The faults of legs and of look-ups name no category. -/
theorem ne_categoryMissing {e : Fault} (h : estimator.positions legs = .error e ∨
    ∃ positions, estimator.positions legs = .ok positions ∧
      estimator.assets positions = .error e)
    (category : RiskCategory) : e ≠ .categoryMissing category := by
  rcases h with unresolved | ⟨positions, -, unpriced⟩
  · obtain ⟨_, _, _, -, failed, -⟩ := positions_eq_error.mp unresolved
    exact failed.ne_categoryMissing category
  · obtain ⟨_, _, _, -, failed, -⟩ := assets_eq_error.mp unpriced
    exact failed.ne_categoryMissing category

/-- A category that base assets in use belong to is missing. -/
def Ungraded (estimator : Estimator) (positions : List Position)
    (category : RiskCategory) : Prop :=
  ∃ i ∈ Fetch.firstSeen (positions.map Position.baseAsset), ∃ info,
    estimator.info i = .ok info ∧
    info.category = category ∧ Keyed.get? category estimator.categories = none

/-- Of the faults of statistics one has a message: a missing category. -/
theorem ungraded_of_statistics (quiet : live.Quiet) {positions : List Position}
    {infos : Keyed Int AssetInfo}
    (found : estimator.assets positions = .ok infos) {e : Fault}
    (h : portfolioStatistics live positions infos estimator.categories
      estimator.config (.whole seconds) now = .error e)
    {message : String} (told : e.message? = some message) :
    ∃ category, e = .categoryMissing category ∧
      estimator.Ungraded positions category := by
  rcases (portfolioStatistics_eq_error found).mp h
    with first | ⟨groups, -, signal, -, rfl⟩
  · obtain ⟨before, i, after, split, failed, -⟩ := first
    have used : i ∈ Fetch.firstSeen (positions.map Position.baseAsset) := by
      rw [split]
      exact List.mem_append_right _ List.mem_cons_self
    rcases failed with ⟨known, absent⟩ | ⟨-, -, stress⟩
    · exact ⟨_, rfl, i, used, _, known, rfl, absent⟩
    · rw [assetStatistics_quiet quiet _ _ _ _ _ e stress] at told
      cases told
  · cases told

/-- A fault of an evaluation with a message is a fault of the legs, of the
look-up of base assets, or a missing category. -/
theorem told_of_evaluate (quiet : live.Quiet) {e : Fault}
    (h : estimator.evaluate live legs cases (.whole seconds) = .error e)
    {message : String} (told : e.message? = some message) :
    estimator.positions legs = .error e ∨
      ∃ positions, estimator.positions legs = .ok positions ∧
        (estimator.assets positions = .error e ∨
          (∃ infos, estimator.assets positions = .ok infos) ∧
            ∃ category, e = .categoryMissing category ∧
              estimator.Ungraded positions category) := by
  rcases bind_eq_error.mp h with unread | ⟨now, -, h⟩
  · rw [estimator.clock.toWhole_quiet e unread] at told
    cases told
  rcases bind_eq_error.mp h with unresolved | ⟨positions, resolved, h⟩
  · exact .inl unresolved
  rcases bind_eq_error.mp h with unpriced | ⟨infos, found, h⟩
  · exact .inr ⟨positions, resolved, .inl unpriced⟩
  refine .inr ⟨positions, resolved, .inr ⟨⟨infos, found⟩, ?_⟩⟩
  rcases bind_eq_error.mp h with statistics | ⟨s, -, h⟩
  · exact ungraded_of_statistics quiet found statistics told
  · -- what follows the statistics is arithmetic
    have rest : Quiet (cases.mapM fun c => do
        return (c, ← requiredCollateral s.portfolio c estimator.config) :
          Except Fault (List (Case × Decimal))) :=
      .mapM fun c => (Quiet.lift _).bind fun _ => .pure _
    rw [(rest.bind fun _ => .pure _) e h] at told
    cases told

end Estimator

/-! ### Tables of scenarios -/

namespace Sheet

variable {positions : List Position} {infos : Keyed Int AssetInfo}
  {categories : CategoryTable} {seconds : Int}

theorem scenarioRows_quiet (bucket : Nat) (group : Int × List Position) :
    Quiet (scenarioRows infos categories (.whole seconds) bucket group) := by
  rw [scenarioRows]
  split
  · split
    · next category _ =>
      refine (category.variants_quiet seconds _).bind fun variants =>
        .mapM fun s => ?_
      exact (Quiet.lift _).bind fun _ => (Quiet.lift _).bind fun _ =>
        (Quiet.lift _).bind fun _ => .pure _
    · exact .error rfl
  · exact .error rfl

theorem ofScenarios_quiet :
    Quiet (ofScenarios positions infos categories (.whole seconds)) :=
  Quiet.bind (.ok _) fun _ =>
    (Quiet.mapM fun group => scenarioRows_quiet _ group).bind fun _ => .pure _

/-- There is no table of scenarios where a category is missing. -/
theorem ofScenarios_ungraded {estimator : Estimator}
    (found : estimator.assets positions = .ok infos) {category : RiskCategory}
    (ungraded : estimator.Ungraded positions category) (t : Table) :
    ofScenarios positions infos estimator.categories (.whole seconds) ≠ .ok t := by
  intro h
  obtain ⟨i, hi, info, known, rfl, absent⟩ := ungraded
  obtain ⟨bucket, -, h⟩ := bind_eq_ok.mp h
  obtain ⟨rows, each, -⟩ := bind_eq_ok.mp h
  obtain ⟨info', known', held⟩ := Estimator.info_of_assets found hi
  obtain rfl := Except.ok.inj (known.symm.trans known')
  have group : (i, positions.filter fun p => p.baseAsset = i) ∈
      byIndex (positionsByAsset positions) := by
    rw [byIndex, List.mem_mergeSort, positionsByAsset_eq]
    exact List.mem_map_of_mem hi
  obtain ⟨_, -, row⟩ := exists_of_forall₂ (mapM_eq_ok.mp each).flip group
  simp only [scenarioRows, held, absent] at row
  cases row

end Sheet

/-! ### Reports -/

theorem Table.textOr_quiet (t : Table) (empty : String) :
    Quiet (t.textOr empty) := by
  have cell (c : Cell) : Quiet c.shown := by
    cases c with
    | text s => exact .ok _
    | number n => exact .writing (writeWhole_stopsIff n)
  have column (heading : String) (cells : List Cell) :
      Quiet (column heading cells) :=
    (Quiet.mapM cell).bind fun _ => .pure _
  have lines : Quiet t.lines :=
    (Quiet.mapM fun _ => column _ _).bind fun _ => .pure _
  rw [textOr]
  split_ifs
  · exact .pure _
  · exact lines.bind fun _ => .pure _

/-- A report of an evaluation ends at most with a number that cannot be
written. -/
theorem Report.ofEvaluation_quiet (name : Value) (e : Evaluation) :
    Quiet (ofEvaluation name e) := by
  refine Quiet.bind (.writing name.shown_stopsIff) fun _ => ?_
  refine Quiet.bind (.writing e.period.shown_stopsIff) fun _ => ?_
  refine Quiet.bind (.writing (writeWhole_stopsIff e.instant)) fun _ => ?_
  refine (Table.textOr_quiet _ _).bind fun _ => ?_
  exact (Table.textOr_quiet _ _).bind fun _ => .pure _

/-! ### Commands -/

namespace CommandLine

variable {live : LiveModel} {clock v : Value} {verbose : Bool} {o : Outcome}
  {entries : List Entry}

/-- A command that ends with status 1 has a fault with a message. -/
theorem told_of_outcome {x : Except Fault String}
    (h : outcome verbose entries x = .ok o) (status : o.status = 1) :
    ∃ e message, x = .error e ∧ e.message? = some message := by
  cases x with
  | ok text =>
    obtain rfl := Except.ok.inj h
    cases status
  | error e =>
    cases told : e.message? with
    | some message => exact ⟨e, message, rfl, told⟩
    | none =>
      rw [outcome] at h
      simp only [told] at h
      cases h

/-- What a fault with a message leaves behind. -/
theorem outcome_of_told {e : Fault} {message : String}
    (told : e.message? = some message) (verbose : Bool) (entries : List Entry) :
    outcome verbose entries (.error e) =
      .ok ⟨1, "", lines
        ((if verbose then entries else []) ++ [Journal.failed message])⟩ := by
  simp only [outcome, told]

/-- A fault without a message is not caught. -/
theorem outcome_of_quiet {e : Fault} (quiet : e.message? = none)
    (verbose : Bool) (entries : List Entry) :
    outcome verbose entries (.error e) = .error e := by
  simp only [outcome, quiet]

theorem perform_unread {command : Command} {e : Fault}
    (read : documentIn v = .error e) :
    perform live clock verbose command v = outcome verbose [] (.error e) := by
  rw [perform, read]

theorem perform_read {command : Command} {d : Document}
    (read : documentIn v = .ok d) :
    perform live clock verbose command v =
      outcome verbose (command.journal live clock d)
        (command.text live clock d) := by
  rw [perform, read]

/-- The table of scenarios needs neither the clock nor the cases; what stops
the legs or the look-up of base assets stops it, too. -/
theorem scenariosText_eq_error (clock : Value) {d : Document} {e : Fault}
    (h : (d.estimator clock).positions d.legs = .error e ∨
      ∃ positions, (d.estimator clock).positions d.legs = .ok positions ∧
        (d.estimator clock).assets positions = .error e) :
    scenariosText d = .error e := by
  refine bind_eq_error.mpr ?_
  rcases h with unresolved | ⟨positions, resolved, unpriced⟩
  · exact .inl unresolved
  · exact .inr ⟨positions, resolved, bind_eq_error.mpr (.inl unpriced)⟩

/-- Without the category of a base asset in use, the table of scenarios ends
with a fault that has no message. -/
theorem scenariosText_ungraded {d : Document} {positions : List Position}
    {infos : Keyed Int AssetInfo}
    (resolved : (d.estimator clock).positions d.legs = .ok positions)
    (found : (d.estimator clock).assets positions = .ok infos)
    {category : RiskCategory}
    (ungraded : (d.estimator clock).Ungraded positions category) :
    ∃ e, scenariosText d = .error e ∧ e.message? = none := by
  cases table : Sheet.ofScenarios positions infos d.categories
    (.whole d.period) with
  | ok t => exact absurd table (Sheet.ofScenarios_ungraded found ungraded t)
  | error e =>
    refine ⟨e, ?_, Sheet.ofScenarios_quiet e table⟩
    refine bind_eq_error.mpr
      (.inr ⟨positions, resolved, bind_eq_error.mpr (.inr ⟨infos, found, ?_⟩)⟩)
    exact bind_eq_error.mpr (.inl table)

/-- An estimate that misses a category: the table of scenarios ends with a
fault that is not caught. -/
theorem perform_scenarios_ungraded (quiet : live.Quiet) {d : Document}
    (read : documentIn v = .ok d) {category : RiskCategory}
    (missing : (d.estimator clock).evaluate live d.legs d.cases
      (.whole d.period) = .error (.categoryMissing category)) :
    ∃ e, perform live clock verbose .scenarios v = .error e ∧
      e.message? = none := by
  rcases Estimator.told_of_evaluate quiet missing rfl with
    unresolved | ⟨positions, resolved, unpriced | ⟨⟨infos, found⟩, _, -, ungraded⟩⟩
  · exact absurd rfl (Estimator.ne_categoryMissing (.inl unresolved) category)
  · exact absurd rfl (Estimator.ne_categoryMissing
      (.inr ⟨positions, resolved, unpriced⟩) category)
  · obtain ⟨e, table, silent⟩ := scenariosText_ungraded resolved found ungraded
    refine ⟨e, ?_, silent⟩
    rw [perform_read read, show Command.text live clock d .scenarios =
      scenariosText d from rfl, table, outcome_of_quiet silent]

/-- **Refused documents.**  Let an estimate refuse a document with status 1.
If what it refuses is not a missing risk category, the table of scenarios
refuses the document with status 1, too, and without a journal the two leave
the same behind.  If it is a missing risk category, the table of scenarios ends
with a fault that is not caught. -/
theorem perform_scenarios_of_refused (quiet : live.Quiet)
    (refused : perform live clock verbose .estimate v = .ok o)
    (status : o.status = 1) :
    ((∀ d category, documentIn v = .ok d →
        (d.estimator clock).evaluate live d.legs d.cases (.whole d.period) ≠
          .error (.categoryMissing category)) →
      ∃ o', perform live clock verbose .scenarios v = .ok o' ∧ o'.status = 1 ∧
        (verbose = false → o' = o)) ∧
    ∀ d category, documentIn v = .ok d →
      (d.estimator clock).evaluate live d.legs d.cases (.whole d.period) =
        .error (.categoryMissing category) →
      ∃ e, perform live clock verbose .scenarios v = .error e ∧
        e.message? = none := by
  refine ⟨?_, fun d category read => perform_scenarios_ungraded quiet read⟩
  intro graded
  cases read : documentIn v with
  | error e =>
    rw [perform_unread read] at refused ⊢
    exact ⟨o, refused, status, fun _ => rfl⟩
  | ok d =>
    rw [perform_read read] at refused ⊢
    obtain ⟨e, message, text, told⟩ := told_of_outcome refused status
    have fault :
        (d.estimator clock).evaluate live d.legs d.cases (.whole d.period) =
          .error e := by
      rcases bind_eq_error.mp text with fault | ⟨_, -, unwritten⟩
      · exact fault
      · cases told.symm.trans (Report.ofEvaluation_quiet _ _ e unwritten)
    have early : scenariosText d = .error e := by
      refine scenariosText_eq_error clock ?_
      rcases Estimator.told_of_evaluate quiet fault told with
        unresolved | ⟨positions, resolved, unpriced | ⟨-, category, rfl, -⟩⟩
      · exact .inl unresolved
      · exact .inr ⟨positions, resolved, unpriced⟩
      · exact absurd fault (graded d category read)
    rw [text, outcome_of_told told] at refused
    rw [show Command.text live clock d .scenarios = .error e from early,
      outcome_of_told told]
    refine ⟨_, rfl, rfl, ?_⟩
    rintro rfl
    exact Except.ok.inj refused

end CommandLine

/-! ### Two documents that are refused -/

namespace Sample

/-- A document whose legs name a program that it does not know. -/
def unregistered : Value :=
  listing [asset 0 .low 100, asset 5 .high 40] [("calls", .text "option")]
    [("low", grade (.whole 0)), ("high", grade (.whole 0))]

/-- A document without the category of its second base asset. -/
def ungraded : Value :=
  listing [asset 0 .low 100, asset 5 .high 40] [("cash", .text "spot")]
    [("low", grade (.whole 0))]

theorem ungraded_missing : ∃ d, CommandLine.documentIn ungraded = .ok d ∧
    (d.estimator .null).evaluate blackScholes d.legs d.cases (.whole d.period) =
      .error (.categoryMissing .high) := by
  have read : (CommandLine.documentIn ungraded).map Document.period =
      .ok 0 := by decide +kernel
  obtain ⟨d, read, -⟩ := map_eq_ok.mp read
  have run : (CommandLine.documentIn ungraded >>= fun d =>
      (d.estimator .null).required blackScholes d.legs d.cases
        (.whole d.period)) = .error (.categoryMissing .high) := by
    decide +kernel
  rw [read] at run
  have stops : (d.estimator .null).required blackScholes d.legs d.cases
      (.whole d.period) = .error (.categoryMissing .high) := run
  rcases bind_eq_error.mp stops with fault | ⟨_, -, h⟩
  · exact ⟨d, read, fault⟩
  · cases h

end Sample

/-- The estimate refuses the document without the category, and the table of
scenarios lets its fault escape. -/
theorem sample_escape :
    CommandLine.perform blackScholes .null false .estimate Sample.ungraded =
      .ok ⟨1, "",
        "T ERROR rfq_collateral.cli: Risk category high is missing from risk engine config!\n"⟩ ∧
    ∃ e,
      CommandLine.perform blackScholes .null false .scenarios Sample.ungraded =
        .error e ∧ e.message? = none := by
  obtain ⟨d, read, missing⟩ := Sample.ungraded_missing
  exact ⟨by decide +kernel,
    CommandLine.perform_scenarios_ungraded blackScholes_quiet read missing⟩

/-- Both commands refuse the document with the unknown program and leave the
same behind; for the document without the category the table of scenarios ends
with a fault that has no message. -/
theorem sample_refused :
    LiveModel.Quiet blackScholes ∧
      (∃ o, CommandLine.perform blackScholes .null false .estimate
        Sample.unregistered = .ok o ∧ o.status = 1 ∧
        o.errors =
          "T ERROR rfq_collateral.cli: Instrument cash is missing from risk engine config!\n" ∧
        CommandLine.perform blackScholes .null false .scenarios
          Sample.unregistered = .ok o) ∧
      ∃ o,
        CommandLine.perform blackScholes .null false .estimate Sample.ungraded =
          .ok o ∧ o.status = 1 ∧
        ∃ e, CommandLine.perform blackScholes .null false .scenarios
          Sample.ungraded = .error e ∧ e.message? = none := by
  have unregistered : CommandLine.perform blackScholes .null false .estimate
      Sample.unregistered = .ok ⟨1, "",
        "T ERROR rfq_collateral.cli: Instrument cash is missing from risk engine config!\n"⟩ := by
    decide +kernel
  have ungraded :
      CommandLine.perform blackScholes .null false .estimate Sample.ungraded =
      .ok ⟨1, "",
        "T ERROR rfq_collateral.cli: Risk category high is missing from risk engine config!\n"⟩ := by
    decide +kernel
  have program : (CommandLine.documentIn Sample.unregistered >>= fun d =>
      (d.estimator .null).required blackScholes d.legs d.cases
        (.whole d.period)) = .error (.unregistered "cash") := by
    decide +kernel
  obtain ⟨o, table, -, same⟩ := (CommandLine.perform_scenarios_of_refused
    blackScholes_quiet unregistered rfl).1 (by
    intro d category read missing
    rw [read] at program
    have fault : (d.estimator .null).required blackScholes d.legs d.cases
        (.whole d.period) = .error (.categoryMissing category) :=
          bind_eq_error.mpr (.inl missing)
    cases Except.error.inj (fault.symm.trans program))
  obtain rfl := same rfl
  obtain ⟨d, read, missing⟩ := Sample.ungraded_missing
  exact ⟨blackScholes_quiet, ⟨_, unregistered, rfl, rfl, table⟩, _, ungraded, rfl,
    (CommandLine.perform_scenarios_of_refused blackScholes_quiet ungraded rfl).2
      d .high read missing⟩

end ScenarioMargin
