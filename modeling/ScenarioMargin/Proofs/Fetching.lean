/-
ScenarioMargin/Proofs/Fetching.lean

Looking up base assets side by side, however many there are and however often
each gives way.

One that gives way goes to the end of the queue.  Still the order in which
failures are reported can be read off the queue at any time, since what is left
of a look-up shrinks by one exactly when it moves behind all others
(`earlier_rotate`).  So the failure that ends the whole is known from the
start: it comes from the look-up that gives way least before it, and from the
first one where several are equal.  Each base asset may have a price address of
its own, so the delays of both of its look-ups are any numbers.

Three invariants of a turn carry the result, each about one thing that the
history records:

* `FailureIs` — the failure reported so far, or else the one that leads the
  queue, never changes;
* `CallsAre` — the profiles asked for, followed by the base assets still to
  begin, never change;
* `FoundAre` — without failures, what was found together with what is still to
  be found never changes.

Main result: `fetch_spec`.
-/
import ScenarioMargin.Fetch
import ScenarioMargin.Proofs.Grouping

namespace ScenarioMargin

/-! ### How the look-up of a base asset ends -/

/-- The look-up of a base asset fails after giving way a number of times: at
its profile, or then at its price. -/
inductive Sources.Fails (sources : Sources) (index : Int) : Nat → Fault → Prop
  | profile {e : Fault} (failed : (sources.profile index).outcome = .error e) :
      Fails sources index (sources.profile index).yields e
  | price {p : Profile} {e : Fault}
      (found : (sources.profile index).outcome = .ok p)
      (failed : (sources.price p.oracle).outcome = .error e) :
      Fails sources index
        ((sources.profile index).yields + (sources.price p.oracle).yields) e

/-- The look-up of a base asset finds its category and its price. -/
inductive Sources.Finds (sources : Sources) (index : Int) : AssetInfo → Prop
  | found {p : Profile} {price : Decimal}
      (profile : (sources.profile index).outcome = .ok p)
      (priced : (sources.price p.oracle).outcome = .ok price) :
        Finds sources index ⟨p.category, price⟩

variable {sources : Sources}

theorem Sources.fails_iff {index : Int} {n : Nat} {e : Fault} :
    sources.Fails index n e ↔ sources.asset index = ⟨n, .error e⟩ := by
  constructor
  · rintro (failed | ⟨found, failed⟩)
    · simp [Sources.asset, Lookup.andThen, failed]
    · simp [Sources.asset, Lookup.andThen, found, failed]
  · intro h
    rw [Sources.asset, Lookup.andThen] at h
    split at h
    case h_1 p found =>
      rw [Lookup.andThen] at h
      split at h
      · simp [Lookup.now] at h
      · obtain ⟨rfl, rfl⟩ := by simpa using h
        exact .price found (by assumption)
    case h_2 e' failed =>
      obtain ⟨rfl, rfl⟩ := by simpa using h
      exact .profile failed

theorem Sources.finds_iff {index : Int} {info : AssetInfo} :
    sources.Finds index info ↔ (sources.asset index).outcome = .ok info := by
  constructor
  · rintro ⟨profile, priced⟩
    simp [Sources.asset, Lookup.andThen, Lookup.now, profile, priced]
  · intro h
    rw [Sources.asset, Lookup.andThen] at h
    split at h
    case h_1 p profile =>
      rw [Lookup.andThen] at h
      split at h
      · obtain rfl := by simpa [Lookup.now] using h
        exact .found profile (by assumption)
      · cases h
    case h_2 e' failed => cases h

/-- What is found depends on the outcomes alone, and not on the delays. -/
theorem Sources.Finds.of_outcomes {other : Sources} {index : Int}
    {info : AssetInfo} (h : sources.Finds index info)
    (profiles : ∀ i, (other.profile i).outcome = (sources.profile i).outcome)
    (prices : ∀ address,
      (other.price address).outcome = (sources.price address).outcome) :
    other.Finds index info := by
  obtain ⟨profile, priced⟩ := h
  exact .found ((profiles index).trans profile) ((prices _).trans priced)

/-- What finds does not fail. -/
theorem Sources.Finds.not_fails {index : Int} {info : AssetInfo}
    (h : sources.Finds index info) (n : Nat) (e : Fault) :
    ¬ sources.Fails index n e := by
  intro fails
  have outcome := finds_iff.mp h
  rw [fails_iff.mp fails] at outcome
  cases outcome

/-- What fails gives way a definite number of times before. -/
theorem Sources.Fails.yields_eq {index : Int} {n m : Nat} {e e' : Fault}
    (h : sources.Fails index n e) (h' : sources.Fails index m e') : n = m := by
  have same := fails_iff.mp h
  rw [fails_iff.mp h'] at same
  exact (congrArg Lookup.yields same).symm

/-- A look-up finds what it looks for, unless it fails. -/
theorem Sources.finds_or_fails (sources : Sources) (index : Int) :
    (∃ info, sources.Finds index info) ∨ ∃ n e, sources.Fails index n e := by
  rcases h : sources.asset index with ⟨n, e | info⟩
  · exact .inr ⟨n, e, fails_iff.mpr h⟩
  · exact .inl ⟨info, finds_iff.mpr (by rw [h])⟩

namespace Fetch

/-! ### Turns -/

/-- What is left of a turn's look-up: how many turns come before the report of
its end, and the end. -/
def Turn.rest (sources : Sources) : Turn → Lookup AssetInfo
  | .start index =>
    ⟨(sources.asset index).yields + 1, (sources.asset index).outcome⟩
  | .resume _ rest => ⟨rest.yields + 1, rest.outcome⟩
  | .report _ outcome => ⟨0, outcome⟩

/-- One turn less is left of a look-up that goes on. -/
@[simp] theorem rest_advance (index : Int) (rest : Lookup AssetInfo) :
    (advance index rest).rest sources = rest := by
  rcases rest with ⟨_ | n, outcome⟩ <;> rfl

@[simp] theorem noting_calls (h : History) (t : Turn) :
    (h.noting t).calls = h.calls := by
  rcases t with _ | _ | ⟨_, _ | _⟩ <;> rfl

@[simp] theorem noting_failure (h : History) (t : Turn) :
    (h.noting t).failure = h.failure := by
  rcases t with _ | _ | ⟨_, _ | _⟩ <;> rfl

theorem turn_start {h : History} (running : h.failure = none) (index : Int) :
    turn sources h (.start index) =
      ({ h with calls := h.calls ++ [index] }.noting
        (advance index (sources.asset index)),
        [advance index (sources.asset index)]) := by
  simp [turn, running]

theorem turn_resume {h : History} (running : h.failure = none) (index : Int)
    (rest : Lookup AssetInfo) :
    turn sources h (.resume index rest) =
      (h.noting (advance index rest), [advance index rest]) := by
  simp [turn, running]

/-- What every turn keeps, the whole run keeps. -/
theorem run_induction {Inv : History → List Turn → Prop}
    (step : ∀ h t queue, Inv h (t :: queue) →
      Inv (turn sources h t).1 (queue ++ (turn sources h t).2))
    {h : History} {queue : List Turn} (start : Inv h queue) :
    Inv (run sources h queue) [] := by
  induction h, queue using run.induct sources with
  | case1 h =>
    rw [run]
    exact start
  | case2 h t queue next ih =>
    rw [run]
    exact ih (step h t queue start)

/-! ### Calls -/

/-- Whether a turn is to begin a look-up. -/
def Turn.isStart : Turn → Bool
  | .start _ => true
  | _ => false

@[simp] theorem isStart_advance (index : Int) (rest : Lookup AssetInfo) :
    (advance index rest).isStart = false := by
  rcases rest with ⟨_ | n, outcome⟩ <;> rfl

/-- The profiles asked for and the base assets still to begin are `all`.  Those
to begin stand before everything else, so that no failure is reported while
there are any. -/
def CallsAre (all : List Int) (h : History) (queue : List Turn) : Prop :=
  ∃ starts others, queue = starts.map .start ++ others ∧
    (∀ t ∈ others, t.isStart = false) ∧
    (starts ≠ [] → h.failure = none) ∧ h.calls ++ starts = all

/-- A turn that begins no look-up asks for no profile, and what it puts into
the queue begins none. -/
theorem turn_of_not_start (h : History) {t : Turn} (other : t.isStart = false) :
    (turn sources h t).1.calls = h.calls ∧ ∀ next ∈ (turn sources h t).2,
      next.isStart = false := by
  rcases t with index | ⟨index, rest⟩ | ⟨index, e | info⟩
  · cases other
  · cases running : h.failure with
    | none => simp [turn_resume running]
    | some e => simp [turn, running]
  · simp [turn]
  · simp [turn]

theorem callsAre_turn (all : List Int) (h : History) (t : Turn) (queue : List Turn)
    (inv : CallsAre all h (t :: queue)) :
    CallsAre all (turn sources h t).1 (queue ++ (turn sources h t).2) := by
  obtain ⟨starts, others, split, notStart, running, calls⟩ := inv
  cases starts with
  | nil =>
    -- all look-ups have begun
    obtain rfl : t :: queue = others := split
    obtain ⟨same, new⟩ := turn_of_not_start h (notStart t List.mem_cons_self)
    refine ⟨[], _, rfl, ?_, fun absurd => (absurd rfl).elim,
      by rw [same]; exact calls⟩
    intro next member
    rcases List.mem_append.mp member with old | fresh
    · exact notStart next (List.mem_cons_of_mem t old)
    · exact new next fresh
  | cons index starts =>
    -- the first one to begin moves behind all others, asked for
    obtain ⟨rfl, rfl⟩ : t = .start index ∧
      queue = starts.map .start ++ others := by simpa using split
    have none := running (List.cons_ne_nil _ _)
    rw [turn_start none]
    refine ⟨starts, others ++ [advance index (sources.asset index)],
      List.append_assoc .., ?_, ?_, ?_⟩
    · intro next member
      rcases List.mem_append.mp member with old | fresh
      · exact notStart next old
      · rw [List.mem_singleton.mp fresh, isStart_advance]
    · intro _
      rw [noting_failure]
      exact none
    · rw [noting_calls, ← calls]
      simp

/-- Every base asset is asked for once, in the order in which they are first
seen. -/
theorem history_calls (sources : Sources) (indices : List Int) :
    (history sources indices).calls = firstSeen indices := by
  have start :
      CallsAre (firstSeen indices) .empty ((firstSeen indices).map .start) :=
    ⟨firstSeen indices, [], (List.append_nil _).symm, by simp, fun _ => rfl, rfl⟩
  obtain ⟨starts, others, split, -, -, calls⟩ :=
    run_induction (callsAre_turn (firstSeen indices)) start
  obtain ⟨rfl, rfl⟩ : starts = [] ∧ others = [] := by simpa using split.symm
  rwa [List.append_nil] at calls

/-! ### Failures -/

/-- How many turns come before the report of a failure, and the failure, if
there is one ahead. -/
def failureAhead (rest : Lookup AssetInfo) : Option (Nat × Fault) :=
  match rest.outcome with
  | .ok _ => none
  | .error e => some (rest.yields, e)

/-- The failure that is reported earlier; of two in the same turn of the queue,
the one that stands first. -/
def earlier : Option (Nat × Fault) → Option (Nat × Fault) → Option (Nat × Fault)
  | none, b => b
  | some a, none => some a
  | some a, some b => if a.1 ≤ b.1 then some a else some b

/-- The failure of a queue that is reported first. -/
def leading (sources : Sources) : List Turn → Option (Nat × Fault)
  | [] => none
  | t :: queue => earlier (failureAhead (t.rest sources)) (leading sources queue)

@[simp] theorem earlier_none (a : Option (Nat × Fault)) : earlier a none = a := by
  cases a <;> rfl

@[simp] theorem none_earlier (b : Option (Nat × Fault)) : earlier none b = b := rfl

theorem earlier_assoc (a b c : Option (Nat × Fault)) :
    earlier (earlier a b) c = earlier a (earlier b c) := by
  rcases a with - | ⟨n, a⟩
  · rfl
  rcases b with - | ⟨m, b⟩
  · rfl
  rcases c with - | ⟨k, c⟩
  · simp
  by_cases first : n ≤ m <;> by_cases second : m ≤ k
  · simp [earlier, first, second, first.trans second]
  · simp [earlier, first, second]
  · simp [earlier, first, second]
  · have third : ¬ n ≤ k := by omega
    simp [earlier, first, second, third]

theorem leading_append (front back : List Turn) :
    leading sources (front ++ back) =
      earlier (leading sources front) (leading sources back) := by
  induction front with
  | nil => rfl
  | cons t front ih => rw [List.cons_append, leading, leading, ih, earlier_assoc]

/-- A look-up that moves behind the others with one turn less left keeps its
place among the failures. -/
theorem earlier_rotate (n : Nat) (outcome : Except Fault AssetInfo)
    (others : Option (Nat × Fault)) :
    (earlier others (failureAhead ⟨n, outcome⟩)).map Prod.snd =
      (earlier (failureAhead ⟨n + 1, outcome⟩) others).map Prod.snd := by
  rcases outcome with e | info
  · rcases others with - | ⟨m, e'⟩
    · rfl
    · rcases Nat.lt_or_ge n m with before | after
      · simp [failureAhead, earlier, before, Nat.not_le.mpr before]
      · simp [failureAhead, earlier, after, Nat.not_lt.mpr after]
  · simp [failureAhead]

/-- The failure reported so far, or else the one that is reported first, is
`failure`. -/
def FailureIs (sources : Sources) (failure : Option Fault) (h : History)
    (queue : List Turn) : Prop :=
  h.failure.or ((leading sources queue).map Prod.snd) = failure

/-- Queues whose leading failures are the same keep the failure. -/
theorem failureIs_of_leading {failure : Option Fault} {h h' : History}
    {queue queue' : List Turn} (inv : FailureIs sources failure h queue)
    (same : h'.failure = h.failure)
    (leads : (leading sources queue').map Prod.snd =
      (leading sources queue).map Prod.snd) :
    FailureIs sources failure h' queue' := by
  rw [FailureIs, same, leads]
  exact inv

theorem failureIs_turn (failure : Option Fault) (h : History) (t : Turn)
    (queue : List Turn) (inv : FailureIs sources failure h (t :: queue)) :
    FailureIs sources failure (turn sources h t).1
      (queue ++ (turn sources h t).2) := by
  cases reported : h.failure with
  | some e =>
    -- nothing that happens after a failure changes it
    have done : (turn sources h t).1.failure = some e := by
      rcases t with index | ⟨index, rest⟩ | ⟨index, e' | info⟩ <;>
        simp [turn, reported]
    rw [FailureIs, reported] at inv
    rw [FailureIs, done]
    exact inv
  | none =>
    rcases t with index | ⟨index, rest⟩ | ⟨index, e | info⟩
    -- a look-up that goes on moves behind all others with one turn less left
    · rw [turn_start reported]
      refine failureIs_of_leading inv (noting_failure _ _) ?_
      rw [leading_append, leading, leading, leading, earlier_none, rest_advance]
      exact earlier_rotate _ _ _
    · rw [turn_resume reported]
      refine failureIs_of_leading inv (noting_failure _ _) ?_
      rw [leading_append, leading, leading, leading, earlier_none, rest_advance]
      exact earlier_rotate _ _ _
    · -- the report of a failure is ahead of all others
      have first : ∀ others, earlier (some (0, e)) others = some (0, e) := by
        rintro (- | other) <;> simp [earlier]
      rw [FailureIs, leading, Turn.rest, failureAhead, first, reported] at inv
      rw [FailureIs, ← inv, turn, reported]
      rfl
    · refine failureIs_of_leading inv rfl ?_
      rw [turn, List.append_nil, leading, Turn.rest, failureAhead, none_earlier]

/-- The failure that ends the whole is the one that leads the queue of look-ups
at the start. -/
theorem history_failure (sources : Sources) (indices : List Int) :
    (history sources indices).failure =
      (leading sources ((firstSeen indices).map .start)).map Prod.snd := by
  have inv := run_induction (failureIs_turn _)
    (rfl : FailureIs sources _ .empty ((firstSeen indices).map .start))
  have final : (history sources indices).failure.or none = _ := inv
  rw [Option.or_none] at final
  rw [final]
  rfl

/-- What leads a queue of look-ups: none of them fails, or one that gives way
least before its failure, and that stands first among those. -/
theorem leading_cases {keys : List Int} {before : Int → Int → Prop}
    (order : keys.Pairwise before) :
    (leading sources (keys.map .start) = none ∧ ∀ j ∈ keys, ∀ m e,
      ¬ sources.Fails j m e) ∨
    ∃ i ∈ keys, ∃ n e, leading sources (keys.map .start) = some (n + 1, e) ∧
      sources.Fails i n e ∧
      ∀ j ∈ keys, ∀ m e', sources.Fails j m e' →
        n < m ∨ n = m ∧ (i = j ∨ before i j) := by
  induction keys with
  | nil => exact .inl ⟨rfl, by simp⟩
  | cons k keys ih =>
    rw [List.pairwise_cons] at order
    rw [List.map_cons, leading, Turn.rest]
    rcases sources.finds_or_fails k with ⟨info, finds⟩ | ⟨n, e, fails⟩
    · -- one that finds leads nothing
      have harmless : ∀ m e, ¬ sources.Fails k m e := finds.not_fails
      rw [failureAhead, Sources.finds_iff.mp finds, none_earlier]
      rcases ih order.2 with ⟨none, others⟩ | ⟨i, hi, n, e, leads, fails, least⟩
      · exact .inl ⟨none, List.forall_mem_cons.mpr ⟨harmless, others⟩⟩
      · refine .inr ⟨i, List.mem_cons_of_mem k hi, n, e, leads, fails,
          List.forall_mem_cons.mpr ⟨?_, least⟩⟩
        exact fun m e' fails' => absurd fails' (harmless m e')
    · right
      rw [Sources.fails_iff.mp fails]
      rcases ih order.2 with ⟨none, others⟩ | ⟨i, hi, n', e', leads, fails', least⟩
      · rw [none]
        refine ⟨k, List.mem_cons_self, n, e, rfl, fails,
          List.forall_mem_cons.mpr ⟨?_, ?_⟩⟩
        · exact fun m e' fails' => .inr ⟨fails.yields_eq fails', .inl rfl⟩
        · exact fun j hj m e' fails' => absurd fails' (others j hj m e')
      · rw [leads]
        rcases Nat.lt_or_ge n' n with less | more
        · -- the leader of the rest stays ahead
          refine ⟨i, List.mem_cons_of_mem k hi, n', e', ?_, fails',
            List.forall_mem_cons.mpr ⟨?_, least⟩⟩
          · simp [failureAhead, earlier, Nat.not_le.mpr less]
          · exact fun m e'' fails'' => .inl (fails.yields_eq fails'' ▸ less)
        · -- the new one leads, also where both give way as often, since it
          -- stands before all others
          refine ⟨k, List.mem_cons_self, n, e, ?_, fails,
            List.forall_mem_cons.mpr ⟨?_, ?_⟩⟩
          · simp [failureAhead, earlier, more]
          · exact fun m e'' fails'' => .inr ⟨fails.yields_eq fails'', .inl rfl⟩
          · intro j hj m e'' fails''
            rcases least j hj m e'' fails'' with less | ⟨same, _⟩
            · exact .inl (more.trans_lt less)
            · rcases more.lt_or_eq with less | equal
              · exact .inl (same ▸ less)
              · exact .inr ⟨equal.trans same, .inr (order.1 j hj)⟩

/-! ### Findings -/

/-- What a look-up finds, if it does, under its base asset. -/
def foundAhead (index : Int) (outcome : Except Fault AssetInfo) :
    Keyed Int AssetInfo :=
  match outcome with
  | .ok info => [(index, info)]
  | .error _ => []

/-- What a turn's look-up is still to find. -/
def Turn.finding (sources : Sources) : Turn → Keyed Int AssetInfo
  | .start index => foundAhead index (sources.asset index).outcome
  | .resume index rest => foundAhead index rest.outcome
  | .report .. => []

/-- No failure is reported or ahead, and what was found, together with what is
still to be found, is `all` in some order. -/
structure FoundAre (sources : Sources) (all : Keyed Int AssetInfo) (h : History)
    (queue : List Turn) : Prop where
  noFailure : FailureIs sources none h queue
  findings : (h.found ++ queue.flatMap (Turn.finding sources)).Perm all

/-- What a look-up finds is noted when its end is put into the queue, and not
before. -/
theorem noting_found (h : History) (index : Int) (rest : Lookup AssetInfo) :
    (h.noting (advance index rest)).found ++ (advance index rest).finding sources =
      h.found ++ foundAhead index rest.outcome := by
  rcases rest with ⟨_ | n, e | info⟩ <;>
    simp [advance, History.noting, Turn.finding, foundAhead]

/-- A look-up moves from the front of the queue to its end, or from the queue
to what was found. -/
theorem findings_move {h h' : History} {t next : Turn} (queue : List Turn)
    (moved : h'.found ++ next.finding sources = h.found ++ t.finding sources) :
    (h'.found ++ (queue ++ [next]).flatMap (Turn.finding sources)).Perm
      (h.found ++ (t :: queue).flatMap (Turn.finding sources)) := by
  rw [List.flatMap_append, List.flatMap_singleton, List.flatMap_cons]
  have swap : (queue.flatMap (Turn.finding sources) ++ next.finding sources).Perm
      (next.finding sources ++ queue.flatMap (Turn.finding sources)) :=
        List.perm_append_comm
  have behind := swap.append_left h'.found
  rwa [← List.append_assoc h'.found (next.finding sources), moved,
    List.append_assoc h.found] at behind

theorem foundAre_turn (all : Keyed Int AssetInfo) (h : History) (t : Turn)
    (queue : List Turn) (inv : FoundAre sources all h (t :: queue)) :
    FoundAre sources all (turn sources h t).1 (queue ++ (turn sources h t).2) := by
  refine ⟨failureIs_turn none h t queue inv.noFailure, ?_⟩
  have running : h.failure = none := (Option.or_eq_none_iff.mp inv.noFailure).1
  rcases t with index | ⟨index, rest⟩ | ⟨index, e | info⟩
  -- the two turns that make look-ups go on only move what is found; without
  -- failures, reports change nothing
  · rw [turn_start running]
    exact (findings_move queue (noting_found _ _ _)).trans inv.findings
  · rw [turn_resume running]
    exact (findings_move queue (noting_found _ _ _)).trans inv.findings
  · rw [turn, List.append_nil]
    exact inv.findings
  · rw [turn, List.append_nil]
    exact inv.findings

/-! ### The whole -/

theorem leading_firstSeen (sources : Sources) (indices : List Int) :
    (leading sources ((firstSeen indices).map .start) = none ∧ ∀ j ∈ indices,
      ∀ m e, ¬ sources.Fails j m e) ∨
    ∃ i ∈ indices, ∃ n e, leading sources ((firstSeen indices).map .start) =
      some (n + 1, e) ∧ sources.Fails i n e ∧
      ∀ j ∈ indices, ∀ m e', sources.Fails j m e' →
        n < m ∨ n = m ∧ indices.idxOf i ≤ indices.idxOf j := by
  rcases leading_cases (eraseDups_pairwise indices) with ⟨none, others⟩
    | ⟨i, hi, n, e, leads, fails, least⟩
  · exact .inl ⟨none, fun j hj => others j (List.mem_eraseDups.mpr hj)⟩
  · refine .inr ⟨i, List.mem_eraseDups.mp hi, n, e, leads, fails, ?_⟩
    intro j hj m e' fails'
    rcases least j (List.mem_eraseDups.mpr hj) m e' fails' with less
      | ⟨same, rfl | before⟩
    · exact .inl less
    · exact .inr ⟨same, le_rfl⟩
    · exact .inr ⟨same, before.le⟩

section Found

variable {indices : List Int} {info : Int → AssetInfo}
  (finds : ∀ i ∈ indices, sources.Finds i (info i))

include finds

theorem leading_of_finds :
    leading sources ((firstSeen indices).map .start) = none := by
  rcases leading_firstSeen sources indices with ⟨none, _⟩
    | ⟨i, hi, n, e, _, fails, _⟩
  · exact none
  · exact absurd fails ((finds i hi).not_fails n e)

/-- Without failures, the history has the findings of all base assets, in some
order. -/
theorem history_found : (history sources indices).found.Perm
    ((firstSeen indices).map fun i => (i, info i)) := by
  have start :
      FoundAre sources ((firstSeen indices).map fun i => (i, info i)) .empty
      ((firstSeen indices).map .start) := by
    refine ⟨by rw [FailureIs, leading_of_finds finds]; rfl, List.Perm.of_eq ?_⟩
    show ((firstSeen indices).map Turn.start).flatMap (Turn.finding sources) = _
    rw [List.flatMap_map, List.map_eq_flatMap]
    apply List.flatMap_congr
    intro i hi
    rw [Turn.finding, Sources.finds_iff.mp (finds i (List.mem_eraseDups.mp hi)),
      foundAhead]
  have findings := (run_induction (foundAre_turn _) start).findings
  rwa [List.flatMap_nil, List.append_nil] at findings

/-- Without failures, the findings are those of all base assets. -/
theorem assets_of_finds : assets sources indices =
    .ok ((firstSeen indices).map fun i => (i, info i)) := by
  have failure : (history sources indices).failure = none := by
    rw [history_failure, leading_of_finds finds]
    rfl
  -- the findings stand under keys of their own, so the order in which they
  -- were made does not matter
  have perm := history_found finds
  have once : (Keyed.keys (history sources indices).found).Nodup := by
    rw [Keyed.keys, (perm.map Prod.fst).nodup_iff, List.map_map]
    simpa [Function.comp_def, firstSeen] using eraseDups_nodup indices
  rw [assets, failure]
  show Except.ok _ = Except.ok _
  congr 1
  rw [List.map_eq_flatMap, List.filterMap_eq_flatMap_toList]
  apply List.flatMap_congr
  intro i hi
  rw [Keyed.get?_of_mem once (perm.mem_iff.mpr (List.mem_map.mpr ⟨i, hi, rfl⟩))]
  rfl

end Found

/-- **Looking up base assets.**  Whatever the delays and the failures,

* the profile of each base asset is asked for once, in the order in which base
  assets are first seen;
* without failures, all base assets are found in that order, each with its own
  category and price;
* what is found then does not depend on the delays;
* with failures nothing is found, and the failure is that of a base asset which
  gives way least before it fails, the one seen first among those. -/
theorem fetch_spec (sources : Sources) (indices : List Int) :
    ((history sources indices).calls.Nodup ∧
      (∀ i, i ∈ (history sources indices).calls ↔ i ∈ indices) ∧
      (history sources indices).calls.Pairwise fun i j =>
        indices.idxOf i < indices.idxOf j) ∧
    ((∀ i ∈ indices, ∀ n e, ¬ sources.Fails i n e) →
      (∃ info : Int → AssetInfo, (∀ i ∈ indices, sources.Finds i (info i)) ∧
        assets sources indices =
          .ok ((history sources indices).calls.map fun i => (i, info i))) ∧
      ∀ other : Sources,
        (∀ i, (other.profile i).outcome = (sources.profile i).outcome) →
        (∀ address,
          (other.price address).outcome = (sources.price address).outcome) →
        assets other indices = assets sources indices) ∧
    ((∃ i ∈ indices, ∃ n e, sources.Fails i n e) →
      ∃ i ∈ indices, ∃ n e, sources.Fails i n e ∧
        assets sources indices = .error e ∧
        ∀ j ∈ indices, ∀ m e', sources.Fails j m e' →
          n < m ∨ n = m ∧ indices.idxOf i ≤ indices.idxOf j) := by
  rw [history_calls]
  refine ⟨⟨eraseDups_nodup indices, fun i => List.mem_eraseDups,
    eraseDups_pairwise indices⟩, ?_, ?_⟩
  -- nothing fails: both runs find what the outcomes say
  · intro noFailure
    have found : ∀ i ∈ indices, ∃ info, sources.Finds i info := by
      intro i hi
      rcases sources.finds_or_fails i with finds | ⟨n, e, fails⟩
      · exact finds
      · exact absurd fails (noFailure i hi n e)
    have : Nonempty AssetInfo := ⟨⟨.low, .zero⟩⟩
    choose! info finds using found
    refine ⟨⟨info, finds, assets_of_finds finds⟩, ?_⟩
    intro other profiles prices
    have finds' : ∀ i ∈ indices, other.Finds i (info i) :=
      fun i hi => (finds i hi).of_outcomes profiles prices
    rw [assets_of_finds finds, assets_of_finds finds']
  -- something fails: the failure that leads the queue at the start is the one
  -- that ends it
  · rintro ⟨j, hj, m, e', fails'⟩
    rcases leading_firstSeen sources indices with ⟨_, noFailure⟩
      | ⟨i, hi, n, e, leads, fails, least⟩
    · exact absurd fails' (noFailure j hj m e')
    · refine ⟨i, hi, n, e, fails, ?_, least⟩
      rw [assets, history_failure, leads]
      rfl

end Fetch

/-- The first base asset is found late; the second fails at its price and the
third at its profile, both after giving way twice. -/
def Sample.lookups : Sources where
  profile index :=
    if index = 0 then ⟨3, .ok ⟨.low, "a"⟩⟩
    else if index = 1 then ⟨1, .ok ⟨.high, "b"⟩⟩
    else ⟨2, .error (.noProfile "2")⟩
  price address :=
    if address = "a" then ⟨2, .ok .one⟩ else ⟨1, .error (.priceMissing address)⟩

namespace Fetch

/-- The second of the base assets is first among those that fail. -/
theorem fetch_sample :
    ∃ i ∈ [0, 1, 2, 1], ∃ n e, Sample.lookups.Fails i n e ∧
      assets Sample.lookups [0, 1, 2, 1] = .error e ∧
      ∀ j ∈ [0, 1, 2, 1], ∀ m e', Sample.lookups.Fails j m e' →
        n < m ∨ n = m ∧ [0, 1, 2, 1].idxOf i ≤ [0, 1, 2, 1].idxOf j :=
  (fetch_spec Sample.lookups [0, 1, 2, 1]).2.2 ⟨2, by decide, _, _, .profile rfl⟩

example : assets Sample.lookups [0, 1, 2, 1] = .error (.priceMissing "b") := by
  decide +kernel

end Fetch

end ScenarioMargin
