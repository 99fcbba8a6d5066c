/-
ScenarioMargin/Proofs/Extremes.lean

The extremes of results are the greatest and the least of them.  A loop that
takes one result after the other returns if and only if there are results and
all of them are defined; and the extremes are then those of the set of the
results (`Extremes.AreOf`), so neither the order in which results come nor a
repetition is of any effect.

Two loops are compared by their sets of results (`agree_of_results`), and for a
result that comes twice in a row the extremes are even spelled the same
(`extremes_twice`).
-/
import Mathlib.Order.Bounds.Defs
import ScenarioMargin.Proofs.ByValue
import ScenarioMargin.Proofs.Lifecycle
import ScenarioMargin.Proofs.TwoSided

namespace ScenarioMargin

open Decimal

variable {α β : Type}

/-! ### Comparisons -/

theorem Decimal.smaller_eq_or {a b c : Decimal} (h : a.smaller b = .ok c) :
    c = a ∨ c = b := by
  obtain ⟨below, -, h⟩ := bind_eq_ok.mp h
  cases below with
  | true => exact .inr (Except.ok.inj h).symm
  | false => exact .inl (Except.ok.inj h).symm

/-- The larger of two numbers is the larger one of it and either of them. -/
theorem Decimal.larger_larger {a b c : Decimal} (h : a.larger b = .ok c) :
    c.larger b = .ok c := by
  rcases larger_eq_or h with rfl | rfl
  · exact h
  · have defined := le_refl_left (le_larger_right h)
    obtain ⟨d, twice⟩ := larger_returns defined defined
    rcases larger_eq_or twice with rfl | rfl <;> exact twice

theorem Decimal.smaller_smaller {a b c : Decimal} (h : a.smaller b = .ok c) :
    c.smaller b = .ok c := by
  rcases smaller_eq_or h with rfl | rfl
  · exact h
  · have defined := le_refl_left (smaller_le_right h)
    obtain ⟨d, twice⟩ := smaller_returns defined defined
    rcases smaller_eq_or twice with rfl | rfl <;> exact twice

namespace Extremes

/-! ### One more result -/

/-- A result that was taken is without effect when it is taken again. -/
theorem take_take {e e' : Extremes} {r : Decimal} (h : e.take r = .ok e') :
    e'.take r = .ok e' := by
  obtain ⟨best, worst⟩ := take_eq_ok.mp h
  exact take_eq_ok.mpr ⟨larger_larger best, smaller_smaller worst⟩

theorem take_returns {e : Extremes} {r : Decimal} (best : e.best ≤ e.best)
    (worst : e.worst ≤ e.worst) (h : r ≤ r) : ∃ e', e.take r = .ok e' := by
  obtain ⟨b, larger⟩ := larger_returns best h
  obtain ⟨w, smaller⟩ := smaller_returns worst h
  exact ⟨⟨b, w⟩, take_eq_ok.mpr ⟨larger, smaller⟩⟩

/-! ### All results -/

/-- The loop that takes the results over a list. -/
def takeAll (result : α → Except Fault Decimal) (as : List α) (e : Extremes) :
    Except Fault Extremes :=
  as.foldlM (fun e a => do e.take (← result a)) e

/-- What the results over a list stand for. -/
def results (result : α → Except Fault Decimal) (as : List α) : Set Quantity :=
  {q | ∃ a ∈ as, ∃ r, result a = .ok r ∧ r.quantity = q}

/-- Extremes that are the greatest and the least of a set. -/
structure AreOf (e : Extremes) (s : Set Quantity) : Prop where
  best : IsGreatest s e.best.quantity
  worst : IsLeast s e.worst.quantity

theorem AreOf.same {e f : Extremes} {s : Set Quantity} (h : e.AreOf s)
    (h' : f.AreOf s) : e.Same f :=
  ⟨Quantity.le_antisymm (h'.best.2 h.best.1) (h.best.2 h'.best.1),
    Quantity.le_antisymm (h.worst.2 h'.worst.1) (h'.worst.2 h.worst.1)⟩

section Bounds

variable {s : Set Quantity} {a b c : Decimal} {m q : Quantity}

/-- The larger of two stands for both. -/
theorem isGreatest_insert (larger : a.larger b = .ok c)
    (h : IsGreatest (insert c.quantity s) m) :
    IsGreatest (insert a.quantity (insert b.quantity s)) m := by
  have upper : c.quantity ≤ m := h.2 (Set.mem_insert _ _)
  constructor
  · rcases h.1 with rfl | later
    · rcases larger_eq_or larger with rfl | rfl <;> simp
    · exact .inr (.inr later)
  · rintro q (rfl | rfl | later)
    · exact Quantity.le_trans (le_larger_left larger) upper
    · exact Quantity.le_trans (le_larger_right larger) upper
    · exact h.2 (.inr later)

/-- The smaller of two stands for both. -/
theorem isLeast_insert (smaller : a.smaller b = .ok c)
    (h : IsLeast (insert c.quantity s) m) :
    IsLeast (insert a.quantity (insert b.quantity s)) m := by
  have lower : m ≤ c.quantity := h.2 (Set.mem_insert _ _)
  constructor
  · rcases h.1 with rfl | later
    · rcases smaller_eq_or smaller with rfl | rfl <;> simp
    · exact .inr (.inr later)
  · rintro q (rfl | rfl | later)
    · exact Quantity.le_trans lower (smaller_le_left smaller)
    · exact Quantity.le_trans lower (smaller_le_right smaller)
    · exact h.2 (.inr later)

/-- The lower infinity is below all that is defined. -/
theorem infinite_true_le (defined : q ≤ q) : .infinite true ≤ q := by
  rcases q with x | t | n
  · simp
  · simp
  · exact absurd defined Quantity.not_undefined_le

theorem le_infinite_false (defined : q ≤ q) : q ≤ .infinite false := by
  rcases q with x | t | n
  · simp
  · simp
  · exact absurd defined Quantity.not_undefined_le

end Bounds

section Loop

variable {result : α → Except Fault Decimal} {as : List α} {e e' : Extremes}

theorem results_cons {a : α} {r : Decimal} (h : result a = .ok r) :
    results result (a :: as) = insert r.quantity (results result as) := by
  ext q
  simp [results, h, eq_comm]

/-- A loop is a step and a shorter loop. -/
theorem takeAll_cons_eq_ok {a : α} :
    takeAll result (a :: as) e = .ok e' ↔
      ∃ r e'', result a = .ok r ∧ e.take r = .ok e'' ∧
        takeAll result as e'' = .ok e' := by
  simp only [takeAll, foldlM_cons_eq_ok, bind_eq_ok, lift_eq_ok]
  constructor
  · rintro ⟨e'', ⟨r, found, taken⟩, rest⟩
    exact ⟨r, e'', found, taken, rest⟩
  · rintro ⟨r, e'', found, taken, rest⟩
    exact ⟨e'', ⟨r, found, taken⟩, rest⟩

theorem isGreatest_takeAll (h : takeAll result as e = .ok e')
    (defined : e.best ≤ e.best) :
    IsGreatest (insert e.best.quantity (results result as)) e'.best.quantity := by
  induction as generalizing e with
  | nil =>
    obtain rfl := pure_eq_ok.mp h
    refine ⟨Set.mem_insert _ _, ?_⟩
    rintro q (rfl | ⟨_, none, -⟩)
    · exact defined
    · cases none
  | cons a as ih =>
    obtain ⟨r, e'', found, taken, rest⟩ := takeAll_cons_eq_ok.mp h
    obtain ⟨larger, -⟩ := take_eq_ok.mp taken
    rw [results_cons found]
    exact isGreatest_insert larger (ih rest (le_refl_right (le_larger_left larger)))

theorem isLeast_takeAll (h : takeAll result as e = .ok e')
    (defined : e.worst ≤ e.worst) :
    IsLeast (insert e.worst.quantity (results result as)) e'.worst.quantity := by
  induction as generalizing e with
  | nil =>
    obtain rfl := pure_eq_ok.mp h
    refine ⟨Set.mem_insert _ _, ?_⟩
    rintro q (rfl | ⟨_, none, -⟩)
    · exact defined
    · cases none
  | cons a as ih =>
    obtain ⟨r, e'', found, taken, rest⟩ := takeAll_cons_eq_ok.mp h
    obtain ⟨-, smaller⟩ := take_eq_ok.mp taken
    rw [results_cons found]
    exact isLeast_insert smaller (ih rest (le_refl_left (smaller_le_left smaller)))

/-- From the start on the extremes are those of the results, if there are
any. -/
theorem areOf_takeAll (h : takeAll result as start = .ok e)
    (nonempty : as ≠ []) : e.AreOf (results result as) := by
  obtain ⟨a, ha⟩ := List.exists_mem_of_ne_nil as nonempty
  obtain ⟨s, s', step⟩ := foldlM_mem h ha
  obtain ⟨r, found, -⟩ := bind_eq_ok.mp step
  have mem : r.quantity ∈ results result as := ⟨a, ha, r, found, rfl⟩
  have best := isGreatest_takeAll h (by decide)
  have worst := isLeast_takeAll h (by decide)
  have below : r.quantity ≤ e.best.quantity := best.2 (.inr mem)
  have above : e.worst.quantity ≤ r.quantity := worst.2 (.inr mem)
  -- the start is among the results only if there is a result that is as low or
  -- as high
  constructor
  · refine ⟨?_, fun q hq => best.2 (.inr hq)⟩
    rcases best.1 with atStart | later
    · have lowest : e.best.quantity ≤ r.quantity := by
        rw [atStart]
        exact infinite_true_le (Quantity.le_refl_left below)
      rwa [Quantity.le_antisymm lowest below]
    · exact later
  · refine ⟨?_, fun q hq => worst.2 (.inr hq)⟩
    rcases worst.1 with atStart | later
    · have highest : r.quantity ≤ e.worst.quantity := by
        rw [atStart]
        exact le_infinite_false (Quantity.le_refl_left below)
      rwa [Quantity.le_antisymm above highest]
    · exact later

/-- The loop returns if all results are defined. -/
theorem takeAll_returns (each : ∀ a ∈ as, ∃ r, result a = .ok r ∧ r ≤ r)
    (best : e.best ≤ e.best) (worst : e.worst ≤ e.worst) :
    ∃ e', takeAll result as e = .ok e' := by
  induction as generalizing e with
  | nil => exact ⟨e, rfl⟩
  | cons a as ih =>
    rw [List.forall_mem_cons] at each
    obtain ⟨⟨r, found, defined⟩, others⟩ := each
    obtain ⟨e'', taken⟩ := take_returns best worst defined
    obtain ⟨larger, smaller⟩ := take_eq_ok.mp taken
    obtain ⟨e', rest⟩ := ih others (le_refl_right (le_larger_left larger))
      (le_refl_left (smaller_le_left smaller))
    exact ⟨e', takeAll_cons_eq_ok.mpr ⟨r, e'', found, taken, rest⟩⟩

/-- Where the loop returns, there is a defined result for each item. -/
theorem defined_of_takeAll (h : takeAll result as start = .ok e) :
    ∀ a ∈ as, ∃ r, result a = .ok r ∧ r ≤ r := by
  intro a ha
  obtain ⟨s, s', step⟩ := foldlM_mem h ha
  obtain ⟨r, found, taken⟩ := bind_eq_ok.mp step
  exact ⟨r, found, le_refl_left (between_of_take (lift_eq_ok.mp taken)).2⟩

/-- What is evaluated twice, one right after the other, is of no more effect
than once. -/
theorem takeAll_twice (as : List α) (e : Extremes) :
    takeAll result (as.flatMap fun a => [a, a]) e = takeAll result as e := by
  induction as generalizing e with
  | nil => rfl
  | cons a as ih =>
    have step (as : List α) (e : Extremes) : takeAll result (a :: as) e =
        (do e.take (← result a) : Except Fault Extremes) >>=
          takeAll result as := List.foldlM_cons ..
    rw [List.flatMap_cons, List.cons_append, List.cons_append,
      List.nil_append, step, step]
    refine bind_congr_ok fun e' first => ?_
    obtain ⟨r, found, taken⟩ := bind_eq_ok.mp first
    have again : (do e'.take (← result a)) =
        (Except.ok e' : Except Fault Extremes) :=
      bind_eq_ok.mpr ⟨r, found, lift_eq_ok.mpr (take_take (lift_eq_ok.mp taken))⟩
    rw [step, again]
    exact ih e'

section Sets

variable {result' : β → Except Fault Decimal} {bs : List β}

theorem results_subset
    (h : ∀ a ∈ as, ∃ b ∈ bs, Agree False Decimal.Same (result a) (result' b)) :
    results result as ⊆ results result' bs := by
  rintro q ⟨a, ha, r, found, rfl⟩
  obtain ⟨b, hb, agree⟩ := h a ha
  rw [found] at agree
  obtain ⟨r', found', same⟩ := agree.of_ok
  exact ⟨b, hb, r', found', same.symm⟩

/-- A loop returns where one does over at least its results. -/
theorem returns_of_returns
    (h : ∀ b ∈ bs, ∃ a ∈ as, Agree False Decimal.Same (result a) (result' b))
    (run : takeAll result as start = .ok e) :
    ∃ f, takeAll result' bs start = .ok f := by
  refine takeAll_returns (fun b hb => ?_) (by decide) (by decide)
  obtain ⟨a, ha, agree⟩ := h b hb
  obtain ⟨r, found, defined⟩ := defined_of_takeAll run a ha
  rw [found] at agree
  obtain ⟨r', found', same⟩ := agree.of_ok
  refine ⟨r', found', ?_⟩
  show r'.quantity ≤ r'.quantity
  rw [← same]
  exact defined

/-- Loops over the same results, in whatever order and however often they come,
agree. -/
theorem agree_of_results (nonempty : as ≠ [])
    (left : ∀ a ∈ as, ∃ b ∈ bs, Agree False Decimal.Same (result a) (result' b))
    (right : ∀ b ∈ bs, ∃ a ∈ as, Agree False Decimal.Same (result a) (result' b)) :
    Agree False Extremes.Same (takeAll result as start)
      (takeAll result' bs start) := by
  have left' : ∀ a ∈ as, ∃ b ∈ bs,
      Agree False Decimal.Same (result' b) (result a) := by
    intro a ha
    obtain ⟨b, hb, agree⟩ := left a ha
    exact ⟨b, hb, agree.symm.mono fun _ _ same => same.symm⟩
  have right' : ∀ b ∈ bs, ∃ a ∈ as,
      Agree False Decimal.Same (result' b) (result a) := by
    intro b hb
    obtain ⟨a, ha, agree⟩ := right b hb
    exact ⟨a, ha, agree.symm.mono fun _ _ same => same.symm⟩
  refine Agree.of_returns (fun e run => ?_) fun f run =>
    returns_of_returns left' run
  obtain ⟨f, run'⟩ := returns_of_returns right run
  have others : bs ≠ [] := by
    obtain ⟨a, ha⟩ := List.exists_mem_of_ne_nil as nonempty
    obtain ⟨b, hb, -⟩ := left a ha
    exact List.ne_nil_of_mem hb
  have same : results result as = results result' bs :=
    (results_subset left).antisymm (results_subset right')
  exact ⟨f, run',
    (areOf_takeAll run nonempty).same (same ▸ areOf_takeAll run' others)⟩

end Sets

end Loop

end Extremes

end ScenarioMargin
