/-
ScenarioMargin/Fetch.lean

Looking up base assets side by side.

A look-up gives way a number of times before it ends.  A base asset takes two,
one for its risk profile and then one for the price at the profile's oracle.
All base assets are looked up at once: those that can go on stand in a queue,
the first of the queue takes its turn, and one that gives way goes to the end.
When the end of a failed look-up is reported the look-ups still under way are
dropped, and the failure is that of the whole.
-/
import ScenarioMargin.Keyed
import ScenarioMargin.Stress

namespace ScenarioMargin

/-- A look-up: how often it gives way, and how it ends. -/
structure Lookup (α : Type) where
  yields : Nat
  outcome : Except Fault α

namespace Lookup

/-- A look-up that ends at once. -/
def now {α : Type} (outcome : Except Fault α) : Lookup α := ⟨0, outcome⟩

/-- One look-up after another. -/
def andThen {α β : Type} (first : Lookup α) (next : α → Lookup β) : Lookup β :=
  match first.outcome with
  | .ok a => ⟨first.yields + (next a).yields, (next a).outcome⟩
  | .error e => ⟨first.yields, .error e⟩

end Lookup

/-- The risk profile of a base asset: its category, and the address of its
price. -/
structure Profile where
  category : RiskCategory
  oracle : String
  deriving DecidableEq, Repr

/-- Where profiles and prices are looked up. -/
structure Sources where
  profile : Int → Lookup Profile
  price : String → Lookup Decimal

/-- The look-up of a base asset. -/
def Sources.asset (sources : Sources) (index : Int) : Lookup AssetInfo :=
  (sources.profile index).andThen fun profile =>
    (sources.price profile.oracle).andThen fun price =>
      .now (.ok ⟨profile.category, price⟩)

namespace Fetch

/-- What stands in the queue: a base asset whose look-up is to begin, one whose
look-up goes on, or the end of one. -/
inductive Turn where
  | start (index : Int)
  | resume (index : Int) (rest : Lookup AssetInfo)
  | report (index : Int) (outcome : Except Fault AssetInfo)

/-- What has happened so far. -/
structure History where
  /-- the base assets whose profiles were asked for, in order -/
  calls : List Int
  /-- the base assets that were found, in the order in which their look-ups
  ended -/
  found : Keyed Int AssetInfo
  /-- the first failure that was reported -/
  failure : Option Fault

/-- Nothing has happened. -/
def History.empty : History := ⟨[], [], none⟩

/-- How a look-up that is under way goes on: it gives way once more, or it
ends. -/
def advance (index : Int) (rest : Lookup AssetInfo) : Turn :=
  match rest.yields with
  | 0 => .report index rest.outcome
  | n + 1 => .resume index ⟨n, rest.outcome⟩

/-- What is found when a turn puts the end of a look-up into the queue. -/
def History.noting (h : History) : Turn → History
  | .report index (.ok info) => { h with found := h.found ++ [(index, info)] }
  | _ => h

/-- One turn: the history after it, and what it puts at the end of the queue. -/
def turn (sources : Sources) (h : History) : Turn → History × List Turn
  | .start index =>
    if h.failure.isSome then (h, [])
    else
      let next := advance index (sources.asset index)
      ({ h with calls := h.calls ++ [index] }.noting next, [next])
  | .resume index rest =>
    if h.failure.isSome then (h, [])
    else
      let next := advance index rest
      (h.noting next, [next])
  | .report _ (.ok _) => (h, [])
  | .report _ (.error e) => ({ h with failure := h.failure.or (some e) }, [])

/-- The number of turns that a turn and its successors take. -/
def Turn.length (sources : Sources) : Turn → Nat
  | .start index => (sources.asset index).yields + 2
  | .resume _ rest => rest.yields + 2
  | .report .. => 1

/-- The number of turns that a queue takes. -/
def queueLength (sources : Sources) : List Turn → Nat
  | [] => 0
  | t :: queue => t.length sources + queueLength sources queue

/-- Queues behind each other take their turns together. -/
theorem queueLength_append (sources : Sources) (front back : List Turn) :
    queueLength sources (front ++ back) =
      queueLength sources front + queueLength sources back := by
  induction front with
  | nil => simp [queueLength]
  | cons t front ih =>
    rw [List.cons_append, queueLength, queueLength, ih]
    omega

/-- What follows a look-up under way is one turn shorter. -/
theorem length_advance (sources : Sources) (index : Int) (rest : Lookup AssetInfo) :
    (advance index rest).length sources = rest.yields + 1 := by
  rcases rest with ⟨_ | n, outcome⟩ <;> rfl

/-- A turn leaves fewer turns than there were with it. -/
theorem queueLength_turn (sources : Sources) (h : History) (t : Turn) :
    queueLength sources (turn sources h t).2 < t.length sources := by
  cases t with
  | start index =>
    by_cases hf : h.failure.isSome
    · simp [turn, hf, queueLength, Turn.length]
    · have next := length_advance sources index (sources.asset index)
      simp only [turn, hf, Bool.false_eq_true, if_false, queueLength]
      rw [next, Turn.length]
      omega
  | resume index rest =>
    by_cases hf : h.failure.isSome
    · simp [turn, hf, queueLength, Turn.length]
    · have next := length_advance sources index rest
      simp only [turn, hf, Bool.false_eq_true, if_false, queueLength]
      rw [next, Turn.length]
      omega
  | report index outcome =>
    cases outcome <;> simp [turn, queueLength, Turn.length]

/-- Takes turns until the queue is empty. -/
def run (sources : Sources) (h : History) : List Turn → History
  | [] => h
  | t :: queue =>
    let next := turn sources h t
    run sources next.1 (queue ++ next.2)
  termination_by queue => queueLength sources queue
  decreasing_by
    have shorter := queueLength_turn sources h t
    rw [queueLength_append, queueLength]
    omega

/-- The base assets to look up: each one once, in the order in which they are
first seen. -/
def firstSeen (indices : List Int) : List Int :=
  indices.eraseDups

/-- The history of looking up base assets. -/
def history (sources : Sources) (indices : List Int) : History :=
  run sources .empty ((firstSeen indices).map .start)

/-- What is found when all base assets are looked up, in the order in which
they are first seen. -/
def assets (sources : Sources) (indices : List Int) :
    Except Fault (Keyed Int AssetInfo) :=
  let h := history sources indices
  match h.failure with
  | some e => .error e
  | none =>
    .ok ((firstSeen indices).filterMap fun index =>
      (Keyed.get? index h.found).map (index, ·))

end Fetch

end ScenarioMargin
