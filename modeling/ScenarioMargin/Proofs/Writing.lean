/-
ScenarioMargin/Proofs/Writing.lean

Which values have a text.  Whole numbers of up to 4300 digits are written, and
longer ones (`IsLong`) are not.  A value has a text unless it is or holds a
number that is too long (`Value.HoldsLong`).

Where there is no text, all that is to be written stops with the same fault.
So it is enough to say when a computation stops (`StopsIff`), and this is put
together along with the computation.

Main results: `Value.quotedForm_stopsIff`, `Value.shown_stopsIff`.
-/
import Mathlib.Tactic
import ScenarioMargin.Proofs.Returns
import ScenarioMargin.Value

namespace ScenarioMargin

variable {α β : Type} {n : ℤ} {s : String} {e : Fault}

/-! ### Computations that stop on a condition -/

/-- A computation that stops on a condition and on no other, with the fault of
what cannot be written. -/
def StopsIff (x : Except Fault α) (p : Prop) : Prop :=
  ∀ e, x = .error e ↔ p ∧ e = .illFormed

section StopsIff

variable {x : Except Fault α} {f : α → Except Fault β} {p q : Prop}

theorem StopsIff.eq_error (h : StopsIff x p) (hp : p) : x = .error .illFormed :=
  (h _).mpr ⟨hp, rfl⟩

theorem StopsIff.returns_iff (h : StopsIff x p) : (∃ a, x = .ok a) ↔ ¬ p := by
  constructor
  · rintro ⟨a, ha⟩ hp
    cases ha.symm.trans (h.eq_error hp)
  · intro hp
    exact returns_of_ne_error fun e he => hp ((h e).mp he).1

theorem StopsIff.congr (h : StopsIff x p) (same : p ↔ q) : StopsIff x q :=
  fun e => (h e).trans (and_congr_left fun _ => same)

theorem stopsIff_ok (a : α) : StopsIff (.ok a) False :=
  fun _ => ⟨nofun, fun h => h.1.elim⟩

/-- Of two steps that stop alike it does not show which one has stopped. -/
theorem StopsIff.bind (hx : StopsIff x p) (hf : ∀ a, StopsIff (f a) q) :
    StopsIff (x >>= f) (p ∨ q) := by
  intro e
  by_cases hp : p
  · rw [hx.eq_error hp]
    exact ⟨fun h => ⟨.inl hp, (Except.error.inj h).symm⟩,
      fun h => congrArg _ h.2.symm⟩
  · obtain ⟨a, rfl⟩ := hx.returns_iff.mpr hp
    exact (hf a e).trans (and_congr_left fun _ => (or_iff_right hp).symm)

theorem StopsIff.map (hx : StopsIff x p) {g : α → β} :
    StopsIff (do return g (← x)) p :=
  (hx.bind fun a => stopsIff_ok (g a)).congr (or_iff_left not_false)

end StopsIff

/-! ### Whole numbers -/

/-- A whole number of more digits than are read or written. -/
def IsLong (n : ℤ) : Prop :=
  Nat.pow 10 Text.digitLimit ≤ n.natAbs

instance (n : ℤ) : Decidable (IsLong n) :=
  Nat.decLe _ _

theorem writeWhole_of_isLong (long : IsLong n) :
    writeWhole n = .error .illFormed := by
  have none : Text.wholeText? n = none := by
    unfold Text.wholeText? IsLong at *
    exact if_pos long
  unfold writeWhole
  rw [none, Option.elim_none]

theorem writeWhole_of_not_isLong (short : ¬ IsLong n) :
    writeWhole n = .ok (toString n) := by
  have some : Text.wholeText? n = some (toString n) := by
    unfold Text.wholeText? IsLong at *
    exact if_neg short
  unfold writeWhole
  rw [some, Option.elim_some]

theorem writeWhole_eq_ok : writeWhole n = .ok s ↔ ¬ IsLong n ∧ toString n = s := by
  by_cases long : IsLong n
  · rw [writeWhole_of_isLong long]
    exact ⟨nofun, fun h => absurd long h.1⟩
  · rw [writeWhole_of_not_isLong long, Except.ok.injEq]
    exact (and_iff_right long).symm

theorem writeWhole_stopsIff (n : ℤ) : StopsIff (writeWhole n) (IsLong n) := by
  intro e
  by_cases long : IsLong n
  · rw [writeWhole_of_isLong long, Except.error.injEq, eq_comm]
    exact (and_iff_right long).symm
  · rw [writeWhole_of_not_isLong long]
    exact ⟨nofun, fun h => absurd h.1 long⟩

/-! ### Values -/

namespace Value

/-- A value that is a whole number too long to be written, or holds one. -/
inductive HoldsLong : Value → Prop
  | whole {n : ℤ} (long : IsLong n) : HoldsLong (.whole n)
  | item {items : List Value} {v : Value} (mem : v ∈ items)
      (holds : HoldsLong v) : HoldsLong (.list items)
  | field {fields : List (String × Value)} {field : String × Value}
      (mem : field ∈ fields) (holds : HoldsLong field.2) :
      HoldsLong (.record fields)

theorem holdsLong_whole : HoldsLong (.whole n) ↔ IsLong n :=
  ⟨fun | .whole long => long, .whole⟩

theorem holdsLong_list {items : List Value} :
    HoldsLong (.list items) ↔ ∃ v ∈ items, HoldsLong v :=
  ⟨fun | .item mem holds => ⟨_, mem, holds⟩, fun ⟨_, mem, holds⟩ => .item mem holds⟩

theorem holdsLong_record {fields : List (String × Value)} :
    HoldsLong (.record fields) ↔ ∃ field ∈ fields, HoldsLong field.2 :=
  ⟨fun | .field mem holds => ⟨_, mem, holds⟩,
    fun ⟨_, mem, holds⟩ => .field mem holds⟩

mutual

/-- A value has the form that it has inside a list unless it holds a number
that is too long. -/
theorem quotedForm_stopsIff : ∀ v : Value, StopsIff v.quotedForm v.HoldsLong
  | .null => (stopsIff_ok _).congr (iff_of_false not_false nofun)
  | .bool _ => (stopsIff_ok _).congr (iff_of_false not_false nofun)
  | .whole n => (writeWhole_stopsIff n).congr holdsLong_whole.symm
  | .real _ => (stopsIff_ok _).congr (iff_of_false not_false nofun)
  | .text _ => (stopsIff_ok _).congr (iff_of_false not_false nofun)
  | .list items => (itemForms_stopsIff items).map.congr holdsLong_list.symm
  | .record fields => (fieldForms_stopsIff fields).map.congr holdsLong_record.symm

theorem itemForms_stopsIff :
    ∀ items : List Value, StopsIff (itemForms items) (∃ v ∈ items, v.HoldsLong)
  | [] => (stopsIff_ok _).congr (iff_of_false not_false (by simp))
  | v :: rest =>
    ((quotedForm_stopsIff v).bind fun _ => (itemForms_stopsIff rest).map).congr
      (by simp)

theorem fieldForms_stopsIff :
    ∀ fields : List (String × Value),
      StopsIff (fieldForms fields) (∃ field ∈ fields, field.2.HoldsLong)
  | [] => (stopsIff_ok _).congr (iff_of_false not_false (by simp))
  | (key, v) :: rest =>
    ((quotedForm_stopsIff v).bind fun _ => (fieldForms_stopsIff rest).map).congr
      (by simp)

end

/-- It is the same with the text of a value. -/
theorem shown_stopsIff (v : Value) : StopsIff v.shown v.HoldsLong := by
  cases v with
  | text s => exact (stopsIff_ok s).congr (iff_of_false not_false nofun)
  | _ => exact quotedForm_stopsIff _

end Value

end ScenarioMargin
