/-
ScenarioMargin/Proofs/Form.lean

Where numbers stand in a value, and values that differ in nothing but how these
numbers are written.  A form is a tree like a value: a number stands at a leaf,
and the fields of a record and the items of a list have forms of their own.

Main results: what is asked of a value is answered alike for respelled ones.  A
field in which a number stands, or a part that holds numbers, is respelled
(`Respelled.getOr`, `Respelled.need`, `Respelled.items`); any other field is
the same (`Respelled.getOr_eq`, `Respelled.need_eq`), and so is what fields
there are (`Respelled.has`).
-/
import ScenarioMargin.Oracle
import ScenarioMargin.Proofs.Agree
import ScenarioMargin.Proofs.Returns

namespace ScenarioMargin

open Decimal

/-- Where numbers stand in a value. -/
inductive Form where
  /-- no number stands here -/
  | fixed
  /-- a number, read in a given way -/
  | number (read : Value → Except Fault Decimal)
  /-- the fields of a record and the items of a list, each in a form of its
  own -/
  | parts (field : String → Form) (item : Form)

namespace Form

/-- Values that differ in nothing but how the numbers at the places of a form
are written. -/
def Respelled : Form → Value → Value → Prop
  | fixed, v, w => v = w
  | number read, v, w => v = w ∨ ∃ a b, read v = .ok a ∧ read w = .ok b ∧ a.Same b
  | parts field item, v, w =>
    v = w ∨
      (∃ fs gs, v = .record fs ∧ w = .record gs ∧
        List.Forall₂ (fun f g => f.1 = g.1 ∧ (field f.1).Respelled f.2 g.2) fs gs) ∨
      ∃ vs ws, v = .list vs ∧ w = .list ws ∧ List.Forall₂ item.Respelled vs ws

/-- The forms of some fields by name; no number stands in the others. -/
def named (fields : Keyed String Form) (key : String) : Form :=
  (Keyed.get? key fields).getD fixed

/-- An amount of any kind. -/
def amount : Form := number Value.toDecimal

/-- A price as an oracle holds it. -/
def price : Form := number fun v => OracleValue.number (.value v)

/-- A list of items in one form. -/
def each (item : Form) : Form := parts (fun _ => fixed) item

/-- A record whose fields are in one form. -/
def table (entry : Form) : Form := parts (fun _ => entry) fixed

/-- A record with numbers in some of its fields. -/
def record (fields : Keyed String Form) : Form := parts (named fields) fixed

theorem Respelled.refl (form : Form) (v : Value) : form.Respelled v v := by
  cases form with
  | fixed => rfl
  | number read => exact .inl rfl
  | parts field item => exact .inl rfl

/-- Values that are read as the same number. -/
theorem Respelled.of_read {read : Value → Except Fault Decimal} {v w : Value}
    {a b : Decimal} (hv : read v = .ok a) (hw : read w = .ok b)
    (same : a.Same b) : (number read).Respelled v w :=
  .inr ⟨a, b, hv, hw, same⟩

/-- Respelled numbers are read together, and as the same. -/
theorem Respelled.read {read : Value → Except Fault Decimal} {v w : Value}
    (h : (number read).Respelled v w) :
    Agree False Decimal.Same (read v) (read w) := by
  rcases h with rfl | ⟨a, b, ha, hb, same⟩
  · exact .refl Same.refl _
  · rw [ha, hb]
    exact .ok same

section Parts

variable {field : String → Form} {item : Form} {v w : Value}

theorem Respelled.of_fields {fs gs : List (String × Value)}
    (h : List.Forall₂
      (fun f g => f.1 = g.1 ∧ (field f.1).Respelled f.2 g.2) fs gs) :
    (parts field item).Respelled (.record fs) (.record gs) :=
  .inr (.inl ⟨fs, gs, rfl, rfl, h⟩)

theorem Respelled.of_items {vs ws : List Value}
    (h : List.Forall₂ item.Respelled vs ws) :
    (parts field item).Respelled (.list vs) (.list ws) :=
  .inr (.inr ⟨vs, ws, rfl, rfl, h⟩)

variable (h : (parts field item).Respelled v w) {alike : Prop}

include h

theorem Respelled.get (key : String) :
    Agree alike (Option.Rel (field key).Respelled) (v.get key) (w.get key) := by
  rcases h with rfl | ⟨fs, gs, rfl, rfl, fields⟩ | ⟨vs, ws, rfl, rfl, -⟩
  · refine .refl ?_ _
    rintro (_ | x)
    · exact .none
    · exact .some (.refl _ x)
  · exact .ok (Keyed.rel_get? (R := fun key => (field key).Respelled) fields key)
  · exact .error fun _ => rfl

theorem Respelled.getOr {key : String} {form : Form} (place : field key = form)
    (missing : Value) :
    Agree alike form.Respelled (v.getOr key missing) (w.getOr key missing) := by
  subst place
  rw [Value.getOr, Value.getOr, map_eq_pure_bind, map_eq_pure_bind]
  refine (h.get key).bind ?_
  rintro x y (related | _)
  · exact .pure related
  · exact .pure (.refl _ missing)

theorem Respelled.need {key : String} {form : Form} (place : field key = form) :
    Agree alike form.Respelled (v.need key) (w.need key) := by
  subst place
  rcases h with rfl | ⟨fs, gs, rfl, rfl, fields⟩ | ⟨vs, ws, rfl, rfl, -⟩
  · exact .refl (.refl _) _
  · have found := Keyed.rel_get? (R := fun key => (field key).Respelled) fields key
    rw [Value.need, Value.need]
    generalize Keyed.get? key fs = x, Keyed.get? key gs = y at found ⊢
    cases found with
    | none => exact .error fun _ => rfl
    | some related => exact .ok related
  · exact .error fun _ => rfl

/-- A field without a number is the same in both records, and so is its
absence. -/
theorem Respelled.get_eq (key : String) (plain : field key = fixed) :
    v.get key = w.get key := by
  refine Agree.eq ((h.get key).mono ?_)
  rintro x y (related | _)
  · rw [plain] at related
    exact congrArg some related
  · rfl

theorem Respelled.getOr_eq (key : String) (plain : field key = fixed)
    (missing : Value) : v.getOr key missing = w.getOr key missing := by
  rw [Value.getOr, Value.getOr, h.get_eq key plain]

theorem Respelled.need_eq (key : String) (plain : field key = fixed) :
    v.need key = w.need key :=
  (h.need plain).eq

theorem Respelled.items :
    Agree alike (List.Forall₂ item.Respelled) v.items w.items := by
  have same (vs : List Value) : List.Forall₂ item.Respelled vs vs :=
    List.forall₂_same.mpr fun x _ => .refl _ x
  rcases h with rfl | ⟨fs, gs, rfl, rfl, fields⟩ | ⟨vs, ws, rfl, rfl, items⟩
  · exact .refl same _
  · -- a record is walked by its names
    have names : Keyed.keys fs = Keyed.keys gs :=
      map_eq_of_forall₂ fields fun _ _ entry => entry.1
    rw [Value.items, Value.items, names]
    exact .ok (same _)
  · exact .ok items

/-- Entries of respelled records stand under the same names. -/
theorem Respelled.fields : Agree alike
    (List.Forall₂ fun f g => f.1 = g.1 ∧ (field f.1).Respelled f.2 g.2) v.fields
    w.fields := by
  rcases h with rfl | ⟨fs, gs, rfl, rfl, fields⟩ | ⟨vs, ws, rfl, rfl, items⟩
  · exact .refl (fun fs => List.forall₂_same.mpr fun f _ => ⟨rfl, .refl _ f.2⟩) _
  · exact .ok fields
  · exact .error fun _ => rfl

end Parts

/-- Respelled records have the same fields. -/
theorem Respelled.has {fields : Keyed String Form} {v w : Value}
    (h : (record fields).Respelled v w) (key : String) :
    v.has key = w.has key := by
  rcases h with rfl | ⟨fs, gs, rfl, rfl, entries⟩ | ⟨vs, ws, rfl, rfl, items⟩
  · rfl
  · have found :=
      Keyed.rel_get? (R := fun key => (named fields key).Respelled) entries key
    rw [Value.has, Value.has]
    generalize Keyed.get? key fs = x, Keyed.get? key gs = y at found ⊢
    cases found with
    | none => rfl
    | some _ => rfl
  · -- no number stands in a list here
    have same : vs = ws := List.forall₂_eq_eq_eq.le _ _ items
    rw [same]

end Form

end ScenarioMargin
