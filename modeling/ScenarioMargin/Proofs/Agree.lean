/-
ScenarioMargin/Proofs/Agree.lean

Two computations side by side.  They agree in a relation when they fail
together or both succeed with related results; where that is asked for, they
must also fail alike.  One rule for each way in which computations are put
together carries the relation from the steps to the whole: `Agree.bind` for one
after another, `Agree.mapM` and `Agree.foldlM` for loops over lists that are
related item by item, `Agree.bind_comm` where the two sides take two steps in
different orders.  `Meets` asks less: where both happen to succeed, the results
are related.

The rules for loops follow from those for `pure` and for one step after
another, whatever the relation is; they are proved once, of any `Relator`.

Tables are related entry by entry, under the same keys in the same order
(`Keyed.Matches`).

A law about two runs of the engine is then proved by following the engine's own
code, with one related step for each of its steps; no step is ever taken apart
into success and failure.
-/
import Mathlib.Data.List.Forall2
import ScenarioMargin.Fault
import ScenarioMargin.Keyed
import ScenarioMargin.Proofs.Decimal.Reading

namespace ScenarioMargin

variable {ε α β γ δ σ τ : Type} {alike : Prop}

/-- A list beside itself. -/
theorem beside_itself (as : List α) :
    List.Forall₂ (fun a b => a = b ∧ a ∈ as) as as :=
  List.forall₂_same.mpr fun _ ha => ⟨rfl, ha⟩

/-! ### Loops -/

/-- A way to relate two computations by how their results are related, kept
where computations are put together. -/
structure Relator (m n : Type → Type) [Monad m] [Monad n] where
  rel {α β : Type} (R : α → β → Prop) : m α → n β → Prop
  pure {α β : Type} {R : α → β → Prop} {a : α} {b : β} : R a b →
    rel R (Pure.pure a) (Pure.pure b)
  bind {α β γ δ : Type} {R : α → β → Prop} {S : γ → δ → Prop} {x : m α}
    {y : n β} {f : α → m γ} {g : β → n δ} :
    rel R x y → (∀ a b, R a b → rel S (f a) (g b)) → rel S (x >>= f) (y >>= g)

namespace Relator

variable {m n : Type → Type} [Monad m] [Monad n] (L : Relator m n)
variable {R : α → β → Prop} {as : List α} {bs : List β}

theorem mapM [LawfulMonad m] [LawfulMonad n] {S : γ → δ → Prop}
    {f : α → m γ} {g : β → n δ} (lists : List.Forall₂ R as bs)
    (each : ∀ a b, R a b → L.rel S (f a) (g b)) :
    L.rel (List.Forall₂ S) (as.mapM f) (bs.mapM g) := by
  induction lists with
  | nil => exact L.pure .nil
  | cons head _ ih =>
    rw [List.mapM_cons, List.mapM_cons]
    refine L.bind (each _ _ head) ?_
    intro c d first
    refine L.bind ih ?_
    intro cs ds rest
    exact L.pure (.cons first rest)

/-- The relation `T` between the two states is the invariant of the loops. -/
theorem foldlM {T : σ → τ → Prop} {f : σ → α → m σ} {g : τ → β → n τ}
    (lists : List.Forall₂ R as bs)
    (step : ∀ s t a b, T s t → R a b → L.rel T (f s a) (g t b)) {s : σ} {t : τ}
    (start : T s t) : L.rel T (as.foldlM f s) (bs.foldlM g t) := by
  induction lists generalizing s t with
  | nil => exact L.pure start
  | cons head _ ih =>
    rw [List.foldlM_cons, List.foldlM_cons]
    refine L.bind (step _ _ _ _ start head) ?_
    intro s' t' related
    exact ih related

end Relator

/-! ### Where both fail together -/

/-- Two computations fail together, with the same failure where `alike` holds,
or both succeed with related results. -/
inductive Agree (alike : Prop) (R : α → β → Prop) : Except ε α → Except ε β → Prop
  | ok {a b} : R a b → Agree alike R (.ok a) (.ok b)
  | error {e e'} : (alike → e = e') → Agree alike R (.error e) (.error e')

namespace Agree

variable {R : α → β → Prop} {S : γ → δ → Prop} {x : Except ε α} {y : Except ε β}

/-! ### Rules -/

theorem mono {R' : α → β → Prop} (h : Agree alike R x y)
    (weaker : ∀ a b, R a b → R' a b) : Agree alike R' x y := by
  cases h with
  | ok related => exact .ok (weaker _ _ related)
  | error same => exact .error same

theorem symm (h : Agree alike R x y) : Agree alike (fun b a => R a b) y x := by
  cases h with
  | ok related => exact .ok related
  | error same => exact .error fun h => (same h).symm

theorem bind {f : α → Except ε γ} {g : β → Except ε δ} (h : Agree alike R x y)
    (next : ∀ a b, R a b → Agree alike S (f a) (g b)) :
    Agree alike S (x >>= f) (y >>= g) := by
  cases h with
  | ok related => exact next _ _ related
  | error same => exact .error same

/-- Two steps that do not depend on each other may be taken in either order, if
it does not matter which one fails. -/
theorem bind_comm {T : σ → τ → Prop} {u : Except ε γ} {v : Except ε δ}
    {f : α → γ → Except ε σ} {g : δ → β → Except ε τ}
    (first : Agree False R x y) (second : Agree False S u v)
    (next : ∀ a b c d, R a b → S c d → Agree False T (f a c) (g d b)) :
    Agree False T (x >>= fun a => u >>= fun c => f a c)
      (v >>= fun d => y >>= fun b => g d b) := by
  cases first with
  | ok related =>
    cases second with
    | ok related' => exact next _ _ _ _ related related'
    | error _ => exact .error False.elim
  | error _ =>
    cases second with
    | ok _ => exact .error False.elim
    | error _ => exact .error False.elim

theorem pure {a : α} {b : β} (h : R a b) :
    Agree alike R (Pure.pure a : Except ε α) (Pure.pure b : Except ε β) :=
  .ok h

/-- A computation agrees with itself. -/
theorem refl {R : α → α → Prop} (h : ∀ a, R a a) (x : Except ε α) :
    Agree alike R x x := by
  cases x with
  | ok a => exact .ok (h a)
  | error e => exact .error fun _ => rfl

/-- Two computations that begin with the same step and go on from what it
returned. -/
theorem bind_self_ok {f : α → Except ε γ} {g : α → Except ε δ} (x : Except ε α)
    (next : ∀ a, x = .ok a → Agree alike S (f a) (g a)) :
    Agree alike S (x >>= f) (x >>= g) := by
  cases x with
  | ok a => exact next a rfl
  | error e => exact .error fun _ => rfl

/-- Two computations that begin with the same step. -/
theorem bind_self {f : α → Except ε γ} {g : α → Except ε δ} (x : Except ε α)
    (next : ∀ a, Agree alike S (f a) (g a)) : Agree alike S (x >>= f) (x >>= g) :=
  bind_self_ok x fun a _ => next a

/-- A signal of the arithmetic is the same fault on both sides. -/
theorem lift {x : Except Decimal.Signal α} {y : Except Decimal.Signal β}
    (h : Agree alike R x y) :
    Agree alike R (liftM x : Except Fault α) (liftM y : Except Fault β) := by
  cases h with
  | ok related => exact .ok related
  | error same => exact .error fun h => congrArg Fault.signal (same h)

/-- Agreement is kept where computations are put together. -/
def relator (ε : Type) (alike : Prop) : Relator (Except ε) (Except ε) where
  rel R := Agree alike R
  pure := pure
  bind := bind

theorem mapM {f : α → Except ε γ} {g : β → Except ε δ} {as : List α}
    {bs : List β} (lists : List.Forall₂ R as bs)
    (each : ∀ a b, R a b → Agree alike S (f a) (g b)) :
    Agree alike (List.Forall₂ S) (as.mapM f) (bs.mapM g) :=
  (relator ε alike).mapM lists each

theorem foldlM {f : σ → α → Except ε σ} {g : τ → β → Except ε τ}
    {T : σ → τ → Prop}
    {as : List α} {bs : List β} (lists : List.Forall₂ R as bs)
    (step : ∀ s t a b, T s t → R a b → Agree alike T (f s a) (g t b))
    {s : σ} {t : τ} (start : T s t) :
    Agree alike T (as.foldlM f s) (bs.foldlM g t) :=
  (relator ε alike).foldlM lists step start

/-! ### Results -/

theorem of_ok {a : α} (h : Agree alike R (.ok a : Except ε α) y) :
    ∃ b, y = .ok b ∧ R a b := by
  cases h with
  | ok related => exact ⟨_, rfl, related⟩

/-- Computations that agree in all respects are the same. -/
theorem eq {x y : Except ε α} (h : Agree True Eq x y) : x = y := by
  cases h with
  | ok same => rw [same]
  | error same => rw [same trivial]

/-- Computations that agree return together. -/
theorem returns_iff (h : Agree alike R x y) : (∃ a, x = .ok a) ↔
    ∃ b, y = .ok b := by
  cases h with
  | ok _ => exact ⟨fun _ => ⟨_, rfl⟩, fun _ => ⟨_, rfl⟩⟩
  | error _ => exact ⟨nofun, nofun⟩

/-- Computations that return together agree if their results do. -/
theorem of_returns (forth : ∀ a, x = .ok a → ∃ b, y = .ok b ∧ R a b)
    (back : ∀ b, y = .ok b → ∃ a, x = .ok a) : Agree False R x y := by
  cases x with
  | ok a =>
    obtain ⟨b, rfl, related⟩ := forth a rfl
    exact .ok related
  | error e =>
    cases y with
    | ok b =>
      obtain ⟨a, absurd⟩ := back b rfl
      cases absurd
    | error e' => exact .error False.elim

theorem of_ok_ok {a : α} {b : β}
    (h : Agree alike R (.ok a : Except ε α) (.ok b)) : R a b := by
  cases h with
  | ok related => exact related

/-! ### Readings -/

/-- Computations whose results read alike agree. -/
theorem of_map {f : α → γ} {g : β → γ} (h : x.map f = y.map g) :
    Agree alike (fun a b => f a = g b) x y := by
  cases x with
  | ok a =>
    cases y with
    | ok b => exact .ok (Except.ok.inj h)
    | error e => cases h
  | error e =>
    cases y with
    | ok b => cases h
    | error e' => exact .error fun _ => Except.error.inj h

end Agree

/-! ### Where both succeed -/

/-- Where both computations succeed, their results are related; either may fail
without the other. -/
def Meets (R : α → β → Prop) (x : Except ε α) (y : Except ε β) : Prop :=
  ∀ a b, x = .ok a → y = .ok b → R a b

namespace Meets

variable {R : α → β → Prop} {S : γ → δ → Prop} {x : Except ε α} {y : Except ε β}

theorem refl (x : Except ε α) : Meets Eq x x := by
  intro a b ha hb
  rw [ha] at hb
  exact Except.ok.inj hb

/-- A computation beside itself, with what its result is known to satisfy. -/
theorem diagonal {P : α → Prop} {x : Except ε α} (h : ∀ a, x = .ok a → P a) :
    Meets (fun a b => a = b ∧ P a) x x :=
  fun a b ha hb => ⟨refl x a b ha hb, h a ha⟩

theorem pure {a : α} {b : β} (h : R a b) :
    Meets R (Pure.pure a : Except ε α) (Pure.pure b : Except ε β) := by
  intro a' b' ha hb
  rw [← Except.ok.inj ha, ← Except.ok.inj hb]
  exact h

theorem bind {f : α → Except ε γ} {g : β → Except ε δ} (h : Meets R x y)
    (next : ∀ a b, R a b → Meets S (f a) (g b)) : Meets S (x >>= f) (y >>= g) := by
  intro c d hc hd
  cases x with
  | error e => cases hc
  | ok a =>
    cases y with
    | error e => cases hd
    | ok b => exact next a b (h a b rfl rfl) c d hc hd

theorem lift {x : Except Decimal.Signal α} {y : Except Decimal.Signal β}
    (h : Meets R x y) :
    Meets R (liftM x : Except Fault α) (liftM y : Except Fault β) := by
  intro a b ha hb
  cases x with
  | error e => cases ha
  | ok a' =>
    cases y with
    | error e => cases hb
    | ok b' =>
      obtain rfl := Except.ok.inj ha
      obtain rfl := Except.ok.inj hb
      exact h _ _ rfl rfl

/-- Meeting is kept where computations are put together. -/
def relator (ε : Type) : Relator (Except ε) (Except ε) where
  rel R := Meets R
  pure := pure
  bind := bind

theorem mapM {f : α → Except ε γ} {g : β → Except ε δ} {as : List α}
    {bs : List β}
    (lists : List.Forall₂ R as bs) (each : ∀ a b, R a b → Meets S (f a) (g b)) :
    Meets (List.Forall₂ S) (as.mapM f) (bs.mapM g) :=
  (relator ε).mapM lists each

theorem foldlM {f : σ → α → Except ε σ} {g : τ → β → Except ε τ}
    {T : σ → τ → Prop}
    {as : List α} {bs : List β} (lists : List.Forall₂ R as bs)
    (step : ∀ s t a b, T s t → R a b → Meets T (f s a) (g t b)) {s : σ} {t : τ}
    (start : T s t) : Meets T (as.foldlM f s) (bs.foldlM g t) :=
  (relator ε).foldlM lists step start

end Meets

/-! ### Tables side by side -/

namespace Keyed

variable {κ : Type} {R : β → γ → Prop} {table : Keyed κ β} {table' : Keyed κ γ}

/-- Tables with the same keys in the same order, and related values under
each. -/
def Matches (R : β → γ → Prop) : Keyed κ β → Keyed κ γ → Prop :=
  List.Forall₂ fun a b => a.1 = b.1 ∧ R a.2 b.2

theorem Matches.values (h : Matches R table table') :
    List.Forall₂ R (table.map Prod.snd) (table'.map Prod.snd) := by
  rw [List.forall₂_map_left_iff, List.forall₂_map_right_iff]
  exact List.Forall₂.imp (fun _ _ entry => entry.2) h

variable [DecidableEq κ]

/-- Under a key there are related values, or there is none in either table.
The relation may depend on the key. -/
theorem rel_get? {R : κ → β → γ → Prop}
    (h : List.Forall₂ (fun a b => a.1 = b.1 ∧ R a.1 a.2 b.2) table table')
    (key : κ) : Option.Rel (R key) (get? key table) (get? key table') := by
  induction h with
  | nil => exact .none
  | @cons a b rest rest' entry _ ih =>
    obtain ⟨k, v⟩ := a
    obtain ⟨k', v'⟩ := b
    obtain ⟨rfl, related⟩ := entry
    rw [get?, get?]
    split_ifs with here
    · exact .some (here ▸ related)
    · exact ih

theorem Matches.get? (h : Matches R table table') (key : κ) :
    Option.Rel R (get? key table) (get? key table') :=
  rel_get? (R := fun _ => R) h key

theorem Matches.put (h : Matches R table table') (key : κ) {v : β} {v' : γ}
    (related : R v v') : Matches R (put key v table) (put key v' table') := by
  induction h with
  | nil => exact .cons ⟨rfl, related⟩ .nil
  | @cons a b rest rest' entry others ih =>
    obtain ⟨k, w⟩ := a
    obtain ⟨k', w'⟩ := b
    obtain ⟨rfl, old⟩ := entry
    rw [Keyed.put, Keyed.put]
    split_ifs
    · exact .cons ⟨rfl, related⟩ others
    · exact .cons ⟨rfl, old⟩ ih

/-- Entries that match one after the other make tables that match. -/
theorem Matches.ofEntries (h : Matches R table table') :
    Matches R (ofEntries table) (ofEntries table') := by
  refine List.rel_foldl (P := Matches R)
    (R := fun (a : κ × β) (b : κ × γ) => a.1 = b.1 ∧ R a.2 b.2) ?_ .nil h
  rintro known known' tables ⟨key, v⟩ ⟨_, v'⟩ ⟨rfl, related⟩
  exact Matches.put tables key related

end Keyed

/-! ### Numbers side by side -/

/-- Two numbers that stand for the same, in whatever spellings. -/
def Decimal.Same (a b : Decimal) : Prop :=
  a.quantity = b.quantity

instance (a b : Decimal) : Decidable (a.Same b) :=
  inferInstanceAs (Decidable (a.quantity = b.quantity))

/-- Two numbers on either side of zero, equally far from it. -/
def Decimal.Opposed (a b : Decimal) : Prop :=
  a.quantity = b.quantity.opposite

/-- Computations whose readings are on either side of zero agree. -/
theorem Agree.of_map_opposed {x y : Except ε Decimal}
    (h : x.map Decimal.quantity =
      (y.map Decimal.quantity).map Quantity.opposite) :
    Agree alike Decimal.Opposed x y := by
  have reading : x.map Decimal.quantity = y.map fun b => b.quantity.opposite := by
    rw [h]
    cases y <;> rfl
  exact (Agree.of_map reading).mono fun _ _ related => related

namespace Decimal

variable {a b a' b' : Decimal}

theorem Same.refl (a : Decimal) : Same a a := rfl

theorem Same.symm (h : Same a b) : Same b a := Eq.symm h

theorem Opposed.zero : Opposed zero zero := by
  rw [Opposed, quantity_zero, Quantity.opposite_zero]

theorem Opposed.symm (h : Opposed a b) : Opposed b a := by
  rw [Opposed, h, Quantity.opposite_opposite]

theorem Same.add (ha : Same a a') (hb : Same b b') :
    Agree alike Same (a.add b) (a'.add b') :=
  .of_map (by rw [add_quantity, add_quantity, ha, hb])

theorem Same.sub (ha : Same a a') (hb : Same b b') :
    Agree alike Same (a.sub b) (a'.sub b') :=
  .of_map (by rw [sub_quantity, sub_quantity, ha, hb])

theorem Same.mul (ha : Same a a') (hb : Same b b') :
    Agree alike Same (a.mul b) (a'.mul b') :=
  .of_map (by rw [mul_quantity, mul_quantity, ha, hb])

theorem Same.neg (h : Same a a') : Agree alike Same a.neg a'.neg :=
  .of_map (by rw [neg_quantity, neg_quantity, h])

theorem Same.abs (h : Same a a') : Agree alike Same a.abs a'.abs :=
  .of_map (by rw [abs_quantity, abs_quantity, h])

theorem Same.larger (ha : Same a a') (hb : Same b b') :
    Agree alike Same (a.larger b) (a'.larger b') :=
  .of_map (by rw [larger_quantity, larger_quantity, ha, hb])

theorem Same.smaller (ha : Same a a') (hb : Same b b') :
    Agree alike Same (a.smaller b) (a'.smaller b') :=
  .of_map (by rw [smaller_quantity, smaller_quantity, ha, hb])

/-- The point is moved by as much in every spelling. -/
theorem Same.scale (h : Same a a') (n : Int) :
    Agree alike Same (a.scale n) (a'.scale n) := by
  rcases a with ⟨s, c, e⟩ | s | ⟨s, m, p⟩ <;>
    rcases a' with ⟨t, d, f⟩ | t | ⟨t, k, q⟩
  case finite.finite =>
    by_cases far : maxStep < n.natAbs
    · rw [Decimal.scale, Decimal.scale, if_pos far, if_pos far]
      exact .error fun _ => rfl
    · have same : spelled s c e = spelled t d f := Quantity.rational.inj h
      exact .of_map (by rw [scale_quantity far, scale_quantity far, same])
  case infinity.infinity =>
    obtain rfl := Quantity.infinite.inj h
    exact .refl Same.refl _
  case nan.nan =>
    obtain rfl := Quantity.undefined.inj h
    exact .of_map (by
      rw [Decimal.scale, Decimal.scale, nanResult_left, nanResult_left]; rfl)
  all_goals cases h

theorem Same.isFinite (h : Same a a') : a.isFinite = a'.isFinite := by
  rcases a with ⟨s, c, e⟩ | s | ⟨s, m, p⟩ <;>
    rcases a' with ⟨t, d, f⟩ | t | ⟨t, k, q⟩
  case finite.finite | infinity.infinity | nan.nan => rfl
  all_goals cases h

/-- Adding the opposite is taking away. -/
theorem Same.add_sub (ha : Same a a') (hb : Opposed b b') :
    Agree alike Same (a.add b) (a'.sub b') :=
  .of_map (by rw [add_quantity, sub_quantity, ha, hb])

/-- The magnitude forgets the side. -/
theorem Opposed.abs (h : Opposed a a') : Agree alike Same a.abs a'.abs :=
  .of_map (by rw [abs_quantity, abs_quantity, h, Quantity.abs_opposite])

theorem Opposed.add (ha : Opposed a a') (hb : Opposed b b') :
    Agree alike Opposed (a.add b) (a'.add b') :=
  .of_map_opposed
    (by rw [add_quantity, add_quantity, ha, hb, Quantity.add_opposite])

theorem Opposed.flip (h : Opposed a a') : Opposed a.flip a'.flip := by
  rw [Opposed, quantity_flip, quantity_flip, h]

theorem Opposed.sub (ha : Opposed a a') (hb : Opposed b b') :
    Agree alike Opposed (a.sub b) (a'.sub b') :=
  ha.add hb.flip

theorem Opposed.mul (ha : Same a a') (hb : Opposed b b') :
    Agree alike Opposed (a.mul b) (a'.mul b') :=
  .of_map_opposed
    (by rw [mul_quantity, mul_quantity, ha, hb, Quantity.mul_opposite])

theorem Opposed.larger_smaller (ha : Opposed a a') (hb : Opposed b b') :
    Agree alike Opposed (a.larger b) (a'.smaller b') :=
  .of_map_opposed (by
    rw [larger_quantity, smaller_quantity, ha, hb, Quantity.larger_opposite])

theorem Opposed.smaller_larger (ha : Opposed a a') (hb : Opposed b b') :
    Agree alike Opposed (a.smaller b) (a'.larger b') :=
  .of_map_opposed (by
    rw [larger_quantity, smaller_quantity, ha, hb, Quantity.smaller_opposite])

end Decimal

end ScenarioMargin
