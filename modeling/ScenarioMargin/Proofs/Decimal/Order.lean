/-
ScenarioMargin/Proofs/Decimal/Order.lean

The order of decimal numbers by what they stand for.  It is the order by which
the arithmetic compares, so it is decidable; a NaN is neither below nor above
anything, itself included, and a number is defined when it is at most itself.

What operations that succeed say about the order: the larger and the smaller of
two numbers are bounds of both, the upper side of zero is kept by sums,
products and magnitudes, and a sum or a difference is only defined where its
operands are.  That `a` is not below `-b` is written `b.flip ≤ a`; the
operations at the end keep it, with all of their roundings.
-/
import ScenarioMargin.Proofs.Agree

namespace ScenarioMargin.Decimal

/-- The order of decimal numbers by what they stand for. -/
instance : LE Decimal := ⟨fun a b => a.quantity ≤ b.quantity⟩

/-- The order is the one by which the arithmetic compares. -/
theorem le_iff_compare? {a b : Decimal} : a ≤ b ↔
    a.compare? b = some .lt ∨ a.compare? b = some .eq := by
  show a.quantity ≤ b.quantity ↔ _
  rw [Quantity.le_iff_compare?, compare?_quantity]
  rcases a.quantity.compare? b.quantity with - | (- | - | -) <;> simp

instance : DecidableLE Decimal := fun _ _ => decidable_of_iff _ le_iff_compare?.symm

variable {a b c a' b' : Decimal}

theorem zero_le_iff : zero ≤ a ↔ .rational 0 ≤ a.quantity := by
  show zero.quantity ≤ a.quantity ↔ _
  rw [quantity_zero]

theorem le_zero_iff : a ≤ zero ↔ a.quantity ≤ .rational 0 := by
  show a.quantity ≤ zero.quantity ↔ _
  rw [quantity_zero]

theorem flip_le_iff : b.flip ≤ a ↔ b.quantity.opposite ≤ a.quantity := by
  show b.flip.quantity ≤ a.quantity ↔ _
  rw [quantity_flip]

protected theorem le_trans (h : a ≤ b) (h' : b ≤ c) : a ≤ c :=
  Quantity.le_trans h h'

theorem le_refl_left (h : a ≤ b) : a ≤ a :=
  Quantity.le_refl_left h

theorem le_refl_right (h : a ≤ b) : b ≤ b :=
  Quantity.le_refl_right h

/-! ### Comparisons -/

theorem le_larger_left (h : a.larger b = .ok c) : a ≤ c :=
  Quantity.le_larger_left (quantity_of_ok (larger_quantity a b) h)

theorem le_larger_right (h : a.larger b = .ok c) : b ≤ c :=
  Quantity.le_larger_right (quantity_of_ok (larger_quantity a b) h)

theorem smaller_le_left (h : a.smaller b = .ok c) : c ≤ a :=
  Quantity.smaller_le_left (quantity_of_ok (smaller_quantity a b) h)

theorem smaller_le_right (h : a.smaller b = .ok c) : c ≤ b :=
  Quantity.smaller_le_right (quantity_of_ok (smaller_quantity a b) h)

theorem larger_mono (ha : a ≤ a') (hb : b ≤ b') :
    Meets (· ≤ ·) (a.larger b) (a'.larger b') := fun _ _ h h' =>
  Quantity.larger_mono ha hb (quantity_of_ok (larger_quantity a b) h)
    (quantity_of_ok (larger_quantity a' b') h')

/-! ### What is defined -/

/-- What is not defined is a NaN. -/
theorem defined_iff : a ≤ a ↔ a.isNaN = false := by
  show a.quantity ≤ a.quantity ↔ _
  rcases a with ⟨s, c, e⟩ | s | ⟨s, b, p⟩
  · simp [isNaN]
  · cases s <;> simp [isNaN]
  · simp [isNaN]

/-- What is defined can be compared. -/
theorem larger_returns (ha : a ≤ a) (hb : b ≤ b) : ∃ c, a.larger b = .ok c := by
  have compared : ∃ o, a.compare? b = some o := by
    rw [defined_iff] at ha hb
    rcases a with ⟨s, c, e⟩ | s | ⟨s, n, p⟩ <;>
      rcases b with ⟨t, d, f⟩ | t | ⟨t, m, q⟩
    case nan.finite | nan.infinity | nan.nan => cases ha
    case finite.nan | infinity.nan => cases hb
    all_goals exact ⟨_, rfl⟩
  obtain ⟨o, order⟩ := compared
  rw [larger, lt, order]
  cases o <;> exact ⟨_, rfl⟩

theorem smaller_returns (ha : a ≤ a) (hb : b ≤ b) : ∃ c, a.smaller b = .ok c := by
  obtain ⟨_, order⟩ := larger_returns hb ha
  rw [larger] at order
  rw [smaller]
  cases compared : lt b a with
  | ok below => cases below <;> exact ⟨_, rfl⟩
  | error e =>
    rw [compared] at order
    cases order

theorem defined_of_mul (h : a.mul b = .ok c) (defined : c ≤ c) : a ≤ a ∧ b ≤ b :=
  Quantity.defined_of_mul (quantity_of_ok (mul_quantity a b) h) defined

theorem defined_of_add (h : a.add b = .ok c) (defined : c ≤ c) : a ≤ a ∧ b ≤ b :=
  Quantity.defined_of_add (quantity_of_ok (add_quantity a b) h) defined

theorem defined_of_sub (h : a.sub b = .ok c) (defined : c ≤ c) : a ≤ a ∧ b ≤ b := by
  obtain ⟨left, right⟩ :=
    Quantity.defined_of_add (quantity_of_ok (sub_quantity a b) h) defined
  have mirror := Quantity.opposite_le_opposite right
  rw [Quantity.opposite_opposite] at mirror
  exact ⟨left, mirror⟩

/-! ### The upper side of zero -/

theorem zero_le_add (ha : zero ≤ a) (hb : zero ≤ b) (h : a.add b = .ok c) :
    zero ≤ c := by
  have zeros : Quantity.add (.rational 0) (.rational 0) = .ok (.rational 0) := by
    show Quantity.ofRational (0 + 0) = _
    rw [add_zero, Quantity.ofRational_zero]
  exact zero_le_iff.mpr
    (Quantity.add_mono (zero_le_iff.mp ha) (zero_le_iff.mp hb) zeros
      (quantity_of_ok (add_quantity a b) h))

theorem zero_le_mul (ha : zero ≤ a) (hb : zero ≤ b) (h : a.mul b = .ok c) :
    zero ≤ c :=
  zero_le_iff.mpr
    (Quantity.mul_nonneg (zero_le_iff.mp ha) (zero_le_iff.mp hb)
      (quantity_of_ok (mul_quantity a b) h))

/-- Magnitudes of what is defined are on the upper side of zero. -/
theorem zero_le_abs (defined : a ≤ a) (h : a.abs = .ok c) : zero ≤ c :=
  zero_le_iff.mpr (Quantity.abs_nonneg defined (quantity_of_ok (abs_quantity a) h))

/-- What is not below minus one makes a factor on the upper side of zero. -/
theorem zero_le_one_add (h : ofInt (-1) ≤ a) (sum : one.add a = .ok c) :
    zero ≤ c := by
  have total := quantity_of_ok (add_quantity one a) sum
  rw [quantity_one] at total
  have reflOne : Quantity.rational 1 ≤ Quantity.rational 1 :=
    Quantity.rational_le_rational.mpr le_rfl
  have cancel : Quantity.add (.rational 1) (ofInt (-1)).quantity =
      .ok (.rational 0) := by
    rw [quantity_ofInt]
    show Quantity.ofRational (1 + ((-1 : ℤ) : ℚ)) = _
    rw [Int.cast_neg, Int.cast_one, add_neg_cancel, Quantity.ofRational_zero]
  exact zero_le_iff.mpr (Quantity.add_mono reflOne h cancel total)

/-! ### Products -/

/-- A product with a first factor on the upper side grows with its second
factor. -/
theorem mul_mono_right (ha : zero ≤ a) (hb : b ≤ b') :
    Meets (· ≤ ·) (a.mul b) (a.mul b') := fun _ _ h h' =>
  Quantity.mul_mono_right (zero_le_iff.mp ha) hb
    (quantity_of_ok (mul_quantity a b) h)
    (quantity_of_ok (mul_quantity a b') h')

theorem mul_mono_of_nonneg (ha : zero ≤ a) (hb : zero ≤ b) (haa : a ≤ a')
    (hbb : b ≤ b') :
    Meets (· ≤ ·) (a.mul b) (a'.mul b') := fun _ _ h h' =>
  Quantity.mul_mono_of_nonneg (zero_le_iff.mp ha) (zero_le_iff.mp hb) haa hbb
    (quantity_of_ok (mul_quantity a b) h) (quantity_of_ok (mul_quantity a' b') h')

/-! ### Cutting -/

/-- Cutting what is on the upper side of zero does not make it larger. -/
theorem cutAt_le {s : Bool} {c : Nat} {e f : Int} {b : Decimal}
    (upper : zero ≤ finite s c e) (h : cutAt s c e f = .ok b) :
    b ≤ finite s c e := by
  rw [cutAt_eq h]
  have nonneg : 0 ≤ spelled s c e := zero_le_iff.mp upper
  refine Quantity.rational_le_rational.mpr ?_
  cases s with
  | true =>
    refine le_trans ?_ nonneg
    rw [spelled_true]
    exact neg_nonpos.mpr (magnitude_nonneg _ f)
  | false =>
    rw [spelled_false, spelled_false, ← le_div_iff₀ (tenPow_pos f)]
    exact Nat.floor_le (div_nonneg (magnitude_nonneg c e) (tenPow_pos f).le)

theorem quantizeDown_le {a unit b : Decimal} (upper : zero ≤ a)
    (steps : unit.isFinite) (h : a.quantizeDown unit = .ok b) : b ≤ a := by
  cases unit with
  | infinity t => cases steps
  | nan t n p => cases steps
  | finite t d f =>
    cases a with
    | finite s c e => exact cutAt_le upper h
    | infinity s => cases h
    | nan s n p => cases zero_le_iff.mp upper

/-! ### Bounds on the other side of zero -/

/-- Less may be taken from the bound than is added to the number. -/
theorem flip_sub_le_add (hb : b.flip ≤ a) {d d' : Decimal} (hd : d ≤ d') :
    Meets (fun b' a' => b'.flip ≤ a') (b.sub d) (a.add d') := by
  intro b' a' h h'
  have mirror : b.quantity.opposite.add d.quantity = .ok b'.quantity.opposite := by
    have turned := Quantity.add_opposite b.quantity d.quantity.opposite
    rwa [quantity_of_ok (sub_quantity b d) h, Quantity.opposite_opposite] at turned
  exact flip_le_iff.mpr (Quantity.add_mono (flip_le_iff.mp hb) hd mirror
    (quantity_of_ok (add_quantity a d') h'))

/-- The same may be added on both sides, if it is on the upper side of zero. -/
theorem flip_add_le_add (hb : b.flip ≤ a) (hc : zero ≤ c) :
    Meets (fun b' a' => b'.flip ≤ a') (b.add c) (a.add c) := by
  intro b' a' h h'
  have mirror : b.quantity.opposite.add c.quantity.opposite =
      .ok b'.quantity.opposite := by
    rw [Quantity.add_opposite, quantity_of_ok (add_quantity b c) h]
    rfl
  have apart : c.quantity.opposite ≤ c.quantity := by
    have below := Quantity.opposite_le_opposite (zero_le_iff.mp hc)
    rw [Quantity.opposite_zero] at below
    exact Quantity.le_trans below (zero_le_iff.mp hc)
  exact flip_le_iff.mpr (Quantity.add_mono (flip_le_iff.mp hb) apart mirror
    (quantity_of_ok (add_quantity a c) h'))

/-- Both sides may be multiplied by the same on the upper side of zero. -/
theorem flip_mul_le_mul (hb : b.flip ≤ a) (hc : zero ≤ c) :
    Meets (fun b' a' => b'.flip ≤ a') (b.mul c) (a.mul c) := by
  intro b' a' h h'
  have product := quantity_of_ok (mul_quantity b c) h
  have product' := quantity_of_ok (mul_quantity a c) h'
  rw [Quantity.mul_comm] at product product'
  exact flip_le_iff.mpr
    (Quantity.mul_mono_right (zero_le_iff.mp hc) (flip_le_iff.mp hb)
      (Quantity.mul_opposite_ok product) product')

end ScenarioMargin.Decimal
