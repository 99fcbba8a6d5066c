/-
ScenarioMargin/Proofs/Decimal/Quantity.lean

What a decimal number stands for, whatever its spelling: a rational number, an
infinity, or nothing at all.  Quantities have the arithmetic and the order that
numbers have; a rational result is rounded (`Quantity.ofRational`), and fails
where it leaves the range.

Main results: the arithmetic on quantities is symmetric about zero, failures
included (`add_opposite`, `mul_opposite`, `compare?_opposite`), and monotone
where it succeeds (`add_mono`, `mul_mono_of_nonneg`).  That the arithmetic on
spellings is this one is in `Proofs.Decimal.Reading`.
-/
import ScenarioMargin.Decimal.Arithmetic
import ScenarioMargin.Proofs.Decimal.Grid

namespace ScenarioMargin

/-- What a decimal number stands for. -/
inductive Quantity where
  | rational (x : ℚ)
  | infinite (negative : Bool)
  | undefined (signaling : Bool)
  deriving DecidableEq

namespace Quantity

/-! ### Arithmetic -/

/-- A rational number in the working precision; refused where it is too
large. -/
def ofRational (x : ℚ) : Except Decimal.Signal Quantity :=
  if |rounded x| < 10 ^ (Decimal.maxExponent + 1) then
    .ok (.rational (rounded x))
  else .error .overflow

theorem ofRational_congr {x y : ℚ} (h : rounded x = rounded y) :
    ofRational x = ofRational y := by
  rw [ofRational, ofRational, h]

theorem ofRational_zero : ofRational 0 = .ok (.rational 0) := by
  rw [ofRational, rounded_zero, abs_zero, if_pos (tenPow_pos _)]

/-- Whether an operation on the quantity has no result because of it. -/
def isSignaling : Quantity → Bool
  | .undefined signaling => signaling
  | _ => false

/-- What an operation gives when an operand is undefined. -/
def undefinedResult (a b : Quantity) : Except Decimal.Signal Quantity :=
  if a.isSignaling || b.isSignaling then .error .invalidOperation
  else .ok (.undefined false)

/-- The sum of two quantities. -/
def add : Quantity → Quantity → Except Decimal.Signal Quantity
  | .rational x, .rational y => ofRational (x + y)
  | .infinite s, .infinite t =>
    if s = t then .ok (.infinite s) else .error .invalidOperation
  | .infinite s, .rational _ => .ok (.infinite s)
  | .rational _, .infinite t => .ok (.infinite t)
  | a, b => undefinedResult a b

/-- The quantity on the other side of zero. -/
def opposite : Quantity → Quantity
  | .rational x => .rational (-x)
  | .infinite s => .infinite (!s)
  | a => a

/-- The product of two quantities. -/
def mul : Quantity → Quantity → Except Decimal.Signal Quantity
  | .rational x, .rational y => ofRational (x * y)
  | .infinite s, .infinite t => .ok (.infinite (s != t))
  | .infinite s, .rational y =>
    if y = 0 then .error .invalidOperation
    else .ok (.infinite (s != decide (y < 0)))
  | .rational x, .infinite t =>
    if x = 0 then .error .invalidOperation
    else .ok (.infinite (decide (x < 0) != t))
  | a, b => undefinedResult a b

/-- The quantity on the other side of zero, in the working precision. -/
def neg : Quantity → Except Decimal.Signal Quantity
  | .rational x => ofRational (-x)
  | .infinite s => .ok (.infinite (!s))
  | a => undefinedResult a a

/-- The magnitude of a quantity, in the working precision. -/
def abs : Quantity → Except Decimal.Signal Quantity
  | .rational x => ofRational |x|
  | .infinite _ => .ok (.infinite false)
  | a => undefinedResult a a

/-- The order of two quantities; nothing undefined has a place in it. -/
def compare? : Quantity → Quantity → Option Ordering
  | .rational x, .rational y => some (compare x y)
  | .infinite s, .infinite t => some (compare t.toNat s.toNat)
  | .infinite s, .rational _ => some (if s then .lt else .gt)
  | .rational _, .infinite t => some (if t then .gt else .lt)
  | _, _ => none

/-- The larger of two quantities. -/
def larger (a b : Quantity) : Except Decimal.Signal Quantity :=
  match compare? a b with
  | some o => .ok (if o = .lt then b else a)
  | none => .error .invalidOperation

/-- The smaller of two quantities. -/
def smaller (a b : Quantity) : Except Decimal.Signal Quantity :=
  match compare? b a with
  | some o => .ok (if o = .lt then b else a)
  | none => .error .invalidOperation

@[simp] theorem add_undefined (a : Quantity) (n : Bool) :
    add a (.undefined n) = undefinedResult a (.undefined n) := by
  cases a <;> rfl

@[simp] theorem undefined_add (n : Bool) (b : Quantity) :
    add (.undefined n) b = undefinedResult (.undefined n) b := by
  cases b <;> rfl

@[simp] theorem mul_undefined (a : Quantity) (n : Bool) :
    mul a (.undefined n) = undefinedResult a (.undefined n) := by
  cases a <;> rfl

@[simp] theorem undefined_mul (n : Bool) (b : Quantity) :
    mul (.undefined n) b = undefinedResult (.undefined n) b := by
  cases b <;> rfl

/-! ### The other side of zero -/

@[simp] theorem opposite_opposite (a : Quantity) : a.opposite.opposite = a := by
  cases a <;> simp [opposite]

@[simp] theorem opposite_zero : (rational 0).opposite = rational 0 := by
  rw [opposite, neg_zero]

theorem ofRational_neg (x : ℚ) : ofRational (-x) = (ofRational x).map opposite := by
  rw [ofRational, ofRational, rounded_neg, abs_neg]
  split <;> rfl

@[simp] theorem isSignaling_opposite (a : Quantity) :
    a.opposite.isSignaling = a.isSignaling := by
  cases a <;> rfl

theorem undefinedResult_map_opposite (a b : Quantity) :
    (undefinedResult a b).map opposite = undefinedResult a b := by
  rw [undefinedResult]
  split <;> rfl

theorem undefinedResult_opposite (a b : Quantity) :
    undefinedResult a.opposite b.opposite = (undefinedResult a b).map opposite := by
  rw [undefinedResult_map_opposite]
  simp [undefinedResult]

theorem undefinedResult_opposite_right (a b : Quantity) :
    undefinedResult a b.opposite = (undefinedResult a b).map opposite := by
  rw [undefinedResult_map_opposite]
  simp [undefinedResult]

/-- A sum across zero is the sum across zero. -/
theorem add_opposite (a b : Quantity) :
    add a.opposite b.opposite = (add a b).map opposite := by
  rcases a with x | s | n <;> rcases b with y | t | m
  case rational.rational =>
    show ofRational (-x + -y) = _
    rw [← neg_add, ofRational_neg]
    rfl
  case rational.infinite | infinite.rational => rfl
  case infinite.infinite => cases s <;> cases t <;> rfl
  case rational.undefined | infinite.undefined =>
    rw [add_undefined, ← undefinedResult_opposite]
    exact add_undefined _ _
  all_goals
    rw [undefined_add, ← undefinedResult_opposite]
    exact undefined_add _ _

/-- A product changes sides with its second factor. -/
theorem mul_opposite (a b : Quantity) :
    mul a b.opposite = (mul a b).map opposite := by
  rcases a with x | s | n <;> rcases b with y | t | m
  case rational.rational =>
    show ofRational (x * -y) = _
    rw [mul_neg, ofRational_neg]
    rfl
  case rational.infinite =>
    show (if x = 0 then _ else _) = Except.map opposite (if x = 0 then _ else _)
    split
    · rfl
    · simp [Except.map, opposite]
  case infinite.rational =>
    -- zero times an infinity has no result, and zero is its own opposite
    show (if -y = 0 then _ else _) = Except.map opposite (if y = 0 then _ else _)
    rcases lt_trichotomy y 0 with below | rfl | above
    · rw [if_neg (neg_ne_zero.mpr below.ne), if_neg below.ne,
        decide_eq_false (by linarith : ¬ -y < 0), decide_eq_true below]
      cases s <;> rfl
    · rw [neg_zero, if_pos rfl]
      rfl
    · rw [if_neg (neg_ne_zero.mpr above.ne'), if_neg above.ne',
        decide_eq_true (by linarith : -y < 0),
        decide_eq_false (by linarith : ¬ y < 0)]
      cases s <;> rfl
  case infinite.infinite => cases s <;> cases t <;> rfl
  case rational.undefined | infinite.undefined =>
    rw [mul_undefined, ← undefinedResult_opposite_right]
    exact mul_undefined _ _
  all_goals
    rw [undefined_mul, undefined_mul]
    exact undefinedResult_opposite_right _ _

theorem abs_opposite (a : Quantity) : abs a.opposite = abs a := by
  rcases a with x | s | n
  · show ofRational |-x| = ofRational |x|
    rw [abs_neg]
  · rfl
  · rfl

/-- The order turns around. -/
theorem compare?_opposite (a b : Quantity) :
    compare? a.opposite b.opposite = compare? b a := by
  rcases a with x | s | n <;> rcases b with y | t | m
  case rational.rational =>
    show some (compare (-x) (-y)) = some (compare y x)
    congr 1
    rcases lt_trichotomy x y with h | rfl | h
    · rw [compare_gt_iff_gt.mpr (neg_lt_neg h), compare_gt_iff_gt.mpr h]
    · simp
    · rw [compare_lt_iff_lt.mpr (neg_lt_neg h), compare_lt_iff_lt.mpr h]
  case rational.infinite => cases t <;> rfl
  case infinite.rational => cases s <;> rfl
  case infinite.infinite => cases s <;> cases t <;> rfl
  all_goals rfl

theorem smaller_opposite (a b : Quantity) :
    smaller a.opposite b.opposite = (larger a b).map opposite := by
  rw [smaller, larger, compare?_opposite]
  rcases compare? a b with - | o
  · rfl
  · show Except.ok (if o = .lt then b.opposite else a.opposite) =
      .ok (if o = .lt then b else a).opposite
    split <;> rfl

theorem larger_opposite (a b : Quantity) :
    larger a.opposite b.opposite = (smaller a b).map opposite := by
  have h := smaller_opposite a.opposite b.opposite
  rw [opposite_opposite, opposite_opposite] at h
  rw [h]
  rcases larger a.opposite b.opposite with e | c
  · rfl
  · show Except.ok c = .ok c.opposite.opposite
    rw [opposite_opposite]

/-! ### Order -/

/-- The order of quantities as a relation.  What is undefined is neither below
nor above anything. -/
protected def le : Quantity → Quantity → Prop
  | .rational x, .rational y => x ≤ y
  | .infinite s, .infinite t => s = true ∨ t = false
  | .infinite s, .rational _ => s = true
  | .rational _, .infinite t => t = false
  | _, _ => False

instance : LE Quantity := ⟨Quantity.le⟩

@[simp] theorem rational_le_rational {x y : ℚ} : rational x ≤ rational y ↔
    x ≤ y := Iff.rfl

@[simp] theorem infinite_le_infinite {s t : Bool} : infinite s ≤ infinite t ↔
    s = true ∨ t = false := Iff.rfl

@[simp] theorem infinite_le_rational {s : Bool} {y : ℚ} :
    infinite s ≤ rational y ↔ s = true := Iff.rfl

@[simp] theorem rational_le_infinite {x : ℚ} {t : Bool} :
    rational x ≤ infinite t ↔ t = false := Iff.rfl

@[simp] theorem not_undefined_le {n : Bool} {b : Quantity} : ¬ undefined n ≤ b := by
  cases b <;> exact not_false

@[simp] theorem not_le_undefined {a : Quantity} {n : Bool} : ¬ a ≤ undefined n := by
  cases a <;> exact not_false

/-- One quantity is at most another when the comparison says that it is not
above it. -/
theorem le_iff_compare? {a b : Quantity} : a ≤ b ↔
    ∃ o, compare? a b = some o ∧ o ≠ .gt := by
  rcases a with x | s | n <;> rcases b with y | t | m
  case rational.rational =>
    rw [rational_le_rational, ← not_lt, ← compare_gt_iff_gt]
    simp [compare?]
  case rational.infinite => cases t <;> simp [compare?]
  case infinite.rational => cases s <;> simp [compare?]
  case infinite.infinite =>
    cases s <;> cases t <;> simp [compare?, compare, compareOfLessAndEq]
  all_goals simp [compare?]

/-- One quantity is at most another when the comparison says that the other is
not below it. -/
theorem le_of_compare? {a b : Quantity} {o : Ordering}
    (h : compare? b a = some o) (below : o ≠ .lt) : a ≤ b := by
  rcases a with x | s | n <;> rcases b with y | t | m
  case rational.rational =>
    obtain rfl := Option.some.inj h
    rw [rational_le_rational, ← not_lt, ← compare_lt_iff_lt]
    exact below
  case rational.infinite => cases t <;> simp_all [compare?]
  case infinite.rational => cases s <;> simp_all [compare?]
  case infinite.infinite =>
    cases s <;> cases t <;> simp_all [compare?, compare, compareOfLessAndEq]
  all_goals exact absurd h (by simp [compare?])

theorem le_refl_left {a b : Quantity} (h : a ≤ b) : a ≤ a := by
  rcases a with x | s | n
  · exact rational_le_rational.mpr le_rfl
  · cases s <;> simp
  · exact absurd h not_undefined_le

theorem le_refl_right {a b : Quantity} (h : a ≤ b) : b ≤ b := by
  rcases b with x | s | n
  · exact rational_le_rational.mpr le_rfl
  · cases s <;> simp
  · exact absurd h not_le_undefined

protected theorem le_trans {a b c : Quantity} (h : a ≤ b) (h' : b ≤ c) : a ≤ c := by
  rcases a with x | s | n <;> rcases b with y | t | m <;>
    rcases c with z | u | k <;> simp_all
  case rational.rational.rational => exact h.trans h'
  case infinite.infinite.infinite =>
    rcases h with h | h
    · exact .inl h
    · rcases h' with h' | h'
      · exact absurd (h.symm.trans h') (by decide)
      · exact .inr h'

/-- Quantities that are at most each other are the same. -/
protected theorem le_antisymm {a b : Quantity} (h : a ≤ b)
    (h' : b ≤ a) : a = b := by
  rcases a with x | s | n <;> rcases b with y | t | m <;> simp_all
  case rational.rational => exact h.antisymm h'
  case infinite.infinite => cases s <;> cases t <;> simp_all

/-- Quantities change their order on the other side of zero. -/
theorem opposite_le_opposite {a b : Quantity} (h : a ≤ b) :
    b.opposite ≤ a.opposite := by
  rcases a with x | s | n <;> rcases b with y | t | m <;> simp [opposite] at h ⊢
  case rational.rational => exact h
  case rational.infinite => exact h
  case infinite.rational => exact h
  case infinite.infinite => exact h.symm

/-- What is defined is on one side of zero. -/
theorem le_total_zero {a : Quantity} (h : a ≤ a) :
    a ≤ rational 0 ∨ rational 0 ≤ a := by
  rcases a with x | s | n
  · exact le_total x 0
  · cases s <;> simp
  · exact absurd h not_undefined_le

/-- The larger of two quantities is the one that is at least the other. -/
theorem larger_cases {a b c : Quantity} (h : larger a b = .ok c) :
    a ≤ b ∧ c = b ∨ b ≤ a ∧ c = a := by
  rw [larger] at h
  rcases e : compare? a b with - | o
  · rw [e] at h
    cases h
  · rw [e] at h
    obtain rfl := Except.ok.inj h
    rcases eq_or_ne o .lt with rfl | other
    · exact .inl ⟨le_iff_compare?.mpr ⟨.lt, e, by decide⟩, if_pos rfl⟩
    · exact .inr ⟨le_of_compare? e other, if_neg other⟩

theorem le_larger_left {a b c : Quantity} (h : larger a b = .ok c) : a ≤ c := by
  rcases larger_cases h with ⟨side, rfl⟩ | ⟨side, rfl⟩
  · exact side
  · exact le_refl_right side

theorem le_larger_right {a b c : Quantity} (h : larger a b = .ok c) : b ≤ c := by
  rcases larger_cases h with ⟨side, rfl⟩ | ⟨side, rfl⟩
  · exact le_refl_right side
  · exact side

theorem larger_rational (x y : ℚ) :
    larger (rational x) (rational y) = .ok (rational (max x y)) := by
  show Except.ok (if compare x y = .lt then rational y else rational x) = _
  split
  case isTrue below => rw [max_eq_right (compare_lt_iff_lt.mp below).le]
  case isFalse above =>
    rw [max_eq_left (not_lt.mp fun below =>
      above (compare_lt_iff_lt.mpr below))]

theorem smaller_rational (x y : ℚ) :
    smaller (rational x) (rational y) = .ok (rational (min x y)) := by
  show Except.ok (if compare y x = .lt then rational y else rational x) = _
  split
  case isTrue below => rw [min_eq_right (compare_lt_iff_lt.mp below).le]
  case isFalse above =>
    rw [min_eq_left (not_lt.mp fun below =>
      above (compare_lt_iff_lt.mpr below))]

theorem smaller_le_right {a b c : Quantity} (h : smaller a b = .ok c) : c ≤ b := by
  -- the smaller of two is the larger one on the other side of zero
  have mirror : larger a.opposite b.opposite = .ok c.opposite := by
    rw [larger_opposite, h]
    rfl
  have above := opposite_le_opposite (le_larger_right mirror)
  rwa [opposite_opposite, opposite_opposite] at above

theorem smaller_le_left {a b c : Quantity} (h : smaller a b = .ok c) : c ≤ a := by
  have mirror : larger a.opposite b.opposite = .ok c.opposite := by
    rw [larger_opposite, h]
    rfl
  have above := opposite_le_opposite (le_larger_left mirror)
  rwa [opposite_opposite, opposite_opposite] at above

/-- The larger of two quantities is at most what both are at most. -/
theorem larger_le {a b c d : Quantity} (ha : a ≤ d) (hb : b ≤ d)
    (h : larger a b = .ok c) : c ≤ d := by
  rcases larger_cases h with ⟨-, rfl⟩ | ⟨-, rfl⟩
  · exact hb
  · exact ha

theorem larger_mono {a b c a' b' c' : Quantity} (ha : a ≤ a') (hb : b ≤ b')
    (h : larger a b = .ok c) (h' : larger a' b' = .ok c') : c ≤ c' := by
  rcases larger_cases h with ⟨-, rfl⟩ | ⟨-, rfl⟩ <;>
    rcases larger_cases h' with ⟨side, rfl⟩ | ⟨side, rfl⟩
  · exact hb
  · exact Quantity.le_trans hb side
  · exact Quantity.le_trans ha side
  · exact ha

/-! ### What is defined

A quantity is defined when it has a place in the order, that is, when it is at
most itself. -/

theorem not_defined_undefinedResult {a b c : Quantity}
    (h : undefinedResult a b = .ok c) : ¬ c ≤ c := by
  rw [undefinedResult] at h
  split at h
  · cases h
  · obtain rfl := Except.ok.inj h
    exact not_undefined_le

/-- A defined sum has defined operands. -/
theorem defined_of_add {a b c : Quantity} (h : add a b = .ok c)
    (defined : c ≤ c) : a ≤ a ∧ b ≤ b := by
  rcases a with x | s | n
  case undefined =>
    rw [undefined_add] at h
    exact absurd defined (not_defined_undefinedResult h)
  all_goals
    rcases b with y | t | m
    case undefined =>
      rw [add_undefined] at h
      exact absurd defined (not_defined_undefinedResult h)
    all_goals simp

/-- A defined product has defined factors. -/
theorem defined_of_mul {a b c : Quantity} (h : mul a b = .ok c)
    (defined : c ≤ c) : a ≤ a ∧ b ≤ b := by
  rcases a with x | s | n
  case undefined =>
    rw [undefined_mul] at h
    exact absurd defined (not_defined_undefinedResult h)
  all_goals
    rcases b with y | t | m
    case undefined =>
      rw [mul_undefined] at h
      exact absurd defined (not_defined_undefinedResult h)
    all_goals simp

/-- A defined magnitude is that of something defined. -/
theorem defined_of_abs {a c : Quantity} (h : abs a = .ok c)
    (defined : c ≤ c) : a ≤ a := by
  rcases a with x | s | n
  · exact rational_le_rational.mpr le_rfl
  · cases s <;> simp
  · exact absurd defined (not_defined_undefinedResult h)

/-! ### Monotony -/

theorem ofRational_eq {x : ℚ} {a : Quantity} (h : ofRational x = .ok a) :
    a = rational (rounded x) := by
  rw [ofRational] at h
  split at h
  · exact (Except.ok.inj h).symm
  · cases h

theorem ofRational_mono {x y : ℚ} {a b : Quantity} (hxy : x ≤ y)
    (ha : ofRational x = .ok a) (hb : ofRational y = .ok b) : a ≤ b := by
  obtain rfl := ofRational_eq ha
  obtain rfl := ofRational_eq hb
  exact rounded_mono hxy

/-- A sum of defined quantities is rational, or it is infinite on the side on
which an operand is. -/
theorem add_cases {a b c : Quantity} (ha : a ≤ a) (hb : b ≤ b)
    (h : add a b = .ok c) :
    (∃ x y, a = rational x ∧ b = rational y ∧ ofRational (x + y) = .ok c) ∨
      ∃ s, c = infinite s ∧ (a = infinite s ∨ b = infinite s) ∧
        (∀ t, a = infinite t → t = s) ∧ ∀ t, b = infinite t → t = s := by
  rcases a with x | s | n <;> rcases b with y | t | m <;> simp at ha hb
  case rational.rational => exact .inl ⟨x, y, rfl, rfl, h⟩
  case rational.infinite =>
    obtain rfl := Except.ok.inj h
    exact .inr ⟨t, rfl, .inr rfl, by simp, by simp⟩
  case infinite.rational =>
    obtain rfl := Except.ok.inj h
    exact .inr ⟨s, rfl, .inl rfl, by simp, by simp⟩
  case infinite.infinite =>
    rcases eq_or_ne s t with rfl | differ
    · rw [add, if_pos rfl] at h
      obtain rfl := Except.ok.inj h
      exact .inr ⟨s, rfl, .inl rfl, by simp, by simp⟩
    · rw [add, if_neg differ] at h
      cases h

/-- A sum grows with its operands. -/
theorem add_mono {a b c a' b' c' : Quantity} (ha : a ≤ a') (hb : b ≤ b')
    (h : add a b = .ok c) (h' : add a' b' = .ok c') : c ≤ c' := by
  rcases add_cases (le_refl_left ha) (le_refl_left hb) h with
      ⟨x, y, rfl, rfl, sum⟩ | ⟨s, rfl, side, sideA, sideB⟩ <;>
    rcases add_cases (le_refl_right ha) (le_refl_right hb) h' with
      ⟨x', y', rfl, rfl, sum'⟩ | ⟨s', rfl, side', sideA', sideB'⟩
  · exact ofRational_mono (add_le_add ha hb) sum sum'
  · obtain rfl := ofRational_eq sum
    rcases side' with rfl | rfl
    · exact ha
    · exact hb
  · obtain rfl := ofRational_eq sum'
    rcases side with rfl | rfl
    · exact ha
    · exact hb
  · -- an upper infinity in the lower sum makes its operand, and so the larger
    -- one, an upper infinity
    rw [infinite_le_infinite]
    cases s
    · right
      rcases side with rfl | rfl
      · rcases a' with x' | t | n <;> simp at ha
        exact ((sideA' t rfl).symm.trans ha)
      · rcases b' with x' | t | n <;> simp at hb
        exact ((sideB' t rfl).symm.trans hb)
    · exact .inl rfl

/-- A product of quantities on the upper side is rational, or an operand is
infinite and so is the product. -/
theorem mul_cases_of_nonneg {a b c : Quantity} (ha : rational 0 ≤ a)
    (hb : rational 0 ≤ b) (h : mul a b = .ok c) :
    (∃ x y, a = rational x ∧ b = rational y ∧ 0 ≤ x ∧ 0 ≤ y ∧
      ofRational (x * y) = .ok c) ∨
      c = infinite false ∧ (a = infinite false ∨ b = infinite false) := by
  rcases a with x | s | n <;> rcases b with y | t | m <;> simp at ha hb
  case rational.rational => exact .inl ⟨x, y, rfl, rfl, ha, hb, h⟩
  case rational.infinite =>
    obtain rfl := hb
    rw [mul, decide_eq_false (not_lt.mpr ha)] at h
    split at h
    · cases h
    · exact .inr ⟨(Except.ok.inj h).symm, .inr rfl⟩
  case infinite.rational =>
    obtain rfl := ha
    rw [mul, decide_eq_false (not_lt.mpr hb)] at h
    split at h
    · cases h
    · exact .inr ⟨(Except.ok.inj h).symm, .inl rfl⟩
  case infinite.infinite =>
    obtain rfl := ha
    obtain rfl := hb
    exact .inr ⟨(Except.ok.inj h).symm, .inl rfl⟩

/-- On the upper side a product grows with its factors. -/
theorem mul_mono_of_nonneg {a b c a' b' c' : Quantity} (ha : rational 0 ≤ a)
    (hb : rational 0 ≤ b) (haa : a ≤ a') (hbb : b ≤ b') (h : mul a b = .ok c)
    (h' : mul a' b' = .ok c') : c ≤ c' := by
  have ha' := Quantity.le_trans ha haa
  have hb' := Quantity.le_trans hb hbb
  rcases mul_cases_of_nonneg ha hb h with ⟨x, y, rfl, rfl, hx, hy, product⟩
    | ⟨rfl, side⟩ <;>
    rcases mul_cases_of_nonneg ha' hb' h'
      with ⟨x', y', rfl, rfl, hx', hy', product'⟩ | ⟨rfl, side'⟩
  · exact ofRational_mono (mul_le_mul haa hbb hy hx') product product'
  · obtain rfl := ofRational_eq product
    simp
  · rcases side with rfl | rfl
    · exact absurd haa (by simp)
    · exact absurd hbb (by simp)
  · simp

protected theorem mul_nonneg {a b c : Quantity} (ha : rational 0 ≤ a)
    (hb : rational 0 ≤ b) (h : mul a b = .ok c) : rational 0 ≤ c := by
  rcases mul_cases_of_nonneg ha hb h with ⟨x, y, rfl, rfl, hx, hy, product⟩
    | ⟨rfl, -⟩
  · obtain rfl := ofRational_eq product
    exact rounded_nonneg (mul_nonneg hx hy)
  · simp

/-- Magnitudes of what is defined are on the upper side. -/
protected theorem abs_nonneg {a c : Quantity} (defined : a ≤ a)
    (h : abs a = .ok c) : rational 0 ≤ c := by
  rcases a with x | s | n
  · obtain rfl := ofRational_eq h
    exact rounded_nonneg (abs_nonneg x)
  · obtain rfl := Except.ok.inj h
    simp
  · exact absurd defined not_undefined_le

protected theorem mul_comm (a b : Quantity) : mul a b = mul b a := by
  have results (a b : Quantity) : undefinedResult a b = undefinedResult b a := by
    rw [undefinedResult, undefinedResult, Bool.or_comm]
  rcases a with x | s | n <;> rcases b with y | t | m
  case rational.rational =>
    show ofRational (x * y) = ofRational (y * x)
    rw [mul_comm x y]
  case rational.infinite | infinite.rational => simp only [mul, bne_comm]
  case infinite.infinite => simp only [mul, bne_comm]
  case rational.undefined | infinite.undefined =>
    rw [mul_undefined, undefined_mul]
    exact results _ _
  all_goals
    rw [undefined_mul, mul_undefined]
    exact results _ _

theorem mul_opposite_ok {a b c : Quantity} (h : mul a b = .ok c) :
    mul a b.opposite = .ok c.opposite := by
  rw [mul_opposite, h]
  rfl

protected theorem mul_nonpos {a b c : Quantity} (ha : rational 0 ≤ a)
    (hb : b ≤ rational 0) (h : mul a b = .ok c) : c ≤ rational 0 := by
  have hb' := opposite_le_opposite hb
  rw [opposite_zero] at hb'
  have mirror :=
    opposite_le_opposite (Quantity.mul_nonneg ha hb' (mul_opposite_ok h))
  rwa [opposite_opposite, opposite_zero] at mirror

/-- A product with a first factor on the upper side grows with its second
factor, on either side. -/
theorem mul_mono_right {a b c b' c' : Quantity} (ha : rational 0 ≤ a)
    (hbb : b ≤ b') (h : mul a b = .ok c) (h' : mul a b' = .ok c') : c ≤ c' := by
  have reflA := le_refl_right ha
  -- below zero the law is that of the upper side, mirrored; across zero the
  -- products have different signs
  rcases le_total_zero (le_refl_left hbb) with low | high
  · rcases le_total_zero (le_refl_right hbb) with low' | high'
    · have high := opposite_le_opposite low'
      rw [opposite_zero] at high
      have mirror := opposite_le_opposite
        (mul_mono_of_nonneg ha high reflA (opposite_le_opposite hbb)
          (mul_opposite_ok h') (mul_opposite_ok h))
      rwa [opposite_opposite, opposite_opposite] at mirror
    · exact Quantity.le_trans (Quantity.mul_nonpos ha low h)
        (Quantity.mul_nonneg ha high' h')
  · exact mul_mono_of_nonneg ha high reflA hbb h h'

end Quantity

end ScenarioMargin
