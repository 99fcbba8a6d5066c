/-
ScenarioMargin/Proofs/Decimal/Grid.lean

Rounding as a function on the rational numbers.  Around a number `x` the
working precision leaves the multiples of `10 ^ grain x`: the grain keeps
`precision` digits, but is never below the smallest exponent there is.
`rounded x` is the nearest of these multiples, a half going to the even one.

Main results: `rounded` is odd (`rounded_neg`) and monotone (`rounded_mono`,
across the places where the grain changes), it fixes what fits the precision
(`rounded_of_fits`), and it cannot tell numbers apart that lie between the same
two half steps of a finer grid (`rounded_eq_of_between`).  The last law is what
allows a sum to replace a far lower operand by a single digit
(`rounded_add_eq`, `rounded_sub_eq`).
-/
import Mathlib.Data.Int.Log
import Mathlib.Data.Rat.Floor
import Mathlib.Tactic
import ScenarioMargin.Decimal.Rounding

namespace ScenarioMargin

/-! ### The nearest whole number -/

/-- The nearest whole number, a half going to the even one. -/
def nearestEven (x : ℚ) : ℤ :=
  if Int.fract x < 1 / 2 then ⌊x⌋
  else if 1 / 2 < Int.fract x then ⌊x⌋ + 1
  else ⌊x⌋ + ⌊x⌋ % 2

/-- `nearestEven x` is nearer than a half, or a half away and even. -/
theorem nearestEven_spec (x : ℚ) :
    |x - nearestEven x| < 1 / 2 ∨ |x - nearestEven x| = 1 / 2 ∧
      nearestEven x % 2 = 0 := by
  have split := Int.floor_add_fract x
  have low := Int.fract_nonneg x
  have high := Int.fract_lt_one x
  unfold nearestEven
  split_ifs with below above
  · left
    rw [abs_lt]
    constructor <;> linarith
  · left
    push_cast
    rw [abs_lt]
    constructor <;> linarith
  · right
    have half : Int.fract x = 1 / 2 :=
      le_antisymm (not_lt.mp above) (not_lt.mp below)
    rcases Int.emod_two_eq_zero_or_one ⌊x⌋ with even | odd
    · rw [even]
      refine ⟨?_, by omega⟩
      have offset : x - ((⌊x⌋ + 0 : ℤ) : ℚ) = 1 / 2 := by push_cast; linarith
      rw [offset, abs_of_pos (by norm_num)]
    · rw [odd]
      refine ⟨?_, by omega⟩
      have offset : x - ((⌊x⌋ + 1 : ℤ) : ℚ) = -(1 / 2) := by push_cast; linarith
      rw [offset, abs_neg, abs_of_pos (by norm_num)]

theorem abs_sub_nearestEven_le (x : ℚ) : |x - nearestEven x| ≤ 1 / 2 := by
  rcases nearestEven_spec x with h | h
  · exact h.le
  · exact h.1.le

/-- There is only one such whole number. -/
theorem nearestEven_eq {x : ℚ} {n : ℤ}
    (h : |x - n| < 1 / 2 ∨ |x - n| = 1 / 2 ∧ n % 2 = 0) :
    nearestEven x = n := by
  have near := abs_sub_nearestEven_le x
  have near' : |x - n| ≤ 1 / 2 := by
    rcases h with h | h
    · exact h.le
    · exact h.1.le
  have gap : |((nearestEven x - n : ℤ) : ℚ)| ≤ 1 := by
    rw [abs_le] at near near' ⊢
    push_cast
    constructor <;> linarith
  have gap' : |nearestEven x - n| ≤ 1 := by exact_mod_cast gap
  rcases eq_or_ne (nearestEven x) n with same | differ
  · exact same
  · -- two candidates one apart are both a half away, and only one of them is
    -- even
    exfalso
    have one : |nearestEven x - n| = 1 := by
      have := abs_pos.mpr (sub_ne_zero.mpr differ)
      omega
    have oneQ : |((nearestEven x : ℚ) - n)| = 1 := by exact_mod_cast one
    have triangle : |((nearestEven x : ℚ) - n)| ≤
        |x - nearestEven x| + |x - n| := by
      have := abs_sub_le (nearestEven x : ℚ) x n
      rwa [abs_sub_comm (nearestEven x : ℚ) x] at this
    have half : |x - nearestEven x| = 1 / 2 := by linarith
    have half' : |x - n| = 1 / 2 := by linarith
    have even : nearestEven x % 2 = 0 := by
      rcases nearestEven_spec x with h | h
      · exact absurd half h.ne
      · exact h.2
    have even' : n % 2 = 0 := by
      rcases h with h | h
      · exact absurd half' h.ne
      · exact h.2
    rcases abs_eq (by norm_num : (0 : ℤ) ≤ 1) |>.mp one with up | down <;> omega

@[simp] theorem nearestEven_intCast (n : ℤ) : nearestEven n = n :=
  nearestEven_eq (.inl (by simp))

theorem nearestEven_neg (x : ℚ) : nearestEven (-x) = -nearestEven x := by
  apply nearestEven_eq
  have mirror : |-x - ((-nearestEven x : ℤ) : ℚ)| = |x - nearestEven x| := by
    rw [← abs_neg]
    congr 1
    push_cast
    ring
  rw [mirror]
  rcases nearestEven_spec x with h | h
  · exact .inl h
  · exact .inr ⟨h.1, by omega⟩

theorem nearestEven_mono {x y : ℚ} (h : x ≤ y) : nearestEven x ≤ nearestEven y := by
  have near := abs_sub_nearestEven_le x
  have near' := abs_sub_nearestEven_le y
  by_contra higher
  -- the nearest numbers could only be a whole one apart if both halves met,
  -- and then `x` is `y`
  have step : nearestEven y + 1 ≤ nearestEven x := by omega
  have stepQ : ((nearestEven y : ℚ) + 1) ≤ nearestEven x := by exact_mod_cast step
  rw [abs_le] at near near'
  have same : x = y := by linarith
  rw [same] at higher
  exact higher le_rfl

/-- Between two neighbouring halves of whole numbers the nearest whole number
does not change. -/
theorem nearestEven_eq_of_between {x : ℚ} {m : ℤ} (low : (m : ℚ) / 2 < x)
    (high : x < ((m : ℚ) + 1) / 2) : nearestEven x = (m + 1) / 2 := by
  apply nearestEven_eq
  left
  rcases Int.emod_two_eq_zero_or_one m with even | odd
  · have half : (m + 1) / 2 = m / 2 := by omega
    have twice : ((m / 2 : ℤ) : ℚ) * 2 = m := by
      exact_mod_cast (by omega : m / 2 * 2 = m)
    rw [half, abs_lt]
    constructor <;> linarith
  · have twice : (((m + 1) / 2 : ℤ) : ℚ) * 2 = m + 1 := by
      exact_mod_cast (by omega : (m + 1) / 2 * 2 = m + 1)
    rw [abs_lt]
    constructor <;> linarith

/-! ### Powers of ten -/

theorem tenPow_pos (k : ℤ) : (0 : ℚ) < 10 ^ k :=
  zpow_pos (by norm_num) k

theorem tenPow_le_iff {x : ℚ} (hx : 0 < x) (k : ℤ) : (10 : ℚ) ^ k ≤ x ↔
    k ≤ Int.log 10 x := by
  have h := Int.zpow_le_iff_le_log (b := 10) (by norm_num) (x := k) hx
  exact_mod_cast h

theorem lt_tenPow_iff {x : ℚ} (hx : 0 < x) (k : ℤ) : x < (10 : ℚ) ^ k ↔
    Int.log 10 x < k := by
  have h := Int.lt_zpow_iff_log_lt (b := 10) (by norm_num) (x := k) hx
  exact_mod_cast h

theorem tenPow_add (j k : ℤ) : (10 : ℚ) ^ (j + k) = 10 ^ j * 10 ^ k :=
  zpow_add₀ (by norm_num) j k

theorem tenPow_natCast_add (n : ℕ) (k : ℤ) :
    (10 : ℚ) ^ ((n : ℤ) + k) = 10 ^ n * 10 ^ k := by
  rw [tenPow_add, zpow_natCast]

theorem tenPow_add_one (k : ℤ) : (10 : ℚ) ^ (k + 1) = 10 ^ k * 10 :=
  zpow_add_one₀ (by norm_num) k

/-- A power of ten is a whole number of each lower one. -/
theorem tenPow_eq_mul {j k : ℤ} (h : j ≤ k) :
    (10 : ℚ) ^ k = ((10 ^ (k - j).toNat : ℤ) : ℚ) * 10 ^ j := by
  push_cast
  rw [← zpow_natCast, ← tenPow_add]
  congr 1
  omega

/-- A power as a fraction of whole powers. -/
theorem zpow_eq_div (b : ℚ) (p : ℤ) : b ^ p = b ^ p.toNat / b ^ (-p).toNat := by
  rcases le_total 0 p with h | h
  · obtain ⟨n, rfl⟩ := Int.eq_ofNat_of_zero_le h
    simp
  · obtain ⟨n, hn⟩ := Int.eq_ofNat_of_zero_le (neg_nonneg.mpr h)
    obtain rfl : p = -n := by omega
    simp

/-! ### Grain and rounding -/

/-- The exponent of the last digit that the working precision keeps of a
number. -/
def grain (x : ℚ) : ℤ :=
  max (Int.log 10 |x| + 1 - Decimal.precision) Decimal.tinyExponent

/-- The nearest number that the working precision has at this magnitude, a half
going to the even digit. -/
def rounded (x : ℚ) : ℚ :=
  nearestEven (x / 10 ^ grain x) * 10 ^ grain x

@[simp] theorem grain_neg (x : ℚ) : grain (-x) = grain x := by
  rw [grain, grain, abs_neg]

theorem rounded_neg (x : ℚ) : rounded (-x) = -rounded x := by
  rw [rounded, rounded, grain_neg, neg_div, nearestEven_neg]
  push_cast
  ring

/-- Rounding moves a number by at most half a grain. -/
theorem abs_sub_rounded_le (x : ℚ) : |x - rounded x| ≤ 10 ^ grain x / 2 := by
  have pos := tenPow_pos (grain x)
  have split : x - rounded x =
      (x / 10 ^ grain x - nearestEven (x / 10 ^ grain x)) * 10 ^ grain x := by
    rw [rounded, sub_mul, div_mul_cancel₀ _ pos.ne']
  rw [split, abs_mul, abs_of_pos pos]
  have near := mul_le_mul_of_nonneg_right
    (abs_sub_nearestEven_le (x / 10 ^ grain x)) pos.le
  linarith

/-- A multiple of a coarser power of ten is a whole number of grains. -/
theorem grid_div {k g : ℤ} (n : ℤ) (h : g ≤ k) :
    (n : ℚ) * 10 ^ k / 10 ^ g = ((n * 10 ^ (k - g).toNat : ℤ) : ℚ) := by
  have pos := tenPow_pos g
  rw [tenPow_eq_mul h]
  field_simp
  push_cast
  ring

/-- Rounding up does not pass a multiple of a coarser power of ten. -/
theorem rounded_le_grid {x : ℚ} {k n : ℤ} (hk : grain x ≤ k) (h : x ≤ n * 10 ^ k) :
    rounded x ≤ n * 10 ^ k := by
  have pos := tenPow_pos (grain x)
  have scaled : x / 10 ^ grain x ≤ ((n * 10 ^ (k - grain x).toNat : ℤ) : ℚ) := by
    rw [← grid_div n hk]
    exact div_le_div_of_nonneg_right h pos.le
  have near := nearestEven_mono scaled
  rw [nearestEven_intCast] at near
  calc rounded x ≤ ((n * 10 ^ (k - grain x).toNat : ℤ) : ℚ) * 10 ^ grain x :=
        mul_le_mul_of_nonneg_right (by exact_mod_cast near) pos.le
    _ = n * 10 ^ k := by rw [← grid_div n hk, div_mul_cancel₀ _ pos.ne']

/-- Rounding down does not pass a multiple of a coarser power of ten. -/
theorem grid_le_rounded {x : ℚ} {k n : ℤ} (hk : grain x ≤ k) (h : n * 10 ^ k ≤ x) :
    n * 10 ^ k ≤ rounded x := by
  -- rounding down is rounding up on the other side of zero
  have mirror := rounded_le_grid (x := -x) (k := k) (n := -n)
    (by rwa [grain_neg]) (by push_cast; linarith)
  rw [rounded_neg] at mirror
  push_cast at mirror
  linarith

/-- Multiples of a coarser power of ten stay as they are. -/
theorem rounded_grid {k n : ℤ} (hk : grain (n * 10 ^ k) ≤ k) :
    rounded (n * 10 ^ k) = n * 10 ^ k :=
  le_antisymm (rounded_le_grid hk le_rfl) (grid_le_rounded hk le_rfl)

@[simp] theorem rounded_zero : rounded 0 = 0 := by
  have h := rounded_grid (k := grain 0) (n := 0) (by simp)
  simpa using h

theorem rounded_nonneg {x : ℚ} (h : 0 ≤ x) : 0 ≤ rounded x := by
  have := grid_le_rounded (x := x) (n := 0) le_rfl (by simpa using h)
  simpa using this

theorem rounded_nonpos {x : ℚ} (h : x ≤ 0) : rounded x ≤ 0 := by
  have := rounded_le_grid (x := x) (n := 0) le_rfl (by simpa using h)
  simpa using this

/-! ### Monotony -/

theorem rounded_mono_of_pos {x y : ℚ} (hx : 0 < x) (h : x ≤ y) :
    rounded x ≤ rounded y := by
  have hy : 0 < y := hx.trans_le h
  have logs : Int.log 10 x ≤ Int.log 10 y := Int.log_mono_right hx h
  have grains : grain x ≤ grain y := by
    rw [grain, grain, abs_of_pos hx, abs_of_pos hy]
    omega
  rcases grains.eq_or_lt with same | finer
  · have pos := tenPow_pos (grain y)
    rw [rounded, rounded, same]
    apply mul_le_mul_of_nonneg_right _ pos.le
    exact_mod_cast nearestEven_mono (div_le_div_of_nonneg_right h pos.le)
  · -- a power of ten lies between the two, and is a multiple of both grains
    have coarse : grain y ≤ Int.log 10 y := by
      rw [grain, grain, abs_of_pos hx, abs_of_pos hy] at finer
      rw [grain, abs_of_pos hy, Decimal.precision] at *
      omega
    have above : x < 10 ^ Int.log 10 y := by
      rw [lt_tenPow_iff hx]
      rw [grain, grain, abs_of_pos hx, abs_of_pos hy] at finer
      omega
    have below : (10 : ℚ) ^ Int.log 10 y ≤ y := (tenPow_le_iff hy _).mpr le_rfl
    calc rounded x ≤ ((1 : ℤ) : ℚ) * 10 ^ Int.log 10 y :=
          rounded_le_grid (finer.le.trans coarse) (by push_cast; linarith)
      _ ≤ rounded y := grid_le_rounded coarse (by push_cast; linarith)

/-- A larger number does not round to a smaller one. -/
theorem rounded_mono {x y : ℚ} (h : x ≤ y) : rounded x ≤ rounded y := by
  rcases lt_or_ge 0 x with hx | hx
  · exact rounded_mono_of_pos hx h
  · rcases le_or_gt 0 y with hy | hy
    · exact (rounded_nonpos hx).trans (rounded_nonneg hy)
    · have mirror := rounded_mono_of_pos (neg_pos.mpr hy) (neg_le_neg h)
      rw [rounded_neg, rounded_neg] at mirror
      linarith

/-! ### Magnitudes -/

theorem abs_rounded (x : ℚ) : |rounded x| = rounded |x| := by
  rcases le_total 0 x with h | h
  · rw [abs_of_nonneg h, abs_of_nonneg (rounded_nonneg h)]
  · rw [abs_of_nonpos h, abs_of_nonpos (rounded_nonpos h), rounded_neg]

@[simp] theorem grain_abs (x : ℚ) : grain |x| = grain x := by
  rw [grain, grain, abs_abs]

/-- A rounded number has at most `precision` digits above its grain, or is the
next power of ten. -/
theorem abs_rounded_le (x : ℚ) :
    |rounded x| ≤ 10 ^ ((Decimal.precision : ℤ) + grain x) := by
  rcases eq_or_ne x 0 with rfl | nonzero
  · rw [rounded_zero, abs_zero]
    exact (tenPow_pos _).le
  have size : |x| ≤ ((1 : ℤ) : ℚ) * 10 ^ ((Decimal.precision : ℤ) + grain x) := by
    rw [Int.cast_one, one_mul]
    apply le_of_lt
    rw [lt_tenPow_iff (abs_pos.mpr nonzero), grain]
    omega
  have bound := rounded_le_grid (x := |x|) (by rw [grain_abs]; omega) size
  rwa [← abs_rounded, Int.cast_one, one_mul] at bound

/-- Rounding does not pass a power of ten that is no finer than the grain. -/
theorem tenPow_le_abs_rounded {x : ℚ} {k : ℤ} (hk : grain x ≤ k)
    (h : (10 : ℚ) ^ k ≤ |x|) : (10 : ℚ) ^ k ≤ |rounded x| := by
  have bound := grid_le_rounded (x := |x|) (k := k) (n := 1)
    (by rwa [grain_abs]) (by rwa [Int.cast_one, one_mul])
  rwa [← abs_rounded, Int.cast_one, one_mul] at bound

/-! ### What fits the precision -/

/-- A number with at most `precision` digits, the last of them not below the
smallest exponent. -/
def FitsDigits (x : ℚ) : Prop :=
  ∃ n k : ℤ, x = n * 10 ^ k ∧ |n| < 10 ^ Decimal.precision ∧
    Decimal.tinyExponent ≤ k

theorem rounded_of_fits {x : ℚ} (h : FitsDigits x) : rounded x = x := by
  obtain ⟨n, k, rfl, digits, tiny⟩ := h
  rcases eq_or_ne n 0 with rfl | nonzero
  · simp
  apply rounded_grid
  have pos : 0 < |(n : ℚ) * 10 ^ k| :=
    abs_pos.mpr (mul_ne_zero (by exact_mod_cast nonzero) (tenPow_pos k).ne')
  have bound : |(n : ℚ) * 10 ^ k| < 10 ^ ((Decimal.precision : ℤ) + k) := by
    rw [abs_mul, abs_of_pos (tenPow_pos k), tenPow_natCast_add]
    apply mul_lt_mul_of_pos_right _ (tenPow_pos k)
    exact_mod_cast digits
  have log := (lt_tenPow_iff pos _).mp bound
  rw [grain]
  omega

/-- What was rounded has at most `precision` digits. -/
theorem fitsDigits_rounded (x : ℚ) : FitsDigits (rounded x) := by
  have tiny : Decimal.tinyExponent ≤ grain x := le_max_right _ _
  have bound := abs_rounded_le x
  rw [rounded, abs_mul, abs_of_pos (tenPow_pos _), tenPow_natCast_add] at bound
  have atMost := le_of_mul_le_mul_right bound (tenPow_pos _)
  have atMostZ : |nearestEven (x / 10 ^ grain x)| ≤ 10 ^ Decimal.precision := by
    exact_mod_cast atMost
  rcases atMostZ.lt_or_eq with digits | carry
  · exact ⟨_, _, rfl, digits, tiny⟩
  · -- the next power of ten has one digit
    rcases (abs_eq (by positivity)).mp carry with up | down
    · refine ⟨1, Decimal.precision + grain x, ?_, by decide, by omega⟩
      rw [rounded, up, tenPow_natCast_add]
      push_cast
      ring
    · refine ⟨-1, Decimal.precision + grain x, ?_, by decide, by omega⟩
      rw [rounded, down, tenPow_natCast_add]
      push_cast
      ring

/-- Rounding twice is rounding once. -/
theorem rounded_rounded (x : ℚ) : rounded (rounded x) = rounded x :=
  rounded_of_fits (fitsDigits_rounded x)

/-! ### Numbers that rounding cannot tell apart -/

section Between

variable {x y : ℚ} {k m : ℤ}

/-- Between neighbouring half steps the comparison with a power of ten does not
change. -/
theorem tenPow_le_of_between (hm : 1 ≤ m) (low : (m : ℚ) * (10 ^ k / 2) < x)
    (high : y < ((m : ℚ) + 1) * (10 ^ k / 2))
    (low' : (m : ℚ) * (10 ^ k / 2) < y) (j : ℤ) (h : (10 : ℚ) ^ j ≤ y) :
    (10 : ℚ) ^ j ≤ x := by
  have pos := tenPow_pos k
  have hmQ : (1 : ℚ) ≤ m := by exact_mod_cast hm
  rcases lt_or_ge j k with lower | higher
  · -- a power below the step is below the whole interval
    have tenth : (10 : ℚ) ^ j ≤ 10 ^ k / 2 := by
      have step : (10 : ℚ) ^ (j + 1) ≤ 10 ^ k :=
        zpow_le_zpow_right₀ (by norm_num) (by omega)
      rw [tenPow_add_one] at step
      have := tenPow_pos j
      linarith
    have first : (10 : ℚ) ^ k / 2 ≤ m * (10 ^ k / 2) :=
      le_mul_of_one_le_left (by positivity) hmQ
    linarith
  · -- a power above it is a whole number of half steps
    rw [tenPow_eq_mul higher] at h ⊢
    set n : ℤ := 10 ^ (j - k).toNat
    have less : (n : ℚ) * 2 < m + 1 := by
      by_contra more
      have : ((m : ℚ) + 1) * (10 ^ k / 2) ≤ n * 10 ^ k := by nlinarith
      linarith
    have lessZ : n * 2 < m + 1 := by exact_mod_cast less
    have atMost : (n : ℚ) * 2 ≤ m := by exact_mod_cast (by omega : n * 2 ≤ m)
    have : (n : ℚ) * 10 ^ k ≤ m * (10 ^ k / 2) := by nlinarith
    linarith

/-- Numbers between the same two neighbouring half steps of a grid that is no
coarser than their own round alike. -/
theorem rounded_eq_of_between (hm : 1 ≤ m) (hk : k ≤ grain x)
    (lowX : (m : ℚ) * (10 ^ k / 2) < x) (highX : x < ((m : ℚ) + 1) * (10 ^ k / 2))
    (lowY : (m : ℚ) * (10 ^ k / 2) < y) (highY : y < ((m : ℚ) + 1) * (10 ^ k / 2)) :
    rounded x = rounded y := by
  have pos := tenPow_pos k
  have hmQ : (1 : ℚ) ≤ m := by exact_mod_cast hm
  have floor : 0 < (m : ℚ) * (10 ^ k / 2) := by positivity
  have hx : 0 < x := floor.trans lowX
  have hy : 0 < y := floor.trans lowY
  have logs : Int.log 10 x = Int.log 10 y := by
    apply le_antisymm
    · exact (tenPow_le_iff hy _).mp
        (tenPow_le_of_between hm lowY highX lowX _
          ((tenPow_le_iff hx _).mpr le_rfl))
    · exact (tenPow_le_iff hx _).mp
        (tenPow_le_of_between hm lowX highY lowY _
          ((tenPow_le_iff hy _).mpr le_rfl))
  have grains : grain x = grain y := by
    rw [grain, grain, abs_of_pos hx, abs_of_pos hy, logs]
  -- in grains, both lie between the same two neighbouring halves
  set n : ℤ := 10 ^ (grain x - k).toNat with hn
  have grainEq : (10 : ℚ) ^ grain x = n * 10 ^ k := tenPow_eq_mul hk
  have nPos : 0 < n := by positivity
  have nPosQ : (0 : ℚ) < n := by exact_mod_cast nPos
  have division : n * (m / n) + m % n = m := Int.mul_ediv_add_emod m n
  have divisionQ : (n : ℚ) * (m / n : ℤ) + (m % n : ℤ) = m := by
    exact_mod_cast division
  have restLow : (0 : ℚ) ≤ (m % n : ℤ) := by
    exact_mod_cast Int.emod_nonneg m nPos.ne'
  have restHigh : ((m % n : ℤ) : ℚ) + 1 ≤ n := by
    exact_mod_cast Int.emod_lt_of_pos m nPos
  have between : ∀ z : ℚ, (m : ℚ) * (10 ^ k / 2) < z →
      z < ((m : ℚ) + 1) * (10 ^ k / 2) →
      nearestEven (z / 10 ^ grain x) = (m / n + 1) / 2 := by
    intro z low high
    apply nearestEven_eq_of_between
    · rw [grainEq, lt_div_iff₀ (by positivity)]
      have : ((m / n : ℤ) : ℚ) / 2 * (n * 10 ^ k) ≤ m * (10 ^ k / 2) := by nlinarith
      linarith
    · rw [grainEq, div_lt_iff₀ (by positivity)]
      have : ((m : ℚ) + 1) * (10 ^ k / 2) ≤
          (((m / n : ℤ) : ℚ) + 1) / 2 * (n * 10 ^ k) := by nlinarith
      linarith
  rw [rounded, rounded, ← grains, between x lowX highX, between y lowY highY]

end Between

/-! ### Far lower operands -/

section FarLower

variable {a e d : ℚ} {n f : ℤ}

theorem pos_of_grid {k : ℤ} (ha : 0 < a) (grid : a = n * 10 ^ k) : 0 < n := by
  rw [grid] at ha
  exact_mod_cast pos_of_mul_pos_left ha (tenPow_pos k).le

/-- What is added far below the digits of a number only counts as something,
not by how much. -/
theorem rounded_add_eq (ha : 0 < a) (grid : a = n * 10 ^ (f + 1))
    (far : f + 1 + Decimal.precision ≤ Int.log 10 a) (he : 0 < e)
    (he' : e ≤ 10 ^ f) (hd : 0 < d) (hd' : d ≤ 10 ^ f) :
    rounded (a + e) = rounded (a + d) := by
  have pos := tenPow_pos f
  have nPos := pos_of_grid ha grid
  have log : Int.log 10 a ≤ Int.log 10 (a + e) :=
    Int.log_mono_right ha (by linarith)
  -- both sums lie in the half step above `a`
  apply rounded_eq_of_between (k := f + 1) (m := 2 * n) (by omega)
  · rw [grain, abs_of_pos (by linarith)]
    omega
  all_goals
    rw [grid, tenPow_add_one]
    push_cast
    linarith

/-- What is taken away far below the digits of a number only counts as
something, not by how much. -/
theorem rounded_sub_eq (ha : 0 < a) (grid : a = n * 10 ^ (f + 1))
    (far : f + 1 + Decimal.precision ≤ Int.log 10 a) (he : 0 < e)
    (he' : e ≤ 10 ^ f) (hd : 0 < d) (hd' : d ≤ 10 ^ f) :
    rounded (a - e) = rounded (a - d) := by
  have pos := tenPow_pos f
  have nPos := pos_of_grid ha grid
  -- the difference may have one digit less than `a`, but not two
  have top : (10 : ℚ) ^ (Int.log 10 a - 1) * 10 ≤ a := by
    rw [← tenPow_add_one, sub_add_cancel]
    exact (tenPow_le_iff ha _).mpr le_rfl
  have low : (10 : ℚ) ^ f ≤ 10 ^ (Int.log 10 a - 1) := by
    apply zpow_le_zpow_right₀ (by norm_num)
    rw [Decimal.precision] at far
    omega
  have rest : (10 : ℚ) ^ (Int.log 10 a - 1) ≤ a - e := by linarith
  have restPos : 0 < a - e := (tenPow_pos _).trans_le rest
  have log := (tenPow_le_iff restPos _).mp rest
  -- both differences lie in the half step below `a`
  apply rounded_eq_of_between (k := f + 1) (m := 2 * n - 1) (by omega)
  · rw [grain, abs_of_pos restPos]
    omega
  all_goals
    rw [grid, tenPow_add_one]
    push_cast
    linarith

end FarLower

end ScenarioMargin
