/-
ScenarioMargin/Proofs/Decimal/Reading.lean

The arithmetic on decimal numbers read as arithmetic on quantities.  Reading
forgets the spelling: trailing zeros, the sign of zero, the payload of a NaN.

Main results: each operation commutes with reading, failures included
(`round_quantity`, `add_quantity`, `mul_quantity`, `neg_quantity`,
`abs_quantity`, `compare?_quantity`, `larger_quantity`, `scale_quantity`).  So
two runs on operands that read alike give results that read alike, whatever the
spellings.  The sum is the case with an argument in it: the digit that stands
for a far lower operand must round as the operand does.

Cutting a number to units does not round; it keeps the whole units of the
magnitude (`cutAt_eq`).
-/
import Mathlib.Algebra.Order.Floor.Semifield
import ScenarioMargin.Proofs.Decimal.Quantity

namespace ScenarioMargin.Decimal

/-! ### Reading -/

/-- The rational number that a sign, a coefficient and an exponent spell. -/
def spelled (negative : Bool) (coeff : Nat) (exponent : Int) : ℚ :=
  signed negative coeff * 10 ^ exponent

/-- What a decimal number stands for. -/
def quantity : Decimal → Quantity
  | .finite s c e => .rational (spelled s c e)
  | .infinity s => .infinite s
  | .nan _ signaling _ => .undefined signaling

@[simp] theorem quantity_finite (s : Bool) (c : Nat) (e : Int) :
    (finite s c e).quantity = .rational (spelled s c e) := rfl

@[simp] theorem quantity_infinity (s : Bool) :
    (infinity s).quantity = .infinite s := rfl

@[simp] theorem quantity_nan (s b : Bool) (p : Nat) :
    (nan s b p).quantity = .undefined b := rfl

/-- What has a digit is above zero, but for its sign. -/
theorem magnitude_pos {c : Nat} (h : c ≠ 0) (e : Int) : (0 : ℚ) < c * 10 ^ e :=
  mul_pos (by exact_mod_cast Nat.pos_of_ne_zero h) (tenPow_pos e)

theorem magnitude_nonneg (c : Nat) (e : Int) : (0 : ℚ) ≤ c * 10 ^ e :=
  mul_nonneg (Nat.cast_nonneg c) (tenPow_pos e).le

@[simp] theorem spelled_zero (s : Bool) (e : Int) : spelled s 0 e = 0 := by
  cases s <;> simp [spelled, signed]

theorem spelled_true (c : Nat) (e : Int) : spelled true c e = -(c * 10 ^ e) := by
  simp [spelled, signed]

theorem spelled_false (c : Nat) (e : Int) : spelled false c e = c * 10 ^ e := by
  simp [spelled, signed]

theorem spelled_not (s : Bool) (c : Nat) (e : Int) :
    spelled (!s) c e = -spelled s c e := by
  cases s <;> simp [spelled_true, spelled_false]

/-- A number with its point moved. -/
theorem spelled_add (s : Bool) (c : Nat) (e k : Int) :
    spelled s c (e + k) = spelled s c e * 10 ^ k := by
  rw [spelled, spelled, tenPow_add, mul_assoc]

theorem abs_spelled (s : Bool) (c : Nat) (e : Int) :
    |spelled s c e| = c * 10 ^ e := by
  have pos := magnitude_nonneg c e
  cases s
  · rw [spelled_false, abs_of_nonneg pos]
  · rw [spelled_true, abs_neg, abs_of_nonneg pos]

theorem spelled_eq_zero {s : Bool} {c : Nat} {e : Int} : spelled s c e = 0 ↔
    c = 0 := by
  rw [← abs_eq_zero, abs_spelled, mul_eq_zero]
  simp [(tenPow_pos e).ne']

/-- What is not zero is below zero when its sign says so. -/
theorem spelled_lt_zero {s : Bool} {c : Nat} {e : Int} (h : c ≠ 0) :
    decide (spelled s c e < 0) = s := by
  have pos := magnitude_pos h e
  cases s
  · rw [spelled_false, decide_eq_false (not_lt.mpr pos.le)]
  · rw [spelled_true, decide_eq_true (neg_lt_zero.mpr pos)]

/-- A whole number at an exponent, spelled with the sign apart. -/
theorem spelled_natAbs (n : Int) (e : Int) :
    spelled (decide (n < 0)) n.natAbs e = n * 10 ^ e := by
  have : signed (decide (n < 0)) n.natAbs = n := by
    rcases lt_or_ge n 0 with h | h
    · rw [decide_eq_true h, signed, if_pos rfl]
      omega
    · rw [decide_eq_false (not_lt.mpr h), signed, if_neg (by decide)]
      omega
  rw [spelled, this]

@[simp] theorem quantity_ofInt (n : Int) : (ofInt n).quantity = .rational n := by
  rw [ofInt, quantity_finite, spelled_natAbs, zpow_zero, mul_one]

@[simp] theorem quantity_zero : zero.quantity = .rational 0 := by
  simp [zero]

@[simp] theorem quantity_one : one.quantity = .rational 1 := by
  simp [one]

@[simp] theorem quantity_flip (a : Decimal) :
    a.flip.quantity = a.quantity.opposite := by
  rcases a with ⟨s, c, e⟩ | s | ⟨s, b, p⟩
  · show Quantity.rational (spelled (!s) c e) = .rational (-spelled s c e)
    rw [spelled_not]
  · rfl
  · rfl

/-- A result reads as the result on quantities. -/
theorem quantity_of_ok {x : Except Signal Decimal} {y : Except Signal Quantity}
    {a : Decimal} (h : x.map quantity = y) (ok : x = .ok a) :
    y = .ok a.quantity := by
  rw [← h, ok]
  rfl

/-- Where there is a result on quantities, there is one that reads as this. -/
theorem ok_of_quantity {x : Except Signal Decimal} {q : Quantity}
    (h : x.map quantity = .ok q) : ∃ a, x = .ok a ∧ a.quantity = q := by
  cases x with
  | error e => cases h
  | ok a => exact ⟨a, rfl, Except.ok.inj h⟩

/-! ### Digits -/

theorem digitCount_zero : digitCount 0 = 1 := by
  rw [digitCount, if_pos (by decide)]

theorem digitCount_pos (n : Nat) : 0 < digitCount n := by
  rw [digitCount]
  split <;> omega

theorem lt_pow_digitCount (n : Nat) : n < 10 ^ digitCount n := by
  fun_induction digitCount n with
  | case1 n h => omega
  | case2 n h ih =>
    rw [pow_succ]
    omega

theorem pow_digitCount_le {n : Nat} (h : 0 < n) : 10 ^ (digitCount n - 1) ≤ n := by
  fun_induction digitCount n with
  | case1 n small => omega
  | case2 n large ih =>
    have below := ih (by omega)
    have step : 10 ^ (digitCount (n / 10)) =
        10 ^ (digitCount (n / 10) - 1) * 10 := by
      rw [← pow_succ]
      congr 1
      have := digitCount_pos (n / 10)
      omega
    rw [Nat.add_sub_cancel, step]
    omega

/-- The leading digit stands at the logarithm. -/
theorem leading_eq_log {c : Nat} (h : 0 < c) (e : Int) :
    leading c e = Int.log 10 ((c : ℚ) * 10 ^ e) := by
  have digits := digitCount_pos c
  have pos := magnitude_pos h.ne' e
  have low : (10 : ℚ) ^ leading c e ≤ c * 10 ^ e := by
    have split : leading c e = ((digitCount c - 1 : Nat) : ℤ) + e := by
      rw [leading]
      omega
    rw [split, tenPow_natCast_add]
    apply mul_le_mul_of_nonneg_right _ (tenPow_pos e).le
    exact_mod_cast pow_digitCount_le h
  have high : (c : ℚ) * 10 ^ e < 10 ^ (leading c e + 1) := by
    have split : leading c e + 1 = ((digitCount c : Nat) : ℤ) + e := by
      rw [leading]
      omega
    rw [split, tenPow_natCast_add]
    apply mul_lt_mul_of_pos_right _ (tenPow_pos e)
    exact_mod_cast lt_pow_digitCount c
  have atLeast := (tenPow_le_iff pos _).mp low
  have below := (lt_tenPow_iff pos _).mp high
  omega

/-! ### Rounding -/

/-- The nearest whole number of a mixed fraction. -/
theorem nearestEven_add_div (q : Nat) {r d : Nat} (h : r < d) :
    nearestEven ((q : ℚ) + r / d) =
      (if 2 * r < d then q else if d < 2 * r then q + 1 else q + q % 2 :
        Nat) := by
  have unitPos : (0 : ℚ) < d := by exact_mod_cast Nat.zero_lt_of_lt h
  have nonneg : (0 : ℚ) ≤ r / d := by positivity
  have belowHalf : (r : ℚ) / d < 1 / 2 ↔ 2 * r < d := by
    rw [div_lt_div_iff₀ unitPos (by norm_num), one_mul, mul_comm]
    exact_mod_cast Iff.rfl
  have aboveHalf : 1 / 2 < (r : ℚ) / d ↔ d < 2 * r := by
    rw [div_lt_div_iff₀ (by norm_num) unitPos, one_mul, mul_comm]
    exact_mod_cast Iff.rfl
  have belowOne : (r : ℚ) / d < 1 := by
    rw [div_lt_one unitPos]
    exact_mod_cast h
  apply nearestEven_eq
  split_ifs with below above
  · left
    have := belowHalf.mpr below
    push_cast
    rw [abs_lt]
    constructor <;> linarith
  · left
    have := aboveHalf.mpr above
    push_cast
    rw [abs_lt]
    constructor <;> linarith
  · right
    have half : (r : ℚ) / d = 1 / 2 :=
      le_antisymm (not_lt.mp (aboveHalf.not.mpr above))
        (not_lt.mp (belowHalf.not.mpr below))
    rcases Nat.mod_two_eq_zero_or_one q with even | odd
    · rw [half, even]
      refine ⟨?_, by omega⟩
      push_cast
      rw [abs_of_pos (by linarith)]
      ring
    · rw [half, odd]
      refine ⟨?_, by omega⟩
      push_cast
      rw [abs_of_neg (by linarith)]
      ring

/-- A fraction as a whole number and a proper fraction. -/
theorem div_eq_mixed (n : Nat) {d : Nat} (h : 0 < d) :
    (n : ℚ) / d = (n / d : Nat) + ((n % d : Nat) : ℚ) / d := by
  have unitPos : (0 : ℚ) < d := by exact_mod_cast h
  have division : (d : ℚ) * (n / d : Nat) + (n % d : Nat) = n := by
    exact_mod_cast Nat.div_add_mod n d
  rw [← division]
  field_simp

/-- Dropping digits to the nearest is taking the nearest whole number of the
unit that is left. -/
theorem dropEven_eq (n k : Nat) :
    (dropEven n k : ℤ) = nearestEven ((n : ℚ) / 10 ^ k) := by
  symm
  rw [dropEven]
  split_ifs with few
  · -- less than a tenth of the unit is left
    have unitPos : (0 : ℚ) < 10 ^ k := by positivity
    have small : n * 10 < 10 ^ k := by
      calc n * 10 < 10 ^ digitCount n * 10 :=
        Nat.mul_lt_mul_of_pos_right (lt_pow_digitCount n) (by norm_num)
        _ = 10 ^ (digitCount n + 1) := (pow_succ _ _).symm
        _ ≤ 10 ^ k := Nat.pow_le_pow_right (by norm_num) few
    have smallQ : (n : ℚ) * 10 < 10 ^ k := by exact_mod_cast small
    have nonneg : (0 : ℚ) ≤ n / 10 ^ k := by positivity
    have tenth : (n : ℚ) / 10 ^ k < 1 / 10 := by
      rw [div_lt_div_iff₀ unitPos (by norm_num)]
      linarith
    apply nearestEven_eq
    left
    rw [abs_lt]
    push_cast
    constructor <;> linarith
  · simp only [Nat.pow_eq]
    have rest : n % 10 ^ k < 10 ^ k := Nat.mod_lt _ (by positivity)
    have parts := div_eq_mixed n (show 0 < 10 ^ k by positivity)
    rw [Nat.cast_pow, Nat.cast_ofNat] at parts
    rw [parts, ← nearestEven_add_div _ rest]
    push_cast
    rfl

@[simp] theorem dropEven_zero (n : Nat) : dropEven n 0 = n := by
  simp [dropEven, Nat.mod_one]

section Rounding

variable {c : Nat} (hc : 0 < c) (s : Bool) (e : Int)

include hc

theorem grain_spelled :
    grain (spelled s c e) = max (leading c e + 1 - precision) tinyExponent := by
  rw [grain, abs_spelled, leading_eq_log hc]

/-- The last kept digit stands at the grain, unless the number ends above it
anyway. -/
theorem roundedExponent_eq :
    roundedExponent c e = max e (grain (spelled s c e)) := by
  rw [roundedExponent, grain_spelled hc]

/-- What rounding keeps of a number. -/
theorem rounded_spelled :
    rounded (spelled s c e) = spelled s
      (dropEven c (roundedExponent c e - e).toNat) (roundedExponent c e) := by
  rw [roundedExponent_eq hc s]
  generalize hg : grain (spelled s c e) = g
  rcases le_or_gt g e with ends | ends
  · rw [max_eq_left ends, sub_self, Int.toNat_zero, dropEven_zero, spelled]
    apply rounded_grid
    rw [← spelled, hg]
    exact ends
  · -- in grains, the coefficient has `g - e` digits behind the point
    have scaled : (c : ℚ) * 10 ^ e / 10 ^ g = c / 10 ^ (g - e).toNat := by
      rw [tenPow_eq_mul ends.le]
      have := tenPow_pos e
      push_cast
      field_simp
    rw [max_eq_right ends.le]
    cases s
    · rw [rounded, hg, spelled_false, spelled_false, scaled, ← dropEven_eq]
      push_cast
      rfl
    · rw [rounded, hg, spelled_true, spelled_true, neg_div, nearestEven_neg,
        scaled, ← dropEven_eq]
      push_cast
      ring

theorem abs_rounded_spelled :
    |rounded (spelled s c e)| = dropEven c (roundedExponent c e - e).toNat *
      10 ^ roundedExponent c e := by
  rw [rounded_spelled hc, abs_spelled]

/-- A number whose leading digit is too high does not round into the range. -/
theorem tenPow_le_of_leading (h : maxExponent < leading c e) :
    (10 : ℚ) ^ (maxExponent + 1) ≤ |rounded (spelled s c e)| := by
  have size : (10 : ℚ) ^ leading c e ≤ |spelled s c e| := by
    rw [abs_spelled, leading_eq_log hc, tenPow_le_iff (magnitude_pos hc.ne' e)]
  have coarse : grain (spelled s c e) ≤ leading c e := by
    rw [grain_spelled hc]
    simp only [tinyExponent, minExponent, maxExponent, precision] at *
    omega
  exact (zpow_le_zpow_right₀ (by norm_num) h).trans
    (tenPow_le_abs_rounded coarse size)

/-- A number whose leading digit is not too high rounds into the range, unless
the kept digits carry over. -/
theorem rounded_lt_of_leading (h : leading c e ≤ maxExponent)
    (carry : dropEven c (roundedExponent c e - e).toNat ≠ 10 ^ precision) :
    |rounded (spelled s c e)| < 10 ^ (maxExponent + 1) := by
  have last := roundedExponent_eq hc s e
  have grainEq := grain_spelled hc s e
  rcases le_or_gt (grain (spelled s c e)) e with ends | ends
  · -- nothing is dropped
    have kept := rounded_spelled hc s e
    rw [last, max_eq_left ends, sub_self, Int.toNat_zero, dropEven_zero] at kept
    rw [kept, abs_spelled, lt_tenPow_iff (magnitude_pos hc.ne' e),
      ← leading_eq_log hc]
    omega
  · -- digits are dropped; the result is below the next power of ten since they
    -- do not carry over
    have bound := abs_rounded_le (spelled s c e)
    have size := abs_rounded_spelled hc s e
    rw [last, max_eq_right ends.le] at size carry
    have strict : |rounded (spelled s c e)| <
        10 ^ ((precision : ℤ) + grain (spelled s c e)) := by
      apply lt_of_le_of_ne bound
      rw [size, tenPow_natCast_add]
      intro same
      have := mul_right_cancel₀ (tenPow_pos _).ne' same
      exact carry (by exact_mod_cast this)
    apply strict.trans_le
    apply zpow_le_zpow_right₀ (by norm_num)
    rw [grainEq]
    simp only [tinyExponent, minExponent, maxExponent, precision] at *
    omega

end Rounding

/-- The carried digit is the leading one of the next exponent. -/
theorem spelled_carry (s : Bool) (e : Int) :
    spelled s (10 ^ (precision - 1)) (e + 1) = spelled s (10 ^ precision) e := by
  have step : (10 : ℚ) ^ precision = 10 ^ (precision - 1) * 10 := by
    rw [← pow_succ]
    rfl
  cases s
  · rw [spelled_false, spelled_false, tenPow_add_one]
    push_cast
    rw [step]
    ring
  · rw [spelled_true, spelled_true, tenPow_add_one]
    push_cast
    rw [step]
    ring

/-- The working precision is the rounding of rational numbers. -/
theorem round_quantity (s : Bool) (c : Nat) (e : Int) :
    (round s c e).map quantity = Quantity.ofRational (spelled s c e) := by
  rcases Nat.eq_zero_or_pos c with rfl | hc
  · rw [round, if_pos rfl, Quantity.ofRational, spelled_zero, rounded_zero,
      abs_zero, if_pos (tenPow_pos _)]
    simp [roundZero, Except.map]
  rw [round, if_neg hc.ne', Quantity.ofRational]
  simp only [Nat.pow_eq]
  by_cases large : maxExponent < leading c e
  · rw [if_pos large, if_neg (not_lt.mpr (tenPow_le_of_leading hc s e large))]
    rfl
  rw [if_neg large]
  have value := rounded_spelled hc s e
  by_cases carry : dropEven c (roundedExponent c e - e).toNat = 10 ^ precision
  · rw [if_pos carry]
    rw [carry] at value
    have size : |rounded (spelled s c e)| =
        10 ^ ((precision : ℤ) + roundedExponent c e) := by
      rw [value, abs_spelled, tenPow_natCast_add]
      push_cast
      rfl
    have inRange : |rounded (spelled s c e)| < 10 ^ (maxExponent + 1) ↔
        (precision : ℤ) + roundedExponent c e < maxExponent + 1 := by
      rw [size]
      exact zpow_lt_zpow_iff_right₀ (by norm_num)
    by_cases high : maxExponent < roundedExponent c e + precision
    · rw [if_pos high, if_neg (by rw [inRange]; omega)]
      rfl
    · rw [if_neg high, if_pos (by rw [inRange]; omega), value]
      rw [← spelled_carry]
      rfl
  · rw [if_neg carry,
      if_pos (rounded_lt_of_leading hc s e (not_lt.mp large) carry), value]
    rfl

/-! ### Sums -/

theorem widen_eq (c k : Nat) : widen c k = c * 10 ^ k := by
  rw [widen]
  split_ifs with zero
  · rw [zero, zero_mul]
  · rfl

/-- A number with zeros appended, at a lower exponent. -/
theorem spelled_widen {s : Bool} {c : Nat} {e f : Int} (h : f ≤ e) :
    spelled s (widen c (e - f).toNat) f = spelled s c e := by
  cases s
  · rw [spelled_false, spelled_false, widen_eq, tenPow_eq_mul h]
    push_cast
    ring
  · rw [spelled_true, spelled_true, widen_eq, tenPow_eq_mul h]
    push_cast
    ring

section Absorb

variable (s t : Bool) (c : Nat) (e : Int) (d : Nat) (f : Int)

/-- What stands for the lower operand does not stand above the higher one. -/
theorem absorb_le (h : f ≤ e) : (absorb c e d f).2 ≤ e := by
  rw [absorb]
  by_cases none : c = 0
  · rwa [if_pos none]
  rw [if_neg none]
  generalize floorEq : e - 1 + (if precision < digitCount c then (0 : ℤ)
    else digitCount c - precision - 1) = floor
  have below : floor ≤ e := by split_ifs at floorEq <;> omega
  dsimp only
  split_ifs <;> assumption

/-- What stands for the lower operand changes no rounded sum. -/
theorem rounded_absorb :
    rounded (spelled s c e + spelled t (absorb c e d f).1 (absorb c e d f).2) =
    rounded (spelled s c e + spelled t d f) := by
  rw [absorb]
  by_cases none : c = 0
  · rw [if_pos none]
  rw [if_neg none]
  have digits := digitCount_pos c
  generalize floorEq : e - 1 + (if precision < digitCount c then (0 : ℤ)
    else digitCount c - precision - 1) = floor
  dsimp only
  by_cases far : leading d f < floor
  swap
  · rw [if_neg far]
  rw [if_pos far]
  rcases Nat.eq_zero_or_pos d with rfl | hd
  · simp
  rw [if_neg hd.ne']
  have hc : 0 < c := Nat.pos_of_ne_zero none
  have a := magnitude_pos none e
  have below : floor + 1 ≤ e := by split_ifs at floorEq <;> omega
  have grid : (c : ℚ) * 10 ^ e =
      ((c * 10 ^ (e - (floor + 1)).toNat : ℤ) : ℚ) * 10 ^ (floor + 1) := by
    rw [tenPow_eq_mul below]
    push_cast
    ring
  have top : floor + 1 + precision ≤ Int.log 10 ((c : ℚ) * 10 ^ e) := by
    rw [← leading_eq_log hc, leading]
    split_ifs at floorEq <;> omega
  have b := magnitude_pos hd.ne' f
  have small : (d : ℚ) * 10 ^ f ≤ 10 ^ floor := by
    apply le_of_lt
    rwa [lt_tenPow_iff b, ← leading_eq_log hd]
  have one : ((1 : ℕ) : ℚ) * 10 ^ floor = 10 ^ floor := by
    rw [Nat.cast_one, one_mul]
  have sum := rounded_add_eq a grid top (tenPow_pos floor) le_rfl b small
  have difference := rounded_sub_eq a grid top (tenPow_pos floor) le_rfl b small
  -- under equal signs the magnitudes are added, under different ones the lower
  -- is taken away
  cases s <;> cases t <;> simp only [spelled_false, spelled_true, one]
  · exact sum
  · rw [← sub_eq_add_neg, ← sub_eq_add_neg, difference]
  · rw [neg_add_eq_sub, neg_add_eq_sub, ← neg_sub, rounded_neg, difference,
      ← rounded_neg, neg_sub]
  · rw [← neg_add, ← neg_add, rounded_neg, rounded_neg, sum]

end Absorb

/-- The sum of two aligned numbers is the rounded sum. -/
theorem sumAligned_quantity {e f : Int} (h : f ≤ e) (s : Bool) (c : Nat)
    (t : Bool) (d : Nat) :
    (sumAligned s c e t d f).map quantity =
      Quantity.ofRational (spelled s c e + spelled t d f) := by
  have total : spelled s c e + spelled t (absorb c e d f).1 (absorb c e d f).2 =
      ((signed s (widen c (e - (absorb c e d f).2).toNat) +
        signed t (absorb c e d f).1 : ℤ) : ℚ) *
        10 ^ (absorb c e d f).2 := by
    rw [← spelled_widen (absorb_le c e d f h), spelled, spelled]
    push_cast
    ring
  rw [← Quantity.ofRational_congr (rounded_absorb s t c e d f), total,
    sumAligned, round_quantity]
  congr 1
  generalize signed s (widen c (e - (absorb c e d f).2).toNat) +
    signed t (absorb c e d f).1 = n
  split_ifs with zero
  · rw [zero]
    simp
  · exact spelled_natAbs n _

/-! ### Operations -/

theorem nanResult_left (s b : Bool) (p : Nat) (x : Decimal) :
    (nanResult (nan s b p) x).map quantity =
      (Quantity.undefined b).undefinedResult x.quantity := by
  rcases x with ⟨t, c, e⟩ | t | ⟨t, _ | _, q⟩ <;> cases b <;> rfl

theorem nanResult_right (x : Decimal) (s b : Bool) (p : Nat) :
    (nanResult x (nan s b p)).map quantity =
      x.quantity.undefinedResult (.undefined b) := by
  rcases x with ⟨t, c, e⟩ | t | ⟨t, _ | _, q⟩ <;> cases b <;> rfl

theorem add_quantity (a b : Decimal) :
    (a.add b).map quantity = a.quantity.add b.quantity := by
  rcases a with ⟨s, c, e⟩ | s | ⟨s, n, p⟩ <;>
    rcases b with ⟨t, d, f⟩ | t | ⟨t, m, q⟩
  case finite.finite =>
    -- the operand with the higher exponent comes first, whichever it is
    rw [add]
    split_ifs with order
    · exact sumAligned_quantity order s c t d
    · rw [sumAligned_quantity (by omega) t d s c, add_comm]
      rfl
  case infinity.infinity => cases s <;> cases t <;> rfl
  case finite.infinity | infinity.finite => rfl
  case finite.nan | infinity.nan => exact nanResult_right _ _ _ _
  all_goals
    rw [quantity_nan, Quantity.undefined_add]
    exact nanResult_left _ _ _ _

theorem sub_quantity (a b : Decimal) :
    (a.sub b).map quantity = a.quantity.add b.quantity.opposite := by
  rw [sub, add_quantity, quantity_flip]

theorem mul_quantity (a b : Decimal) :
    (a.mul b).map quantity = a.quantity.mul b.quantity := by
  rcases a with ⟨s, c, e⟩ | s | ⟨s, n, p⟩ <;>
    rcases b with ⟨t, d, f⟩ | t | ⟨t, m, q⟩
  case finite.finite =>
    rw [mul, round_quantity]
    show _ = Quantity.ofRational (spelled s c e * spelled t d f)
    congr 1
    rw [spelled, spelled, spelled, tenPow_add]
    cases s <;> cases t <;> simp [signed] <;> ring
  case finite.infinity =>
    rw [mul, quantity_finite, quantity_infinity, Quantity.mul]
    by_cases zero : c = 0
    · rw [if_pos zero, if_pos (spelled_eq_zero.mpr zero)]
      rfl
    · rw [if_neg zero, if_neg (spelled_eq_zero.not.mpr zero), spelled_lt_zero zero]
      rfl
  case infinity.finite =>
    rw [mul, quantity_finite, quantity_infinity, Quantity.mul]
    by_cases zero : d = 0
    · rw [if_pos zero, if_pos (spelled_eq_zero.mpr zero)]
      rfl
    · rw [if_neg zero, if_neg (spelled_eq_zero.not.mpr zero), spelled_lt_zero zero]
      rfl
  case infinity.infinity => rfl
  case finite.nan | infinity.nan => exact nanResult_right _ _ _ _
  all_goals
    rw [quantity_nan, Quantity.undefined_mul]
    exact nanResult_left _ _ _ _

theorem neg_quantity (a : Decimal) : a.neg.map quantity = a.quantity.neg := by
  rcases a with ⟨s, c, e⟩ | s | ⟨s, n, p⟩
  · rw [neg, round_quantity]
    show _ = Quantity.ofRational (-spelled s c e)
    congr 1
    rcases eq_or_ne c 0 with rfl | nonzero
    · simp
    · rw [bne_iff_ne.mpr nonzero, Bool.true_and, spelled_not]
  · rfl
  · exact nanResult_left _ _ _ _

theorem abs_quantity (a : Decimal) : a.abs.map quantity = a.quantity.abs := by
  rcases a with ⟨s, c, e⟩ | s | ⟨s, n, p⟩
  · rw [abs, round_quantity]
    show _ = Quantity.ofRational |spelled s c e|
    rw [abs_spelled, spelled_false]
  · rfl
  · exact nanResult_left _ _ _ _

/-- Moving the point is multiplying by a power of ten, within the steps that
are taken. -/
theorem scale_quantity {s : Bool} {c : Nat} {e n : Int} (h : ¬ maxStep < n.natAbs) :
    ((finite s c e).scale n).map quantity =
      Quantity.ofRational (spelled s c e * 10 ^ n) := by
  rw [scale, if_neg h, round_quantity, spelled_add]

/-- A whole number with its point moved. -/
theorem ofInt_scale_quantity {n k : Int} (h : ¬ maxStep < k.natAbs) :
    ((ofInt n).scale k).map quantity = Quantity.ofRational (n * 10 ^ k) := by
  rw [ofInt, scale_quantity h, spelled_natAbs, zpow_zero, mul_one]

/-- The point is not moved further than the largest step. -/
theorem step_of_scale {n k : Int} {a : Decimal}
    (h : (ofInt n).scale k = .ok a) : ¬ maxStep < k.natAbs := by
  intro far
  rw [ofInt, scale, if_pos far] at h
  cases h

/-- What is rounded is finite. -/
theorem isFinite_of_ofRational {x : Except Signal Decimal} {y : ℚ} {a : Decimal}
    (h : x.map quantity = Quantity.ofRational y) (ok : x = .ok a) : a.isFinite := by
  have reading := quantity_of_ok h ok
  rw [Quantity.ofRational] at reading
  split_ifs at reading
  have rational := Except.ok.inj reading
  cases a with
  | finite s c e => rfl
  | infinity s => cases rational
  | nan s b p => cases rational

/-- A whole number stays finite wherever its point is moved. -/
theorem isFinite_of_scale {n k : Int} {a : Decimal}
    (h : (ofInt n).scale k = .ok a) : a.isFinite :=
  isFinite_of_ofRational (ofInt_scale_quantity (step_of_scale h)) h

/-! ### Cutting -/

theorem dropDown_eq (n k : Nat) : dropDown n k = n / 10 ^ k := by
  rw [dropDown]
  split_ifs with short
  · have below : n < 10 ^ k :=
      (lt_pow_digitCount n).trans_le (Nat.pow_le_pow_right (by decide) short.le)
    rw [Nat.div_eq_of_lt below]
  · rfl

/-- The digits that are kept are the whole steps of `10 ^ f`. -/
theorem kept_eq (c : Nat) (e f : Int) :
    (if f ≤ e then c * Nat.pow 10 (e - f).toNat else dropDown c (f - e).toNat) =
      ⌊(c : ℚ) * 10 ^ e / 10 ^ f⌋₊ := by
  split_ifs with below
  · have whole : (c : ℚ) * 10 ^ e / 10 ^ f =
        ((c * 10 ^ (e - f).toNat : ℕ) : ℚ) := by
      rw [tenPow_eq_mul below, ← mul_assoc,
        mul_div_cancel_right₀ _ (tenPow_pos f).ne']
      push_cast
      rfl
    rw [whole, Nat.floor_natCast]
    rfl
  · have quotient : (c : ℚ) * 10 ^ e / 10 ^ f =
        (c : ℚ) / ((10 ^ (f - e).toNat : ℕ) : ℚ) := by
      rw [tenPow_eq_mul (not_le.mp below).le,
        mul_div_mul_right _ _ (tenPow_pos e).ne']
      push_cast
      rfl
    rw [quotient, Nat.floor_div_natCast, Nat.floor_natCast, dropDown_eq]

/-- A cut number keeps its sign and the whole steps of its magnitude. -/
theorem cutAt_eq {s : Bool} {c : Nat} {e f : Int} {b : Decimal}
    (h : cutAt s c e f = .ok b) :
    b = finite s ⌊(c : ℚ) * 10 ^ e / 10 ^ f⌋₊ f := by
  rw [cutAt] at h
  dsimp only at h
  rw [kept_eq] at h
  split_ifs at h with range none
  · obtain rfl := Except.ok.inj h
    simp [none]
  · exact (Except.ok.inj h).symm

/-- The digits that are left above a place, as a bound. -/
theorem digitCount_add_le_iff {c : Nat} {e f : Int} (some : c ≠ 0) :
    digitCount c + (e - f) ≤ precision ↔
      (c : ℚ) * 10 ^ e / 10 ^ f < 10 ^ precision := by
  have log := leading_eq_log (Nat.pos_of_ne_zero some) e
  rw [div_lt_iff₀ (tenPow_pos f), ← tenPow_natCast_add,
    lt_tenPow_iff (magnitude_pos some e), ← log, leading]
  omega

/-- A number is cut only where what is kept of it fits the working precision. -/
theorem digits_of_cutAt {s : Bool} {c : Nat} {e f : Int} {b : Decimal}
    (h : cutAt s c e f = .ok b) :
    ⌊(c : ℚ) * 10 ^ e / 10 ^ f⌋₊ < 10 ^ precision := by
  rw [cutAt] at h
  dsimp only at h
  rw [kept_eq] at h
  split_ifs at h with range none digits
  · simp [none]
  · have bound := (digitCount_add_le_iff none).mp (not_lt.mp digits)
    exact (Nat.floor_lt' (by positivity)).mpr (by exact_mod_cast bound)

/-! ### Order -/

/-- Comparisons that agree on both sides are the same. -/
theorem compare_congr {α β : Type} [LinearOrder α] [LinearOrder β] {a b : α}
    {x y : β} (below : a < b ↔ x < y) (above : b < a ↔ y < x) :
    compare a b = compare x y := by
  rcases lt_trichotomy x y with h | rfl | h
  · rw [compare_lt_iff_lt.mpr h, compare_lt_iff_lt.mpr (below.mpr h)]
  · have same : a = b :=
      le_antisymm (not_lt.mp (above.not.mpr (lt_irrefl _)))
        (not_lt.mp (below.not.mpr (lt_irrefl _)))
    rw [same, compare_eq_iff_eq.mpr rfl, compare_eq_iff_eq.mpr rfl]
  · rw [compare_gt_iff_gt.mpr h, compare_gt_iff_gt.mpr (above.mpr h)]

theorem compareMagnitude_eq (c : Nat) (e : Int) (d : Nat) (f : Int) :
    compareMagnitude c e d f = compare ((c : ℚ) * 10 ^ e) (d * 10 ^ f) := by
  rw [compareMagnitude]
  split_ifs with zero
  · rcases zero with rfl | rfl
    · apply compare_congr
      · simp [mul_pos_iff_of_pos_right (tenPow_pos f)]
      · simp [not_lt.mpr (magnitude_nonneg d f)]
    · apply compare_congr
      · simp [not_lt.mpr (magnitude_nonneg c e)]
      · simp [mul_pos_iff_of_pos_right (tenPow_pos e)]
  rw [not_or] at zero
  have x := magnitude_pos zero.1 e
  have y := magnitude_pos zero.2 f
  have logX := leading_eq_log (Nat.pos_of_ne_zero zero.1) e
  have logY := leading_eq_log (Nat.pos_of_ne_zero zero.2) f
  -- a higher leading digit decides; only under equal ones are the digits
  -- compared
  rcases lt_trichotomy (leading c e) (leading d f) with h | h | h
  · have order : (c : ℚ) * 10 ^ e < d * 10 ^ f := by
      rw [logX, ← lt_tenPow_iff x] at h
      exact h.trans_le ((tenPow_le_iff y _).mpr logY.le)
    rw [compare_lt_iff_lt.mpr h, compare_lt_iff_lt.mpr order]
  · rw [compare_eq_iff_eq.mpr h]
    -- both are whole numbers at the lower of the two exponents
    have lowX : (c : ℚ) * 10 ^ e =
        (c * 10 ^ (e - f).toNat : Nat) * 10 ^ min e f := by
      rw [tenPow_eq_mul (min_le_left e f),
        show (e - min e f).toNat = (e - f).toNat by omega]
      push_cast
      ring
    have lowY : (d : ℚ) * 10 ^ f =
        (d * 10 ^ (f - e).toNat : Nat) * 10 ^ min e f := by
      rw [tenPow_eq_mul (min_le_right e f),
        show (f - min e f).toNat = (f - e).toNat by omega]
      push_cast
      ring
    have unit := tenPow_pos (min e f)
    rw [lowX, lowY]
    apply compare_congr
    · rw [mul_lt_mul_iff_left₀ unit, Nat.cast_lt]
      rfl
    · rw [mul_lt_mul_iff_left₀ unit, Nat.cast_lt]
      rfl
  · have order : (d : ℚ) * 10 ^ f < c * 10 ^ e := by
      rw [logY, ← lt_tenPow_iff y] at h
      exact h.trans_le ((tenPow_le_iff x _).mpr logX.le)
    rw [compare_gt_iff_gt.mpr h, compare_gt_iff_gt.mpr order]

theorem compare?_quantity (a b : Decimal) :
    a.compare? b = a.quantity.compare? b.quantity := by
  rcases a with ⟨s, c, e⟩ | s | ⟨s, n, p⟩ <;>
    rcases b with ⟨t, d, f⟩ | t | ⟨t, m, q⟩
  case finite.finite =>
    show some _ = some (compare (spelled s c e) (spelled t d f))
    congr 1
    split_ifs with zeros
    · rw [zeros.1, zeros.2, spelled_zero, spelled_zero]
      exact (compare_eq_iff_eq.mpr rfl).symm
    have x := magnitude_nonneg c e
    have y := magnitude_nonneg d f
    -- a sign counts only where there is a digit, hence the cases of zero under
    -- every negative sign
    cases s <;> cases t <;>
      simp only [spelled_false, spelled_true, compareMagnitude_eq]
    · rfl
    · rcases eq_or_ne d 0 with rfl | hd
      · simp
      · simp only [hd, ne_eq, not_false_eq_true, and_self, decide_true,
          Bool.false_eq_true, false_and, decide_false]
        exact (compare_gt_iff_gt.mpr (by have := magnitude_pos hd f; linarith)).symm
    · rcases eq_or_ne c 0 with rfl | hc
      · simp
      · simp only [hc, ne_eq, not_false_eq_true, and_self, decide_true,
          Bool.false_eq_true, false_and, decide_false]
        exact (compare_lt_iff_lt.mpr (by have := magnitude_pos hc e; linarith)).symm
    · rcases eq_or_ne c 0 with rfl | hc <;> rcases eq_or_ne d 0 with rfl | hd
      · exact absurd ⟨rfl, rfl⟩ zeros
      · simp only [hd, ne_eq, not_false_eq_true, and_self, decide_true,
          not_true_eq_false, and_false, decide_false]
        exact (compare_gt_iff_gt.mpr
          (by have := magnitude_pos hd f; simp; linarith)).symm
      · simp only [hc, ne_eq, not_false_eq_true, and_self, decide_true,
          not_true_eq_false, and_false, decide_false]
        exact (compare_lt_iff_lt.mpr
          (by have := magnitude_pos hc e; simp; linarith)).symm
      · simp only [hc, hd, ne_eq, not_false_eq_true, and_self, decide_true]
        exact compare_congr neg_lt_neg_iff.symm neg_lt_neg_iff.symm
  all_goals rfl

theorem larger_quantity (a b : Decimal) :
    (a.larger b).map quantity = a.quantity.larger b.quantity := by
  rw [larger, lt, Quantity.larger, compare?_quantity]
  rcases a.quantity.compare? b.quantity with - | o
  · rfl
  · cases o <;> rfl

theorem smaller_quantity (a b : Decimal) :
    (a.smaller b).map quantity = a.quantity.smaller b.quantity := by
  rw [smaller, lt, Quantity.smaller, compare?_quantity]
  rcases b.quantity.compare? a.quantity with - | o
  · rfl
  · cases o <;> rfl

end ScenarioMargin.Decimal
