/-
ScenarioMargin/Proofs/Truncation.lean

Cutting amounts to whole units, without rounding and after it.

`truncate` does not round.  An amount is cut exactly, or it is refused, and
what decides is whether its whole units have more digits than the working
precision (`cutAt_closed`).

`toRaw` moves the point first, which rounds to the nearest, and takes the whole
part of what results.  For an amount of more digits than the working precision
this is not the whole part of the exact number of units.  Rounding may carry
the units up to a whole number that is not reached (`CarriedUp`), and from
`10 ^ 28` units on, where no digit is left for the last of them, it may take
one or more off (`CutShort`).  Both show in the result, and there is nothing
else that can go wrong.

Main results: `FixedPoint.truncate_exact`, `FixedPoint.toRaw_exact_iff`.
-/
import ScenarioMargin.Proofs.Units

namespace ScenarioMargin

open Decimal

/-! ### Whole parts -/

section WholeParts

variable {x y : ℚ}

theorem abs_towardZero (x : ℚ) : |towardZero x| = ⌊|x|⌋₊ := by
  rcases le_total 0 x with above | below
  · rw [towardZero_of_nonneg above, abs_of_nonneg above, Nat.abs_cast]
  · rw [towardZero_of_nonpos below, abs_of_nonpos below, abs_neg, Nat.abs_cast]

theorem abs_towardZero_le (x : ℚ) : |(towardZero x : ℚ)| ≤ |x| := by
  rw [← Int.cast_abs, abs_towardZero, Int.cast_natCast]
  exact Nat.floor_le (abs_nonneg x)

/-- Less than one is cut off. -/
theorem abs_sub_towardZero_lt (x : ℚ) : |x - towardZero x| < 1 := by
  rcases le_total 0 x with above | below
  · have low := Nat.floor_le above
    have high := Nat.lt_floor_add_one x
    rw [towardZero_of_nonneg above, Int.cast_natCast, abs_lt]
    constructor <;> linarith
  · have low := Nat.floor_le (neg_nonneg.mpr below)
    have high := Nat.lt_floor_add_one (-x)
    rw [towardZero_of_nonpos below, Int.cast_neg, Int.cast_natCast, abs_lt]
    constructor <;> linarith

theorem towardZero_mono (h : x ≤ y) : towardZero x ≤ towardZero y := by
  rcases le_total 0 x with above | below
  · rw [towardZero_of_nonneg above, towardZero_of_nonneg (above.trans h)]
    exact_mod_cast Nat.floor_le_floor h
  · rcases le_total 0 y with above' | below'
    · rw [towardZero_of_nonpos below, towardZero_of_nonneg above']
      omega
    · rw [towardZero_of_nonpos below, towardZero_of_nonpos below', neg_le_neg_iff]
      exact_mod_cast Nat.floor_le_floor (neg_le_neg h)

/-- Whole parts on one side of zero are the same when they are equally far from
it. -/
theorem towardZero_eq_iff (up : 0 ≤ x → 0 ≤ y) (down : x ≤ 0 → y ≤ 0) :
    towardZero y = towardZero x ↔ ⌊|y|⌋₊ = ⌊|x|⌋₊ := by
  rcases le_total 0 x with above | below
  · rw [towardZero_of_nonneg above, towardZero_of_nonneg (up above),
      abs_of_nonneg above, abs_of_nonneg (up above)]
    exact Nat.cast_inj
  · rw [towardZero_of_nonpos below, towardZero_of_nonpos (down below),
      abs_of_nonpos below, abs_of_nonpos (down below), neg_inj]
    exact Nat.cast_inj

namespace FixedPoint

variable (x) (decimals : ℕ)

theorem cut_sub_eq : x - cut x decimals =
    (x * 10 ^ decimals - towardZero (x * 10 ^ decimals)) / 10 ^ decimals := by
  rw [cut, units, sub_div, mul_div_cancel_right₀ _ (by positivity)]

theorem abs_cut_le : |cut x decimals| ≤ |x| := by
  have unit : (0 : ℚ) < 10 ^ decimals := by positivity
  have bound := abs_towardZero_le (x * 10 ^ decimals)
  rw [cut, units, abs_div, abs_of_pos unit, div_le_iff₀ unit]
  rwa [abs_mul, abs_of_pos unit] at bound

/-- Less than a unit is cut off. -/
theorem abs_sub_cut_lt : |x - cut x decimals| < 1 / 10 ^ decimals := by
  have unit : (0 : ℚ) < 10 ^ decimals := by positivity
  rw [cut_sub_eq, abs_div, abs_of_pos unit]
  exact div_lt_div_of_pos_right (abs_sub_towardZero_lt _) unit

variable {x}

theorem cut_mono (h : x ≤ y) : cut x decimals ≤ cut y decimals := by
  have unit : (0 : ℚ) < 10 ^ decimals := by positivity
  have whole : units x decimals ≤ units y decimals :=
    towardZero_mono (mul_le_mul_of_nonneg_right h unit.le)
  exact div_le_div_of_nonneg_right (by exact_mod_cast whole) unit.le

end FixedPoint

end WholeParts

/-! ### Cutting without rounding -/

namespace Decimal

section Cutting

variable {c : ℕ} {f : ℤ}

theorem leading_le_of_digits (digits : c < 10 ^ precision) (f : ℤ) :
    leading c f ≤ f + precision - 1 := by
  rcases Nat.eq_zero_or_pos c with rfl | some
  · rw [leading, digitCount_zero, show precision = 28 from rfl]
    omega
  · have lead : (c : ℚ) * 10 ^ f < 10 ^ ((precision : ℤ) + f) := by
      rw [tenPow_natCast_add]
      exact mul_lt_mul_of_pos_right (by exact_mod_cast digits) (tenPow_pos f)
    rw [lt_tenPow_iff (magnitude_pos some.ne' f), ← leading_eq_log some] at lead
    omega

/-- At a place that is neither too low nor too high, a number is cut exactly if
what is left of it fits the working precision, and refused otherwise. -/
theorem cutAt_closed (s : Bool) (c : ℕ) (e : ℤ) (tiny : tinyExponent ≤ f)
    (large : f + precision ≤ maxExponent) :
    cutAt s c e f =
      if (c : ℚ) * 10 ^ e / 10 ^ f < 10 ^ precision then
        .ok (.finite s ⌊(c : ℚ) * 10 ^ e / 10 ^ f⌋₊ f)
      else .error .invalidOperation := by
  have range : ¬ (f < tinyExponent ∨ maxExponent < f) := by
    rw [show precision = 28 from rfl] at large
    omega
  rw [cutAt, if_neg range]
  by_cases none : c = 0
  · rw [if_pos none, none, Nat.cast_zero, zero_mul, zero_div,
      if_pos (by positivity), Nat.floor_zero]
  rw [if_neg none]
  dsimp only
  rw [kept_eq]
  by_cases fits : (c : ℚ) * 10 ^ e / 10 ^ f < 10 ^ precision
  · have digits : ⌊(c : ℚ) * 10 ^ e / 10 ^ f⌋₊ < 10 ^ precision := by
      rw [Nat.floor_lt (div_nonneg (magnitude_nonneg c e) (tenPow_pos f).le)]
      exact_mod_cast fits
    have lead := leading_le_of_digits digits f
    rw [if_pos fits,
      if_neg (not_lt.mpr ((digitCount_add_le_iff none).mpr fits)),
      if_neg (by omega)]
  · rw [if_neg fits,
      if_pos (not_le.mp fun few => fits ((digitCount_add_le_iff none).mp few))]

end Cutting

end Decimal

namespace FixedPoint

section Truncation

variable {d : ℕ}

/-- An amount is cut exactly if its whole units fit the working precision, and
refused otherwise. -/
theorem truncate_finite (s : Bool) (c : ℕ) (e : ℤ) (range : d ≤ 1000) :
    truncate (.finite s c e) d =
      if |spelled s c e| * 10 ^ d < 10 ^ precision then
        .ok (.finite s ⌊|spelled s c e| * 10 ^ d⌋₊ (-d))
      else .error .invalidOperation := by
  have tiny := tiny_of_million (range.trans (by decide))
  have large : -(d : ℤ) + precision ≤ maxExponent := by
    rw [show precision = 28 from rfl, show maxExponent = 999999 from rfl]
    omega
  have scaled : (c : ℚ) * 10 ^ e / 10 ^ (-(d : ℤ)) = |spelled s c e| * 10 ^ d := by
    rw [abs_spelled, zpow_neg, zpow_natCast, div_inv_eq_mul]
  calc truncate (.finite s c e) d = cutAt s c e (-d) := by
        rw [truncate, unit_eq tiny]
        rfl
    _ = _ := by rw [cutAt_closed s c e tiny large, scaled]

/-- What has been cut stays as it is. -/
theorem truncate_units {n : ℕ} (s : Bool) (digits : n < 10 ^ precision)
    (range : d ≤ 1000) :
    truncate (.finite s n (-d)) d = .ok (.finite s n (-d)) := by
  have whole : |spelled s n (-d)| * 10 ^ d = n := by
    rw [abs_spelled, zpow_neg, zpow_natCast, inv_mul_cancel_right₀ (by positivity)]
  rw [truncate_finite s n _ range, whole, if_pos (by exact_mod_cast digits),
    Nat.floor_natCast]

/-- What is defined and can be cut is finite. -/
theorem isFinite_of_truncate {v b : Decimal} (range : d ≤ 1000)
    (defined : v ≤ v) (h : truncate v d = .ok b) : v.isFinite := by
  rw [truncate, unit_eq (tiny_of_million (range.trans (by decide)))] at h
  rcases v with ⟨s, c, e⟩ | s | ⟨s, n, p⟩
  · rfl
  · cases h
  · cases defined_iff.mp defined

/-- A larger amount is not cut to less. -/
theorem truncate_mono {v w a b : Decimal} (range : d ≤ 1000) (order : v ≤ w)
    (hv : truncate v d = .ok a) (hw : truncate w d = .ok b) : a ≤ b := by
  have tiny := tiny_of_million (range.trans (by decide))
  have readsV :=
    reads_number (isFinite_of_truncate range (Decimal.le_refl_left order) hv)
  have readsW :=
    reads_number (isFinite_of_truncate range (Decimal.le_refl_right order) hw)
  obtain ⟨-, -, -, readsA⟩ := truncate_reads tiny readsV hv
  obtain ⟨-, -, -, readsB⟩ := truncate_reads tiny readsW hw
  have numbers : v.quantity ≤ w.quantity := order
  rw [readsV, readsW, Quantity.rational_le_rational] at numbers
  show a.quantity ≤ b.quantity
  rw [readsA, readsB, Quantity.rational_le_rational]
  exact cut_mono d numbers

/-- **Cutting is exact.**  A finite amount `v`, of any number of digits, is cut
to `d` decimals if and only if it has less than `10 ^ 28` units of `10 ^ -d`,
and is refused otherwise.

What is returned is written with `d` decimals and is the whole number of these
units in `v`, toward zero.  So it is not larger in magnitude than `v` and less
than a unit away from it; it stays as it is when it is cut again; and no larger
amount is cut to less. -/
theorem truncate_exact {v : Decimal} (finite : v.isFinite) (range : d ≤ 1000) :
    ((∃ b, truncate v d = .ok b) ↔ |v.number| * 10 ^ d < 10 ^ 28) ∧
    (¬ |v.number| * 10 ^ d < 10 ^ 28 → truncate v d = .error .invalidOperation) ∧
    ∀ b, truncate v d = .ok b →
      (∃ s n, b = .finite s n (-d)) ∧ b.Reads (cut v.number d) ∧
      |b.number| ≤ |v.number| ∧ |v.number - b.number| < 1 / 10 ^ d ∧
      truncate b d = .ok b ∧
      ∀ w c, v ≤ w → truncate w d = .ok c → b ≤ c := by
  have reads := reads_number finite
  have tiny := tiny_of_million (range.trans (by decide))
  obtain ⟨s, c, e, rfl⟩ : ∃ s c e, v = .finite s c e := by
    cases v with
    | finite s c e => exact ⟨s, c, e, rfl⟩
    | infinity s => cases finite
    | nan s n p => cases finite
  have closed := truncate_finite s c e range
  rw [show precision = 28 from rfl] at closed
  refine ⟨?_, ?_, ?_⟩
  · rw [closed]
    split_ifs with fits
    · exact iff_of_true ⟨_, rfl⟩ fits
    · exact iff_of_false nofun fits
  · intro many
    exact closed.trans (if_neg many)
  · intro b h
    obtain ⟨s', spelling, digits, readsB⟩ := truncate_reads tiny reads h
    refine ⟨⟨s', _, spelling⟩, readsB, ?_, ?_, ?_, ?_⟩
    · rw [readsB.number]
      exact abs_cut_le _ d
    · rw [readsB.number]
      exact abs_sub_cut_lt _ d
    · rw [spelling]
      exact truncate_units s' digits range
    · exact fun w c order h' => truncate_mono range order h h'

end Truncation

end FixedPoint

/-- An amount of 29 digits is cut to its first nine decimals.  One with
`10 ^ 28` units is refused, and one just below it is not. -/
theorem sample_truncated :
    (∃ b,
      FixedPoint.truncate (.finite true 99999999999999999999999999999 (-29)) 9 =
        .ok b ∧
      b.Reads (-999999999 / 10 ^ 9) ∧ FixedPoint.truncate b 9 = .ok b) ∧
    FixedPoint.truncate (.finite false 1 19) 9 = .error .invalidOperation ∧
    ∃ b, FixedPoint.truncate
      (.finite false 99999999999999999999999999999 (-10)) 9 = .ok b := by
  have nine : 9 ≤ 1000 := by decide
  refine ⟨?_, ?_, ?_⟩
  · obtain ⟨returns, -, exact⟩ :=
      FixedPoint.truncate_exact
        (v := .finite true 99999999999999999999999999999 (-29)) rfl nine
    obtain ⟨b, h⟩ := returns.mpr (by decide +kernel)
    obtain ⟨-, reads, -, -, again, -⟩ := exact b h
    have units : FixedPoint.cut
        (Decimal.finite true 99999999999999999999999999999 (-29)).number 9 =
          -999999999 / 10 ^ 9 := by decide +kernel
    exact ⟨b, h, units ▸ reads, again⟩
  · exact (FixedPoint.truncate_exact (v := .finite false 1 19) rfl nine).2.1
      (by decide +kernel)
  · exact (FixedPoint.truncate_exact rfl nine).1.mpr (by decide +kernel)

/-! ### Cutting after rounding -/

/-- Rounding carries a number up, away from zero, to a whole one. -/
def CarriedUp (x : ℚ) : Prop :=
  |x| < |rounded x| ∧ ∃ n : ℕ, |rounded x| = n

/-- Rounding takes one or more off a number. -/
def CutShort (x : ℚ) : Prop :=
  |rounded x| + 1 ≤ |x|

section Rounded

variable {x : ℚ}

/-- Where the last kept digit is no decimal, rounded numbers are whole. -/
theorem exists_abs_rounded_eq (coarse : 0 ≤ grain x) :
    ∃ n : ℕ, |rounded x| = n := by
  refine ⟨(nearestEven (x / 10 ^ grain x) * 10 ^ (grain x - 0).toNat).natAbs, ?_⟩
  rw [Nat.cast_natAbs, Int.cast_abs, Int.cast_mul, rounded]
  nth_rewrite 2 [tenPow_eq_mul coarse]
  rw [zpow_zero, mul_one]

/-- Numbers of no more digits before the point than the working precision keep
their ones. -/
theorem grain_nonpos (small : |x| < 10 ^ precision) : grain x ≤ 0 := by
  rcases eq_or_ne x 0 with rfl | some
  · rw [grain, abs_zero, Int.log_zero_right]
    decide
  · rw [← zpow_natCast, lt_tenPow_iff (abs_pos.mpr some)] at small
    rw [grain, show tinyExponent = -1000026 from rfl]
    omega

theorem lt_floor_rounded_add_one (fine : grain x ≤ 0) :
    |x| < ⌊|rounded x|⌋₊ + 1 := by
  by_contra low
  have next : ((⌊|rounded x|⌋₊ + 1 : ℕ) : ℤ) * 10 ^ (0 : ℤ) ≤ |x| := by
    rw [zpow_zero, mul_one]
    push_cast
    exact not_lt.mp low
  have kept := grid_le_rounded (by rwa [grain_abs]) next
  rw [← abs_rounded, zpow_zero, mul_one, Int.cast_natCast, Nat.cast_succ] at kept
  exact absurd (Nat.lt_floor_add_one |rounded x|) (not_lt.mpr kept)

/-- The whole part of a rounded number is too large just where rounding carries
up to it. -/
theorem lt_floor_rounded_iff : |x| < ⌊|rounded x|⌋₊ ↔ CarriedUp x := by
  have floor := Nat.floor_le (abs_nonneg (rounded x))
  constructor
  · intro above
    refine ⟨above.trans_le floor, ⌊|rounded x|⌋₊, le_antisymm ?_ floor⟩
    rcases le_total (grain x) 0 with fine | coarse
    · have bound : |x| ≤ ((⌊|rounded x|⌋₊ : ℤ) : ℚ) * 10 ^ (0 : ℤ) := by
        rw [zpow_zero, mul_one, Int.cast_natCast]
        exact above.le
      have kept := rounded_le_grid (by rwa [grain_abs]) bound
      rwa [← abs_rounded, zpow_zero, mul_one, Int.cast_natCast] at kept
    · obtain ⟨n, whole⟩ := exists_abs_rounded_eq coarse
      rw [whole, Nat.floor_natCast]
  · rintro ⟨up, n, whole⟩
    rwa [whole, Nat.floor_natCast, ← whole]

/-- The whole part of a rounded number is too small just where rounding takes
that much off. -/
theorem floor_rounded_add_one_le_iff : ⌊|rounded x|⌋₊ + 1 ≤ |x| ↔ CutShort x := by
  have floor := Nat.floor_le (abs_nonneg (rounded x))
  constructor
  · intro low
    rcases le_total (grain x) 0 with fine | coarse
    · exact absurd (lt_floor_rounded_add_one fine) (not_lt.mpr low)
    · obtain ⟨n, whole⟩ := exists_abs_rounded_eq coarse
      rw [whole, Nat.floor_natCast] at low
      rwa [CutShort, whole]
  · intro short
    exact (add_le_add_left floor 1).trans short

theorem not_cutShort (small : |x| < 10 ^ precision) : ¬ CutShort x := by
  rw [← floor_rounded_add_one_le_iff, not_le]
  exact lt_floor_rounded_add_one (grain_nonpos small)

/-- The whole part of a number is that of the rounded number, unless one of the
two goes wrong. -/
theorem towardZero_rounded_eq_iff : towardZero (rounded x) = towardZero x ↔
    ¬ CarriedUp x ∧ ¬ CutShort x := by
  rw [towardZero_eq_iff rounded_nonneg rounded_nonpos, eq_comm,
    Nat.floor_eq_iff (abs_nonneg x), ← lt_floor_rounded_iff,
    ← floor_rounded_add_one_le_iff, not_lt, not_le]

/-- Rounding adds no more than half of the last kept digit. -/
theorem abs_rounded_le_add_half (small : |x| < 10 ^ precision) :
    |rounded x| ≤ |x| + 1 / 2 := by
  have moved := abs_sub_rounded_le x
  have step : (10 : ℚ) ^ grain x ≤ 10 ^ (0 : ℤ) :=
    zpow_le_zpow_right₀ (by norm_num) (grain_nonpos small)
  have triangle := abs_sub_abs_le_abs_sub (rounded x) x
  rw [abs_sub_comm] at triangle
  rw [zpow_zero] at step
  linarith

end Rounded

namespace FixedPoint

/-- **Raw units are exact but for a rounding.**  A finite amount `v` below
`10 ^ 1000`, of any number of digits, has raw units at any number `d` of
decimals up to 255.  They are the whole units of `10 ^ -d` in `v`, toward zero,
if and only if moving the point neither carries the units up to a whole number
nor takes one or more off: in the first case, and in no other, the result is
larger in magnitude than `v * 10 ^ d`, and in the second one, and in no other,
it is one or more away from it.

Less than `10 ^ 28` units are never cut short, and exceeded by no more than a
half.  An amount of no more than 28 digits has its whole units. -/
theorem toRaw_exact_iff {v : Decimal} (finite : v.isFinite)
    (size : |v.number| < 10 ^ 1000) {d : ℕ} (byte : d ≤ 255) :
    ∃ n, toRaw v d = .ok n ∧
      (n = units v.number d ↔
        ¬ CarriedUp (v.number * 10 ^ d) ∧ ¬ CutShort (v.number * 10 ^ d)) ∧
      (|v.number * 10 ^ d| < |(n : ℚ)| ↔ CarriedUp (v.number * 10 ^ d)) ∧
      (|(n : ℚ)| + 1 ≤ |v.number * 10 ^ d| ↔ CutShort (v.number * 10 ^ d)) ∧
      (|v.number * 10 ^ d| < 10 ^ 28 →
        ¬ CutShort (v.number * 10 ^ d) ∧ |(n : ℚ)| ≤ |v.number * 10 ^ d| + 1 / 2) ∧
      ∀ m k : ℤ, v.number = m * 10 ^ k → |m| < 10 ^ 28 → n = units v.number d := by
  have byte' : d < 256 := Nat.lt_succ_of_le byte
  have run := toRaw_rounded (reads_number finite) (tiny_of_byte byte')
    (scaled_le_of_byte size byte')
  have magnitude : |((towardZero (rounded (v.number * 10 ^ d)) : ℤ) : ℚ)| =
      ⌊|rounded (v.number * 10 ^ d)|⌋₊ := by
    rw [← Int.cast_abs, abs_towardZero, Int.cast_natCast]
  refine ⟨_, run, towardZero_rounded_eq_iff, ?_, ?_, ?_, ?_⟩
  · rw [magnitude]
    exact lt_floor_rounded_iff
  · rw [magnitude]
    exact floor_rounded_add_one_le_iff
  · intro small
    exact ⟨not_cutShort small,
      (abs_towardZero_le _).trans (abs_rounded_le_add_half small)⟩
  · intro m k spelling digits
    have few : m.natAbs < 10 ^ precision := by
      zify
      exact digits
    have moved : v.number * 10 ^ d = spelled (decide (m < 0)) m.natAbs (k + d) := by
      rw [spelling, spelled_add, spelled_natAbs, zpow_natCast]
    rw [units, moved, towardZero_rounded _ few]

end FixedPoint

/-- Of 29 digits just below one, moving the point by nine decimals makes a unit
too many; of 28 digits it does not.  The last of `10 ^ 28 + 1` units is lost. -/
theorem sample_units :
    (∃ n,
      FixedPoint.toRaw (.finite false 99999999999999999999999999999 (-29)) 9 =
        .ok n ∧
      CarriedUp
        ((Decimal.finite false 99999999999999999999999999999 (-29)).number *
          10 ^ 9) ∧
      n ≠ FixedPoint.units
        (Decimal.finite false 99999999999999999999999999999 (-29)).number 9) ∧
    FixedPoint.toRaw (.finite false 9999999999999999999999999999 (-28)) 9 =
      .ok (FixedPoint.units
        (Decimal.finite false 9999999999999999999999999999 (-28)).number 9) ∧
    ∃ n, FixedPoint.toRaw (.finite false 10000000000000000000000000001 0) 0 =
      .ok n ∧
      CutShort ((Decimal.finite false 10000000000000000000000000001 0).number *
        10 ^ 0) ∧
      n ≠ FixedPoint.units
        (Decimal.finite false 10000000000000000000000000001 0).number 0 := by
  refine ⟨?_, ?_, ?_⟩
  · obtain ⟨n, run, exact, carried, -⟩ :=
      FixedPoint.toRaw_exact_iff (v := .finite false
        99999999999999999999999999999 (-29)) rfl (by decide +kernel)
        (show 9 ≤ 255 by decide)
    have value :
        FixedPoint.toRaw (.finite false 99999999999999999999999999999 (-29)) 9 =
          .ok 1000000000 := by
      decide +kernel
    obtain rfl := Except.ok.inj (run.symm.trans value)
    have up := carried.mp (by decide +kernel)
    exact ⟨_, run, up, fun same => (exact.mp same).1 up⟩
  · obtain ⟨n, run, -, -, -, -, digits⟩ :=
      FixedPoint.toRaw_exact_iff (v := .finite false
        9999999999999999999999999999 (-28)) rfl (by decide +kernel)
        (show 9 ≤ 255 by decide)
    obtain rfl :=
      digits 9999999999999999999999999999 (-28) (spelled_false _ _) (by decide)
    exact run
  · obtain ⟨n, run, exact, -, short, -⟩ :=
      FixedPoint.toRaw_exact_iff (v := .finite false
        10000000000000000000000000001 0) rfl (by decide +kernel)
        (show 0 ≤ 255 by decide)
    have value :
        FixedPoint.toRaw (.finite false 10000000000000000000000000001 0) 0 =
        .ok 10000000000000000000000000000 := by decide +kernel
    obtain rfl := Except.ok.inj (run.symm.trans value)
    have low := short.mp (by decide +kernel)
    exact ⟨_, run, low, fun same => (exact.mp same).2 low⟩

/-- An amount below one of which nine decimals make `10 ^ 9` raw units, more
than there are. -/
theorem sample_exceeded :
    ∃ (v : Decimal) (d : ℕ) (n : ℤ), v.isFinite ∧ |v.number| < 10 ^ 1000 ∧ d ≤ 255 ∧
      FixedPoint.toRaw v d = .ok n ∧ n ≠ FixedPoint.units v.number d ∧
      |v.number * 10 ^ d| < |(n : ℚ)| := by
  refine ⟨.finite false 99999999999999999999999999999 (-29), 9, 1000000000, rfl, ?_⟩
  decide +kernel

end ScenarioMargin
