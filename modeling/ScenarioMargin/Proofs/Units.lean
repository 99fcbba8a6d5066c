/-
ScenarioMargin/Proofs/Units.lean

Amounts as whole numbers of units.  A number has so many whole units of
`10 ^ -decimals`, counted toward zero (`units`), and these make up a number
again (`cut`).

Moving the point rounds to the working precision, and what is behind the point
is cut off afterwards.  For a figure (`Decimal.IsFigure`) the rounding is of no
consequence: either all of its digits are kept, or the number is so far below
one that it stays below one.

Main results: `toRaw_of_figure`, `fromRaw_of_digits`, `toRaw_fromRaw`.
-/
import ScenarioMargin.FixedPoint
import ScenarioMargin.Proofs.Exact

namespace ScenarioMargin

open Decimal

/-! ### Whole parts -/

/-- A number cut to a whole one. -/
def towardZero (x : ℚ) : Int :=
  if x < 0 then -⌊|x|⌋₊ else ⌊|x|⌋₊

theorem towardZero_eq_zero {x : ℚ} (h : |x| < 1) : towardZero x = 0 := by
  rw [towardZero, Nat.floor_eq_zero.mpr h]
  simp

theorem towardZero_of_nonneg {x : ℚ} (h : 0 ≤ x) : towardZero x = ⌊x⌋₊ := by
  rw [towardZero, if_neg (not_lt.mpr h), abs_of_nonneg h]

theorem towardZero_of_nonpos {x : ℚ} (h : x ≤ 0) : towardZero x = -⌊-x⌋₊ := by
  rcases h.lt_or_eq with below | rfl
  · rw [towardZero, if_pos below, abs_of_neg below]
  · rw [neg_zero, towardZero_of_nonneg le_rfl, Nat.floor_zero,
      Nat.cast_zero, neg_zero]

@[simp] theorem towardZero_intCast (n : ℤ) : towardZero n = n := by
  obtain ⟨k, rfl | rfl⟩ := n.eq_nat_or_neg
  · rw [Int.cast_natCast, towardZero_of_nonneg k.cast_nonneg, Nat.floor_natCast]
  · rw [Int.cast_neg, Int.cast_natCast,
      towardZero_of_nonpos (neg_nonpos.mpr k.cast_nonneg), neg_neg,
      Nat.floor_natCast]

/-- The whole part of a number is that of its magnitude under its sign. -/
theorem towardZero_spelled (s : Bool) (c : Nat) (e : Int) :
    towardZero (spelled s c e) = signed s ⌊|spelled s c e|⌋₊ := by
  rw [towardZero]
  rcases eq_or_ne c 0 with rfl | nonzero
  · -- zero is zero under either sign
    simp [signed]
  · have sign : decide (spelled s c e < 0) = s := spelled_lt_zero nonzero
    have below : s = true ↔ spelled s c e < 0 :=
      ⟨fun h => of_decide_eq_true (sign.trans h),
        fun h => sign.symm.trans (decide_eq_true h)⟩
    rw [signed]
    simp only [below]

theorem wholePart_finite (s : Bool) (c : Nat) (e : Int) :
    (Decimal.finite s c e).wholePart = .ok (towardZero (spelled s c e)) := by
  have digits :
      (if 0 ≤ e then c * Nat.pow 10 e.toNat else dropDown c e.natAbs) =
        ⌊|spelled s c e|⌋₊ := by
    have kept := kept_eq c e 0
    rw [sub_zero, zero_sub, zpow_zero, div_one] at kept
    rw [abs_spelled, ← kept]
    split_ifs
    · rfl
    · rw [show (-e).toNat = e.natAbs by omega]
  rw [wholePart, digits, towardZero_spelled]

theorem Decimal.Reads.wholePart {a : Decimal} {x : ℚ} (h : a.Reads x) :
    a.wholePart = .ok (towardZero x) := by
  rcases a with ⟨s, c, e⟩ | s | ⟨s, b, p⟩
  case finite =>
    obtain rfl := Quantity.rational.inj h
    exact wholePart_finite s c e
  all_goals cases h

/-! ### Whole parts of what was rounded -/

/-- Rounding does not pass a power of ten. -/
theorem abs_rounded_le_tenPow {x : ℚ} {k : ℤ} (hk : tinyExponent ≤ k)
    (h : |x| ≤ 10 ^ k) : |rounded x| ≤ 10 ^ k := by
  have fits : FitsDigits (10 ^ k) :=
    ⟨1, k, by rw [Int.cast_one, one_mul], by decide, hk⟩
  calc |rounded x| = rounded |x| := abs_rounded x
    _ ≤ rounded (10 ^ k) := rounded_mono h
    _ = 10 ^ k := rounded_of_fits fits

theorem fitsDigits_spelled {c : Nat} {e : Int} (s : Bool)
    (digits : c < 10 ^ precision) (tiny : tinyExponent ≤ e) :
    FitsDigits (spelled s c e) := by
  have bound : |(c : ℤ)| < 10 ^ precision := by
    rw [Nat.abs_cast]
    exact_mod_cast digits
  cases s with
  | false => exact ⟨c, e, by rw [spelled_false, Int.cast_natCast], bound, tiny⟩
  | true =>
    exact ⟨-c, e, by rw [spelled_true, Int.cast_neg, Int.cast_natCast, neg_mul],
      by rwa [abs_neg], tiny⟩

/-- Rounding does not change the whole part of a number that has no more digits
than the working precision. -/
theorem towardZero_rounded {c : Nat} (s : Bool)
    (digits : c < 10 ^ precision) (e : Int) :
    towardZero (rounded (spelled s c e)) = towardZero (spelled s c e) := by
  rcases le_or_gt tinyExponent e with kept | lost
  · rw [rounded_of_fits (fitsDigits_spelled s digits kept)]
  · -- what lies below the smallest exponent is far below one
    have below : |spelled s c e| ≤ 10 ^ (-1 : ℤ) := by
      rw [abs_spelled]
      calc (c : ℚ) * 10 ^ e ≤ 10 ^ precision * 10 ^ tinyExponent := by
            refine mul_le_mul ?_ (zpow_le_zpow_right₀ (by norm_num) lost.le)
              (tenPow_pos e).le (by positivity)
            exact_mod_cast digits.le
        _ = 10 ^ ((precision : ℤ) + tinyExponent) := (tenPow_natCast_add _ _).symm
        _ ≤ 10 ^ (-1 : ℤ) := zpow_le_zpow_right₀ (by norm_num) (by decide)
    have small : (10 : ℚ) ^ (-1 : ℤ) < 1 := by norm_num
    rw [towardZero_eq_zero
      ((abs_rounded_le_tenPow (by decide) below).trans_lt small),
      towardZero_eq_zero (below.trans_lt small)]

/-! ### Figures -/

/-- A finite number that has no more digits than the working precision and is
below `10 ^ 1000` in magnitude. -/
inductive Decimal.IsFigure : Decimal → Prop
  | finite {s : Bool} {c : Nat} {e : Int} (digits : c < 10 ^ precision)
      (size : |spelled s c e| < 10 ^ 1000) :
      IsFigure (.finite s c e)

namespace FixedPoint

/-- The whole units in a number, counted toward zero. -/
def units (x : ℚ) (decimals : ℕ) : ℤ :=
  towardZero (x * 10 ^ decimals)

/-- A number cut to whole units. -/
def cut (x : ℚ) (decimals : ℕ) : ℚ :=
  units x decimals / 10 ^ decimals

/-- The steps to units that are no smaller than the smallest number are all
taken. -/
theorem step_of_tiny {n : ℤ} (tiny : tinyExponent ≤ -(n.natAbs : ℤ)) :
    ¬ maxStep < n.natAbs := by
  rw [show tinyExponent = -1000026 from rfl] at tiny
  rw [show maxStep = 2000054 from rfl]
  omega

/-- A million decimals end above the smallest exponent. -/
theorem tiny_of_million {decimals : ℕ} (range : decimals ≤ 1000000) :
    tinyExponent ≤ -(decimals : ℤ) := by
  rw [show tinyExponent = -1000026 from rfl]
  omega

/-- So do the decimals that a byte can ask for. -/
theorem tiny_of_byte {decimals : ℕ} (byte : decimals < 256) :
    tinyExponent ≤ -(decimals : ℤ) :=
  tiny_of_million (by omega)

/-- One unit is spelled with the digit one. -/
theorem unit_eq {decimals : ℕ} (tiny : tinyExponent ≤ -(decimals : ℤ)) :
    unit decimals = .ok (.finite false 1 (-decimals)) := by
  have step : ¬ maxStep < (-(decimals : ℤ)).natAbs :=
    step_of_tiny (by rwa [Int.natAbs_neg, Int.natAbs_natCast])
  have lead : leading 1 (-(decimals : ℤ)) = -decimals := by
    rw [leading, show digitCount 1 = 1 by rw [digitCount]; rfl]
    omega
  have last : roundedExponent 1 (-(decimals : ℤ)) = -decimals := by
    rw [roundedExponent, lead, show precision = 28 from rfl]
    omega
  rw [unit, one, ofInt, scale, if_neg step, Decimal.round]
  simp only [Int.natAbs_one, zero_add, lead, last, sub_self, Int.toNat_zero,
    dropEven_zero]
  rw [if_neg one_ne_zero,
    if_neg (by rw [show maxExponent = 999999 from rfl]; omega),
    if_neg (by decide)]
  rfl

/-- An amount that is cut keeps its whole units, which fit the working
precision. -/
theorem truncate_reads {a b : Decimal} {x : ℚ} {decimals : ℕ}
    (tiny : tinyExponent ≤ -(decimals : ℤ)) (reads : a.Reads x)
    (h : truncate a decimals = .ok b) :
    ∃ s, b = .finite s ⌊|x| * 10 ^ decimals⌋₊ (-decimals) ∧
      ⌊|x| * 10 ^ decimals⌋₊ < 10 ^ precision ∧
      b.Reads (cut x decimals) := by
  rw [truncate, unit_eq tiny] at h
  replace h : a.quantizeDown (.finite false 1 (-decimals)) = .ok b := h
  rcases a with ⟨s, c, e⟩ | s | ⟨s, n, p⟩
  case finite =>
    obtain rfl := Quantity.rational.inj reads
    have scaled : (c : ℚ) * 10 ^ e / 10 ^ (-(decimals : ℤ)) =
        |spelled s c e| * 10 ^ decimals := by
      rw [abs_spelled, zpow_neg, zpow_natCast, div_inv_eq_mul]
    have kept := cutAt_eq h
    have digits := digits_of_cutAt h
    rw [scaled] at kept digits
    refine ⟨s, kept, digits, ?_⟩
    have moved : spelled s c e * 10 ^ decimals = spelled s c (e + decimals) := by
      rw [spelled_add, zpow_natCast]
    have magnitude : |spelled s c (e + decimals)| =
        |spelled s c e| * 10 ^ decimals := by
      rw [← moved, abs_mul, abs_of_pos (show (0 : ℚ) < 10 ^ decimals by positivity)]
    rw [kept, Reads, quantity_finite, cut, units, moved, towardZero_spelled,
      magnitude, spelled, zpow_neg, zpow_natCast, div_eq_mul_inv]
  all_goals cases reads

/-- Raw units of a number within the range: the point is moved, which rounds,
and the whole part is taken. -/
theorem toRaw_rounded {a : Decimal} {x : ℚ} {decimals : ℕ} (reads : a.Reads x)
    (tiny : tinyExponent ≤ -(decimals : ℤ))
    (size : |x * 10 ^ decimals| ≤ 10 ^ maxExponent) :
    toRaw a decimals = .ok (towardZero (rounded (x * 10 ^ decimals))) := by
  rcases a with ⟨s, c, e⟩ | s | ⟨s, n, p⟩
  case finite =>
    obtain rfl := Quantity.rational.inj reads
    have inRange : |rounded (spelled s c e * 10 ^ decimals)| <
        10 ^ (maxExponent + 1) :=
      (abs_rounded_le_tenPow (by decide) size).trans_lt
        (zpow_lt_zpow_right₀ (by norm_num) (by decide))
    have value := scale_quantity (s := s) (c := c) (e := e)
      (step_of_tiny (n := decimals) tiny)
    rw [zpow_natCast, Quantity.ofRational, if_pos inRange] at value
    obtain ⟨b, scaled, readsB⟩ := ok_of_quantity value
    calc toRaw (.finite s c e) decimals = b.wholePart := by
          rw [toRaw, scaled]
          rfl
      _ = .ok (towardZero (rounded (spelled s c e * 10 ^ decimals))) :=
        Reads.wholePart readsB
  all_goals cases reads

/-- Numbers below `10 ^ 1000` stay in the range, whatever decimals a byte asks
for. -/
theorem scaled_le_of_byte {x : ℚ} (size : |x| < 10 ^ 1000) {decimals : ℕ}
    (byte : decimals < 256) : |x * 10 ^ decimals| ≤ 10 ^ maxExponent := by
  rw [abs_mul, abs_of_pos (show (0 : ℚ) < 10 ^ decimals by positivity)]
  calc |x| * 10 ^ decimals ≤ 10 ^ 1000 * 10 ^ 255 :=
        mul_le_mul size.le (pow_le_pow_right₀ (by norm_num) (by omega))
          (by positivity) (by positivity)
    _ = 10 ^ (1255 : ℤ) := by rw [← pow_add, ← zpow_natCast]; rfl
    _ ≤ 10 ^ maxExponent := zpow_le_zpow_right₀ (by norm_num) (by decide)

/-- A figure has as many raw units as it has whole units, whatever decimals a
byte asks for. -/
theorem toRaw_of_figure {a : Decimal} (h : a.IsFigure) {decimals : ℕ}
    (byte : decimals < 256) :
    toRaw a decimals = .ok (units a.number decimals) := by
  obtain @⟨s, c, e, digits, size⟩ := h
  have moved : spelled s c e * 10 ^ decimals = spelled s c (e + decimals) := by
    rw [spelled_add, zpow_natCast]
  calc toRaw (.finite s c e) decimals
      = .ok (towardZero (rounded (spelled s c e * 10 ^ decimals))) :=
        toRaw_rounded (quantity_finite s c e) (tiny_of_byte byte)
          (scaled_le_of_byte size byte)
    _ = .ok (units (spelled s c e) decimals) := by
      rw [units, moved, towardZero_rounded s digits]

section Digits

variable {raw : ℤ} {decimals : ℕ} {amount : Decimal}
variable (digits : |raw| < 10 ^ precision) (tiny : tinyExponent ≤ -(decimals : ℤ))

include digits tiny

/-- Units that are no more digits than the working precision are an amount that
is not rounded. -/
theorem fromRaw_of_digits : ∃ amount, fromRaw raw decimals = .ok amount ∧
    amount.Reads (raw / 10 ^ decimals) := by
  have shifted : (raw : ℚ) * 10 ^ (-(decimals : ℤ)) = raw / 10 ^ decimals := by
    rw [zpow_neg, zpow_natCast, div_eq_mul_inv]
  have fits : Exact.Fits (raw / 10 ^ decimals) := by
    refine Exact.fits_of_scaled (k := decimals) tiny ?_ ?_
    · rw [div_mul_cancel₀ _ (by positivity)]
      exact Rat.den_intCast raw
    · rw [div_mul_cancel₀ _ (by positivity)]
      exact_mod_cast digits
  have step : ¬ maxStep < (-(decimals : ℤ)).natAbs :=
    step_of_tiny (by rwa [Int.natAbs_neg, Int.natAbs_natCast])
  have value := ofInt_scale_quantity (n := raw) step
  rw [shifted, ofRational_of_fits fits] at value
  exact ok_of_quantity value

/-- An amount that is so many units has these raw units, however it is
spelled. -/
theorem toRaw_of_reads (reads : amount.Reads (raw / 10 ^ decimals)) :
    toRaw amount decimals = .ok raw := by
  have scaled : (raw : ℚ) / 10 ^ decimals * 10 ^ decimals = raw :=
    div_mul_cancel₀ _ (by positivity)
  have fits : Exact.Fits (raw : ℚ) :=
    Exact.fits_of_scaled (k := 0) (by decide)
      (by rw [pow_zero, mul_one]; exact Rat.den_intCast raw)
      (by rw [pow_zero, mul_one]; exact_mod_cast digits)
  have size : |(raw : ℚ)| ≤ 10 ^ maxExponent := by
    calc |(raw : ℚ)| ≤ 10 ^ (precision : ℤ) := by
          rw [zpow_natCast]
          exact_mod_cast digits.le
      _ ≤ 10 ^ maxExponent := zpow_le_zpow_right₀ (by norm_num) (by decide)
  rw [toRaw_rounded reads tiny (by rwa [scaled]), scaled,
    rounded_of_fits fits.1, towardZero_intCast]

/-- Units are recovered from their amount. -/
theorem toRaw_fromRaw (h : fromRaw raw decimals = .ok amount) :
    toRaw amount decimals = .ok raw := by
  obtain ⟨_, made, reads⟩ := fromRaw_of_digits digits tiny
  obtain rfl := Except.ok.inj (made.symm.trans h)
  exact toRaw_of_reads digits tiny reads

end Digits

end FixedPoint

end ScenarioMargin
