/-
ScenarioMargin/Proofs/Decimal/Binary.lean

Decimal numbers as binary ones.  The nearest binary number depends on what a
decimal number stands for and not on its spelling: the fraction it is computed
from enters through the power of two of its leading bit (`leadingPower_eq`) and
through a nearest whole number (`nearestWhole_eq`), and both are functions of a
rational number.  The one thing that a spelling can still show is the sign of
zero.  An intrinsic value is the positive part of a difference, and it forgets
that sign, too.

Main results: `Decimal.Same.asFloat`, `intrinsic_eq`.
-/
import ScenarioMargin.Proofs.Agree
import ScenarioMargin.Valuation

namespace ScenarioMargin

namespace Binary

/-! ### Fractions -/

section Fractions

variable {num den : Nat}

/-- A fraction with its point moved by a power of two. -/
theorem scaled_div (num den : Nat) (p : ℤ) :
    ((num * Nat.pow 2 (-p).toNat : Nat) : ℚ) / (den * Nat.pow 2 p.toNat : Nat) =
      num / den / 2 ^ p := by
  rw [zpow_eq_div 2 p, Nat.pow_eq, Nat.pow_eq]
  push_cast
  field_simp

/-- Whole numbers compare a fraction with a power of two. -/
theorem twoPow_le_iff (hd : 0 < den) (p : ℤ) :
    den * Nat.pow 2 p.toNat ≤ num * Nat.pow 2 (-p).toNat ↔
      (2 : ℚ) ^ p ≤ num / den := by
  have denPos : (0 : ℚ) < (den * Nat.pow 2 p.toNat : Nat) := by
    exact_mod_cast Nat.mul_pos hd (Nat.pow_pos (by decide))
  rw [← one_le_div₀ (zpow_pos (by norm_num : (0 : ℚ) < 2) p), ← scaled_div,
    one_le_div₀ denPos]
  exact_mod_cast Iff.rfl

/-- The powers of two on either side of a fraction, from the bits of its
parts. -/
theorem between_powers (hn : 0 < num) (hd : 0 < den) :
    (2 : ℚ) ^ ((num.log2 : ℤ) - den.log2 - 1) ≤ num / den ∧
      (num : ℚ) / den < 2 ^ ((num.log2 : ℤ) - den.log2 + 1) := by
  have denPos : (0 : ℚ) < den := by exact_mod_cast hd
  have numLow : (2 : ℚ) ^ num.log2 ≤ num := by
    exact_mod_cast Nat.log2_self_le hn.ne'
  have numHigh : (num : ℚ) < 2 ^ (num.log2 + 1) := by
    exact_mod_cast Nat.lt_log2_self
  have denLow : (2 : ℚ) ^ den.log2 ≤ den := by
    exact_mod_cast Nat.log2_self_le hd.ne'
  have denHigh : (den : ℚ) < 2 ^ (den.log2 + 1) := by
    exact_mod_cast Nat.lt_log2_self
  have down : (2 : ℚ) ^ ((num.log2 : ℤ) - den.log2 - 1) =
      2 ^ num.log2 / 2 ^ (den.log2 + 1) := by
    rw [sub_sub, zpow_sub₀ (by norm_num)]
    exact_mod_cast rfl
  have up : (2 : ℚ) ^ ((num.log2 : ℤ) - den.log2 + 1) =
      2 ^ (num.log2 + 1) / 2 ^ den.log2 := by
    rw [sub_add_eq_add_sub, zpow_sub₀ (by norm_num)]
    exact_mod_cast rfl
  constructor
  · rw [down, div_le_div_iff₀ (by positivity) denPos]
    calc (2 : ℚ) ^ num.log2 * den ≤ num * den := by gcongr
      _ ≤ num * 2 ^ (den.log2 + 1) := by gcongr
  · rw [up, div_lt_div_iff₀ denPos (by positivity)]
    calc (num : ℚ) * 2 ^ den.log2 ≤ num * den := by gcongr
      _ < 2 ^ (num.log2 + 1) * den := by gcongr

/-- The leading bit of a fraction stands at its logarithm. -/
theorem leadingPower_eq (hn : 0 < num) (hd : 0 < den) :
    leadingPower num den = Int.log 2 ((num : ℚ) / den) := by
  have pos : (0 : ℚ) < num / den := by positivity
  have le_log (p : ℤ) : (2 : ℚ) ^ p ≤ num / den ↔
      p ≤ Int.log 2 ((num : ℚ) / den) := by
    have h := Int.zpow_le_iff_le_log (b := 2) (by norm_num) (x := p) pos
    exact_mod_cast h
  obtain ⟨low, high⟩ := between_powers hn hd
  have above := (le_log _).mp low
  have below := (le_log _).not.mp (not_le.mpr high)
  rw [leadingPower]
  simp only [twoPow_le_iff hd, le_log]
  split_ifs <;> omega

/-- The nearest whole number of a fraction. -/
theorem nearestWhole_eq (hd : 0 < den) :
    (nearestWhole num den : ℤ) = nearestEven ((num : ℚ) / den) := by
  rw [Decimal.div_eq_mixed num hd,
    Decimal.nearestEven_add_div _ (Nat.mod_lt num hd)]
  rfl

/-- The nearest binary number depends on the fraction alone. -/
theorem nearestBits_congr {num' den' : Nat} (hd : 0 < den) (hd' : 0 < den')
    (same : (num : ℚ) / den = num' / den') :
    nearestBits num den = nearestBits num' den' := by
  have zero : num = 0 ↔ num' = 0 := by
    have vanishes {n d : Nat} (h : 0 < d) : (n : ℚ) / d = 0 ↔ n = 0 := by
      simp [h.ne']
    rw [← vanishes hd, ← vanishes hd', same]
  rw [nearestBits, nearestBits]
  by_cases hn : num = 0
  · rw [if_pos hn, if_pos (zero.mp hn)]
  · have hn' := zero.not.mp hn
    have powers : leadingPower num den = leadingPower num' den' := by
      rw [leadingPower_eq (Nat.pos_of_ne_zero hn) hd,
        leadingPower_eq (Nat.pos_of_ne_zero hn') hd', same]
    have mantissas : ∀ p : ℤ,
        nearestWhole (num * Nat.pow 2 (-p).toNat) (den * Nat.pow 2 p.toNat) =
          nearestWhole (num' * Nat.pow 2 (-p).toNat)
            (den' * Nat.pow 2 p.toNat) := by
      intro p
      have unit : 0 < Nat.pow 2 p.toNat := Nat.pow_pos (by decide)
      apply Int.ofNat_inj.mp
      rw [nearestWhole_eq (Nat.mul_pos hd unit),
        nearestWhole_eq (Nat.mul_pos hd' unit), scaled_div, scaled_div, same]
    rw [if_neg hn, if_neg hn', powers]
    dsimp only
    rw [mantissas]

end Fractions

/-! ### Zeros -/

/-- Binary numbers that are the same, or are zeros of whatever signs. -/
inductive Alike : Float → Float → Prop
  | refl (x : Float) : Alike x x
  | zero (s t : Bool) : Alike (ofMagnitudeBits s 0) (ofMagnitudeBits t 0)

end Binary

open Binary

/-! ### Decimal numbers -/

namespace Decimal

/-- Finite numbers that stand for the same have the same nearest binary number,
unless they are zero. -/
theorem finiteToFloat_congr {s t : Bool} {c d : Nat} {e f : Int} (hc : c ≠ 0)
    (same : spelled s c e = spelled t d f) :
    finiteToFloat s c e = finiteToFloat t d f := by
  have hd : d ≠ 0 :=
    fun zero => hc (spelled_eq_zero.mp (same.trans (spelled_eq_zero.mpr zero)))
  obtain rfl : s = t := by
    rw [← spelled_lt_zero (s := s) (e := e) hc,
      ← spelled_lt_zero (s := t) (e := f) hd, same]
  have magnitude : (c : ℚ) * 10 ^ e = d * 10 ^ f := by
    rw [← abs_spelled s, ← abs_spelled s, same]
  have leads : leading c e = leading d f := by
    rw [leading_eq_log (Nat.pos_of_ne_zero hc),
      leading_eq_log (Nat.pos_of_ne_zero hd), magnitude]
  have fraction (n : Nat) (p : Int) :
      ((n * Nat.pow 10 p.toNat : Nat) : ℚ) / (Nat.pow 10 (-p).toNat : Nat) =
        n * 10 ^ p := by
    rw [zpow_eq_div 10 p, Nat.pow_eq, Nat.pow_eq]
    push_cast
    ring
  have unit (p : Int) : 0 < Nat.pow 10 p.toNat := Nat.pow_pos (by decide)
  rw [finiteToFloat, finiteToFloat, if_neg hc, if_neg hd, leads, nearest, nearest,
    nearestBits_congr (unit _) (unit _)
      ((fraction c e).trans (magnitude.trans (fraction d f).symm))]

/-- Numbers that stand for the same are alike as binary numbers. -/
theorem Same.asFloat {alike : Prop} {a b : Decimal} (h : a.Same b) :
    Agree alike Alike a.asFloat b.asFloat := by
  rcases a with ⟨s, c, e⟩ | s | ⟨s, m, p⟩ <;>
    rcases b with ⟨t, d, f⟩ | t | ⟨t, n, q⟩ <;>
    simp only [Same, quantity_finite, quantity_infinity, quantity_nan,
      reduceCtorEq, Quantity.rational.injEq, Quantity.infinite.injEq,
      Quantity.undefined.injEq] at h
  · by_cases hc : c = 0
    · have hd : d = 0 := by
        rw [← spelled_eq_zero (s := t) (e := f), ← h, spelled_eq_zero]
        exact hc
      subst hc hd
      exact .ok (.zero s t)
    · have floats := finiteToFloat_congr hc h
      rw [Decimal.asFloat, Decimal.asFloat, toFloat?, toFloat?, floats]
      exact .ok (.refl _)
  · subst h
    exact .ok (.refl _)
  · subst h
    cases m with
    | true => exact .error fun _ => rfl
    | false =>
      -- there is but one NaN among binary numbers
      have nans : ofMagnitudeBits s 0x7FF8000000000000 =
          ofMagnitudeBits t 0x7FF8000000000000 := by
        cases s <;> cases t <;> decide +kernel
      rw [Decimal.asFloat, Decimal.asFloat, toFloat?, toFloat?, nans]
      exact .ok (.refl _)

end Decimal

/-! ### Intrinsic values -/

section Intrinsic

open Float.Model

/-- The sign of a zero. -/
def zeroSign (negative : Bool) : UnpackedFloat.Sign :=
  if negative then .negative else .positive

theorem unpack_zero (s : Bool) :
    (ofMagnitudeBits s 0).toModel.unpack = .zero (zeroSign s) := by
  cases s <;> rfl

/-- The positive part of a difference, from the two numbers as the machine
takes them apart. -/
def positiveGap (x y : UnpackedFloat) : Float :=
  positivePart (.ofModel (pack (x.sub .binary64 y)))

theorem positivePart_sub (x y : Float) :
    positivePart (x - y) = positiveGap x.toModel.unpack y.toModel.unpack := rfl

/-- Nothing is between zeros. -/
theorem positiveGap_zeros (s t s' t' : UnpackedFloat.Sign) :
    positiveGap (.zero s) (.zero t) = positiveGap (.zero s') (.zero t') := by
  cases s <;> cases t <;> cases s' <;> cases t' <;> decide +kernel

/-- The positive part of a difference does not depend on the sign of a zero
that is taken away from. -/
theorem positiveGap_zero_left (s t : UnpackedFloat.Sign) (y : UnpackedFloat) :
    positiveGap (.zero s) y = positiveGap (.zero t) y := by
  cases y with
  | infinity u => rfl
  | notANumber => rfl
  | zero u => exact positiveGap_zeros s u t u
  | finite u m e pos => rfl

/-- Nor on that of a zero that is taken away. -/
theorem positiveGap_zero_right (x : UnpackedFloat) (s t : UnpackedFloat.Sign) :
    positiveGap x (.zero s) = positiveGap x (.zero t) := by
  cases x with
  | infinity u => rfl
  | notANumber => rfl
  | zero u => exact positiveGap_zeros u s u t
  | finite u m e pos => rfl

theorem positivePart_sub_alike {x x' y y' : Float} (hx : Alike x x')
    (hy : Alike y y') : positivePart (x - y) = positivePart (x' - y') := by
  rw [positivePart_sub, positivePart_sub]
  cases hx with
  | refl x =>
    cases hy with
    | refl y => rfl
    | zero s t =>
      rw [unpack_zero, unpack_zero]
      exact positiveGap_zero_right _ _ _
  | zero s t =>
    rw [unpack_zero, unpack_zero]
    cases hy with
    | refl y => exact positiveGap_zero_left _ _ _
    | zero s' t' =>
      rw [unpack_zero, unpack_zero]
      exact positiveGap_zeros _ _ _ _

end Intrinsic

/-- What exercising an option is worth depends on the values of spot and strike
alone. -/
theorem intrinsic_eq (kind : OptionKind) {spot spot' strike strike' : Float}
    (hs : Alike spot spot') (hk : Alike strike strike') :
    kind.intrinsic spot strike = kind.intrinsic spot' strike' := by
  cases kind with
  | call => exact positivePart_sub_alike hs hk
  | put => exact positivePart_sub_alike hk hs

end ScenarioMargin
