/-
ScenarioMargin/Proofs/Decimal/Quotient.lean

Division read as division of rational numbers, rounded once (`div_quantity`).

A quotient is computed as a whole number of units that lie two digits below the
last kept one.  Where it is no whole number of them, its last digit is moved
off a multiple of five; so it stays between the same two neighbouring half
steps of the next coarser grid as the exact quotient, and rounds as that does.
-/
import ScenarioMargin.Proofs.Decimal.Reading

namespace ScenarioMargin.Decimal

/-! ### Trailing zeros -/

/-- A last zero stands for nothing but the exponent. -/
theorem spelled_drop_zero {c : Nat} (zero : c % 10 = 0) (s : Bool) (e : Int) :
    spelled s (c / 10) (e + 1) = spelled s c e := by
  have whole : (c : ℚ) = (c / 10 : Nat) * 10 := by
    exact_mod_cast (by omega : c = c / 10 * 10)
  cases s
  · rw [spelled_false, spelled_false, tenPow_add_one, whole]
    ring
  · rw [spelled_true, spelled_true, tenPow_add_one, whole]
    ring

/-- Zeros that are stripped leave the number as it is. -/
theorem spelled_stripTo (s : Bool) (ideal : Int) (c : Nat) (e : Int) (steps : Nat) :
    spelled s (stripTo ideal c e steps).1 (stripTo ideal c e steps).2 =
      spelled s c e := by
  induction steps generalizing c e with
  | zero => rfl
  | succ steps ih =>
    rw [stripTo]
    split_ifs with strips
    · rw [ih, spelled_drop_zero strips.1]
    · rfl

/-! ### Digits of a quotient -/

section Digits

variable {n d : Nat}

/-- The digits of a quotient that goes on, with the last one moved off a
multiple of five, round as the quotient does. -/
theorem rounded_marked (hd : 0 < d) (digits : 10 ^ precision * d ≤ n)
    (rest : n % d ≠ 0) (g : ℤ) :
    rounded ((if n / d % 5 = 0 then n / d + 1 else n / d : Nat) * 10 ^ g) =
      rounded (n / d * 10 ^ g) := by
  have denPos : (0 : ℚ) < d := by exact_mod_cast hd
  have restPos : (0 : ℚ) < (n % d : Nat) / d := by
    have : (0 : ℚ) < (n % d : Nat) := by exact_mod_cast Nat.pos_of_ne_zero rest
    positivity
  have restLt : ((n % d : Nat) : ℚ) / d < 1 := by
    rw [div_lt_one denPos]
    exact_mod_cast Nat.mod_lt n hd
  have parts := div_eq_mixed n hd
  have large : 10 ^ precision ≤ n / d := (Nat.le_div_iff_mul_le hd).mpr digits
  generalize n / d = q at *
  have step := tenPow_pos g
  have tenth : (10 : ℚ) ^ (g + 1) / 2 = 5 * 10 ^ g := by
    rw [tenPow_add_one]
    ring
  have remainder : (5 : ℚ) * (q / 5 : Nat) + (q % 5 : Nat) = q := by
    exact_mod_cast Nat.div_add_mod q 5
  have least : 1 ≤ ((q / 5 : Nat) : ℤ) := by
    rw [show precision = 28 from rfl] at large
    omega
  -- the quotient has all the digits that are kept, and one more
  have coarse : g + 1 ≤ grain ((n : ℚ) / d * 10 ^ g) := by
    have size : (10 : ℚ) ^ ((precision : ℤ) + g) ≤ n / d * 10 ^ g := by
      rw [tenPow_natCast_add]
      refine mul_le_mul_of_nonneg_right ?_ step.le
      have : ((10 ^ precision : Nat) : ℚ) ≤ q := by exact_mod_cast large
      push_cast at this
      linarith
    have pos : (0 : ℚ) < n / d * 10 ^ g := (tenPow_pos _).trans_le size
    have log := (tenPow_le_iff pos _).mp size
    rw [grain, abs_of_pos pos]
    omega
  have moved : (5 : ℚ) * (q / 5 : Nat) < (if q % 5 = 0 then q + 1 else q : Nat) ∧
      ((if q % 5 = 0 then q + 1 else q : Nat) : ℚ) < 5 * (q / 5 : Nat) + 5 := by
    constructor <;> norm_cast <;> split_ifs <;> omega
  have last : ((q % 5 : Nat) : ℚ) ≤ 4 := by exact_mod_cast (by omega : q % 5 ≤ 4)
  have none : (0 : ℚ) ≤ (q % 5 : Nat) := Nat.cast_nonneg _
  symm
  apply rounded_eq_of_between (k := g + 1) (m := (q / 5 : Nat)) least coarse
  all_goals rw [tenth, Int.cast_natCast, ← mul_assoc, mul_lt_mul_iff_left₀ step]
  · linarith
  · linarith
  · linarith [moved.1]
  · linarith [moved.2]

end Digits

/-- A fraction with its point moved by a power of ten. -/
theorem shifted_div (c d : Nat) (p : ℤ) :
    ((c * Nat.pow 10 p.toNat : Nat) : ℚ) / (d * Nat.pow 10 (-p).toNat : Nat) =
      c / d * 10 ^ p := by
  rw [zpow_eq_div 10 p, Nat.pow_eq, Nat.pow_eq]
  push_cast
  field_simp

/-- The point is moved so far that one more digit is computed than is kept. -/
theorem digits_of_shift {c d : Nat} (hc : c ≠ 0) :
    10 ^ precision * (d *
      10 ^ (-((digitCount d : Int) - digitCount c + precision + 1)).toNat) ≤
      c * 10 ^ ((digitCount d : Int) - digitCount c + precision + 1).toNat := by
  have digits := digitCount_pos c
  calc 10 ^ precision *
    (d * 10 ^ (-((digitCount d : Int) - digitCount c + precision + 1)).toNat)
      ≤ 10 ^ precision * (10 ^ digitCount d * 10 ^
        (-((digitCount d : Int) - digitCount c + precision + 1)).toNat) := by
        gcongr
        exact (lt_pow_digitCount d).le
    _ = 10 ^ (digitCount c - 1) *
      10 ^ ((digitCount d : Int) - digitCount c + precision + 1).toNat := by
        simp only [← pow_add]
        congr 1
        omega
    _ ≤ c * 10 ^ ((digitCount d : Int) - digitCount c + precision + 1).toNat := by
        gcongr
        exact pow_digitCount_le (Nat.pos_of_ne_zero hc)

/-! ### Quotients -/

theorem spelled_div (s t : Bool) (c : Nat) (e : Int) (d : Nat) (f : Int) :
    spelled s c e / spelled t d f = spelled (s != t) c (e - f) / d := by
  cases s <;> cases t <;> simp [spelled, signed, zpow_sub₀, div_eq_mul_inv] <;> ring

/-- The computed quotient is the rounded quotient. -/
theorem quotient_quantity (s : Bool) (c : Nat) (e : Int) {d : Nat}
    (hd : 0 < d) (f : Int) :
    (quotient s c e d f).map quantity =
      Quantity.ofRational (spelled s c (e - f) / d) := by
  rw [quotient]
  by_cases hc : c = 0
  · rw [if_pos hc, hc, spelled_zero, zero_div, Quantity.ofRational_zero]
    simp [roundZero, Except.map]
  rw [if_neg hc]
  dsimp only
  have digits := digits_of_shift (d := d) hc
  have fraction :=
    shifted_div c d ((digitCount d : Int) - digitCount c + precision + 1)
  simp only [Nat.pow_eq] at fraction ⊢
  have den : 0 < d *
      10 ^ (-((digitCount d : Int) - digitCount c + precision + 1)).toNat := by
    positivity
  generalize (digitCount d : Int) - digitCount c + precision + 1 = shift at *
  have exact : ((c * 10 ^ shift.toNat : Nat) : ℚ) /
      (d * 10 ^ (-shift).toNat : Nat) * 10 ^ (e - f - shift) =
        c * 10 ^ (e - f) / d := by
    rw [fraction, mul_assoc, ← tenPow_add]
    ring_nf
  generalize c * 10 ^ shift.toNat = num at *
  generalize d * 10 ^ (-shift).toNat = below at *
  by_cases whole : num % below = 0
  · -- nothing remains, and the digits are those of the quotient
    rw [if_pos whole, round_quantity, spelled_stripTo]
    congr 1
    have value := div_eq_mixed num den
    rw [whole, Nat.cast_zero, zero_div, add_zero] at value
    rw [value] at exact
    cases s
    · rw [spelled_false, spelled_false, exact]
    · rw [spelled_true, spelled_true, exact, neg_div]
  · rw [if_neg whole, round_quantity]
    apply Quantity.ofRational_congr
    have marked := rounded_marked den digits whole (e - f - shift)
    rw [exact] at marked
    cases s
    · rw [spelled_false, spelled_false, marked]
    · rw [spelled_true, spelled_true, neg_div, rounded_neg, rounded_neg, marked]

/-- Division is division of rational numbers, rounded once. -/
theorem div_quantity {a b : Decimal} {x y : ℚ} (ha : a.quantity = .rational x)
    (hb : b.quantity = .rational y) (hy : y ≠ 0) :
    (a.div b).map quantity = Quantity.ofRational (x / y) := by
  rcases a with ⟨s, c, e⟩ | s | ⟨s, n, p⟩ <;>
    rcases b with ⟨t, d, f⟩ | t | ⟨t, m, q⟩
  case finite.finite =>
    obtain rfl := Quantity.rational.inj ha
    obtain rfl := Quantity.rational.inj hb
    have hd : d ≠ 0 := spelled_eq_zero.not.mp hy
    rw [div, if_neg hd, quotient_quantity _ _ _ (Nat.pos_of_ne_zero hd),
      spelled_div]
  case finite.infinity | finite.nan => cases hb
  all_goals cases ha

end ScenarioMargin.Decimal
