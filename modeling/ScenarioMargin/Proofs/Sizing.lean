/-
ScenarioMargin/Proofs/Sizing.lean

How many times the legs an amount of the quote asset buys.  The quotient of
amount and price is rounded to the working precision and then cut to whole
units.  The size is never a unit or more below the exact quotient, nor a unit
or more above it; it is above it where, and only where, rounding carries the
quotient up to a whole number of units (`cut_rounded_le_iff`).

That takes an amount of many digits.  An amount and a price that are whole
numbers of some common unit make a quotient that stays clear of the next whole
unit, as long as the amount is less than `2 * 10 ^ 18` of them
(`cut_rounded_le_of_fraction`).

Main result: `FixedSize.multiplier_quote`.
-/
import ScenarioMargin.Rfq
import ScenarioMargin.Proofs.Decimal.Order
import ScenarioMargin.Proofs.Decimal.Quotient
import ScenarioMargin.Proofs.Returns
import ScenarioMargin.Proofs.Units

namespace ScenarioMargin

open Decimal

/-! ### Rounding before cutting -/

namespace FixedPoint

theorem cut_of_nonneg {x : ℚ} (nonneg : 0 ≤ x) (decimals : ℕ) :
    cut x decimals = ⌊x * 10 ^ decimals⌋₊ / 10 ^ decimals := by
  have scaled : 0 ≤ x * 10 ^ decimals := by positivity
  rw [cut, units, towardZero_of_nonneg scaled, Int.cast_natCast]

/-- A whole number of units is not rounded if it fits the working precision. -/
theorem rounded_units {n decimals : ℕ} (digits : n ≤ 10 ^ precision)
    (tiny : tinyExponent ≤ -(decimals : ℤ)) :
    rounded (n / 10 ^ decimals) = n / 10 ^ decimals := by
  apply rounded_of_fits
  have unit : (10 : ℚ) ^ (-(decimals : ℤ)) = 1 / 10 ^ decimals := by
    rw [zpow_neg, zpow_natCast, one_div]
  rcases digits.lt_or_eq with digits | rfl
  · refine ⟨n, -decimals, ?_, ?_, tiny⟩
    · rw [unit, Int.cast_natCast, mul_one_div]
    · rw [Nat.abs_cast]
      exact_mod_cast digits
  · -- the first number with more digits is a power of ten
    refine ⟨1, precision + -decimals, ?_, by decide, tiny.trans (by omega)⟩
    rw [tenPow_natCast_add, unit]
    push_cast
    ring

section Rounded

variable {x : ℚ} {decimals : ℕ} (nonneg : 0 ≤ x)
  (digits : ⌊rounded x * 10 ^ decimals⌋₊ < 10 ^ precision)
variable (tiny : tinyExponent ≤ -(decimals : ℤ))

include nonneg digits tiny

/-- Less than a unit is lost. -/
theorem lt_cut_rounded_add_unit :
    x < cut (rounded x) decimals + 1 / 10 ^ decimals := by
  have unit : (0 : ℚ) < 10 ^ decimals := by positivity
  rw [cut_of_nonneg (rounded_nonneg nonneg), ← add_div]
  by_contra high
  have next : ((⌊rounded x * 10 ^ decimals⌋₊ + 1 : ℕ) : ℚ) / 10 ^ decimals ≤
      rounded x := by
    rw [← rounded_units digits tiny]
    apply rounded_mono
    push_cast
    exact not_lt.mp high
  rw [div_le_iff₀ unit] at next
  exact absurd next (not_le.mpr (by exact_mod_cast Nat.lt_floor_add_one _))

/-- Less than a unit is gained. -/
theorem cut_rounded_sub_unit_le :
    cut (rounded x) decimals - 1 / 10 ^ decimals ≤ x := by
  have unit : (0 : ℚ) < 10 ^ decimals := by positivity
  have upper := rounded_nonneg nonneg
  have floor := Nat.floor_le (show 0 ≤ rounded x * 10 ^ decimals by positivity)
  rw [cut_of_nonneg upper, ← sub_div]
  rcases Nat.eq_zero_or_pos ⌊rounded x * 10 ^ decimals⌋₊ with none | some
  · rw [none, Nat.cast_zero, zero_sub, neg_div]
    exact (neg_nonpos.mpr (by positivity)).trans nonneg
  · have whole : ((⌊rounded x * 10 ^ decimals⌋₊ : ℚ)) - 1 =
        (⌊rounded x * 10 ^ decimals⌋₊ - 1 : ℕ) := by
      rw [Nat.cast_sub some, Nat.cast_one]
    rw [whole]
    by_contra low
    have before := rounded_mono (not_le.mp low).le
    rw [rounded_units (by omega) tiny, le_div_iff₀ unit, ← whole] at before
    linarith

/-- The cut quotient is above the exact one just where rounding carries that up
to a whole number of units. -/
theorem lt_cut_rounded_iff : x < cut (rounded x) decimals ↔
    x < rounded x ∧ rounded x = cut (rounded x) decimals := by
  have unit : (0 : ℚ) < 10 ^ decimals := by positivity
  have below : cut (rounded x) decimals ≤ rounded x := by
    rw [cut_of_nonneg (rounded_nonneg nonneg), div_le_iff₀ unit]
    exact Nat.floor_le (by have := rounded_nonneg nonneg; positivity)
  constructor
  · intro above
    have carried : rounded x ≤ cut (rounded x) decimals := by
      have kept := rounded_units digits.le tiny
      rw [← cut_of_nonneg (rounded_nonneg nonneg)] at kept
      rw [← kept]
      exact rounded_mono above.le
    exact ⟨above.trans_le below, carried.antisymm below⟩
  · rintro ⟨up, carried⟩
    rwa [← carried]

end Rounded

/-- A number of a unit or more has all of its digits. -/
theorem tenPow_grain_le {x : ℚ} {decimals : ℕ} (pos : 0 < x)
    (size : 1 / 10 ^ decimals ≤ rounded x)
    (tiny : tinyExponent + precision ≤ -(decimals : ℤ)) :
    (10 : ℚ) ^ grain x ≤ x / 10 ^ (precision - 1) := by
  have log : -(decimals : ℤ) - 1 ≤ Int.log 10 x := by
    by_contra low
    rw [not_le, ← lt_tenPow_iff pos, ← abs_of_pos pos] at low
    have bound := abs_rounded_le_tenPow
      (by rw [show precision = 28 from rfl] at tiny; omega) low.le
    rw [abs_of_nonneg (rounded_nonneg pos.le)] at bound
    have step : (10 : ℚ) ^ (-(decimals : ℤ) - 1) < 1 / 10 ^ decimals := by
      rw [one_div, ← zpow_natCast, ← zpow_neg]
      exact zpow_lt_zpow_right₀ (by norm_num) (by omega)
    linarith
  have grains : grain x = Int.log 10 x - (precision - 1 : ℕ) := by
    rw [grain, abs_of_pos pos, max_eq_left (by omega)]
    rw [show precision = 28 from rfl]
    omega
  rw [grains, zpow_sub₀ (by norm_num), zpow_natCast]
  exact div_le_div_of_nonneg_right ((tenPow_le_iff pos _).mpr le_rfl)
    (by positivity)

/-- The quotient of whole numbers that are not too large is not carried up to a
whole number of units. -/
theorem cut_rounded_le_of_fraction {a b decimals : ℕ} (positive : 0 < b)
    (digits : ⌊rounded (a / b) * 10 ^ decimals⌋₊ < 10 ^ precision)
    (tiny : tinyExponent + precision ≤ -(decimals : ℤ))
    (size : a * 10 ^ decimals < 2 * 10 ^ (precision - 1)) :
    cut (rounded (a / b)) decimals ≤ a / b := by
  have denPos : (0 : ℚ) < b := by exact_mod_cast positive
  have unit : (0 : ℚ) < 10 ^ decimals := by positivity
  have nonneg : (0 : ℚ) ≤ a / b := by positivity
  have upper := rounded_nonneg nonneg
  by_contra above
  rw [not_le, lt_cut_rounded_iff nonneg digits (by omega)] at above
  obtain ⟨up, carried⟩ := above
  rw [cut_of_nonneg upper] at carried
  generalize ⌊rounded ((a : ℚ) / b) * 10 ^ decimals⌋₊ = n at carried digits
  -- the next whole number of units is at least this far away
  have gap : 1 / (10 ^ decimals * b) ≤ rounded ((a : ℚ) / b) - a / b := by
    have order : a * 10 ^ decimals < n * b := by
      rw [carried, div_lt_div_iff₀ denPos unit] at up
      exact_mod_cast up
    have orderQ : ((a * 10 ^ decimals + 1 : ℕ) : ℚ) ≤ (n * b : ℕ) := by
      exact_mod_cast order
    push_cast at orderQ
    rw [carried, div_sub_div _ _ unit.ne' denPos.ne']
    exact div_le_div_of_nonneg_right (by linarith) (by positivity)
  -- and rounding moves the quotient by at most this much
  have moved := abs_sub_rounded_le ((a : ℚ) / b)
  rw [abs_sub_comm, abs_of_nonneg (sub_nonneg.mpr up.le)] at moved
  have some : n ≠ 0 := by
    rintro rfl
    rw [Nat.cast_zero, zero_div] at carried
    rw [carried] at up
    exact absurd up (not_lt.mpr nonneg)
  have pos : (0 : ℚ) < a / b := by
    refine nonneg.lt_of_ne ?_
    intro zero
    rw [← zero, rounded_zero] at up
    exact lt_irrefl _ up
  have grains := tenPow_grain_le pos (by
    rw [carried]
    exact div_le_div_of_nonneg_right
      (by exact_mod_cast Nat.pos_of_ne_zero some) unit.le) tiny
  have room : 1 / (10 ^ decimals * (b : ℚ)) ≤
      a / b / 10 ^ (precision - 1) / 2 := by linarith
  rw [div_div, div_div, div_le_div_iff₀ (by positivity) (by positivity)] at room
  have large : (2 : ℚ) * 10 ^ (precision - 1) ≤ a * 10 ^ decimals := by
    refine le_of_mul_le_mul_right ?_ denPos
    linarith
  exact absurd large (not_le.mpr (by exact_mod_cast size))

end FixedPoint

/-! ### Sizes -/

/-- A size is a quotient cut to whole units, if the price is above zero. -/
theorem sizeAtPrice_eq (amount price : Decimal) :
    sizeAtPrice amount price =
      match price.lt .zero with
      | .error signal => .error (.signal signal)
      | .ok true => .error .negativePrice
      | .ok false =>
        if price.isZero then .error .zeroPrice
        else liftM (amount.div price >>= fun q =>
          FixedPoint.truncate q FixedPoint.multiplierDecimals) := by
  rw [sizeAtPrice]
  cases price.lt .zero with
  | error signal => rfl
  | ok below =>
    cases below with
    | true => rfl
    | false =>
      cases price.isZero with
      | true => rfl
      | false => cases amount.div price <;> rfl

/-- A size that is returned is a quotient cut to whole units. -/
theorem sizeAtPrice_eq_ok {amount price m : Decimal}
    (h : sizeAtPrice amount price = .ok m) :
    ∃ q, amount.div price = .ok q ∧
      FixedPoint.truncate q FixedPoint.multiplierDecimals = .ok m := by
  rw [sizeAtPrice_eq] at h
  split at h
  · cases h
  · cases h
  · split_ifs at h
    exact bind_eq_ok.mp (lift_eq_ok.mp h)

/-- A size at a price above zero is the quotient, rounded and then cut to whole
units. -/
theorem sizeAtPrice_reads {amount price m : Decimal} {x y : ℚ}
    (hx : amount.Reads x) (hy : price.Reads y) (nonneg : 0 ≤ x) (pos : 0 < y)
    (h : sizeAtPrice amount price = .ok m) :
    (∃ s, m = .finite s ⌊rounded (x / y) * 10 ^ 9⌋₊ (-9)) ∧
      ⌊rounded (x / y) * 10 ^ 9⌋₊ < 10 ^ precision ∧
      m.Reads (FixedPoint.cut (rounded (x / y)) 9) := by
  obtain ⟨q, divided, truncated⟩ := sizeAtPrice_eq_ok h
  have reading :=
    Quantity.ofRational_eq (quantity_of_ok (div_quantity hx hy pos.ne') divided)
  obtain ⟨s, spelling, digits, reads⟩ :=
    FixedPoint.truncate_reads (by decide) reading truncated
  rw [abs_of_nonneg (rounded_nonneg (div_nonneg nonneg pos.le))] at spelling digits
  exact ⟨⟨s, spelling⟩, digits, reads⟩

/-- **Sizes in the quote asset.**  Let a fixed-size quote of a price above zero
commit to `m` times the legs of a request for an amount of the quote asset.
Then `m` has at most nine decimals, and one unit of `10 ^ -9` more would cost
more than the amount.  What `m` costs is within the amount, unless the rounded
quotient is carried up to `m` itself; and then one unit less is.  An amount of
less than `2 * 10 ^ 18` units of some common unit of amount and price is not
exceeded. -/
theorem FixedSize.multiplier_quote {amount price m : Decimal}
    (some : amount.isFinite) (unsigned : zero ≤ amount) (known : price.isFinite)
    (positive : ¬ price ≤ zero)
    (h : FixedSize.multiplier (.quote amount) (.fixed price) = .ok m) :
    (∃ s n, m = .finite s n (-9)) ∧
    amount.number < (m.number + 1 / 10 ^ 9) * price.number ∧
    (amount.number < m.number * price.number ↔
      amount.number / price.number < rounded (amount.number / price.number) ∧
        rounded (amount.number / price.number) = m.number) ∧
    (m.number - 1 / 10 ^ 9) * price.number ≤ amount.number ∧
    ∀ k a b : ℕ, amount.number = a / 10 ^ k → price.number = b / 10 ^ k →
      a < 2 * 10 ^ 18 →
      m.number * price.number ≤ amount.number := by
  have readsAmount := reads_number some
  have readsPrice := reads_number known
  have nonneg := readsAmount.nonneg unsigned
  have pos := readsPrice.pos positive
  generalize amount.number = x at *
  generalize price.number = y at *
  have quotient : 0 ≤ x / y := div_nonneg nonneg pos.le
  obtain ⟨⟨s, spelling⟩, digits, reads⟩ :=
    sizeAtPrice_reads readsAmount readsPrice nonneg pos h
  rw [reads.number]
  refine ⟨⟨s, _, spelling⟩, ?_, ?_, ?_, ?_⟩
  · rw [← div_lt_iff₀ pos]
    exact FixedPoint.lt_cut_rounded_add_unit quotient digits (by decide)
  · rw [← div_lt_iff₀ pos]
    exact FixedPoint.lt_cut_rounded_iff quotient digits (by decide)
  · rw [← le_div_iff₀ pos]
    exact FixedPoint.cut_rounded_sub_unit_le quotient digits (by decide)
  · rintro k a b rfl rfl size
    rw [← le_div_iff₀ pos]
    have same : (a : ℚ) / 10 ^ k / (b / 10 ^ k) = a / b :=
      div_div_div_cancel_right₀ (by positivity) _ _
    rw [same] at digits ⊢
    have some : b ≠ 0 := by
      rintro rfl
      rw [Nat.cast_zero, zero_div] at pos
      exact lt_irrefl _ pos
    refine FixedPoint.cut_rounded_le_of_fraction
      (Nat.pos_of_ne_zero some) digits (by decide) ?_
    rw [show precision = 28 from rfl]
    omega

/-- A thousand buys less than three and a third, by less than a unit. -/
theorem sample_size :
    ∃ m, FixedSize.multiplier (.quote (.ofInt 1000)) (.fixed (.ofInt 300)) = .ok m ∧
      m.number * 300 ≤ 1000 ∧ 1000 < (m.number + 1 / 10 ^ 9) * 300 := by
  have run : FixedSize.multiplier (.quote (.ofInt 1000)) (.fixed (.ofInt 300)) =
      .ok (.finite false 3333333333 (-9)) := by decide +kernel
  have amount : (ofInt 1000).number = 1000 := Reads.number (quantity_ofInt 1000)
  have price : (ofInt 300).number = 300 := Reads.number (quantity_ofInt 300)
  obtain ⟨-, lost, -, -, bound⟩ :=
    FixedSize.multiplier_quote rfl (by decide) rfl (by decide) run
  rw [amount, price] at lost bound
  exact ⟨_, run, bound 0 1000 300 (by norm_num) (by norm_num) (by norm_num), lost⟩

/-- Just above the bound on the amount, the quotient is carried up to a whole
number of units, which cost more than the amount. -/
theorem sample_oversized :
    ∃ amount price m : Decimal, amount.isFinite ∧ zero ≤ amount ∧
      price.isFinite ∧ ¬ price ≤ zero ∧
      FixedSize.multiplier (.quote amount) (.fixed price) = .ok m ∧
      amount.number < m.number * price.number := by
  refine ⟨.finite false 2035151632966557008 (-9), .finite false 2021 (-9),
    .finite false 1007002292412942606630381 (-9), rfl, by decide +kernel, rfl,
    by decide, by decide +kernel, ?_⟩
  norm_num [number, spelled, signed]

end ScenarioMargin
