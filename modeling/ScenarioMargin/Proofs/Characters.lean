/-
ScenarioMargin/Proofs/Characters.lean

Characters by their numbers.  Digits, small letters and capitals of the plain
alphabet are ranges of numbers, and what is checked of the numbers in a range
holds of all its characters (`range_elim`).
-/
import Mathlib.Tactic

namespace ScenarioMargin.Text

variable {c : Char} {P : Char → Prop}

/-- What holds of the characters with the numbers of a range holds of every
character in it. -/
theorem range_elim {low count : ℕ}
    (each : ∀ n < count, P (Char.ofNat (low + n))) (first : low ≤ c.toNat)
    (last : c.toNat < low + count) : P c := by
  have here := each (c.toNat - low) (by omega)
  rwa [Nat.add_sub_cancel' first, Char.ofNat_toNat] at here

theorem isUpper_iff_toNat : c.isUpper ↔ 65 ≤ c.toNat ∧ c.toNat ≤ 90 :=
  decide_eq_true_iff

theorem isLower_iff_toNat : c.isLower ↔ 97 ≤ c.toNat ∧ c.toNat ≤ 122 := by
  show (decide (97 ≤ c.toNat) && decide (c.toNat ≤ 122)) = true ↔ _
  rw [Bool.and_eq_true, decide_eq_true_iff, decide_eq_true_iff]

theorem isUpper_elim (each : ∀ n < 26, P (Char.ofNat (65 + n)))
    (h : c.isUpper) : P c := by
  obtain ⟨first, last⟩ := isUpper_iff_toNat.mp h
  exact range_elim each first (by omega)

theorem isLower_elim (each : ∀ n < 26, P (Char.ofNat (97 + n)))
    (h : c.isLower) : P c := by
  obtain ⟨first, last⟩ := isLower_iff_toNat.mp h
  exact range_elim each first (by omega)

theorem isDigit_elim (each : ∀ n < 10, P (Char.ofNat (48 + n)))
    (h : c.isDigit) : P c := by
  obtain ⟨first, last⟩ : 48 ≤ c.toNat ∧ c.toNat ≤ 57 := Char.isDigit_iff_toNat.mp h
  exact range_elim each first (by omega)

/-! ### Capitals and small letters -/

/-- A capital and its small letter give each other. -/
theorem toLower_of_isUpper (h : c.isUpper) :
    c.toLower.isLower ∧ c.toLower.toUpper = c :=
  isUpper_elim (P := fun c => c.toLower.isLower ∧ c.toLower.toUpper = c)
    (by decide) h

theorem toUpper_of_isLower (h : c.isLower) :
    c.toUpper.isUpper ∧ c.toUpper.toLower = c :=
  isLower_elim (P := fun c => c.toUpper.isUpper ∧ c.toUpper.toLower = c)
    (by decide) h

/-- Whatever is no capital is its own small letter. -/
theorem toLower_of_not_isUpper (h : ¬ c.isUpper) : c.toLower = c := by
  have range : ¬ (c.val ≥ 'A'.val ∧ c.val ≤ 'Z'.val) :=
    fun range => h (decide_eq_true range)
  exact dif_neg range

end ScenarioMargin.Text
