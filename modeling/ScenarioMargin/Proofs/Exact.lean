/-
ScenarioMargin/Proofs/Exact.lean

Runs without rounding.  `Exact` is a computation on rational numbers that
keeps, beside its value, the exact results of all operations that it performs.
When each of these has at most as many digits as the working precision keeps
and lies in the exponent range (`Exact.Fits`), the arithmetic has nothing to
round, and a run of the engine that performs the same operations succeeds with
the same value.

`Attains` relates the two, with one rule for each way in which computations are
put together and one for each operation of the arithmetic.
-/
import ScenarioMargin.Proofs.Agree
import ScenarioMargin.Proofs.Decimal.Order

namespace ScenarioMargin

variable {ε α β γ δ σ τ : Type}

/-- An exact computation: its value, and the exact results of its operations. -/
structure Exact (α : Type) where
  value : α
  results : List ℚ

namespace Exact

instance : Monad Exact where
  pure a := ⟨a, []⟩
  bind x f := ⟨(f x.value).value, x.results ++ (f x.value).results⟩

/-- One operation, with its exact result. -/
def result (q : ℚ) : Exact ℚ := ⟨q, [q]⟩

variable {t : Exact α} {f : α → Exact β}

@[simp] theorem value_pure (a : α) : (pure a : Exact α).value = a := rfl

@[simp] theorem value_bind : (t >>= f).value = (f t.value).value := rfl

@[simp] theorem value_result (q : ℚ) : (result q).value = q := rfl

instance : LawfulMonad Exact :=
  LawfulMonad.mk' Exact
    (fun t => by
      show Exact.mk t.value (t.results ++ []) = t
      rw [List.append_nil])
    (fun a f => rfl)
    (fun t f g => by
      show Exact.mk _ ((t.results ++ _) ++ _) = Exact.mk _ (t.results ++ (_ ++ _))
      rw [List.append_assoc]
      rfl)

@[simp] theorem value_mapM (f : α → Exact β) (as : List α) :
    (as.mapM f).value = as.map fun a => (f a).value := by
  induction as with
  | nil => rfl
  | cons a as ih =>
    rw [List.mapM_cons, value_bind, value_bind, value_pure, ih]
    rfl

@[simp] theorem value_foldlM (f : σ → α → Exact σ) (as : List α) (s : σ) :
    (as.foldlM f s).value = as.foldl (fun s a => (f s a).value) s := by
  induction as generalizing s with
  | nil => rfl
  | cons a as ih =>
    rw [List.foldlM_cons, value_bind, ih]
    rfl

/-! ### Nothing to round -/

/-- At most as many digits as the working precision keeps, inside the exponent
range. -/
def Fits (q : ℚ) : Prop :=
  FitsDigits q ∧ |q| < 10 ^ (Decimal.maxExponent + 1)

/-- No operation has to round. -/
def NoRounding (t : Exact α) : Prop :=
  ∀ q ∈ t.results, Fits q

theorem noRounding_bind : (t >>= f).NoRounding ↔
    t.NoRounding ∧ (f t.value).NoRounding :=
  List.forall_mem_append

/-- A number with at most `precision` digits, `k` of them behind the point,
fits. -/
theorem fits_of_scaled {q : ℚ} {k : ℕ} (tiny : Decimal.tinyExponent ≤ -(k : ℤ))
    (whole : (q * 10 ^ k).den = 1)
    (small : |q * 10 ^ k| < 10 ^ Decimal.precision) : Fits q := by
  have number : ((q * 10 ^ k).num : ℚ) = q * 10 ^ k :=
    Rat.coe_int_num_of_den_eq_one whole
  constructor
  · refine ⟨(q * 10 ^ k).num, -(k : ℤ), ?_, ?_, tiny⟩
    · rw [number, zpow_neg, zpow_natCast]
      field_simp
    · rw [← number] at small
      exact_mod_cast small
  · calc |q| ≤ |q * 10 ^ k| := by
          rw [abs_mul, abs_of_pos (by positivity : (0 : ℚ) < 10 ^ k)]
          exact le_mul_of_one_le_right (abs_nonneg q) (one_le_pow₀ (by norm_num))
      _ < 10 ^ (Decimal.precision : ℤ) := by rwa [zpow_natCast]
      _ ≤ 10 ^ (Decimal.maxExponent + 1) :=
        zpow_le_zpow_right₀ (by norm_num) (by decide)

/-- No operation has to round where all results have at most `precision`
digits, `k` of them behind the point. -/
theorem noRounding_of_scaled {k : ℕ} (tiny : Decimal.tinyExponent ≤ -(k : ℤ))
    (digits : ∀ q ∈ t.results, (q * 10 ^ k).den = 1 ∧
      |q * 10 ^ k| < 10 ^ Decimal.precision) : t.NoRounding :=
  fun q hq => fits_of_scaled tiny (digits q hq).1 (digits q hq).2

end Exact

theorem ofRational_of_fits {q : ℚ} (h : Exact.Fits q) :
    Quantity.ofRational q = .ok (.rational q) := by
  rw [Quantity.ofRational, rounded_of_fits h.1, if_pos h.2]

/-! ### Attaining the exact value -/

/-- Where nothing has to be rounded, the computation succeeds, and its result
is related to the exact value. -/
def Attains (R : α → β → Prop) (x : Except ε α) (t : Exact β) : Prop :=
  t.NoRounding → ∃ a, x = .ok a ∧ R a t.value

namespace Attains

variable {R : α → β → Prop} {S : γ → δ → Prop} {x : Except ε α} {t : Exact β}

theorem pure {a : α} {b : β} (h : R a b) :
    Attains R (Pure.pure a : Except ε α) (Pure.pure b) :=
  fun _ => ⟨a, rfl, h⟩

theorem bind {f : α → Except ε γ} {g : β → Exact δ} (h : Attains R x t)
    (next : ∀ a b, R a b → Attains S (f a) (g b)) :
    Attains S (x >>= f) (t >>= g) := by
  intro noRounding
  obtain ⟨first, rest⟩ := Exact.noRounding_bind.mp noRounding
  obtain ⟨a, rfl, related⟩ := h first
  exact next a t.value related rest

/-- What follows may depend on the value that is attained. -/
theorem bind_value {f : α → Except ε γ} {g : β → Exact δ} (h : Attains R x t)
    (next : ∀ a, R a t.value → Attains S (f a) (g t.value)) :
    Attains S (x >>= f) (t >>= g) := by
  intro noRounding
  obtain ⟨first, rest⟩ := Exact.noRounding_bind.mp noRounding
  obtain ⟨a, rfl, related⟩ := h first
  exact next a related rest

/-- A computation that performs no operation. -/
theorem of_ok {a : α} {b : β} (h : x = .ok a) (related : R a b) :
    Attains R x (Pure.pure b) :=
  fun _ => ⟨a, h, related⟩

/-- A value that is only put into another form. -/
theorem bind_pure {S : α → δ → Prop} {h : β → δ} (attains : Attains R x t)
    (related : ∀ a b, R a b → S a (h b)) :
    Attains S x (t >>= fun b => Pure.pure (h b)) := by
  intro noRounding
  obtain ⟨a, rfl, ha⟩ := attains (Exact.noRounding_bind.mp noRounding).1
  exact ⟨a, rfl, related a t.value ha⟩

/-- A result that is only put into another form. -/
theorem bind_pure_left {S : γ → β → Prop} {h : α → γ} (attains : Attains R x t)
    (related : ∀ a b, R a b → S (h a) b) :
    Attains S (x >>= fun a => Pure.pure (h a)) t := by
  intro noRounding
  obtain ⟨a, rfl, ha⟩ := attains noRounding
  exact ⟨h a, rfl, related a t.value ha⟩

/-- A step that performs no operation. -/
theorem bind_left {f : α → Except ε γ} {s : Exact δ} {a : α} (h : x = .ok a)
    (next : Attains S (f a) s) : Attains S (x >>= f) s := by
  rw [h]
  exact next

theorem lift {x : Except Decimal.Signal α} (h : Attains R x t) :
    Attains R (liftM x : Except Fault α) t := by
  intro noRounding
  obtain ⟨a, rfl, related⟩ := h noRounding
  exact ⟨a, rfl, related⟩

/-- Attaining is kept where computations are put together. -/
def relator (ε : Type) : Relator (Except ε) Exact where
  rel R := Attains R
  pure := pure
  bind := bind

theorem mapM {f : α → Except ε γ} {g : β → Exact δ} {as : List α} {bs : List β}
    (lists : List.Forall₂ R as bs)
    (each : ∀ a b, R a b → Attains S (f a) (g b)) :
    Attains (List.Forall₂ S) (as.mapM f) (bs.mapM g) :=
  (relator ε).mapM lists each

theorem foldlM {f : σ → α → Except ε σ} {g : τ → β → Exact τ} {T : σ → τ → Prop}
    {as : List α} {bs : List β} (lists : List.Forall₂ R as bs)
    (step : ∀ s t a b, T s t → R a b → Attains T (f s a) (g t b))
    {s : σ} {t : τ} (start : T s t) :
    Attains T (as.foldlM f s) (bs.foldlM g t) :=
  (relator ε).foldlM lists step start

end Attains

/-! ### Operations -/

namespace Decimal

/-- A number that stands for a rational one. -/
def Reads (a : Decimal) (x : ℚ) : Prop :=
  a.quantity = .rational x

/-- The rational number that a finite number stands for. -/
def number : Decimal → ℚ
  | .finite s c e => spelled s c e
  | _ => 0

theorem reads_number {a : Decimal} (h : a.isFinite) : a.Reads a.number := by
  cases a with
  | finite s c e => exact quantity_finite s c e
  | infinity s => cases h
  | nan s b p => cases h

theorem reads_zero : zero.Reads 0 := quantity_zero

theorem reads_one : one.Reads 1 := quantity_one

variable {a b : Decimal} {x y : ℚ}

theorem Reads.number (h : a.Reads x) : a.number = x := by
  cases a with
  | finite s c e => exact Quantity.rational.inj h
  | infinity s => cases h
  | nan s b n => cases h

theorem Reads.isFinite (h : a.Reads x) : a.isFinite := by
  cases a with
  | finite s c e => rfl
  | infinity s => cases h
  | nan s b n => cases h

theorem reads_of_number (finite : a.isFinite) (h : a.number = x) : a.Reads x := by
  rw [← h]
  exact reads_number finite

/-- What is not below zero, as a rational number. -/
theorem Reads.nonneg (h : a.Reads x) (upper : zero ≤ a) : 0 ≤ x := by
  have bound := zero_le_iff.mp upper
  rwa [h, Quantity.rational_le_rational] at bound

/-- What is above zero, as a rational number. -/
theorem Reads.pos (h : a.Reads x) (above : ¬ a ≤ zero) : 0 < x := by
  rw [le_zero_iff, h, Quantity.rational_le_rational] at above
  exact not_le.mp above

/-- An operation whose result is rounded once attains the exact result. -/
theorem attains_of_map {r : Except Signal Decimal}
    (h : r.map quantity = Quantity.ofRational x) :
    Attains Reads r (Exact.result x) := by
  intro noRounding
  rw [ofRational_of_fits (noRounding x (List.mem_singleton_self x))] at h
  exact ok_of_quantity h

theorem Reads.add (ha : a.Reads x) (hb : b.Reads y) :
    Attains Reads (a.add b) (Exact.result (x + y)) :=
  attains_of_map (by rw [add_quantity, ha, hb]; rfl)

theorem Reads.sub (ha : a.Reads x) (hb : b.Reads y) :
    Attains Reads (a.sub b) (Exact.result (x - y)) :=
  attains_of_map (by rw [sub_quantity, ha, hb, sub_eq_add_neg]; rfl)

theorem Reads.mul (ha : a.Reads x) (hb : b.Reads y) :
    Attains Reads (a.mul b) (Exact.result (x * y)) :=
  attains_of_map (by rw [mul_quantity, ha, hb]; rfl)

theorem Reads.neg (ha : a.Reads x) : Attains Reads a.neg (Exact.result (-x)) :=
  attains_of_map (by rw [neg_quantity, ha]; rfl)

theorem Reads.abs (ha : a.Reads x) : Attains Reads a.abs (Exact.result |x|) :=
  attains_of_map (by rw [abs_quantity, ha]; rfl)

/-! Comparisons do not round. -/

theorem Reads.lt (ha : a.Reads x) (hb : b.Reads y) :
    a.lt b = .ok (decide (x < y)) := by
  have order : a.compare? b = some (compare x y) := by
    rw [compare?_quantity, ha, hb]; rfl
  have below : (compare x y == .lt) = decide (x < y) := by
    rw [Bool.eq_iff_iff, beq_iff_eq, decide_eq_true_iff, compare_lt_iff_lt]
  rw [Decimal.lt, order, ← below]

theorem Reads.larger (ha : a.Reads x) (hb : b.Reads y) :
    ∃ c, a.larger b = .ok c ∧ c.Reads (max x y) :=
  ok_of_quantity (by rw [larger_quantity, ha, hb, Quantity.larger_rational])

theorem Reads.smaller (ha : a.Reads x) (hb : b.Reads y) :
    ∃ c, a.smaller b = .ok c ∧ c.Reads (min x y) :=
  ok_of_quantity (by rw [smaller_quantity, ha, hb, Quantity.smaller_rational])

/-- Every number is larger than the lower infinity. -/
theorem Reads.larger_infinity (hb : b.Reads y) :
    ∃ c, (infinity true).larger b = .ok c ∧ c.Reads y :=
  ok_of_quantity (by rw [larger_quantity, hb]; rfl)

/-- Every number is smaller than the upper infinity. -/
theorem Reads.smaller_infinity (hb : b.Reads y) :
    ∃ c, (infinity false).smaller b = .ok c ∧ c.Reads y :=
  ok_of_quantity (by rw [smaller_quantity, hb]; rfl)

end Decimal

end ScenarioMargin
