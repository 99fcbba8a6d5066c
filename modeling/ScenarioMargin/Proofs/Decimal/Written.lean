/-
ScenarioMargin/Proofs/Decimal/Written.lean

The text of a decimal number is read back as this number, in the same spelling:
with its sign, all digits of its coefficient and its exponent, and a NaN with
its payload.  Only the range of exponents sets a limit, and every result of the
arithmetic is far inside (`round_isWritable`).

A finite number is written in one of five ways, as digits alone, with the point
inside them or before them, and with an exponent after one digit or more.  All
are digits, perhaps a point and more digits, and perhaps an exponent; what is
read from this shape is said once for all of them (`Shape.read`).

Main result: `parse?_toText_iff`.
-/
import Mathlib.Data.List.TakeWhile
import Mathlib.Tactic
import ScenarioMargin.Decimal.Numeral
import ScenarioMargin.Decimal.Scientific
import ScenarioMargin.Proofs.Characters
import ScenarioMargin.Proofs.Decimal.Reading

namespace ScenarioMargin.Decimal

open Text

/-! ### The characters of numerals -/

/-- The characters that texts of numbers are made of. -/
def writtenChars : List Char := "0123456789.+-EInfityNas".toList

/-- A list of digits. -/
def AreDigits (cs : List Char) : Prop :=
  ∀ c ∈ cs, c.isDigit

section Characters

variable {cs ds : List Char}

/-- A numeral is plain when it is made of these characters. -/
theorem plainNumeral_eq_self (h : cs ⊆ writtenChars) : plainNumeral cs = cs := by
  have blank : writtenChars.all (fun c => !isBlank c) = true := by decide
  have score : writtenChars.all (fun c => c != '_') = true := by decide
  have digit : writtenChars.all (fun c => (digitValue? c).all fun d =>
        digitChar d == c) = true := by decide
  have trimmed {cs : List Char} (h : cs ⊆ writtenChars) :
      cs.dropWhile isBlank = cs := by
    rw [List.dropWhile_eq_self_iff]
    intro nonempty
    have first := List.all_eq_true.mp blank _ (h (List.getElem_mem nonempty))
    simpa using first
  rw [plainNumeral, trim, trimmed h,
    trimmed fun c mem => h (List.mem_reverse.mp mem), List.reverse_reverse,
    List.filter_eq_self.mpr fun c mem => List.all_eq_true.mp score c (h mem)]
  refine (List.map_congr_left (g := id) fun c mem => ?_).trans (List.map_id _)
  have same := List.all_eq_true.mp digit c (h mem)
  cases found : digitValue? c with
  | none => rfl
  | some d =>
    rw [found] at same
    exact eq_of_beq same

theorem areDigits_append : AreDigits (cs ++ ds) ↔ AreDigits cs ∧ AreDigits ds :=
  List.forall_mem_append

theorem AreDigits.written (h : AreDigits cs) : cs ⊆ writtenChars :=
  fun c mem => isDigit_elim (P := (· ∈ writtenChars)) (by decide) (h c mem)

theorem AreDigits.map_toLower (h : AreDigits cs) : cs.map Char.toLower = cs := by
  have small {c : Char} (digit : c.isDigit) : c.toLower = c :=
    isDigit_elim (P := fun c => c.toLower = c) (by decide) digit
  exact (List.map_congr_left fun c mem => small (h c mem)).trans (List.map_id _)

end Characters

/-! ### Digits -/

section Digits

variable {cs ds tail : List Char} {s : Bool} {x : ℤ}

theorem areDigits_wholeChars (n : ℕ) : AreDigits (wholeChars n) :=
  fun _ mem => Nat.isDigit_of_mem_toDigits (by decide) (by decide) mem

theorem ofDigitChars_wholeChars (n : ℕ) :
    Nat.ofDigitChars 10 (wholeChars n) 0 = n :=
  Nat.ofDigitChars_toDigits (by decide) (by decide)

theorem wholeChars_ne_nil (n : ℕ) : wholeChars n ≠ [] :=
  Nat.toDigits_ne_nil

theorem digits?_eq_some (digits : AreDigits cs) (nonempty : cs ≠ []) :
    digits? cs = some (Nat.ofDigitChars 10 cs 0) := by
  have all : cs.all Char.isDigit = true := List.all_eq_true.mpr digits
  rw [digits?, all, List.isEmpty_eq_false_iff.mpr nonempty]
  rfl

/-- An exponent is read back, whatever its sign. -/
theorem exponentPart?_exponentChars (e : ℤ) :
    exponentPart? (exponentChars e) = some e := by
  have read := digits?_eq_some (areDigits_wholeChars e.natAbs) (wholeChars_ne_nil _)
  rw [ofDigitChars_wholeChars] at read
  rw [exponentChars, exponentPart?, if_pos (by decide)]
  split_ifs with negative
  · simp [splitSign, read, abs_of_neg negative]
  · simp [splitSign, read, abs_of_nonneg (not_lt.mp negative)]

/-- What follows the digits of a numeral does not begin with one. -/
def EndsDigits (tail : List Char) : Prop :=
  ∀ c ∈ tail.head?, ¬ c.isDigit

theorem takeWhile_digits (digits : AreDigits ds) (ends : EndsDigits tail) :
    (ds ++ tail).takeWhile Char.isDigit = ds := by
  rw [List.takeWhile_append_of_pos digits]
  cases tail with
  | nil => rw [List.takeWhile_nil, List.append_nil]
  | cons c tail => rw [List.takeWhile_cons_of_neg (ends c rfl), List.append_nil]

theorem dropWhile_digits (digits : AreDigits ds) (ends : EndsDigits tail) :
    (ds ++ tail).dropWhile Char.isDigit = tail := by
  rw [List.dropWhile_append_of_pos digits]
  cases tail with
  | nil => rfl
  | cons c tail => rw [List.dropWhile_cons_of_neg (ends c rfl)]

/-- The texts that may follow the digits of a numeral. -/
inductive IsExponent : List Char → ℤ → Prop
  | absent : IsExponent [] 0
  | present (e : ℤ) : IsExponent (exponentChars e) e

theorem IsExponent.endsDigits (h : IsExponent tail x) : EndsDigits tail := by
  cases h with
  | absent => exact nofun
  | present =>
    rintro c ⟨⟩
    decide

theorem IsExponent.read (h : IsExponent tail x) : exponentPart? tail = some x := by
  cases h with
  | absent => rfl
  | present => exact exponentPart?_exponentChars x

theorem IsExponent.fractionPart_eq (h : IsExponent tail x) :
    fractionPart tail = ([], tail) := by
  cases h <;> rfl

/-- The shape of an unsigned finite numeral, with its coefficient and its
exponent: digits, perhaps a point and more digits, and perhaps an exponent. -/
inductive Shape : List Char → ℕ → ℤ → Prop
  | whole {ds tail : List Char} {x : ℤ} (digits : AreDigits ds)
      (nonempty : ds ≠ []) (exponent : IsExponent tail x) :
      Shape (ds ++ tail) (Nat.ofDigitChars 10 ds 0) x
  | point {cs ds tail : List Char} {x : ℤ} (digits : AreDigits cs)
      (nonempty : cs ≠ []) (fraction : AreDigits ds)
      (exponent : IsExponent tail x) :
      Shape (cs ++ '.' :: (ds ++ tail)) (Nat.ofDigitChars 10 (cs ++ ds) 0)
        (x - ds.length)

namespace Shape

variable {c : ℕ} {e : ℤ}

/-- Numerals of this shape are read. -/
theorem read (h : Shape cs c e) (s : Bool) :
    finiteNumeral? s cs = finite? s c e := by
  cases h with
  | @whole ds tail _ digits nonempty exponent =>
    have ends := exponent.endsDigits
    rw [finiteNumeral?, takeWhile_digits digits ends,
      dropWhile_digits digits ends, exponent.fractionPart_eq]
    simp [nonempty, exponent.read]
  | @point cs ds tail x digits nonempty fraction exponent =>
    have ends := exponent.endsDigits
    have point : EndsDigits ('.' :: (ds ++ tail)) := by
      rintro c ⟨⟩
      decide
    have parts : fractionPart ('.' :: (ds ++ tail)) = (ds, tail) := by
      rw [fractionPart, takeWhile_digits fraction ends,
        dropWhile_digits fraction ends]
    rw [finiteNumeral?, takeWhile_digits digits point,
      dropWhile_digits digits point, parts]
    simp [nonempty, exponent.read]

/-- They are made of the characters of numerals. -/
theorem written (h : Shape cs c e) : cs ⊆ writtenChars := by
  have ofExponent {tail : List Char} {x : ℤ} (h : IsExponent tail x) :
      tail ⊆ writtenChars := by
    cases h with
    | absent => exact List.nil_subset _
    | present =>
      rw [exponentChars, List.cons_subset, List.cons_subset]
      exact ⟨by decide, by split <;> decide, (areDigits_wholeChars _).written⟩
  cases h with
  | whole digits _ exponent =>
    exact List.append_subset.mpr ⟨digits.written, ofExponent exponent⟩
  | point digits _ fraction exponent =>
    rw [List.append_subset, List.cons_subset, List.append_subset]
    exact ⟨digits.written, by decide, fraction.written, ofExponent exponent⟩

/-- They begin with a digit. -/
theorem head (h : Shape cs c e) : ∃ d rest, cs = d :: rest ∧ d.isDigit := by
  have ofDigits {ds : List Char} (digits : AreDigits ds) (nonempty : ds ≠ [])
      (tail : List Char) :
      ∃ d rest, ds ++ tail = d :: rest ∧ d.isDigit := by
    obtain ⟨d, rest, rfl⟩ := List.exists_cons_of_ne_nil nonempty
    exact ⟨d, rest ++ tail, rfl, digits d List.mem_cons_self⟩
  cases h with
  | whole digits nonempty => exact ofDigits digits nonempty _
  | point digits nonempty => exact ofDigits digits nonempty _

end Shape

end Digits

/-! ### Finite numbers -/

section Finite

variable {ds : List Char}

/-- Digits with the point among them, or with zeros between the point and
them. -/
theorem shape_pointed (digits : AreDigits ds) (nonempty : ds ≠ []) (places : ℕ) :
    Shape (pointed ds places) (Nat.ofDigitChars 10 ds 0) (-places) := by
  rw [pointed]
  split_ifs with none inside
  · obtain rfl := none
    have shape := Shape.whole digits nonempty .absent
    rwa [List.append_nil] at shape
  · -- the point is inside the digits
    have split : AreDigits (ds.take (ds.length - places)) ∧
        AreDigits (ds.drop (ds.length - places)) := by
      rwa [← areDigits_append, List.take_append_drop]
    have first : ds.take (ds.length - places) ≠ [] := by
      rw [Ne, ← List.length_eq_zero_iff, List.length_take]
      omega
    have shape := Shape.point split.1 first split.2 .absent
    rw [List.append_nil, List.take_append_drop, List.length_drop] at shape
    have behind : (0 : ℤ) - (ds.length - (ds.length - places) : ℕ) =
        -places := by omega
    rwa [behind] at shape
  · -- zeros fill the places before the digits
    have zeros : AreDigits (List.replicate (places - ds.length) '0') := by
      intro d mem
      obtain rfl := List.eq_of_mem_replicate mem
      rfl
    have lone : AreDigits ['0'] := List.forall_mem_singleton.mpr rfl
    have shape := Shape.point lone (List.cons_ne_nil _ _)
      (areDigits_append.mpr ⟨zeros, digits⟩) .absent
    rw [List.append_nil, List.singleton_append, List.singleton_append,
      Nat.ofDigitChars_cons, Nat.ofDigitChars_append,
      Nat.ofDigitChars_replicate_zero, List.length_append,
      List.length_replicate] at shape
    have behind : (0 : ℤ) - (places - ds.length + ds.length : ℕ) = -places := by
      omega
    rwa [behind] at shape

/-- Digits with the point after the first one, and an exponent. -/
theorem shape_pointedFirst (digits : AreDigits ds) (nonempty : ds ≠ []) (lead : ℤ) :
    Shape (pointedFirst ds ++ exponentChars lead) (Nat.ofDigitChars 10 ds 0)
      (lead + 1 - ds.length) := by
  match ds with
  | [d] =>
    have shape := Shape.whole digits nonempty (.present lead)
    have same : lead + 1 - ([d].length : ℕ) = lead := by simp
    rwa [same]
  | d :: d' :: rest =>
    have split : AreDigits ([d] ++ d' :: rest) := digits
    obtain ⟨first, others⟩ := areDigits_append.mp split
    have shape := Shape.point first (List.cons_ne_nil _ _) others (.present lead)
    have same : lead + 1 - ((d :: d' :: rest).length : ℕ) =
        lead - ((d' :: rest).length : ℕ) := by
      simp only [List.length_cons]
      omega
    rwa [same]

/-- What is written for a finite number has its coefficient and its exponent. -/
theorem shape_finiteChars (c : ℕ) (e : ℤ) : Shape (finiteChars c e) c e := by
  have digits := areDigits_wholeChars c
  have nonempty := wholeChars_ne_nil c
  rw [finiteChars]
  split_ifs with plain
  · have shape := shape_pointed digits nonempty e.natAbs
    have exponent : -(e.natAbs : ℤ) = e := by omega
    rwa [ofDigitChars_wholeChars, exponent] at shape
  · have shape := shape_pointedFirst digits nonempty (e + (wholeChars c).length - 1)
    have exponent : e + (wholeChars c).length - 1 + 1 - (wholeChars c).length =
        e := by omega
    rwa [ofDigitChars_wholeChars, exponent] at shape

end Finite

/-! ### Texts -/

/-- The numbers that numerals write: their exponents are in the widest range. -/
def IsWritable : Decimal → Prop
  | .finite _ c e => narrowestExponent ≤ e ∧ leading c e ≤ widestExponent
  | _ => True

instance : (a : Decimal) → Decidable a.IsWritable
  | .finite .. => inferInstanceAs (Decidable (_ ∧ _))
  | .infinity _ => isTrue trivial
  | .nan .. => isTrue trivial

section Texts

variable {cs : List Char} {c : ℕ} {e : ℤ} {s : Bool} {a : Decimal}

theorem finite?_eq_some : finite? s c e = some a ↔
    a = .finite s c e ∧ a.IsWritable := by
  rw [finite?, Option.ite_none_right_eq_some, Option.some.injEq,
    Bool.and_eq_true, decide_eq_true_iff, decide_eq_true_iff]
  constructor
  · rintro ⟨range, rfl⟩
    exact ⟨rfl, range⟩
  · rintro ⟨rfl, range⟩
    exact ⟨range, rfl⟩

/-- What is written for a finite number is no word. -/
theorem unsignedNumeral?_finiteChars (s : Bool) (c : ℕ) (e : ℤ) :
    unsignedNumeral? s (finiteChars c e) = finite? s c e := by
  have shape := shape_finiteChars c e
  obtain ⟨d, rest, chars, digit⟩ := shape.head
  have letter : d.toLower ≠ 'i' ∧ d.toLower ≠ 'n' ∧ d.toLower ≠ 's' :=
    isDigit_elim (P := fun c => c.toLower ≠ 'i' ∧ c.toLower ≠ 'n' ∧
      c.toLower ≠ 's') (by decide) digit
  have first : (finiteChars c e).map Char.toLower =
      d.toLower :: rest.map Char.toLower := by rw [chars, List.map_cons]
  rw [← shape.read, unsignedNumeral?, first]
  split
  · rename_i word
    exact absurd (List.cons.inj word).1 letter.1
  · rename_i word
    exact absurd (List.cons.inj word).1 letter.1
  · rename_i word
    exact absurd (List.cons.inj word).1 letter.2.1
  · rename_i word
    exact absurd (List.cons.inj word).1 letter.2.2
  · rfl

theorem areDigits_payloadChars (p : ℕ) : AreDigits (payloadChars p) := by
  rw [payloadChars]
  split
  · exact nofun
  · exact areDigits_wholeChars p

theorem digitsOrZero?_payloadChars (p : ℕ) :
    digitsOrZero? (payloadChars p) = some p := by
  have all : (payloadChars p).all Char.isDigit = true :=
    List.all_eq_true.mpr (areDigits_payloadChars p)
  rw [digitsOrZero?, if_pos all, payloadChars]
  split_ifs with zero
  · rw [zero, Nat.ofDigitChars_nil]
  · rw [ofDigitChars_wholeChars]

/-- The characters of a NaN under its sign. -/
def nanChars (signaling : Bool) (payload : ℕ) : List Char :=
  (if signaling then ['s'] else []) ++ "NaN".toList ++ payloadChars payload

theorem unsignedNumeral?_nanChars (s signaling : Bool) (p : ℕ) :
    unsignedNumeral? s (nanChars signaling p) = some (.nan s signaling p) := by
  have small := (areDigits_payloadChars p).map_toLower
  have read := digitsOrZero?_payloadChars p
  cases signaling with
  | false =>
    have word : (nanChars false p).map Char.toLower =
        'n' :: 'a' :: 'n' :: payloadChars p := by
      rw [nanChars, List.map_append, small]
      rfl
    rw [unsignedNumeral?, word]
    show (digitsOrZero? (payloadChars p)).map (nan s false) = _
    rw [read, Option.map_some]
  | true =>
    have word : (nanChars true p).map Char.toLower =
        's' :: 'n' :: 'a' :: 'n' :: payloadChars p := by
      rw [nanChars, List.map_append, small]
      rfl
    rw [unsignedNumeral?, word]
    show (digitsOrZero? (payloadChars p)).map (nan s true) = _
    rw [read, Option.map_some]

/-- A sign is read apart from what it stands before. -/
theorem parseChars?_signChars (written : cs ⊆ writtenChars)
    (unsigned : ∀ c ∈ cs.head?, c ≠ '-' ∧ c ≠ '+') :
    parseChars? (signChars s ++ cs) = unsignedNumeral? s cs := by
  have plain : plainNumeral (signChars s ++ cs) = signChars s ++ cs := by
    refine plainNumeral_eq_self (List.append_subset.mpr ⟨?_, written⟩)
    cases s <;> decide
  have parts : splitSign (signChars s ++ cs) = (s, cs) := by
    cases s with
    | true => rfl
    | false =>
      show splitSign cs = (false, cs)
      rw [splitSign.eq_def]
      split
      · exact absurd rfl (unsigned '-' rfl).1
      · exact absurd rfl (unsigned '+' rfl).2
      · rfl
  rw [parseChars?, plain, parts]

/-- **Texts of numbers.**  A number is read back from its text, in the same
spelling, just if its exponents are in the range of numerals. -/
theorem parse?_toText_iff : parse? a.toText = some a ↔ a.IsWritable := by
  rw [parse?, toText, String.toList_ofList]
  cases a with
  | finite s c e =>
    have shape := shape_finiteChars c e
    obtain ⟨d, rest, chars, digit⟩ := shape.head
    have unsigned : ∀ d ∈ (finiteChars c e).head?, d ≠ '-' ∧ d ≠ '+' := by
      rw [chars]
      rintro _ ⟨⟩
      exact isDigit_elim (P := fun d => d ≠ '-' ∧ d ≠ '+') (by decide) digit
    rw [toChars, parseChars?_signChars shape.written unsigned,
      unsignedNumeral?_finiteChars, finite?_eq_some]
    exact and_iff_right rfl
  | infinity s =>
    refine iff_of_true ?_ trivial
    have unsigned : ∀ c ∈ "Infinity".toList.head?, c ≠ '-' ∧ c ≠ '+' := by
      rintro _ ⟨⟩
      decide
    rw [toChars, parseChars?_signChars (by decide) unsigned]
    rfl
  | nan s signaling p =>
    refine iff_of_true ?_ trivial
    have chars : toChars (nan s signaling p) =
        signChars s ++ nanChars signaling p := by
      rw [toChars, nanChars, List.append_assoc, List.append_assoc,
        List.append_assoc]
    have written : nanChars signaling p ⊆ writtenChars := by
      refine List.append_subset.mpr ⟨?_, (areDigits_payloadChars p).written⟩
      cases signaling <;> decide
    have unsigned : ∀ c ∈ (nanChars signaling p).head?, c ≠ '-' ∧ c ≠ '+' := by
      cases signaling <;> (rintro _ ⟨⟩; decide)
    rw [chars, parseChars?_signChars written unsigned, unsignedNumeral?_nanChars]

end Texts

/-! ### Results of the arithmetic -/

section Results

variable {s : Bool} {c : ℕ} {e : ℤ} {a b r : Decimal}

/-- The digits that rounding keeps end above the smallest exponent and begin
below the largest one, but for a carry. -/
theorem roundedExponent_bounds (hc : 0 < c) (small : leading c e ≤ maxExponent) :
    tinyExponent ≤ roundedExponent c e ∧
      leading (dropEven c (roundedExponent c e - e).toNat)
        (roundedExponent c e) ≤ maxExponent + 1 := by
  have grainEq := grain_spelled hc false e
  have last := roundedExponent_eq hc false e
  have digits := digitCount_pos c
  have start : e ≤ leading c e := by
    rw [leading]
    omega
  simp only [tinyExponent, minExponent, maxExponent, precision] at grainEq small ⊢
  refine ⟨by omega, ?_⟩
  rcases Nat.eq_zero_or_pos (dropEven c (roundedExponent c e - e).toNat)
    with none | kept
  · rw [none, leading, digitCount_zero]
    omega
  · have bound := abs_rounded_le (spelled false c e)
    have size :=
      (tenPow_le_iff (magnitude_pos kept.ne' (roundedExponent c e)) _).mpr
        (leading_eq_log kept _).le
    rw [abs_rounded_spelled hc] at bound
    have order := (zpow_le_zpow_iff_right₀ (by norm_num : (1 : ℚ) < 10)).mp
      (size.trans bound)
    simp only [precision] at order
    omega

/-- Rounded results are far inside the range of numerals. -/
theorem round_isWritable (h : round s c e = .ok a) : a.IsWritable := by
  rw [round] at h
  by_cases zero : c = 0
  · rw [if_pos zero] at h
    obtain rfl := Except.ok.inj h
    rw [roundZero, IsWritable, leading, digitCount_zero]
    simp only [narrowestExponent, widestExponent, tinyExponent, minExponent,
      maxExponent, precision]
    omega
  by_cases large : maxExponent < leading c e
  · rw [if_neg zero, if_pos large] at h
    cases h
  rw [if_neg zero, if_neg large] at h
  obtain ⟨least, most⟩ :=
    roundedExponent_bounds (Nat.pos_of_ne_zero zero) (not_lt.mp large)
  dsimp only at h
  split_ifs at h with carry high
  · obtain rfl := Except.ok.inj h
    have digits : digitCount (Nat.pow 10 (precision - 1)) = 28 := by decide +kernel
    rw [IsWritable, leading, digits]
    simp only [narrowestExponent, widestExponent, tinyExponent, minExponent,
      maxExponent, precision] at *
    omega
  · obtain rfl := Except.ok.inj h
    rw [IsWritable]
    simp only [narrowestExponent, widestExponent, tinyExponent, minExponent,
      maxExponent, precision] at *
    omega

theorem nanResult_isWritable (h : nanResult a b = .ok r) : r.IsWritable := by
  rw [nanResult.eq_def] at h
  split at h <;> cases h <;> trivial

theorem mul_isWritable (h : a.mul b = .ok r) : r.IsWritable := by
  rw [mul.eq_def] at h
  split at h
  · exact round_isWritable h
  · obtain rfl := Except.ok.inj h
    trivial
  · split_ifs at h
    obtain rfl := Except.ok.inj h
    trivial
  · split_ifs at h
    obtain rfl := Except.ok.inj h
    trivial
  · exact nanResult_isWritable h

theorem scale_isWritable {n : ℤ} (h : a.scale n = .ok r) : r.IsWritable := by
  cases a with
  | finite s c e =>
    rw [scale] at h
    split_ifs at h
    exact round_isWritable h
  | infinity s =>
    rw [scale] at h
    split_ifs at h
    obtain rfl := Except.ok.inj h
    trivial
  | nan s signaling p => exact nanResult_isWritable h

end Results

end ScenarioMargin.Decimal
