/-
ScenarioMargin/Proofs/Hexadecimal.lean

Payloads that are written out.  A text writes bytes as pairs of hexadecimal
digits, the high digit first, in either case and with plain white space around
the pairs (`Text.Hex.Writes`).  These texts are read, as the bytes that they
write, and no others (`Text.Hex.decode_eq_some_iff`).

The description of a leg may hold the bytes of its payload or the figures from
which they are made.  Nothing else of the leg depends on which of the two it
holds, so that the figures may be replaced by the bytes, however these are
written.

Main result: `Leg.ofValue_writtenOut`.
-/
import Mathlib.Tactic
import ScenarioMargin.Proofs.Characters
import ScenarioMargin.Proofs.Codec

namespace ScenarioMargin

/-! ### Bytes in text -/

namespace Text

/-- White space of plain text: the space, the tabs, the line breaks and the
form feed. -/
def plainBlanks : List Char := [' ', '\t', '\n', '\x0b', '\x0c', '\r']

theorem isPlainBlank_iff {c : Char} : isPlainBlank c = true ↔ c ∈ plainBlanks := by
  have numbers (n : Nat) : (9 ≤ n ∧ n ≤ 13) ∨ n = 32 ↔
      n ∈ plainBlanks.map Char.toNat := by
    simp [plainBlanks]
    omega
  rw [isPlainBlank, Bool.or_eq_true, Bool.and_eq_true, decide_eq_true_iff,
    decide_eq_true_iff, beq_iff_eq, numbers,
    List.mem_map_of_injective fun _ _ => Char.toNat_inj.mp]

namespace Hex

/-- The digits in small letters, each at the position of its value. -/
def smallDigits : List Char := "0123456789abcdef".toList

/-- The digits in capitals. -/
def capitalDigits : List Char := "0123456789ABCDEF".toList

/-- A character is the hexadecimal digit with this value, in either case. -/
def IsDigit (c : Char) (n : Nat) : Prop :=
  smallDigits[n]? = some c ∨ capitalDigits[n]? = some c

instance (c : Char) (n : Nat) : Decidable (IsDigit c n) :=
  inferInstanceAs (Decidable (_ ∨ _))

/-- The texts that write bytes: blanks and pairs of digits in any order, and
nothing inside a pair. -/
inductive Writes : List Char → List UInt8 → Prop
  | nil : Writes [] []
  | blank {c : Char} {cs : List Char} {bytes : List UInt8}
      (blank : c ∈ plainBlanks) (rest : Writes cs bytes) :
      Writes (c :: cs) bytes
  | pair {high low : Char} {cs : List Char} {b : UInt8} {bytes : List UInt8}
      (upper : IsDigit high (b.toNat / 16)) (lower : IsDigit low (b.toNat % 16))
      (rest : Writes cs bytes) : Writes (high :: low :: cs) (b :: bytes)

section Digits

variable {c : Char} {n : Nat}

/-- What holds of the digits in both rows holds of every digit. -/
theorem IsDigit.elim {P : Char → Nat → Prop}
    (small : ∀ d ∈ smallDigits.zipIdx, P d.1 d.2)
    (capital : ∀ d ∈ capitalDigits.zipIdx, P d.1 d.2)
    (h : IsDigit c n) : P c n := by
  rcases h with h | h
  · exact small (c, n) (List.mem_zipIdx_iff_getElem?.mpr h)
  · exact capital (c, n) (List.mem_zipIdx_iff_getElem?.mpr h)

theorem IsDigit.lt (h : IsDigit c n) : n < 16 :=
  h.elim (P := fun _ n => n < 16) (by decide) (by decide)

theorem IsDigit.notMem_plainBlanks (h : IsDigit c n) : c ∉ plainBlanks :=
  h.elim (P := fun c _ => c ∉ plainBlanks) (by decide) (by decide)

theorem isDigit_digitOf : ∀ n < 16, IsDigit (digitOf n) n := by
  decide

theorem digit?_eq_some_iff : digit? c = some n ↔ IsDigit c n := by
  constructor
  · intro h
    have decimal : ∀ n < 10,
        IsDigit (Char.ofNat (48 + n)) ((Char.ofNat (48 + n)).toNat - 48) := by
      decide
    have small : ∀ n < 6,
        IsDigit (Char.ofNat (97 + n)) ((Char.ofNat (97 + n)).toNat - 87) := by
      decide
    have capital : ∀ n < 6,
        IsDigit (Char.ofNat (65 + n)) ((Char.ofNat (65 + n)).toNat - 55) := by
      decide
    rw [digit?] at h
    split_ifs at h with range range range
    all_goals obtain rfl := Option.some.inj h
    · exact range_elim (P := fun c => IsDigit c (c.toNat - 48)) decimal range.1
        (Nat.lt_succ_of_le range.2)
    · exact range_elim (P := fun c => IsDigit c (c.toNat - 87)) small range.1
        (Nat.lt_succ_of_le range.2)
    · exact range_elim (P := fun c => IsDigit c (c.toNat - 55)) capital range.1
        (Nat.lt_succ_of_le range.2)
  · exact IsDigit.elim (P := fun c n => digit? c = some n) (by decide) (by decide)

end Digits

section Reading

variable {cs : List Char} {bytes : List UInt8} {high low : Char} {b : UInt8}

/-- A pair of digits is the byte whose halves they are. -/
theorem pair?_eq_some_iff :
    pair? high low = some b ↔
      IsDigit high (b.toNat / 16) ∧ IsDigit low (b.toNat % 16) := by
  simp only [pair?, Option.bind_eq_bind, Option.bind_eq_some_iff,
    digit?_eq_some_iff, Option.pure_def, Option.some.injEq]
  constructor
  · rintro ⟨h, upper, l, lower, rfl⟩
    have hh := upper.lt
    have hl := lower.lt
    have value : (UInt8.ofNat (16 * h + l)).toNat = 16 * h + l := by
      rw [UInt8.toNat_ofNat']
      omega
    have high : (16 * h + l) / 16 = h := by omega
    have low : (16 * h + l) % 16 = l := by omega
    rw [value, high, low]
    exact ⟨upper, lower⟩
  · rintro ⟨upper, lower⟩
    refine ⟨_, upper, _, lower, ?_⟩
    rw [Nat.div_add_mod, UInt8.ofNat_toNat]

theorem decode_blank {c : Char} (blank : c ∈ plainBlanks) (cs : List Char) :
    decode (c :: cs) = decode cs := by
  have skipped := isPlainBlank_iff.mpr blank
  cases cs <;> simp [decode, skipped]

theorem decode_pair (upper : IsDigit high (b.toNat / 16))
    (lower : IsDigit low (b.toNat % 16)) (cs : List Char) :
    decode (high :: low :: cs) = (decode cs).map (b :: ·) := by
  have other : ¬ isPlainBlank high = true :=
    fun blank => upper.notMem_plainBlanks (isPlainBlank_iff.mp blank)
  rw [decode, if_neg other, pair?_eq_some_iff.mpr ⟨upper, lower⟩]

theorem writes_of_decode (h : decode cs = some bytes) : Writes cs bytes := by
  induction cs using decode.induct generalizing bytes with
  | case1 =>
    obtain rfl := Option.some.inj h
    exact .nil
  | case2 c blank =>
    rw [decode, if_pos blank] at h
    obtain rfl := Option.some.inj h
    exact .blank (isPlainBlank_iff.mp blank) .nil
  | case3 c other =>
    rw [decode, if_neg other] at h
    cases h
  | case4 c d rest blank ih =>
    rw [decode, if_pos blank] at h
    exact .blank (isPlainBlank_iff.mp blank) (ih h)
  | case5 c d rest other none =>
    rw [decode, if_neg other, none] at h
    cases h
  | case6 c d rest other b pair ih =>
    rw [decode, if_neg other, pair] at h
    obtain ⟨bytes, read, rfl⟩ := Option.map_eq_some_iff.mp h
    obtain ⟨upper, lower⟩ := pair?_eq_some_iff.mp pair
    exact .pair upper lower (ih read)

/-- The texts that write bytes are read as these, and no others are read. -/
theorem decode_eq_some_iff : decode cs = some bytes ↔ Writes cs bytes := by
  refine ⟨writes_of_decode, fun h => ?_⟩
  induction h with
  | nil => rfl
  | blank blank _ ih => rw [decode_blank blank, ih]
  | pair upper lower _ ih => rw [decode_pair upper lower, ih, Option.map_some]

theorem writes_encode (bytes : List UInt8) : Writes (encode bytes) bytes := by
  induction bytes with
  | nil => exact .nil
  | cons b bytes ih =>
    have byte := b.toNat_lt
    exact .pair (isDigit_digitOf _ (by omega)) (isDigit_digitOf _ (by omega)) ih

theorem writes_text (bytes : List UInt8) : Writes (text bytes).toList bytes := by
  rw [text, String.toList_ofList]
  exact writes_encode bytes

end Reading

end Hex

end Text

/-! ### Payloads in descriptions -/

namespace Payload

variable {v : Value} {bytes : List UInt8}

theorem bytes?_eq_some :
    bytes? v = some bytes ↔ ∃ s, v = .text s ∧ Text.Hex.Writes s.toList bytes := by
  cases v with
  | text s =>
    simp only [← Text.Hex.decode_eq_some_iff, Value.text.injEq, exists_eq_left']
    rfl
  | _ => exact ⟨nofun, nofun⟩

theorem ofHex_of_some (read : bytes? v = some bytes) : ofHex v = .ok bytes := by
  rw [ofHex, read]
  rfl

theorem ofHex_of_none (unread : bytes? v = none) :
    ofHex v = v.quotedForm >>= fun s => .error (.notHex s) := by
  rw [ofHex, unread]
  rfl

theorem ofHex_eq_ok :
    ofHex v = .ok bytes ↔ ∃ s, v = .text s ∧ Text.Hex.Writes s.toList bytes := by
  rw [← bytes?_eq_some]
  refine ⟨fun h => ?_, ofHex_of_some⟩
  cases read : bytes? v with
  | some bytes' => rw [Except.ok.inj ((ofHex_of_some read).symm.trans h)]
  | none =>
    rw [ofHex_of_none read] at h
    obtain ⟨_, -, h⟩ := bind_eq_ok.mp h
    cases h

/-- Whatever is no text that writes bytes is refused with one and the same
fault, which shows it, if it can be shown. -/
theorem ofHex_returns_or_refuses (short : ¬ v.HoldsLong) :
    (∃ bytes, ofHex v = .ok bytes) ∨
      ∃ s, v.quotedForm = .ok s ∧ ofHex v = .error (.notHex s) := by
  obtain ⟨s, shown⟩ := v.quotedForm_stopsIff.returns_iff.mpr short
  cases read : bytes? v with
  | some bytes => exact .inl ⟨bytes, ofHex_of_some read⟩
  | none =>
    refine .inr ⟨s, shown, ?_⟩
    rw [ofHex_of_none read, shown]
    rfl

/-- What cannot be shown is refused without being shown. -/
theorem ofHex_of_holdsLong (long : v.HoldsLong) : ofHex v = .error .illFormed := by
  have unread : bytes? v = none := by
    cases long <;> rfl
  rw [ofHex_of_none unread, v.quotedForm_stopsIff.eq_error long]
  rfl

section Fields

variable {fields fields' : Keyed String Value} {w : Value} {part : String}

/-- Bytes that are written out are the payload, whatever else the description
holds. -/
theorem ofValue_data (held : Keyed.get? "data" fields = some w) :
    ofValue (.record fields) = ofHex w := by
  have present : (Value.record fields).has "data" = pure true := by
    rw [Value.has, held]; rfl
  have data : (Value.record fields).need "data" = pure w := by
    rw [Value.need, held]; rfl
  simp only [ofValue, present, data, pure_bind, if_true]

/-- The part of a description from which its payload is made: the figures of an
option, or else those of a future. -/
inductive MadeFrom (fields : Keyed String Value) : String → List UInt8 → Prop
  | option {o : Value} {bytes : List UInt8} (bare : Keyed.get? "data" fields = none)
    (held : Keyed.get? "option" fields = some o)
    (made : ofOptionValue o = .ok bytes) : MadeFrom fields "option" bytes
  | future {o : Value} {bytes : List UInt8} (bare : Keyed.get? "data" fields = none)
    (other : Keyed.get? "option" fields = none)
    (held : Keyed.get? "future" fields = some o)
    (made : ofFutureValue o = .ok bytes) : MadeFrom fields "future" bytes

theorem MadeFrom.ofValue (h : MadeFrom fields part bytes) :
    ofValue (.record fields) = .ok bytes := by
  have asked {key : String} {field : Option Value}
      (found : Keyed.get? key fields = field) :
      (Value.record fields).get key = .ok field := congrArg Except.ok found
  cases h with
  | option bare held made =>
    exact (ofValue_option (asked bare) (asked held)).trans made
  | future bare other held made =>
    exact (ofValue_future (asked bare) (asked other) (asked held)).trans made

theorem MadeFrom.part_eq (h : MadeFrom fields part bytes) :
    part = "option" ∨ part = "future" := by
  cases h with
  | option => exact .inl rfl
  | future => exact .inr rfl

/-- A description with bytes written out in the place of one of its parts. -/
structure WrittenOut (fields fields' : Keyed String Value) (part : String)
    (bytes : List UInt8) : Prop where
  data : ∃ s, Keyed.get? "data" fields' = some (.text s) ∧
    Text.Hex.Writes s.toList bytes
  rest : ∀ key, key ≠ "data" → key ≠ part →
    Keyed.get? key fields' = Keyed.get? key fields

theorem WrittenOut.ofValue (h : WrittenOut fields fields' part bytes) :
    ofValue (.record fields') = .ok bytes := by
  obtain ⟨s, held, writes⟩ := h.data
  rw [ofValue_data held]
  exact ofHex_eq_ok.mpr ⟨s, rfl, writes⟩

end Fields

end Payload

/-! ### Legs -/

section Congruence

variable {fields fields' : Keyed String Value}

theorem Value.need_congr {key : String}
    (same : Keyed.get? key fields' = Keyed.get? key fields) :
    (Value.record fields').need key = (Value.record fields).need key := by
  rw [need, need, same]

theorem Value.getOr_congr {key : String}
    (same : Keyed.get? key fields' = Keyed.get? key fields) (missing : Value) :
    (Value.record fields').getOr key missing =
      (Value.record fields).getOr key missing := by
  show Except.ok ((Keyed.get? key fields').getD missing) =
    Except.ok ((Keyed.get? key fields).getD missing)
  rw [same]

/-- A leg depends on its description through its payload and the four fields
about the trade. -/
theorem Leg.ofValue_congr
    (same : ∀ key ∈ ["base_asset", "amount", "side", "instrument"],
      Keyed.get? key fields' = Keyed.get? key fields)
    (payload : Payload.ofValue (.record fields') =
      Payload.ofValue (.record fields)) :
    Leg.ofValue (.record fields') = Leg.ofValue (.record fields) := by
  simp only [List.forall_mem_cons, List.not_mem_nil, false_implies,
    implies_true, and_true] at same
  obtain ⟨baseAsset, amount, side, instrument⟩ := same
  rw [Leg.ofValue, Leg.ofValue, Value.need_congr baseAsset,
    Value.need_congr amount, Value.getOr_congr side,
    Value.need_congr instrument, payload]

end Congruence

/-- **Raw and structured legs agree.**  Where the description of a leg holds
bytes written out, they are its payload if they are a text of pairs of
hexadecimal digits, in either case and with plain white space around the pairs;
everything else that can be shown is refused with one fault, which shows what
was written.  All bytes can be so written.

Where the payload is made from the figures of an option or a future, these may
be replaced by the bytes that are made from them, in any such text: the leg is
the same. -/
theorem Leg.ofValue_writtenOut :
    (∀ fields v, Keyed.get? "data" fields = some v →
      (∀ bytes, Payload.ofValue (.record fields) = .ok bytes ↔
        ∃ s, v = .text s ∧ Text.Hex.Writes s.toList bytes) ∧
      (¬ v.HoldsLong → (∃ bytes, Payload.ofValue (.record fields) = .ok bytes) ∨
        ∃ s, v.quotedForm = .ok s ∧
          Payload.ofValue (.record fields) = .error (.notHex s))) ∧
    (∀ bytes, Text.Hex.Writes (Text.Hex.text bytes).toList bytes) ∧
    ∀ fields fields' part bytes, Payload.MadeFrom fields part bytes →
      Payload.WrittenOut fields fields' part bytes →
      Leg.ofValue (.record fields') = Leg.ofValue (.record fields) := by
  refine ⟨?_, Text.Hex.writes_text, ?_⟩
  · intro fields v held
    rw [Payload.ofValue_data held]
    exact ⟨fun bytes => Payload.ofHex_eq_ok, Payload.ofHex_returns_or_refuses⟩
  · intro fields fields' part bytes made written
    refine Leg.ofValue_congr ?_ (written.ofValue.trans made.ofValue.symm)
    intro key about
    refine written.rest key ?_ ?_
    · rintro rfl
      exact absurd about (by decide)
    · rintro rfl
      rcases made.part_eq with rfl | rfl
      all_goals exact absurd about (by decide)

namespace Sample

/-- The description of a leg, but for its payload. -/
def trade : Keyed String Value :=
  [("base_asset", .whole 0), ("amount", .whole 2), ("side", .text "short"),
    ("instrument", .text "opt")]

/-- The figures of a put, which expires a second before the epoch. -/
def put : Value :=
  .record [("type", .text "put"), ("strike", .text "25000.5"),
    ("expiration", .whole (-1))]

/-- The bytes of its payload. -/
def putBytes : List UInt8 :=
  [1, 0, 202, 154, 59, 0, 0, 0, 0, 9, 0, 245, 235, 225, 188, 22, 0, 0, 9] ++
    List.replicate 8 255

/-- These bytes in digits of both cases, with blanks around some of them. -/
def putText : String :=
  " 01 00ca9a3b\t00000000 09 00F5ebE1BC160000 09\nFFffFFffFFffFFff\r\n"

/-- The leg, with its figures. -/
def figured : Keyed String Value :=
  ("option", put) :: trade

/-- The leg, with its bytes in the place of the figures. -/
def writtenOut : Keyed String Value :=
  ("data", .text putText) :: trade

theorem figured_made : Payload.MadeFrom figured "option" putBytes :=
  .option rfl rfl (by decide +kernel)

theorem figured_writtenOut :
    Payload.WrittenOut figured writtenOut "option" putBytes where
  data := ⟨putText, rfl, Text.Hex.decode_eq_some_iff.mp (by decide +kernel)⟩
  rest key data option := by
    rw [writtenOut, figured, Keyed.get?, if_neg data.symm, Keyed.get?,
      if_neg option.symm]

/-- The figures of a future. -/
def future : Value :=
  .record [("amount_per_contract", .whole 1)]

/-- The bytes of its payload. -/
def futureBytes : List UInt8 :=
  [0, 202, 154, 59, 0, 0, 0, 0]

/-- The leg with the figures of the put and of the future. -/
def figuredTwice : Keyed String Value :=
  ("option", put) :: ("future", future) :: trade

/-- The bytes of the future in the place of its figures, beside those of the
put. -/
def writtenBeside : Keyed String Value :=
  ("option", put) :: ("data", .text (Text.Hex.text futureBytes)) :: trade

/-- The first whole number that is too long to be written. -/
def firstLong : ℤ :=
  (Nat.pow 10 Text.digitLimit : ℕ)

theorem firstLong_isLong : IsLong firstLong :=
  le_of_eq (Int.natAbs_natCast _).symm

end Sample

/-- Figures and bytes written out give the same leg; half a pair of digits is
refused. -/
theorem sample_writtenOut :
    Payload.MadeFrom Sample.figured "option" Sample.putBytes ∧
      Payload.WrittenOut Sample.figured Sample.writtenOut "option" Sample.putBytes ∧
      Leg.ofValue (.record Sample.writtenOut) =
        Leg.ofValue (.record Sample.figured) ∧
      (Leg.ofValue (.record Sample.writtenOut)).map
        (fun leg => (leg.side, leg.data)) = .ok (.short, Sample.putBytes) ∧
      Payload.ofValue (.record [("data", .text "00f")]) =
        .error (.notHex "'00f'") := by
  obtain ⟨held, -, replaced⟩ := Leg.ofValue_writtenOut
  have odd : ¬ ∃ bytes,
      Payload.ofValue (.record [("data", .text "00f")]) = .ok bytes := by
    rintro ⟨bytes, read⟩
    obtain ⟨_, ⟨⟩, writes⟩ := ((held _ (.text "00f") rfl).1 bytes).mp read
    cases Text.Hex.decode_eq_some_iff.mpr writes
  refine ⟨Sample.figured_made, Sample.figured_writtenOut,
    replaced _ _ _ _ Sample.figured_made Sample.figured_writtenOut,
    by decide +kernel, ?_⟩
  obtain ⟨s, shown, refused⟩ :=
    ((held _ (.text "00f") rfl).2 nofun).resolve_left odd
  have form : (Value.text "00f").quotedForm = .ok "'00f'" := by decide +kernel
  rw [refused, Except.ok.inj (shown.symm.trans form)]

/-- Beside the figures of an option those of a future do not count, but bytes
in their place do: the leg is another.  And a number that is too long to be
written is refused with a fault that does not show it. -/
theorem sample_shadowed :
    Payload.ofFutureValue Sample.future = .ok Sample.futureBytes ∧
      Payload.WrittenOut Sample.figuredTwice Sample.writtenBeside "future"
        Sample.futureBytes ∧
      (Leg.ofValue (.record Sample.figuredTwice)).map Leg.data =
        .ok Sample.putBytes ∧
      (Leg.ofValue (.record Sample.writtenBeside)).map Leg.data =
        .ok Sample.futureBytes ∧
      Leg.ofValue (.record Sample.writtenBeside) ≠
        Leg.ofValue (.record Sample.figuredTwice) ∧
      Payload.ofValue (.record [("data", .whole Sample.firstLong)]) =
        .error .illFormed := by
  have figured : (Leg.ofValue (.record Sample.figuredTwice)).map Leg.data =
      .ok Sample.putBytes := by decide +kernel
  have written : (Leg.ofValue (.record Sample.writtenBeside)).map Leg.data =
      .ok Sample.futureBytes := by decide +kernel
  refine ⟨by decide +kernel, ⟨⟨_, rfl, Text.Hex.writes_text _⟩, ?_⟩, figured,
    written, ?_, ?_⟩
  · intro key data future
    simp only [Sample.writtenBeside, Sample.figuredTwice, Keyed.get?,
      if_neg data.symm, if_neg future.symm]
  · intro same
    rw [same, figured] at written
    exact absurd written (by decide)
  · rw [Payload.ofValue_data rfl]
    exact Payload.ofHex_of_holdsLong (.whole Sample.firstLong_isLong)

end ScenarioMargin
