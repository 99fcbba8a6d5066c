/-
ScenarioMargin/Proofs/Grammar.lean

Which bytes are payloads, and that a payload holds nothing but its instrument.
A payload is read if and only if it is well formed (`WellFormed`); what is read
depends on the bytes of the fields alone; and written again it is these bytes,
so that two payloads of one instrument differ at most in the decimals with
which its amounts are written.

This is the other half of `Proofs.Codec`: there numbers go into bytes and come
back, here bytes become numbers and are written again.  A word of units is
below `10 ^ 20` and the working precision has 28 digits, so that the amount has
all digits of its units and gives them back, whatever decimals a byte asks for.

Main result: `Payload.encode_decode`.
-/
import ScenarioMargin.Proofs.Codec
import ScenarioMargin.Proofs.Spelling

namespace ScenarioMargin

open Decimal FixedPoint

namespace Payload

/-! ### Bytes as numbers -/

/-- Bytes are those of the number that is read from them. -/
theorem littleEndian_ofLittleEndian (bytes : List UInt8) :
    littleEndian bytes.length (ofLittleEndian bytes) = bytes := by
  induction bytes with
  | nil => rfl
  | cons b rest ih =>
    have byte := b.toNat_lt
    have lowest : UInt8.ofNat (b.toNat + 256 * ofLittleEndian rest) = b := by
      refine UInt8.toNat_inj.mp ?_
      rw [UInt8.toNat_ofNat']
      omega
    have others : (b.toNat + 256 * ofLittleEndian rest) / 256 =
        ofLittleEndian rest := by omega
    rw [List.length_cons, ofLittleEndian, littleEndian, lowest, others, ih]

theorem ofLittleEndian_word {bytes : List UInt8} (h : bytes.length = wordSize) :
    ofLittleEndian bytes < 2 ^ 64 := by
  have bound := ofLittleEndian_lt bytes
  rwa [h] at bound

theorem isSignedWord_ofSigned {bytes : List UInt8}
    (h : bytes.length = wordSize) : IsSignedWord (ofSigned bytes) := by
  have bound := ofLittleEndian_word h
  have half : halfWord = 2 ^ 63 := rfl
  have span : (wordSpan : ℤ) = 2 ^ 64 := rfl
  rw [ofSigned, IsSignedWord]
  split_ifs <;> omega

/-- A signed word is the complement of itself. -/
theorem signedBytes_ofSigned {bytes : List UInt8} (h : bytes.length = wordSize) :
    signedBytes (ofSigned bytes) = bytes := by
  have bound := ofLittleEndian_word h
  have remainder : (ofSigned bytes % wordSpan).toNat = ofLittleEndian bytes := by
    have span : (wordSpan : ℤ) = 2 ^ 64 := rfl
    rw [ofSigned, span]
    split_ifs <;> omega
  rw [signedBytes, remainder, ← h, littleEndian_ofLittleEndian]

/-- A single byte of a payload. -/
theorem ofLittleEndian_byte (bytes : List UInt8) (n : ℕ) :
    ofLittleEndian ((bytes.drop n).take 1) = (bytes.getD n 0).toNat := by
  rw [List.getD_eq_getElem?_getD, ← List.head?_drop]
  cases bytes.drop n <;> rfl

/-! ### Figures -/

namespace OptionFigures

variable {bytes : List UInt8}

theorem ofBytes_code (bytes : List UInt8) :
    (ofBytes bytes).code = ((bytes.getD 0 0).toNat : ℤ) :=
  congrArg Nat.cast (ofLittleEndian_byte bytes 0)

theorem ofBytes_amountDecimals (bytes : List UInt8) :
    (ofBytes bytes).amountDecimals = ((bytes.getD 9 0).toNat : ℤ) :=
  congrArg Nat.cast (ofLittleEndian_byte bytes 9)

theorem ofBytes_strikeDecimals (bytes : List UInt8) :
    (ofBytes bytes).strikeDecimals = ((bytes.getD 18 0).toNat : ℤ) :=
  congrArg Nat.cast (ofLittleEndian_byte bytes 18)

theorem hasBytes_ofBytes (bytes : List UInt8) : (ofBytes bytes).HasBytes where
  code := by
    rw [ofBytes_code]
    exact isByte_natCast (UInt8.toNat_lt _)
  amountDecimals := by
    rw [ofBytes_amountDecimals]
    exact isByte_natCast (UInt8.toNat_lt _)
  strikeDecimals := by
    rw [ofBytes_strikeDecimals]
    exact isByte_natCast (UInt8.toNat_lt _)

theorem isWord_take (bytes : List UInt8) :
    IsWord (ofLittleEndian (bytes.take wordSize)) :=
  ⟨Int.natCast_nonneg _, by exact_mod_cast ofLittleEndian_take_lt bytes wordSize⟩

/-- The length of a field that lies inside a payload. -/
theorem length_field (whole : optionSize ≤ bytes.length) {start width : ℕ}
    (inside : start + width ≤ optionSize) :
    ((bytes.drop start).take width).length = width := by
  rw [List.length_take, List.length_drop]
  omega

theorem fitsWords_ofBytes (whole : optionSize ≤ bytes.length) :
    (ofBytes bytes).FitsWords :=
  ⟨isWord_take _, isWord_take _,
    isSignedWord_ofSigned (length_field whole (by decide))⟩

/-- The layout of the figures in a payload is the payload. -/
theorem layout_ofBytes (whole : optionSize ≤ bytes.length) :
    (ofBytes bytes).layout = bytes.take optionSize := by
  have field (start width : ℕ) (inside : start + width ≤ optionSize) :
      littleEndian width (ofLittleEndian ((bytes.drop start).take width)) =
        (bytes.drop start).take width := by
    have read := littleEndian_ofLittleEndian ((bytes.drop start).take width)
    rwa [length_field whole inside] at read
  have expiration : signedBytes (ofSigned ((bytes.drop 19).take 8)) =
      (bytes.drop 19).take 8 :=
    signedBytes_ofSigned (length_field whole (by decide))
  calc (ofBytes bytes).layout
      = littleEndian 1 (ofLittleEndian ((bytes.drop 0).take 1)) ++
          littleEndian 8 (ofLittleEndian ((bytes.drop 1).take 8)) ++
          littleEndian 1 (ofLittleEndian ((bytes.drop 9).take 1)) ++
          littleEndian 8 (ofLittleEndian ((bytes.drop 10).take 8)) ++
          littleEndian 1 (ofLittleEndian ((bytes.drop 18).take 1)) ++
          signedBytes (ofSigned ((bytes.drop 19).take 8)) := rfl
    _ = bytes.take 1 ++ (bytes.drop 1).take 8 ++ (bytes.drop 9).take 1 ++
      (bytes.drop 10).take 8 ++
          (bytes.drop 18).take 1 ++ (bytes.drop 19).take 8 := by
        rw [field 0 1 (by decide), field 1 8 (by decide), field 9 1 (by decide),
          field 10 8 (by decide), field 18 1 (by decide), expiration,
          List.drop_zero]
    _ = bytes.take (1 + 8 + 1 + 8 + 1 + 8) := by simp only [List.take_add]

/-- The figures depend on no byte that follows them. -/
theorem ofBytes_take (bytes : List UInt8) :
    ofBytes (bytes.take optionSize) = ofBytes bytes := by
  simp [ofBytes, optionSize, List.drop_take, List.take_take]

end OptionFigures

/-! ### Payloads -/

section Grammar

variable {kind : InstrumentKind} {bytes bytes' : List UInt8}
  {instrument instrument' : Instrument}

/-- The bytes that are a payload of a kind: all fields are there, and the first
byte of an option is its kind. -/
def WellFormed : InstrumentKind → List UInt8 → Prop
  | .spot, _ => True
  | .termFuture, bytes => 8 ≤ bytes.length
  | .perpFuture, bytes => 8 ≤ bytes.length
  | .option, bytes =>
    27 ≤ bytes.length ∧ (bytes.head? = some 0 ∨ bytes.head? = some 1)

theorem not_malformed_of_whole (other : kind ≠ .option)
    (whole : leastSize kind ≤ bytes.length) (e : Fault) :
    ¬ Malformed kind bytes e := by
  rintro (short | _)
  · exact absurd whole (Nat.not_le.mpr short)
  · exact other rfl

theorem whole_of_not_malformed (h : ∀ e, ¬ Malformed kind bytes e) :
    leastSize kind ≤ bytes.length :=
  Nat.not_lt.mp fun short => h _ (.short short)

theorem wellFormed_option_iff : WellFormed .option bytes ↔
    ∀ e, ¬ Malformed .option bytes e := by
  constructor
  · rintro ⟨whole, known⟩ e (short | ⟨-, unknown⟩)
    · exact absurd whole (Nat.not_le.mpr short)
    · rcases known with call | put
      · obtain rfl := Option.some.inj call
        exact unknown .call rfl
      · obtain rfl := Option.some.inj put
        exact unknown .put rfl
  · intro h
    have whole : optionSize ≤ bytes.length := whole_of_not_malformed h
    refine ⟨whole, ?_⟩
    cases bytes with
    | nil => exact absurd whole (by decide)
    | cons b rest =>
      by_contra unknown
      refine h _ (.unknown whole ?_)
      rintro (_ | _) code
      · exact unknown (.inl (congrArg some (UInt8.toNat_inj.mp code)))
      · exact unknown (.inr (congrArg some (UInt8.toNat_inj.mp code)))

/-- The grammar of payloads, from what is wrong with those that are refused. -/
theorem wellFormed_iff : WellFormed kind bytes ↔ ∀ e, ¬ Malformed kind bytes e := by
  cases kind with
  | spot =>
    exact iff_of_true trivial
      (not_malformed_of_whole (fun same => nomatch same) (Nat.zero_le _))
  | option => exact wellFormed_option_iff
  | termFuture =>
    have other : InstrumentKind.termFuture ≠ .option := nofun
    exact ⟨not_malformed_of_whole other, whole_of_not_malformed⟩
  | perpFuture =>
    have other : InstrumentKind.perpFuture ≠ .option := nofun
    exact ⟨not_malformed_of_whole other, whole_of_not_malformed⟩

/-- A payload is read if and only if it is well formed. -/
theorem decode_returns_iff :
    (∃ instrument, decode kind bytes = .ok instrument) ↔
    WellFormed kind bytes := by
  rw [wellFormed_iff]
  simp only [← decode_eq_error]
  constructor
  · rintro ⟨_, read⟩ e refused
    cases read.symm.trans refused
  · exact returns_of_ne_error

theorem futureAmount_of_whole (whole : futureSize ≤ bytes.length) :
    futureAmount kind bytes = liftM
      (fromRaw (ofLittleEndian (bytes.take futureSize)) futureDecimals) := by
  rw [futureAmount, if_neg (Nat.not_lt.mpr whole)]

/-- The option that figures are. -/
def OptionFigures.toInstrument (f : OptionFigures) : Except Fault Instrument := do
  let kind ← optionKind f.code
  let amount ← fromRaw f.amount f.amountDecimals
  let strike ← fromRaw f.strike f.strikeDecimals
  return .option kind amount strike f.expiration

theorem option_of_whole (whole : optionSize ≤ bytes.length) :
    option bytes = (OptionFigures.ofBytes bytes).toInstrument := by
  rw [option, if_neg (Nat.not_lt.mpr whole)]
  rfl

/-- What is read depends on the bytes of the fields alone. -/
theorem decode_congr
    (h : bytes'.take (leastSize kind) = bytes.take (leastSize kind)) :
    decode kind bytes' = decode kind bytes := by
  have lengths := congrArg List.length h
  rw [List.length_take, List.length_take] at lengths
  rcases lt_or_ge bytes.length (leastSize kind) with short | whole
  · -- bytes that are cut off nowhere are all the same
    rw [List.take_of_length_le short.le, List.take_of_length_le (by omega)] at h
    rw [h]
  · have whole' : leastSize kind ≤ bytes'.length := by omega
    have amount (future : leastSize kind = futureSize) :
        futureAmount kind bytes' = futureAmount kind bytes := by
      rw [future] at h whole whole'
      rw [futureAmount_of_whole whole, futureAmount_of_whole whole', h]
    cases kind with
    | spot => rfl
    | termFuture => exact congrArg (Instrument.termFuture <$> ·) (amount rfl)
    | perpFuture => exact congrArg (Instrument.perpFuture <$> ·) (amount rfl)
    | option =>
      have figures : OptionFigures.ofBytes bytes' =
          OptionFigures.ofBytes bytes := by
        rw [← OptionFigures.ofBytes_take bytes', ← OptionFigures.ofBytes_take bytes]
        exact congrArg OptionFigures.ofBytes h
      rw [decode, decode, option_of_whole whole, option_of_whole whole', figures]

/-! ### Writing what was read -/

/-- The decimals of the amounts in an option's payload. -/
def decimals (bytes : List UInt8) : UInt8 × UInt8 :=
  (bytes.getD 9 0, bytes.getD 18 0)

/-- The bytes that an instrument is written as when it was read from a payload:
the amounts of an option are written with the decimals of the payload. -/
def rewritten (bytes : List UInt8) : Instrument → Except Fault (List UInt8)
  | .termFuture amount => ofFuture amount
  | .perpFuture amount => ofFuture amount
  | .option kind amount strike expiration =>
    ofOption kind amount strike expiration (decimals bytes).1.toNat
      (decimals bytes).2.toNat
  | _ => .ok []

/-- The amount in a future's payload is written as the payload. -/
theorem ofFuture_futureAmount {amount : Decimal} (whole : futureSize ≤ bytes.length)
    (h : futureAmount kind bytes = .ok amount) :
    ofFuture amount = .ok (bytes.take futureSize) := by
  have word := ofLittleEndian_take_lt bytes wordSize
  have fits : IsWord (ofLittleEndian (bytes.take wordSize)) :=
    OptionFigures.isWord_take bytes
  rw [futureAmount_of_whole whole] at h
  have raw : toRaw amount futureDecimals =
      pure (ofLittleEndian (bytes.take wordSize) : ℤ) :=
    toRaw_fromRaw (digits_of_word word) (tiny_of_byte (by decide)) (lift_eq_ok.mp h)
  have length : (bytes.take wordSize).length = wordSize :=
    List.length_take_of_le whole
  have written := littleEndian_ofLittleEndian (bytes.take wordSize)
  rw [length] at written
  rw [ofFuture, raw, pure_bind, unsigned_word, if_pos fits,
    Int.toNat_natCast, written]
  rfl

theorem code_of_optionKind {code : ℤ} {kind : OptionKind}
    (h : optionKind code = .ok kind) : code = kind.code := by
  rw [optionKind] at h
  split_ifs at h with call put
  · obtain rfl := Except.ok.inj h
    exact call
  · obtain rfl := Except.ok.inj h
    exact put

/-- The option in a payload is written as the payload. -/
theorem rewritten_option (whole : optionSize ≤ bytes.length)
    (h : option bytes = .ok instrument) :
    rewritten bytes instrument = .ok (bytes.take optionSize) := by
  simp only [option_of_whole whole, OptionFigures.toInstrument, bind_eq_ok,
    lift_eq_ok, pure_eq_ok] at h
  obtain ⟨kind, known, amount, amountRead, strike, strikeRead, rfl⟩ := h
  have rawAmount : toRaw amount (OptionFigures.ofBytes bytes).amountDecimals =
      pure (OptionFigures.ofBytes bytes).amount :=
    toRaw_fromRaw (digits_of_word (ofLittleEndian_take_lt (bytes.drop 1) wordSize))
      (tiny_of_byte (ofLittleEndian_take_lt (bytes.drop 9) 1)) amountRead
  have rawStrike : toRaw strike (OptionFigures.ofBytes bytes).strikeDecimals =
      pure (OptionFigures.ofBytes bytes).strike :=
    toRaw_fromRaw (digits_of_word (ofLittleEndian_take_lt (bytes.drop 10) wordSize))
      (tiny_of_byte (ofLittleEndian_take_lt (bytes.drop 18) 1)) strikeRead
  rw [rewritten, decimals, ofOption, ← OptionFigures.ofBytes_amountDecimals,
    ← OptionFigures.ofBytes_strikeDecimals, rawAmount, rawStrike, pure_bind,
    pure_bind, ← code_of_optionKind known]
  calc (OptionFigures.ofBytes bytes).toBytes
      = .ok (OptionFigures.ofBytes bytes).layout := by
        rw [OptionFigures.toBytes_eq (OptionFigures.hasBytes_ofBytes bytes),
          if_pos (OptionFigures.fitsWords_ofBytes whole)]
    _ = .ok (bytes.take optionSize) := by rw [OptionFigures.layout_ofBytes whole]

/-- What was read is written as the bytes that it was read from. -/
theorem rewritten_decode (h : decode kind bytes = .ok instrument) :
    rewritten bytes instrument = .ok (bytes.take (leastSize kind)) := by
  have wellFormed := decode_returns_iff.mp ⟨_, h⟩
  cases kind with
  | spot =>
    obtain rfl := Except.ok.inj h
    rfl
  | option => exact rewritten_option wellFormed.1 h
  | termFuture | perpFuture =>
    obtain ⟨amount, read, rfl⟩ := map_eq_ok.mp h
    exact ofFuture_futureAmount wellFormed read

end Grammar

end Payload

/-! ### Instruments that are numerically equal -/

/-- The kind of an instrument that has one. -/
def Instrument.kind : Instrument → Option InstrumentKind
  | .spot => some .spot
  | .termFuture _ => some .termFuture
  | .perpFuture _ => some .perpFuture
  | .option .. => some .option
  | .unrecognised => none

/-- Instruments of one kind whose figures are equal as numbers. -/
inductive Instrument.Same : Instrument → Instrument → Prop
  | spot : Same .spot .spot
  | termFuture {x x' : Decimal} (amount : x.Same x') :
      Same (.termFuture x) (.termFuture x')
  | perpFuture {x x' : Decimal} (amount : x.Same x') :
      Same (.perpFuture x) (.perpFuture x')
  | option {kind : OptionKind} {x x' y y' : Decimal} {t : ℤ}
      (amount : x.Same x') (strike : y.Same y') :
      Same (.option kind x y t) (.option kind x' y' t)
  | unrecognised : Same .unrecognised .unrecognised

theorem Instrument.Same.refl (instrument : Instrument) :
    instrument.Same instrument := by
  cases instrument with
  | spot => exact .spot
  | termFuture amount => exact .termFuture (Decimal.Same.refl amount)
  | perpFuture amount => exact .perpFuture (Decimal.Same.refl amount)
  | option kind amount strike expiration =>
    exact .option (Decimal.Same.refl amount) (Decimal.Same.refl strike)
  | unrecognised => exact .unrecognised

namespace Payload

variable {kind : InstrumentKind} {bytes bytes' : List UInt8}
  {instrument instrument' : Instrument}

theorem kind_of_decode (h : decode kind bytes = .ok instrument) :
    instrument.kind = some kind := by
  cases kind with
  | spot =>
    obtain rfl := Except.ok.inj h
    rfl
  | option =>
    have whole : optionSize ≤ bytes.length := (decode_returns_iff.mp ⟨_, h⟩).1
    rw [decode] at h
    simp only [option_of_whole whole, OptionFigures.toInstrument, bind_eq_ok,
      pure_eq_ok] at h
    obtain ⟨_, -, _, -, _, -, rfl⟩ := h
    rfl
  | termFuture | perpFuture =>
    obtain ⟨amount, -, rfl⟩ := map_eq_ok.mp h
    rfl

/-- Equal amounts are written as the same bytes. -/
theorem ofFuture_same {x x' : Decimal} (h : x.Same x') :
    Agree False Eq (ofFuture x) (ofFuture x') := by
  refine (toRaw_same h _).bind ?_
  rintro raw _ rfl
  exact Agree.refl (fun _ => rfl) _

theorem ofOption_same {kind : OptionKind} {x x' y y' : Decimal}
    (amount : x.Same x') (strike : y.Same y') (t da ds : ℤ) : Agree False Eq
    (ofOption kind x y t da ds) (ofOption kind x' y' t da ds) := by
  refine (toRaw_same amount _).bind ?_
  rintro rawAmount _ rfl
  refine (toRaw_same strike _).bind ?_
  rintro rawStrike _ rfl
  exact Agree.refl (fun _ => rfl) _

/-- Equal instruments are written as the same bytes, options with equal
decimals. -/
theorem rewritten_same (h : instrument.Same instrument')
    (same : instrument.kind = some .option → decimals bytes = decimals bytes') :
    Agree False Eq (rewritten bytes instrument) (rewritten bytes' instrument') := by
  cases h with
  | spot | unrecognised => exact Agree.refl (fun _ => rfl) _
  | termFuture amount | perpFuture amount => exact ofFuture_same amount
  | option amount strike =>
    rw [rewritten, rewritten, same rfl]
    exact ofOption_same amount strike _ _ _

/-- Payloads of one instrument, which ask for equal decimals, have the same
bytes. -/
theorem take_eq_of_same (h : decode kind bytes = .ok instrument)
    (h' : decode kind bytes' = .ok instrument')
    (same : instrument.Same instrument')
    (written : kind = .option → decimals bytes = decimals bytes') :
    bytes.take (leastSize kind) = bytes'.take (leastSize kind) := by
  have agree := rewritten_same same fun option =>
    written (Option.some.inj ((kind_of_decode h).symm.trans option))
  rw [rewritten_decode h, rewritten_decode h'] at agree
  exact agree.of_ok_ok

/-- **The grammar of payloads.**  A spot instrument has every payload, a future
those of at least 8 bytes, and an option those of at least 27 bytes whose first
byte is 0 or 1.  These are read, as an instrument of the kind that was asked
for; all others are refused, since they are too short or have an option of no
kind.

Bytes beyond the fields are without effect.  The instrument that was read is
always written again, with the decimals that the payload has, and gives back
the bytes of its fields.  So these are the same in payloads of numerically
equal instruments, if options have their amounts in equal decimals. -/
theorem encode_decode (kind : InstrumentKind) (bytes : List UInt8) :
    ((∃ instrument, decode kind bytes = .ok instrument) ↔ WellFormed kind bytes) ∧
    (∀ e, decode kind bytes = .error e ↔ Malformed kind bytes e) ∧
    (∀ bytes', bytes'.take (leastSize kind) = bytes.take (leastSize kind) →
      decode kind bytes' = decode kind bytes) ∧
    (∀ instrument, decode kind bytes = .ok instrument →
      instrument.kind = some kind ∧
      rewritten bytes instrument = .ok (bytes.take (leastSize kind))) ∧
    ∀ bytes' instrument instrument', decode kind bytes = .ok instrument →
      decode kind bytes' = .ok instrument' →
      instrument.Same instrument' →
      (kind = .option → decimals bytes = decimals bytes') →
      bytes.take (leastSize kind) = bytes'.take (leastSize kind) :=
  ⟨decode_returns_iff, fun _ => decode_eq_error, fun _ => decode_congr,
    fun _ read => ⟨kind_of_decode read, rewritten_decode read⟩,
    fun _ _ _ => take_eq_of_same⟩

end Payload

/-! ### A payload at its bounds -/

namespace Sample

/-- A put on as many units as a word can hold, with 255 decimals, which expired
a second before the epoch. -/
def payload : List UInt8 :=
  1 :: List.replicate 8 255 ++ [255] ++ [0, 0, 0, 0, 0, 0, 0, 128] ++ [0] ++
    List.replicate 8 255

end Sample

/-- The payload is read, whatever follows it, and written again as it was.
With another first byte it is refused. -/
theorem sample_grammar :
    (∃ instrument,
      Payload.decode .option (Sample.payload ++ [4, 2]) = .ok instrument ∧
      Payload.decode .option Sample.payload = .ok instrument ∧
      Payload.rewritten Sample.payload instrument = .ok Sample.payload ∧
      ∀ bytes, Payload.decode .option bytes = .ok instrument →
        Payload.decimals bytes = (255, 0) →
        bytes.take 27 = Sample.payload) ∧
      Payload.decode .option (2 :: Sample.payload.tail) =
        .error (.unknownOption "2") := by
  obtain ⟨accepted, -, tail, written, unique⟩ :=
    Payload.encode_decode .option Sample.payload
  obtain ⟨instrument, read⟩ := accepted.mpr ⟨by decide, .inr rfl⟩
  have refused := (Payload.encode_decode .option (2 :: Sample.payload.tail)).2.1
  refine ⟨⟨instrument, ?_, read, (written instrument read).2, ?_⟩, ?_⟩
  · rw [tail (Sample.payload ++ [4, 2]) rfl, read]
  · intro bytes read' decimals
    exact (unique bytes instrument instrument read read' (.refl instrument)
      fun _ => decimals.symm).symm
  · exact (refused _).mpr (.unknown (by decide) (by rintro (_ | _) <;> decide))

end ScenarioMargin
