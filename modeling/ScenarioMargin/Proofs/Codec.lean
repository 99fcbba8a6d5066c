/-
ScenarioMargin/Proofs/Codec.lean

Payloads that are written and read back.  The two halves meet at the layout of
a payload: writing gives the bytes of the layout as long as the numbers fit
their fields and is refused otherwise (`toBytes_eq`), and reading a layout
gives the numbers back, whatever bytes follow it (`ofBytes_layout`).

Around the layout stand the two conversions of amounts.  An amount goes in as
its whole units, cut toward zero, and the units come out as an amount again
(`Proofs.Units`), so that an amount with more decimals than its field is
recovered up to these decimals.  The legs of documents are made in this way.

Main result: `Payload.decode_encode`.
-/
import ScenarioMargin.Document.Trade
import ScenarioMargin.Proofs.Lifecycle
import ScenarioMargin.Proofs.Stops

namespace ScenarioMargin

open Decimal FixedPoint

namespace Payload

/-! ### Numbers as bytes -/

@[simp] theorem length_littleEndian (width n : Nat) :
    (littleEndian width n).length = width := by
  induction width generalizing n with
  | zero => rfl
  | succ width ih => rw [littleEndian, List.length_cons, ih]

theorem ofLittleEndian_littleEndian {width n : Nat} (h : n < 256 ^ width) :
    ofLittleEndian (littleEndian width n) = n := by
  induction width generalizing n with
  | zero => exact (Nat.lt_one_iff.mp h).symm
  | succ width ih =>
    have rest : n / 256 < 256 ^ width :=
      Nat.div_lt_of_lt_mul (by rwa [← Nat.pow_succ'])
    have lowest : (UInt8.ofNat n).toNat = n % 256 := UInt8.toNat_ofNat'
    rw [littleEndian, ofLittleEndian, ih rest, lowest, Nat.mod_add_div]

/-! ### Fields -/

/-- The numbers that a byte can hold. -/
def IsByte (n : ℤ) : Prop :=
  0 ≤ n ∧ n < 256

/-- The numbers that an unsigned word can hold. -/
def IsWord (n : ℤ) : Prop :=
  0 ≤ n ∧ n < 2 ^ 64

/-- The numbers that a signed word can hold. -/
def IsSignedWord (n : ℤ) : Prop :=
  -2 ^ 63 ≤ n ∧ n < 2 ^ 63

instance (n : ℤ) : Decidable (IsByte n) :=
  inferInstanceAs (Decidable (_ ∧ _))

instance (n : ℤ) : Decidable (IsWord n) :=
  inferInstanceAs (Decidable (_ ∧ _))

instance (n : ℤ) : Decidable (IsSignedWord n) :=
  inferInstanceAs (Decidable (_ ∧ _))

/-- The bytes of a signed word. -/
def signedBytes (n : ℤ) : List UInt8 :=
  littleEndian wordSize (n % wordSpan).toNat

@[simp] theorem length_signedBytes (n : ℤ) : (signedBytes n).length = wordSize :=
  length_littleEndian wordSize _

theorem unsigned_word (n : ℤ) :
    unsigned wordSize n =
      if IsWord n then some (littleEndian wordSize n.toNat) else none :=
  rfl

theorem byteField_of_isByte {n : ℤ} (h : IsByte n) :
    byteField n = .ok (littleEndian 1 n.toNat) := by
  have held : unsigned 1 n = some (littleEndian 1 n.toNat) := if_pos h
  rw [byteField, held]

theorem wordField_eq (n : ℤ) : wordField n =
    if IsWord n then .ok (littleEndian wordSize n.toNat)
    else .error (.optionOutOfRange .word) := by
  rw [wordField, unsigned_word]
  split_ifs <;> rfl

theorem signedField_eq (n : ℤ) :
    signedField n =
      if IsSignedWord n then .ok (signedBytes n)
      else .error (.optionOutOfRange .word) := by
  have held : signed n =
      if IsSignedWord n then some (signedBytes n) else none := rfl
  rw [signedField, held]
  split_ifs <;> rfl

/-- A number that is not negative is read from the bytes that hold it. -/
theorem ofLittleEndian_toNat {width : Nat} {n : ℤ} (nonneg : 0 ≤ n)
    (small : n < 256 ^ width) :
    (ofLittleEndian (littleEndian width n.toNat) : ℤ) = n := by
  have bound : n.toNat < 256 ^ width := by
    zify
    rwa [Int.toNat_of_nonneg nonneg]
  rw [ofLittleEndian_littleEndian bound, Int.toNat_of_nonneg nonneg]

theorem IsByte.read {n : ℤ} (h : IsByte n) :
    (ofLittleEndian (littleEndian 1 n.toNat) : ℤ) = n :=
  ofLittleEndian_toNat h.1 h.2

theorem IsWord.read {n : ℤ} (h : IsWord n) :
    (ofLittleEndian (littleEndian wordSize n.toNat) : ℤ) = n :=
  ofLittleEndian_toNat h.1 h.2

/-- A signed word holds a negative number as its complement. -/
theorem IsSignedWord.read {n : ℤ} (h : IsSignedWord n) :
    ofSigned (signedBytes n) = n := by
  obtain ⟨low, high⟩ := h
  have held : (ofLittleEndian (signedBytes n) : ℤ) = n % wordSpan :=
    ofLittleEndian_toNat (Int.emod_nonneg _ (by decide))
      (Int.emod_lt_of_pos _ (by decide))
  rw [ofSigned]
  zify
  rw [held, show (wordSpan : ℤ) = 2 ^ 64 from rfl,
    show (halfWord : ℤ) = 2 ^ 63 from rfl]
  -- the remainder is the number itself or lies one span above it
  split_ifs <;> omega

/-! ### Options -/

namespace OptionFigures

variable {f : OptionFigures}

/-- The kind and the decimals of figures are bytes. -/
structure HasBytes (f : OptionFigures) : Prop where
  code : IsByte f.code
  amountDecimals : IsByte f.amountDecimals
  strikeDecimals : IsByte f.strikeDecimals

/-- The raw numbers and the expiration of figures fit their words. -/
def FitsWords (f : OptionFigures) : Prop :=
  IsWord f.amount ∧ IsWord f.strike ∧ IsSignedWord f.expiration

instance (f : OptionFigures) : Decidable f.FitsWords :=
  inferInstanceAs (Decidable (_ ∧ _ ∧ _))

/-- The bytes of figures, field by field. -/
def layout (f : OptionFigures) : List UInt8 :=
  littleEndian 1 f.code.toNat ++ littleEndian wordSize f.amount.toNat ++
    littleEndian 1 f.amountDecimals.toNat ++
    littleEndian wordSize f.strike.toNat ++
    littleEndian 1 f.strikeDecimals.toNat ++ signedBytes f.expiration

theorem length_layout (f : OptionFigures) : f.layout.length = optionSize := by
  simp [layout, wordSize, optionSize]

/-- Figures are written as their layout, or do not fit their words. -/
theorem toBytes_eq (bytes : f.HasBytes) :
    f.toBytes =
      if f.FitsWords then .ok f.layout
      else .error (.optionOutOfRange .word) := by
  rw [toBytes, byteField_of_isByte bytes.code,
    byteField_of_isByte bytes.amountDecimals,
    byteField_of_isByte bytes.strikeDecimals, wordField_eq, wordField_eq,
    signedField_eq]
  -- the first word that does not fit stops the rest, with the same fault as
  -- any other
  by_cases amount : IsWord f.amount
  · by_cases strike : IsWord f.strike
    · by_cases expiration : IsSignedWord f.expiration
      · have fits : f.FitsWords := ⟨amount, strike, expiration⟩
        rw [if_pos amount, if_pos strike, if_pos expiration, if_pos fits]
        rfl
      · have misfit : ¬ f.FitsWords := fun fits => expiration fits.2.2
        rw [if_pos amount, if_pos strike, if_neg expiration, if_neg misfit]
        rfl
    · have misfit : ¬ f.FitsWords := fun fits => strike fits.2.1
      rw [if_pos amount, if_neg strike, if_neg misfit]
      rfl
  · have misfit : ¬ f.FitsWords := fun fits => amount fits.1
    rw [if_neg amount, if_neg misfit]
    rfl

/-- Each field is read from its own bytes. -/
theorem ofBytes_append
    {code amount amountDecimals strike strikeDecimals expiration : List UInt8}
    (hc : code.length = 1) (ha : amount.length = 8)
    (hda : amountDecimals.length = 1) (hs : strike.length = 8)
    (hds : strikeDecimals.length = 1) (he : expiration.length = 8)
    (rest : List UInt8) :
    ofBytes (code ++ amount ++ amountDecimals ++ strike ++ strikeDecimals ++
      expiration ++ rest) =
      ⟨ofLittleEndian code, ofLittleEndian amount,
        ofLittleEndian amountDecimals, ofLittleEndian strike,
        ofLittleEndian strikeDecimals, ofSigned expiration⟩ := by
  simp [ofBytes, List.drop_append, List.drop_eq_nil_of_le, hc, ha, hda, hs, hds, he]

/-- Figures are read from their layout, whatever follows it. -/
theorem ofBytes_layout (bytes : f.HasBytes) (fits : f.FitsWords)
    (rest : List UInt8) : ofBytes (f.layout ++ rest) = f := by
  obtain ⟨amount, strike, expiration⟩ := fits
  have fields := ofBytes_append (length_littleEndian 1 f.code.toNat)
    (length_littleEndian wordSize f.amount.toNat)
    (length_littleEndian 1 f.amountDecimals.toNat)
    (length_littleEndian wordSize f.strike.toNat)
    (length_littleEndian 1 f.strikeDecimals.toNat)
    (length_signedBytes f.expiration) rest
  rwa [bytes.code.read, amount.read, bytes.amountDecimals.read, strike.read,
    bytes.strikeDecimals.read, expiration.read] at fields

end OptionFigures

/-! ### Writing and reading -/

/-- A way to write payloads that can be read back.  It is refused unless what
is written `fits`; a payload has `size` bytes, and what is read from it is
`right`, whatever bytes follow it. -/
structure Faithful (written : Except Fault (List UInt8)) (fits : Prop)
    (refusal : Fault) (size : Nat) (right : List UInt8 → Prop) : Prop where
  returns_iff : (∃ bytes, written = .ok bytes) ↔ fits
  refused : ¬ fits → written = .error refusal
  size : ∀ bytes, written = .ok bytes → bytes.length = size
  read : ∀ bytes rest, written = .ok bytes → right (bytes ++ rest)

/-- What is written is a layout that can be read back. -/
theorem Faithful.of_layout {written : Except Fault (List UInt8)} {fits : Prop}
    [Decidable fits] {refusal : Fault} {layout : List UInt8} {size : Nat}
    {right : List UInt8 → Prop}
    (eq : written = if fits then .ok layout else .error refusal)
    (length : layout.length = size)
    (read : fits → ∀ rest, right (layout ++ rest)) :
    Faithful written fits refusal size right := by
  by_cases h : fits
  · rw [if_pos h] at eq
    subst eq
    refine ⟨iff_of_true ⟨_, rfl⟩ h, fun misfit => absurd h misfit, ?_, ?_⟩
    · rintro _ ⟨⟩
      exact length
    · rintro _ rest ⟨⟩
      exact read h rest
  · rw [if_neg h] at eq
    subst eq
    exact ⟨iff_of_false nofun h, fun _ => rfl, nofun, nofun⟩

/-- A word of units is the amount that was cut to them. -/
theorem fromRaw_units {x : ℚ} {decimals : ℕ} (word : IsWord (units x decimals))
    (byte : decimals < 256) :
    ∃ amount, fromRaw (units x decimals) decimals = .ok amount ∧
      amount.Reads (cut x decimals) := by
  refine fromRaw_of_digits ?_ (tiny_of_byte byte)
  rw [abs_of_nonneg word.1]
  exact word.2.trans (by decide)

section Options

variable {kind : OptionKind} {amount strike : Value} {a s : Decimal}
  {t : ℤ} {da ds : ℕ}

/-- The figures of an option whose amounts are cut to whole units. -/
def optionFigures (kind : OptionKind) (a s : Decimal) (t : ℤ) (da ds : ℕ) :
    OptionFigures :=
  ⟨kind.code, units a.number da, da, units s.number ds, ds, t⟩

theorem isByte_code (kind : OptionKind) : IsByte kind.code := by
  cases kind <;> decide

theorem isByte_natCast {n : ℕ} (h : n < 256) : IsByte n :=
  ⟨Int.natCast_nonneg n, by exact_mod_cast h⟩

theorem hasBytes_optionFigures (hda : da < 256) (hds : ds < 256) :
    (optionFigures kind a s t da ds).HasBytes where
  code := isByte_code kind
  amountDecimals := isByte_natCast hda
  strikeDecimals := isByte_natCast hds

theorem ofOption_eq (ha : a.IsFigure) (hs : s.IsFigure) (hda : da < 256)
    (hds : ds < 256) :
    ofOption kind a s t da ds =
      if (optionFigures kind a s t da ds).FitsWords then
        .ok (optionFigures kind a s t da ds).layout
      else .error (.optionOutOfRange .word) := by
  have rawAmount : toRaw a da = pure (units a.number da) := toRaw_of_figure ha hda
  have rawStrike : toRaw s ds = pure (units s.number ds) := toRaw_of_figure hs hds
  rw [← OptionFigures.toBytes_eq (hasBytes_optionFigures hda hds), ofOption,
    rawAmount, rawStrike, pure_bind, pure_bind]
  rfl

/-- Figures that are given as values are written as the numbers that they stand
for. -/
theorem ofOptionValues_eq (ha : amount.toDecimal = .ok a)
    (hs : strike.toDecimal = .ok s) :
    ofOptionValues kind amount strike (.whole t) (.whole da) (.whole ds) =
      ofOption kind a s t da ds := by
  have raw {v : Value} {x : Decimal} (read : v.toDecimal = .ok x) (d : ℤ) :
      rawOfValue v (.whole d) = toRaw x d >>= fun n => pure (n, d) := by
    have count : (Value.whole d).asCount = pure d := rfl
    have number : v.toDecimal = pure x := read
    rw [rawOfValue, number, count, pure_bind, pure_bind]
  have instant : (Value.whole t).toWhole = pure t := rfl
  simp only [ofOptionValues, ofOption, raw ha, raw hs, instant,
    bind_assoc, pure_bind]

theorem optionKind_code (kind : OptionKind) : optionKind kind.code = .ok kind := by
  cases kind <;> rfl

/-- The layout of an option's figures is long enough, has a kind that is known,
and amounts that are not rounded. -/
theorem decode_layout (hda : da < 256) (hds : ds < 256)
    (fits : (optionFigures kind a s t da ds).FitsWords) (rest : List UInt8) :
    ∃ x y, decode .option ((optionFigures kind a s t da ds).layout ++ rest) =
      .ok (.option kind x y t) ∧
      x.Reads (cut a.number da) ∧ y.Reads (cut s.number ds) := by
  obtain ⟨x, hx, readsX⟩ := fromRaw_units fits.1 hda
  obtain ⟨y, hy, readsY⟩ := fromRaw_units fits.2.1 hds
  have whole : ¬ ((optionFigures kind a s t da ds).layout ++ rest).length <
      optionSize := by
    rw [List.length_append, OptionFigures.length_layout]
    omega
  refine ⟨x, y, ?_, readsX, readsY⟩
  rw [decode, option, if_neg whole,
    OptionFigures.ofBytes_layout (hasBytes_optionFigures hda hds) fits]
  refine bind_eq_ok.mpr ⟨kind, optionKind_code kind, ?_⟩
  exact bind_eq_ok.mpr
    ⟨x, lift_eq_ok.mpr hx, bind_eq_ok.mpr ⟨y, lift_eq_ok.mpr hy, rfl⟩⟩

/-- An option is recovered with its kind and expiration, and its amounts up to
their decimals. -/
theorem faithful_option (ha : amount.toDecimal = .ok a)
    (hs : strike.toDecimal = .ok s) (fa : a.IsFigure) (fs : s.IsFigure)
    (hda : da < 256) (hds : ds < 256) :
    Faithful (ofOptionValues kind amount strike (.whole t) (.whole da) (.whole ds))
      (IsWord (units a.number da) ∧ IsWord (units s.number ds) ∧ IsSignedWord t)
      (.optionOutOfRange .word) 27
      fun bytes => ∃ x y, decode .option bytes = .ok (.option kind x y t) ∧
        x.Reads (cut a.number da) ∧ y.Reads (cut s.number ds) := by
  rw [ofOptionValues_eq ha hs]
  exact .of_layout (ofOption_eq fa fs hda hds) (OptionFigures.length_layout _)
    (decode_layout hda hds)

end Options

section Futures

variable {a : Decimal}

theorem ofFuture_eq (h : a.IsFigure) :
    ofFuture a =
      if IsWord (units a.number 9) then
        .ok (littleEndian futureSize (units a.number 9).toNat)
      else .error .futureOutOfRange := by
  have raw : toRaw a futureDecimals = pure (units a.number 9) :=
    toRaw_of_figure h (by decide)
  rw [ofFuture, raw, pure_bind, unsigned_word]
  split_ifs <;> rfl

/-- A future of either kind is recovered with its amount up to its decimals. -/
theorem faithful_future (h : a.IsFigure) :
    Faithful (ofFuture a) (IsWord (units a.number 9)) .futureOutOfRange 8
      fun bytes => ∃ x, decode .termFuture bytes = .ok (.termFuture x) ∧
        decode .perpFuture bytes = .ok (.perpFuture x) ∧
        x.Reads (cut a.number 9) := by
  refine .of_layout (ofFuture_eq h) (length_littleEndian _ _) fun word rest => ?_
  obtain ⟨x, ok, reads⟩ := fromRaw_units word (show 9 < 256 by decide)
  have whole :
      ¬ (littleEndian futureSize (units a.number 9).toNat ++ rest).length <
        futureSize := by
    rw [List.length_append, length_littleEndian]
    omega
  have held :
      (ofLittleEndian (littleEndian futureSize (units a.number 9).toNat) : ℤ) =
        units a.number 9 := word.read
  have amount (kind : InstrumentKind) :
      futureAmount kind
        (littleEndian futureSize (units a.number 9).toNat ++ rest) = .ok x := by
    rw [futureAmount, if_neg whole, List.take_left' (length_littleEndian _ _), held]
    exact lift_eq_ok.mpr ok
  refine ⟨x, ?_, ?_, reads⟩
  · rw [decode, amount]
    rfl
  · rw [decode, amount]
    rfl

end Futures

end Payload

/-! ### Legs of documents -/

theorem Value.has_of_get {v : Value} {key : String} {field : Option Value}
    (h : v.get key = .ok field) : v.has key = .ok field.isSome := by
  cases v <;> cases h
  rfl

theorem Value.need_of_get {v w : Value} {key : String}
    (h : v.get key = .ok (some w)) : v.need key = .ok w := by
  cases v with
  | record fields =>
    have held : Keyed.get? key fields = some w := Except.ok.inj h
    rw [Value.need, held]
  | _ => cases h

namespace Payload

variable {v o : Value}

theorem ofValue_option (data : v.get "data" = .ok none)
    (option : v.get "option" = .ok (some o)) : ofValue v = ofOptionValue o := by
  have written : v.has "data" = pure false := Value.has_of_get data
  have figures : v.has "option" = pure true := Value.has_of_get option
  have described : v.need "option" = pure o := Value.need_of_get option
  simp only [ofValue, written, figures, described, pure_bind,
    Bool.false_eq_true, if_false, if_true]

theorem ofValue_future (data : v.get "data" = .ok none)
    (option : v.get "option" = .ok none)
    (future : v.get "future" = .ok (some o)) : ofValue v = ofFutureValue o := by
  have written : v.has "data" = pure false := Value.has_of_get data
  have other : v.has "option" = pure false := Value.has_of_get option
  have figures : v.has "future" = pure true := Value.has_of_get future
  have described : v.need "future" = pure o := Value.need_of_get future
  simp only [ofValue, written, other, figures, described, pure_bind,
    Bool.false_eq_true, if_false, if_true]

end Payload

/-- A leg is made of an amount that is not below zero, and holds what it is
made of. -/
theorem Leg.make_eq_ok {baseAsset : Int} {amount : Decimal} {side : LegSide}
    {program : String} {data : List UInt8} {leg : Leg} :
    Leg.make baseAsset amount side program data = .ok leg ↔
      ∃ unsigned, leg = ⟨baseAsset, amount, side, program, data, unsigned⟩ := by
  unfold Leg.make
  split
  case h_1 unsigned => exact ⟨fun h => ⟨unsigned, (Except.ok.inj h).symm⟩,
    fun ⟨_, h⟩ => congrArg _ h.symm⟩
  case h_2 below =>
    exact ⟨nofun, fun ⟨unsigned, _⟩ => nomatch below.symm.trans unsigned⟩
  case h_3 fault =>
    exact ⟨nofun, fun ⟨unsigned, _⟩ => nomatch fault.symm.trans unsigned⟩

theorem Leg.make_of_neg {baseAsset : Int} {amount : Decimal} {side : LegSide}
    {program : String} {data : List UInt8}
    (below : amount.lt .zero = .ok true) :
    Leg.make baseAsset amount side program data =
      .error (.negativeAmount amount) := by
  unfold Leg.make
  split
  case h_1 unsigned => cases below.symm.trans unsigned
  case h_2 => rfl
  case h_3 fault => cases below.symm.trans fault

/-- A leg carries the payload that its description gives. -/
theorem Leg.payload_of_ofValue {v : Value} {leg : Leg}
    (h : Leg.ofValue v = .ok leg) : Payload.ofValue v = .ok leg.data := by
  simp only [Leg.ofValue, bind_eq_ok] at h
  obtain ⟨_, -, _, -, _, -, _, -, _, -, _, -, _, -, data, written, _, -, made⟩ := h
  obtain ⟨-, rfl⟩ := Leg.make_eq_ok.mp made
  exact written

theorem Estimator.position_of_decode {estimator : Estimator} {leg : Leg}
    {kind : InstrumentKind} {instrument : Instrument}
    (known : estimator.kind leg.program = .ok kind)
    (decoded : Payload.decode kind leg.data = .ok instrument) :
    estimator.position leg =
      .ok ⟨leg.baseAsset, leg.amount, leg.side, instrument⟩ :=
  bind_eq_ok.mpr ⟨kind, known, bind_eq_ok.mpr ⟨instrument, decoded, rfl⟩⟩

section Legs

variable {estimator : Estimator} {v o amount strike : Value} {leg : Leg}
  {a s : Decimal}

/-- The leg of an option that a document describes has the option's figures,
cut to nine decimals. -/
theorem Estimator.position_of_option (h : Leg.ofValue v = .ok leg)
    (data : v.get "data" = .ok none) (option : v.get "option" = .ok (some o))
    (ha : o.getOr "amount_per_contract" (.whole 1) = .ok amount)
    (hs : o.need "strike" = .ok strike) (ra : amount.toDecimal = .ok a)
    (rs : strike.toDecimal = .ok s) (fa : a.IsFigure) (fs : s.IsFigure)
    (known : estimator.kind leg.program = .ok .option) :
    ∃ kind t x y, OptionKind.ofDescription o = .ok kind ∧
      (o.need "expiration" >>= Value.toWhole) = .ok t ∧
      estimator.position leg =
        .ok ⟨leg.baseAsset, leg.amount, leg.side, .option kind x y t⟩ ∧
      x.Reads (cut a.number 9) ∧ y.Reads (cut s.number 9) := by
  have written := Leg.payload_of_ofValue h
  rw [Payload.ofValue_option data option] at written
  simp only [Payload.ofOptionValue, bind_eq_ok] at written
  obtain ⟨kind, named, _, ha', _, hs', e, described, t, read, written⟩ := written
  obtain rfl := Except.ok.inj (ha.symm.trans ha')
  obtain rfl := Except.ok.inj (hs.symm.trans hs')
  have byte : 9 < 256 := by decide
  obtain ⟨x, y, decoded, readsX, readsY⟩ :=
    (Payload.faithful_option ra rs fa fs byte byte).read _ [] written
  rw [List.append_nil] at decoded
  exact ⟨kind, t, x, y, named, bind_eq_ok.mpr ⟨e, described, read⟩,
    position_of_decode known decoded, readsX, readsY⟩

/-- The leg of a future that a document describes has the future's amount, cut
to nine decimals. -/
theorem Estimator.position_of_future (h : Leg.ofValue v = .ok leg)
    (data : v.get "data" = .ok none) (option : v.get "option" = .ok none)
    (future : v.get "future" = .ok (some o))
    (ha : o.getOr "amount_per_contract" (.whole 1) = .ok amount)
    (ra : amount.toDecimal = .ok a) (fa : a.IsFigure) :
    ∃ x, x.Reads (cut a.number 9) ∧
      (estimator.kind leg.program = .ok .termFuture →
        estimator.position leg =
          .ok ⟨leg.baseAsset, leg.amount, leg.side, .termFuture x⟩) ∧
      (estimator.kind leg.program = .ok .perpFuture →
        estimator.position leg =
          .ok ⟨leg.baseAsset, leg.amount, leg.side, .perpFuture x⟩) := by
  have written := Leg.payload_of_ofValue h
  rw [Payload.ofValue_future data option future] at written
  simp only [Payload.ofFutureValue, bind_eq_ok] at written
  obtain ⟨_, ha', _, ra', written⟩ := written
  obtain rfl := Except.ok.inj (ha.symm.trans ha')
  obtain rfl := Except.ok.inj (ra.symm.trans ra')
  obtain ⟨x, term, perp, reads⟩ := (Payload.faithful_future fa).read _ [] written
  rw [List.append_nil] at term perp
  exact ⟨x, reads, fun known => position_of_decode known term,
    fun known => position_of_decode known perp⟩

end Legs

namespace Payload

variable {amount strike : Value} {a s : Decimal}

/-- **Payloads are faithful.**  Let values stand for an amount and a strike
that are figures.

An option is written if and only if its units, cut toward zero, fit unsigned
words and its expiration a signed one; else it is refused.  A payload has 27
bytes, and from it, whatever bytes follow, the same option is read, with its
amounts cut to the decimals that were asked for.  The same holds of a future,
with nine decimals and 8 bytes.

So the leg of an option or a future that a document describes, once its program
is known to stand for this kind, is a position in just the instrument that was
described, with its figures cut to nine decimals. -/
theorem decode_encode (ha : amount.toDecimal = .ok a)
    (hs : strike.toDecimal = .ok s) (fa : a.IsFigure) (fs : s.IsFigure) :
    (∀ (kind : OptionKind) (t : ℤ) (da ds : ℕ), da < 256 → ds < 256 →
      Faithful
        (ofOptionValues kind amount strike (.whole t) (.whole da) (.whole ds))
        (IsWord (units a.number da) ∧ IsWord (units s.number ds) ∧
          IsSignedWord t) (.optionOutOfRange .word) 27
        fun bytes => ∃ x y, decode .option bytes = .ok (.option kind x y t) ∧
          x.Reads (cut a.number da) ∧ y.Reads (cut s.number ds)) ∧
    (Faithful (ofFuture a) (IsWord (units a.number 9)) .futureOutOfRange 8
      fun bytes => ∃ x, decode .termFuture bytes = .ok (.termFuture x) ∧
        decode .perpFuture bytes = .ok (.perpFuture x) ∧ x.Reads (cut a.number 9)) ∧
    ∀ (estimator : Estimator) (v o : Value) (leg : Leg),
      Leg.ofValue v = .ok leg → v.get "data" = .ok none →
      o.getOr "amount_per_contract" (.whole 1) = .ok amount →
      (v.get "option" = .ok (some o) → o.need "strike" = .ok strike →
        estimator.kind leg.program = .ok .option →
        ∃ kind t x y, OptionKind.ofDescription o = .ok kind ∧
          (o.need "expiration" >>= Value.toWhole) = .ok t ∧
          estimator.position leg =
            .ok ⟨leg.baseAsset, leg.amount, leg.side, .option kind x y t⟩ ∧
          x.Reads (cut a.number 9) ∧ y.Reads (cut s.number 9)) ∧
      (v.get "option" = .ok none → v.get "future" = .ok (some o) →
        ∃ x, x.Reads (cut a.number 9) ∧
          (estimator.kind leg.program = .ok .termFuture →
            estimator.position leg =
              .ok ⟨leg.baseAsset, leg.amount, leg.side, .termFuture x⟩) ∧
          (estimator.kind leg.program = .ok .perpFuture →
            estimator.position leg =
              .ok ⟨leg.baseAsset, leg.amount, leg.side, .perpFuture x⟩)) := by
  refine ⟨fun kind t da ds hda hds => faithful_option ha hs fa fs hda hds,
    faithful_future fa, ?_⟩
  intro estimator v o leg made data described
  constructor
  · intro option described' known
    exact Estimator.position_of_option made data option described described' ha
      hs fa fs known
  · intro other future
    exact Estimator.position_of_future made data other future described ha fa

end Payload

/-! ### An option with more digits than its fields -/

namespace Sample

/-- A put with eleven decimals in its amount and a strike just below zero. -/
def contract : Value :=
  .record [("type", .text "put"),
    ("amount_per_contract", .text "1.23456789012"), ("strike", .text "-4e-10"),
    ("expiration", .whole (-1))]

/-- A leg of two such options. -/
def holding : Value :=
  .record [("base_asset", .whole 0), ("amount", .whole 2),
    ("instrument", .text "option"), ("option", contract)]

end Sample

/-- What the fields cannot hold is cut off, and the strike becomes zero.  As a
future the amount comes back with nine decimals, and so it does in the leg.
With 20 decimals the amount does not fit its word. -/
theorem sample_payload :
    (Value.text "1.23456789012").toDecimal =
      .ok (.finite false 123456789012 (-11)) ∧
      (Value.text "-4e-10").toDecimal = .ok (.finite true 4 (-10)) ∧
      Decimal.IsFigure (.finite false 123456789012 (-11)) ∧
      Decimal.IsFigure (.finite true 4 (-10)) ∧
      (∃ bytes x y, Payload.ofOptionValues .put (.text "1.23456789012")
        (.text "-4e-10") (.whole (-1)) (.whole 2)
          (.whole 9) = .ok bytes ∧ bytes.length = 27 ∧
        Payload.decode .option (bytes ++ [1, 2]) = .ok (.option .put x y (-1)) ∧
        x.Reads (123 / 100) ∧ y.Reads 0) ∧
      Payload.ofOptionValues .put (.text "1.23456789012") (.text "-4e-10")
        (.whole (-1)) (.whole 20) (.whole 9) =
          .error (.optionOutOfRange .word) ∧
      (∃ bytes x, Payload.ofFuture (.finite false 123456789012 (-11)) =
        .ok bytes ∧ bytes.length = 8 ∧
        Payload.decode .perpFuture bytes = .ok (.perpFuture x) ∧
        x.Reads (1234567890 / 10 ^ 9)) ∧
      ∃ leg x y, Leg.ofValue Sample.holding = .ok leg ∧
        Sample.estimator.position leg =
          .ok ⟨leg.baseAsset, leg.amount, leg.side, .option .put x y (-1)⟩ ∧
        x.Reads (1234567890 / 10 ^ 9) ∧ y.Reads 0 := by
  have amount : (Value.text "1.23456789012").toDecimal =
      .ok (.finite false 123456789012 (-11)) := by decide +kernel
  have strike : (Value.text "-4e-10").toDecimal =
      .ok (.finite true 4 (-10)) := by decide +kernel
  have figure : Decimal.IsFigure (.finite false 123456789012 (-11)) :=
    ⟨by decide, by decide +kernel⟩
  have figure' : Decimal.IsFigure (.finite true 4 (-10)) :=
    ⟨by decide, by decide +kernel⟩
  obtain ⟨options, futures, legs⟩ :=
    Payload.decode_encode amount strike figure figure'
  have cents : cut (Decimal.finite false 123456789012 (-11)).number 2 =
      123 / 100 := by decide +kernel
  have nine : cut (Decimal.finite false 123456789012 (-11)).number 9 =
      1234567890 / 10 ^ 9 := by decide +kernel
  have zero : cut (Decimal.finite true 4 (-10)).number 9 = 0 := by decide +kernel
  refine ⟨amount, strike, figure, figure', ?_, ?_, ?_, ?_⟩
  · have law := options .put (-1) 2 9 (by decide) (by decide)
    obtain ⟨bytes, written⟩ := law.returns_iff.mpr (by decide +kernel)
    obtain ⟨x, y, decoded, readsX, readsY⟩ := law.read bytes [1, 2] written
    exact ⟨bytes, x, y, written, law.size bytes written, decoded,
      cents ▸ readsX, zero ▸ readsY⟩
  · exact (options .put (-1) 20 9 (by decide) (by decide)).refused
      (by decide +kernel)
  · obtain ⟨bytes, written⟩ := futures.returns_iff.mpr (by decide +kernel)
    obtain ⟨x, -, decoded, reads⟩ := futures.read bytes [] written
    rw [List.append_nil] at decoded
    exact ⟨bytes, x, written, futures.size bytes written, decoded, nine ▸ reads⟩
  · have run : (Leg.ofValue Sample.holding).map Leg.program = .ok "option" := by
      decide +kernel
    obtain ⟨leg, made, program⟩ := map_eq_ok.mp run
    have known : Sample.estimator.kind leg.program = .ok .option := by
      rw [program]; rfl
    obtain ⟨kind, t, x, y, named, instant, position, readsX, readsY⟩ :=
      (legs Sample.estimator Sample.holding Sample.contract leg made rfl rfl).1
        rfl rfl known
    obtain rfl : OptionKind.put = kind := Except.ok.inj named
    obtain rfl : (-1 : ℤ) = t := Except.ok.inj instant
    exact ⟨leg, x, y, made, position, nine ▸ readsX, zero ▸ readsY⟩

end ScenarioMargin
