/-
ScenarioMargin/Proofs/Lossless.lean

Amounts that are made of raw units without loss.  A whole number of less than
29 digits is an amount at any number of decimals up to a million: the working
precision holds its digits, and the smallest exponent lies below its last one,
so that moving the point has nothing to round.  The amount is then exactly so
many units, gives them back, and compares with others as the units do
(`Lossless`).

The amounts of the engine are made in this way: the least collateral, the legs
that are given in raw units, and the figures in the payload of an instrument,
whose words are far below the bound.

Main result: `FixedPoint.fromRaw_lossless`.
-/
import ScenarioMargin.Proofs.Grammar

namespace ScenarioMargin

open Decimal

namespace FixedPoint

/-! ### Units that are kept -/

/-- Amounts made of some inputs, each of which holds `raw` units, without
loss.  Every input has an amount; an amount is just its units and has them as
raw units again; and one amount is below another when it has less units. -/
structure Lossless {ι : Type} (decimals : ℕ) (inputs : Set ι) (raw : ι → ℤ)
    (amount : ι → Decimal → Prop) : Prop where
  returns : ∀ i ∈ inputs, ∃ a, amount i a
  exact : ∀ i ∈ inputs, ∀ a, amount i a → a.Reads (raw i / 10 ^ decimals) ∧
    toRaw a decimals = .ok (raw i)
  ordered : ∀ i ∈ inputs, ∀ j ∈ inputs, ∀ a b, amount i a → amount j b →
    a.lt b = .ok (decide (raw i < raw j))

/-- Amounts compare as their units do. -/
theorem lt_of_units {n m : ℤ} {a b : Decimal} {decimals : ℕ}
    (ha : a.Reads (n / 10 ^ decimals)) (hb : b.Reads (m / 10 ^ decimals)) :
    a.lt b = .ok (decide (n < m)) := by
  have order : (n : ℚ) / 10 ^ decimals < m / 10 ^ decimals ↔ n < m := by
    rw [div_lt_div_iff_of_pos_right (by positivity), Int.cast_lt]
  rw [ha.lt hb]
  simp only [order]

/-- Whatever makes its amounts of raw units that fit the working precision
makes them without loss. -/
theorem Lossless.of_fromRaw {ι : Type} {decimals : ℕ} {inputs : Set ι}
    {raw : ι → ℤ} {amount : ι → Decimal → Prop} (range : decimals ≤ 1000000)
    (digits : ∀ i ∈ inputs, |raw i| < 10 ^ precision)
    (made : ∀ i ∈ inputs, ∀ a, amount i a ↔ fromRaw (raw i) decimals = .ok a) :
    Lossless decimals inputs raw amount := by
  have tiny := tiny_of_million range
  have units : ∀ i ∈ inputs, ∀ a, amount i a → a.Reads (raw i / 10 ^ decimals) := by
    intro i hi a h
    obtain ⟨b, read, reads⟩ := fromRaw_of_digits (digits i hi) tiny
    obtain rfl := Except.ok.inj (read.symm.trans ((made i hi a).mp h))
    exact reads
  refine ⟨?_, ?_, ?_⟩
  · intro i hi
    obtain ⟨a, read, -⟩ := fromRaw_of_digits (digits i hi) tiny
    exact ⟨a, (made i hi a).mpr read⟩
  · intro i hi a h
    exact ⟨units i hi a h, toRaw_fromRaw (digits i hi) tiny ((made i hi a).mp h)⟩
  · intro i hi j hj a b ha hb
    exact lt_of_units (units i hi a ha) (units j hj b hb)

/-! ### Legs -/

section Legs

variable {baseAsset n : ℤ} {d : ℕ} {side : LegSide} {program : String}
  {data : List UInt8}

theorem lt_zero_of_units {a : Decimal} (reads : a.Reads (n / 10 ^ d)) :
    a.lt .zero = .ok (decide (n < 0)) := by
  have none : zero.Reads ((0 : ℤ) / 10 ^ d) := by
    rw [Int.cast_zero, zero_div]
    exact reads_zero
  exact lt_of_units reads none

/-- Legs that are given in raw units have these units as their amounts. -/
theorem lossless_legs (range : d ≤ 1000000) (baseAsset : ℤ) (side : LegSide)
    (program : String) (data : List UInt8) :
    Lossless d {n : ℤ | 0 ≤ n ∧ n < 10 ^ 28} id
      fun n a => ∃ leg, Leg.ofRaw baseAsset n d side program data = .ok leg ∧
        leg.amount = a := by
  have digits : ∀ n ∈ {n : ℤ | 0 ≤ n ∧ n < 10 ^ 28}, |n| < 10 ^ precision := by
    rintro n ⟨nonneg, small⟩
    rwa [abs_of_nonneg nonneg]
  refine .of_fromRaw range digits fun n hn a => ?_
  simp only [Leg.ofRaw, bind_eq_ok, lift_eq_ok, Leg.make_eq_ok]
  constructor
  · rintro ⟨_, ⟨x, read, -, rfl⟩, rfl⟩
    exact read
  · intro read
    obtain ⟨_, read', reads⟩ :=
      fromRaw_of_digits (digits n hn) (tiny_of_million range)
    obtain rfl := Except.ok.inj (read.symm.trans read')
    have unsigned : a.lt .zero = .ok false := by
      rw [lt_zero_of_units reads, decide_eq_false (not_lt.mpr hn.1)]
    exact ⟨_, ⟨a, read, unsigned, rfl⟩, rfl⟩

/-- There are no legs of less than no units. -/
theorem ofRaw_of_neg (range : d ≤ 1000000) (small : |n| < 10 ^ 28) (below : n < 0) :
    ∃ a, Leg.ofRaw baseAsset n d side program data =
      .error (.negativeAmount a) ∧ a.Reads (n / 10 ^ d) := by
  obtain ⟨a, read, reads⟩ := fromRaw_of_digits small (tiny_of_million range)
  have signed : a.lt .zero = .ok true := by
    rw [lt_zero_of_units reads, decide_eq_true below]
  have raised : (liftM (fromRaw n d) : Except Fault Decimal) = pure a :=
    lift_eq_ok.mpr read
  refine ⟨a, ?_, reads⟩
  rw [Leg.ofRaw, raised, pure_bind, Leg.make_of_neg signed]

end Legs

/-! ### Payloads -/

section Payloads

variable {bytes : List UInt8} {a : Decimal}

/-- The units in a word of a payload fit the working precision. -/
theorem digits_of_field (bytes : List UInt8) :
    |(Payload.ofLittleEndian (bytes.take 8) : ℤ)| < 10 ^ precision :=
  Payload.digits_of_word (Payload.ofLittleEndian_take_lt bytes 8)

theorem futureAmount_eq_ok (kind : InstrumentKind) (whole : 8 ≤ bytes.length) :
    Payload.futureAmount kind bytes = .ok a ↔
      fromRaw (Payload.ofLittleEndian (bytes.take 8)) (9 : ℕ) = .ok a := by
  rw [Payload.futureAmount_of_whole whole]
  exact lift_eq_ok

/-- Futures that are read from payloads have the units of their word as their
amounts, at nine decimals. -/
theorem lossless_futures {kind : InstrumentKind} {future : Decimal → Instrument}
    (injective : Function.Injective future)
    (decoded : ∀ bytes,
      Payload.decode kind bytes = future <$> Payload.futureAmount kind bytes) :
    Lossless 9 {bytes | 8 ≤ bytes.length}
      (fun bytes => Payload.ofLittleEndian (bytes.take 8)) fun bytes a =>
        Payload.decode kind bytes = .ok (future a) := by
  refine .of_fromRaw (by decide) (fun bytes _ => digits_of_field bytes)
    fun bytes whole a => ?_
  rw [decoded, ← futureAmount_eq_ok kind whole]
  constructor
  · intro h
    obtain ⟨x, read, same⟩ := map_eq_ok.mp h
    rwa [← injective same]
  · intro read
    exact map_eq_ok.mpr ⟨a, read, rfl⟩

/-- A well-formed payload of an option is read, with its amount and its strike
from the words of units. -/
theorem option_read (wellFormed : Payload.WellFormed .option bytes) :
    ∃ kind x y t, Payload.decode .option bytes = .ok (.option kind x y t) ∧
      fromRaw (Payload.ofLittleEndian ((bytes.drop 1).take 8))
        (Payload.decimals bytes).1.toNat = .ok x ∧
      fromRaw (Payload.ofLittleEndian ((bytes.drop 10).take 8))
        (Payload.decimals bytes).2.toNat = .ok y := by
  obtain ⟨instrument, read⟩ := Payload.decode_returns_iff.mpr wellFormed
  have steps := read
  rw [Payload.decode, Payload.option_of_whole wellFormed.1,
    Payload.OptionFigures.toInstrument] at steps
  simp only [bind_eq_ok, lift_eq_ok, pure_eq_ok,
    Payload.OptionFigures.ofBytes_amountDecimals,
    Payload.OptionFigures.ofBytes_strikeDecimals] at steps
  obtain ⟨kind, -, x, hx, y, hy, rfl⟩ := steps
  exact ⟨kind, x, y, _, read, hx, hy⟩

/-- Options that are read from payloads have the units of a word as one of
their figures, at the decimals that stand behind this word. -/
theorem lossless_options {d : ℕ} (range : d ≤ 1000000)
    (figure : Decimal → Decimal → Decimal) (start : ℕ)
    (places : List UInt8 → UInt8) (field : ∀ bytes x y,
      fromRaw (Payload.ofLittleEndian ((bytes.drop 1).take 8))
        (Payload.decimals bytes).1.toNat = .ok x →
      fromRaw (Payload.ofLittleEndian ((bytes.drop 10).take 8))
        (Payload.decimals bytes).2.toNat = .ok y →
      fromRaw (Payload.ofLittleEndian ((bytes.drop start).take 8))
        (places bytes).toNat = .ok (figure x y)) :
    Lossless d {bytes | Payload.WellFormed .option bytes ∧ (places bytes).toNat = d}
      (fun bytes => Payload.ofLittleEndian ((bytes.drop start).take 8))
      fun bytes a => ∃ kind x y t, Payload.decode .option bytes =
        .ok (.option kind x y t) ∧ figure x y = a := by
  refine .of_fromRaw range (fun bytes _ => digits_of_field (bytes.drop start)) ?_
  rintro bytes ⟨wellFormed, rfl⟩ a
  obtain ⟨kind, x, y, t, read, hx, hy⟩ := option_read wellFormed
  have units := field bytes x y hx hy
  constructor
  · rintro ⟨_, _, _, _, read', rfl⟩
    obtain ⟨-, rfl, rfl, -⟩ :=
      Instrument.option.inj (Except.ok.inj (read.symm.trans read'))
    exact units
  · intro ha
    exact ⟨kind, x, y, t, read, Except.ok.inj (units.symm.trans ha)⟩

end Payloads

/-- **Raw units become amounts without loss.**  Let `d` be a number of decimals
up to a million.  Every whole number of less than 29 digits, of either sign,
becomes an amount; the amount is exactly so many units of `10 ^ -d` and has the
number as its raw units; and the amounts compare as the numbers do.

It is the same with all that is made of raw units: the least collateral; legs
that are given in raw units, which are refused below zero; and the amounts and
strikes of futures and options in payloads, compared with others of as many
decimals. -/
theorem fromRaw_lossless {d : ℕ} (range : d ≤ 1000000) :
    Lossless d {n : ℤ | |n| < 10 ^ 28} id (fun n a => fromRaw n d = .ok a) ∧
    Lossless d {c : CollateralConfig | c.mintDecimals = d ∧
      |c.minimum| < 10 ^ 28} CollateralConfig.minimum
      (fun c a => c.minCollateral = .ok a) ∧
    (∀ (baseAsset : ℤ) (side : LegSide) (program : String) (data : List UInt8),
      Lossless d {n : ℤ | 0 ≤ n ∧ n < 10 ^ 28} id
        (fun n a => ∃ leg, Leg.ofRaw baseAsset n d side program data = .ok leg ∧
          leg.amount = a) ∧
      ∀ n : ℤ, |n| < 10 ^ 28 → n < 0 →
        ∃ a, Leg.ofRaw baseAsset n d side program data =
          .error (.negativeAmount a) ∧ a.Reads (n / 10 ^ d)) ∧
    Lossless 9 {bytes | 8 ≤ bytes.length}
      (fun bytes => Payload.ofLittleEndian (bytes.take 8))
      (fun bytes a => Payload.decode .termFuture bytes = .ok (.termFuture a)) ∧
    Lossless 9 {bytes | 8 ≤ bytes.length}
      (fun bytes => Payload.ofLittleEndian (bytes.take 8))
      (fun bytes a => Payload.decode .perpFuture bytes = .ok (.perpFuture a)) ∧
    Lossless d {bytes | Payload.WellFormed .option bytes ∧
      (Payload.decimals bytes).1.toNat = d}
      (fun bytes => Payload.ofLittleEndian ((bytes.drop 1).take 8))
      (fun bytes a => ∃ kind x y t,
        Payload.decode .option bytes = .ok (.option kind x y t) ∧ x = a) ∧
    Lossless d {bytes | Payload.WellFormed .option bytes ∧
      (Payload.decimals bytes).2.toNat = d}
      (fun bytes => Payload.ofLittleEndian ((bytes.drop 10).take 8))
      (fun bytes a => ∃ kind x y t,
        Payload.decode .option bytes = .ok (.option kind x y t) ∧ y = a) := by
  refine ⟨?_, ?_, ?_, ?_, ?_, ?_, ?_⟩
  · exact .of_fromRaw range (fun _ digits => digits) fun _ _ _ => Iff.rfl
  · refine .of_fromRaw range (fun _ h => h.2) fun c h a => ?_
    rw [CollateralConfig.minCollateral, h.1]
  · intro baseAsset side program data
    exact ⟨lossless_legs range baseAsset side program data,
      fun n small below => ofRaw_of_neg range small below⟩
  · exact lossless_futures (fun _ _ => Instrument.termFuture.inj) fun _ => rfl
  · exact lossless_futures (fun _ _ => Instrument.perpFuture.inj) fun _ => rfl
  · exact lossless_options range (fun x _ => x) 1
      (fun bytes => (Payload.decimals bytes).1) fun _ _ _ hx _ => hx
  · exact lossless_options range (fun _ y => y) 10
      (fun bytes => (Payload.decimals bytes).2) fun _ _ _ _ hy => hy

end FixedPoint

/-- The largest amount of a million decimals, of 28 digits that all lie far
below the smallest number of full precision, keeps its last digit.  So does a
leg of nine decimals. -/
theorem sample_lossless :
    (∃ a b, FixedPoint.fromRaw 9999999999999999999999999999 1000000 = .ok a ∧
      FixedPoint.fromRaw 9999999999999999999999999998 1000000 = .ok b ∧
      b.lt a = .ok true ∧
      FixedPoint.toRaw a 1000000 = .ok 9999999999999999999999999999) ∧
    ∃ leg, Leg.ofRaw 0 18446744073709551615 9 .long "spot" [] = .ok leg ∧
      leg.amount.Reads (18446744073709551615 / 10 ^ 9) := by
  constructor
  · obtain ⟨law, -⟩ :=
      FixedPoint.fromRaw_lossless (show 1000000 ≤ 1000000 by decide)
    have most : (9999999999999999999999999999 : ℤ) ∈
        {n : ℤ | |n| < 10 ^ 28} := by decide
    have next : (9999999999999999999999999998 : ℤ) ∈
        {n : ℤ | |n| < 10 ^ 28} := by decide
    obtain ⟨a, ha⟩ := law.returns _ most
    obtain ⟨b, hb⟩ := law.returns _ next
    exact ⟨a, b, ha, hb, law.ordered _ next _ most b a hb ha,
      (law.exact _ most a ha).2⟩
  · obtain ⟨-, -, legs, -⟩ :=
      FixedPoint.fromRaw_lossless (show 9 ≤ 1000000 by decide)
    obtain ⟨law, -⟩ := legs 0 .long "spot" []
    have word : (18446744073709551615 : ℤ) ∈ {n : ℤ | 0 ≤ n ∧ n < 10 ^ 28} := by
      decide
    obtain ⟨_, leg, made, rfl⟩ := law.returns _ word
    have reads := (law.exact _ word _ ⟨leg, made, rfl⟩).1
    exact ⟨leg, made, reads⟩

end ScenarioMargin
