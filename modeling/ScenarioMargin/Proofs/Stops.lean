/-
ScenarioMargin/Proofs/Stops.lean

What has happened when an evaluation stops.  A loop over a list stops with the
fault of the first item that has one (`FirstFault`, `mapM_eq_error`).

For each phase of an evaluation the causes of a fault are then named without
the functions of that phase: a leg whose instrument is not known
(`Estimator.Unresolved`), a base asset without a price (`Estimator.Unpriced`),
a base asset whose positions have no statistics (`Estimator.Unstressed`).
-/
import ScenarioMargin.Estimator
import ScenarioMargin.Proofs.Decimal.Reading
import ScenarioMargin.Proofs.Fetching
import ScenarioMargin.Proofs.Locality
import ScenarioMargin.Proofs.Units
import ScenarioMargin.Proofs.Writing

namespace ScenarioMargin

variable {ε α β : Type}

/-! ### The first of several faults -/

/-- A fault of an item of a list, no item before which has one. -/
def FirstFault (fails : α → ε → Prop) (as : List α) (e : ε) : Prop :=
  ∃ before a after, as = before ++ a :: after ∧ fails a e ∧ ∀ b ∈ before,
    ∀ e', ¬ fails b e'

section FirstFault

variable {fails fails' : α → ε → Prop} {a : α} {as : List α} {e : ε}

theorem not_firstFault (h : ∀ a ∈ as, ∀ e, ¬ fails a e) :
    ¬ FirstFault fails as e := by
  rintro ⟨before, a, after, rfl, failed, -⟩
  exact h a (by simp) e failed

theorem not_firstFault_nil : ¬ FirstFault fails [] e :=
  not_firstFault (by simp)

theorem firstFault_cons :
    FirstFault fails (a :: as) e ↔
      fails a e ∨ (∀ e', ¬ fails a e') ∧ FirstFault fails as e := by
  constructor
  · rintro ⟨before, b, after, split, failed, none⟩
    rcases List.cons_eq_append_iff.mp split with ⟨rfl, split⟩ | ⟨before, rfl, rfl⟩
    · obtain ⟨rfl, rfl⟩ := List.cons.inj split
      exact .inl failed
    · rw [List.forall_mem_cons] at none
      exact .inr ⟨none.1, before, b, after, rfl, failed, none.2⟩
  · rintro (failed | ⟨none, before, b, after, rfl, failed, others⟩)
    · exact ⟨[], a, as, rfl, failed, by simp⟩
    · exact ⟨a :: before, b, after, rfl, failed,
        List.forall_mem_cons.mpr ⟨none, others⟩⟩

/-- Of several faults one is the first. -/
theorem exists_firstFault (h : ∃ a ∈ as, ∃ e, fails a e) :
    ∃ e, FirstFault fails as e := by
  induction as with
  | nil => simp at h
  | cons a as ih =>
    by_cases head : ∃ e, fails a e
    · obtain ⟨e, failed⟩ := head
      exact ⟨e, firstFault_cons.mpr (.inl failed)⟩
    · rw [not_exists] at head
      obtain ⟨b, hb, e, failed⟩ := h
      rcases List.mem_cons.mp hb with rfl | later
      · exact absurd failed (head e)
      · obtain ⟨e, first⟩ := ih ⟨b, later, e, failed⟩
        exact ⟨e, firstFault_cons.mpr (.inr ⟨head, first⟩)⟩

/-- The first fault is the same where the items have the same faults. -/
theorem firstFault_congr (same : ∀ a ∈ as, ∀ e, fails a e ↔ fails' a e) :
    FirstFault fails as e ↔ FirstFault fails' as e := by
  induction as with
  | nil => exact iff_of_false not_firstFault_nil not_firstFault_nil
  | cons a as ih =>
    rw [List.forall_mem_cons] at same
    rw [firstFault_cons, firstFault_cons, ih same.2]
    simp only [same.1]

/-- A loop that collects results stops with the first fault of its calls. -/
theorem mapM_eq_error {f : α → Except ε β} : as.mapM f = .error e ↔
    FirstFault (fun a e => f a = .error e) as e := by
  induction as with
  | nil => exact iff_of_false pure_ne_error not_firstFault_nil
  | cons a as ih =>
    rw [List.mapM_cons, bind_eq_error, firstFault_cons]
    refine or_congr_right ?_
    simp only [bind_eq_error, pure_ne_error, and_false, exists_false, or_false, ih]
    cases f a <;> simp

end FirstFault

/-! ### Payloads -/

namespace Payload

theorem ofLittleEndian_lt (bytes : List UInt8) :
    ofLittleEndian bytes < 256 ^ bytes.length := by
  induction bytes with
  | nil => decide
  | cons b rest ih =>
    have byte := b.toNat_lt
    rw [ofLittleEndian, List.length_cons, pow_succ]
    omega

/-- The number in a few of some bytes. -/
theorem ofLittleEndian_take_lt (bytes : List UInt8) (width : Nat) :
    ofLittleEndian (bytes.take width) < 256 ^ width :=
  (ofLittleEndian_lt _).trans_le
    (Nat.pow_le_pow_right (by decide) (List.length_take_le _ _))

/-- A word of units has no more digits than the working precision. -/
theorem digits_of_word {raw : Nat} (word : raw < 256 ^ wordSize) :
    |(raw : Int)| < 10 ^ Decimal.precision := by
  have room : 256 ^ wordSize < 10 ^ Decimal.precision := by decide
  rw [Nat.abs_cast]
  exact_mod_cast word.trans room

/-- The amount of a word of units is not rounded, whatever decimals a byte asks
for. -/
theorem fromRaw_word {raw decimals : Nat} (word : raw < 256 ^ wordSize)
    (byte : decimals < 256) :
    ∃ amount, FixedPoint.fromRaw raw decimals = .ok amount ∧
      amount.Reads ((raw : Int) / 10 ^ decimals) :=
  FixedPoint.fromRaw_of_digits (digits_of_word word) (FixedPoint.tiny_of_byte byte)

/-- The bytes that a payload of a kind has at least. -/
def leastSize : InstrumentKind → Nat
  | .spot => 0
  | .option => optionSize
  | .termFuture => futureSize
  | .perpFuture => futureSize

/-- A payload is none of its kind: it has too few bytes, or its option is
neither a call nor a put. -/
inductive Malformed : InstrumentKind → List UInt8 → Fault → Prop
  | short {kind : InstrumentKind} {bytes : List UInt8}
      (short : bytes.length < leastSize kind) :
      Malformed kind bytes (.payloadTooShort kind (leastSize kind) bytes.length)
  | unknown {b : UInt8} {rest : List UInt8}
      (whole : optionSize ≤ (b :: rest).length)
      (unknown : ∀ kind : OptionKind, b.toNat ≠ kind.code) :
      Malformed .option (b :: rest) (.unknownOption (toString (b.toNat : Int)))

theorem futureAmount_eq_error {kind : InstrumentKind}
    {bytes : List UInt8} {e : Fault} :
    futureAmount kind bytes = .error e ↔
      bytes.length < futureSize ∧
      e = .payloadTooShort kind futureSize bytes.length := by
  rw [futureAmount]
  split_ifs with short
  · simp [short, eq_comm]
  · obtain ⟨amount, ok, -⟩ := fromRaw_word
      (ofLittleEndian_take_lt bytes wordSize) (show 9 < 256 by decide)
    have returns :
        (liftM (FixedPoint.fromRaw
          (ofLittleEndian (bytes.take futureSize)) FixedPoint.futureDecimals) :
        Except Fault Decimal) = .ok amount := lift_eq_ok.mpr ok
    exact iff_of_false (fun h => nomatch returns.symm.trans h)
      (fun h => absurd h.1 short)

theorem optionKind_eq_error {b : UInt8} {e : Fault} :
    optionKind (b.toNat : Int) = .error e ↔
      (∀ kind : OptionKind, b.toNat ≠ kind.code) ∧
      e = .unknownOption (toString (b.toNat : Int)) := by
  have codes : (∀ kind : OptionKind, b.toNat ≠ kind.code) ↔
      b.toNat ≠ OptionKind.call.code ∧ b.toNat ≠ OptionKind.put.code := by
    constructor
    · exact fun h => ⟨h .call, h .put⟩
    · rintro ⟨call, put⟩ (_ | _)
      · exact call
      · exact put
  rw [optionKind, codes]
  simp only [Nat.cast_inj]
  split_ifs with call put
  · simp [call]
  · simp [put]
  · simp [call, put, eq_comm]

theorem option_eq_error {bytes : List UInt8} {e : Fault} :
    option bytes = .error e ↔ Malformed .option bytes e := by
  rw [option]
  by_cases short : bytes.length < optionSize
  · rw [if_pos short]
    constructor
    · intro h
      obtain rfl := Except.error.inj h
      exact .short short
    · rintro (_ | ⟨whole, -⟩)
      · rfl
      · exact absurd short (Nat.not_lt.mpr whole)
  · rw [if_neg short]
    obtain ⟨b, rest, rfl⟩ : ∃ b rest, bytes = b :: rest := by
      cases bytes with
      | nil => exact absurd (by decide) short
      | cons b rest => exact ⟨b, rest, rfl⟩
    have code : (OptionFigures.ofBytes (b :: rest)).code = (b.toNat : Int) := by
      simp [OptionFigures.ofBytes, ofLittleEndian]
    obtain ⟨amount, hamount, -⟩ :=
      fromRaw_word (ofLittleEndian_take_lt ((b :: rest).drop 1) wordSize)
        (ofLittleEndian_take_lt ((b :: rest).drop 9) 1)
    obtain ⟨strike, hstrike, -⟩ :=
      fromRaw_word (ofLittleEndian_take_lt ((b :: rest).drop 10) wordSize)
        (ofLittleEndian_take_lt ((b :: rest).drop 18) 1)
    have amounts : FixedPoint.fromRaw (OptionFigures.ofBytes (b :: rest)).amount
        (OptionFigures.ofBytes (b :: rest)).amountDecimals = .ok amount := hamount
    have strikes : FixedPoint.fromRaw (OptionFigures.ofBytes (b :: rest)).strike
        (OptionFigures.ofBytes (b :: rest)).strikeDecimals = .ok strike := hstrike
    -- the kind is the one thing that can be wrong with a whole payload
    simp only [bind_eq_error, lift_eq_error, amounts, strikes, code,
      reduceCtorEq, false_and, exists_false, pure_ne_error, and_false, or_false,
      optionKind_eq_error]
    constructor
    · rintro ⟨unknown, rfl⟩
      exact .unknown (Nat.not_lt.mp short) unknown
    · rintro (h | ⟨-, unknown⟩)
      · exact absurd h short
      · exact ⟨unknown, rfl⟩

/-- A payload is refused when it is malformed. -/
theorem decode_eq_error {kind : InstrumentKind} {bytes : List UInt8} {e : Fault} :
    decode kind bytes = .error e ↔ Malformed kind bytes e := by
  have future {wrap : Decimal → Instrument}
      (sized : leastSize kind = futureSize) (other : kind ≠ .option) :
      wrap <$> futureAmount kind bytes = .error e ↔ Malformed kind bytes e := by
    rw [map_eq_error, futureAmount_eq_error]
    constructor
    · rintro ⟨short, rfl⟩
      rw [← sized] at short ⊢
      exact .short short
    · rintro (short | _)
      · rw [sized] at short ⊢
        exact ⟨short, rfl⟩
      · exact absurd rfl other
  cases kind with
  | spot =>
    refine iff_of_false nofun ?_
    rintro (short | _)
    exact Nat.not_lt_zero _ short
  | option => exact option_eq_error
  | termFuture => exact future rfl nofun
  | perpFuture => exact future rfl nofun

end Payload

/-! ### Look-ups at hand -/

theorem Sources.outcome_eq_error {sources : Sources} {index : Int} {e : Fault} :
    (sources.asset index).outcome = .error e ↔
      sources.Fails index (sources.asset index).yields e := by
  rw [Sources.fails_iff]
  constructor
  · intro h
    rw [← h]
  · intro h
    rw [h]

/-- Look-ups that end at once do so one after another, too. -/
theorem Lookup.now_andThen (first : Except Fault α) (next : α → Except Fault β) :
    (now first).andThen (fun a => now (next a)) = now (first >>= next) := by
  cases first with
  | error e => rfl
  | ok a =>
    show (⟨0 + 0, next a⟩ : Lookup β) = ⟨0, next a⟩
    rfl

/-- Where no look-up gives way, base assets are looked up one after the other
as they are first seen. -/
theorem Fetch.assets_eq_mapM {sources : Sources}
    (atHand : ∀ i, (sources.asset i).yields = 0) (indices : List Int) :
    assets sources indices = (firstSeen indices).mapM fun i => do
  return (i, ← (sources.asset i).outcome) := by
  have order := eraseDups_pairwise indices
  rcases @leading_cases sources _ _ order with ⟨-, none⟩
    | ⟨i, hi, n, e, leads, fails, least⟩
  · -- each base asset is found
    have found : ∀ i ∈ indices, ∃ info, sources.Finds i info := by
      intro i hi
      rcases sources.finds_or_fails i with finds | ⟨n, e, fails⟩
      · exact finds
      · exact absurd fails (none i (List.mem_eraseDups.mpr hi) n e)
    have : Nonempty AssetInfo := ⟨⟨.low, .zero⟩⟩
    choose! info finds using found
    rw [assets_of_finds finds, eq_comm, mapM_eq_ok, List.forall₂_map_right_iff,
      List.forall₂_same]
    intro i hi
    rw [Sources.finds_iff.mp (finds i (List.mem_eraseDups.mp hi))]
    rfl
  · -- none gives way, so the one that fails first stands before all others
    -- that fail
    have first :
        FirstFault (fun i e => sources.Fails i 0 e) (firstSeen indices) e := by
      obtain rfl : n = 0 := fails.yields_eq (Sources.outcome_eq_error.mp
        (by rw [Sources.fails_iff.mp fails])) |>.trans
        (atHand i)
      obtain ⟨before, after, split⟩ := List.append_of_mem hi
      refine ⟨before, i, after, split, fails, ?_⟩
      rw [split] at order least
      intro j hj e' failed
      have ahead := (List.pairwise_append.mp order).2.2 j hj i List.mem_cons_self
      rcases least j (List.mem_append_left _ hj) 0 e' failed with less
        | ⟨-, rfl | behind⟩
      · exact lt_irrefl 0 less
      · exact lt_irrefl _ ahead
      · exact lt_asymm ahead behind
    rw [assets, history_failure, firstSeen, leads, eq_comm]
    refine mapM_eq_error.mpr ?_
    simpa only [bind_eq_error, pure_ne_error, and_false, exists_false, or_false,
      Sources.outcome_eq_error, atHand]

namespace Estimator

variable {estimator : Estimator}

/-! ### Legs -/

/-- The instrument of a leg is not known: its program is not in the registry,
or its payload is none of its kind. -/
inductive Unresolved (estimator : Estimator) (leg : Leg) : Fault → Prop
  | unregistered (absent : Keyed.get? leg.program estimator.registry = none) :
      Unresolved estimator leg (.unregistered leg.program)
  | malformed {kind : InstrumentKind} {e : Fault}
      (found : Keyed.get? leg.program estimator.registry = some kind)
      (malformed : Payload.Malformed kind leg.data e) :
        Unresolved estimator leg e

theorem position_eq_error {leg : Leg} {e : Fault} :
    estimator.position leg = .error e ↔ estimator.Unresolved leg e := by
  rw [position, kind]
  cases found : Keyed.get? leg.program estimator.registry with
  | none =>
    constructor
    · intro h
      obtain rfl := Except.error.inj h
      exact .unregistered found
    · rintro (_ | ⟨known, -⟩)
      · rfl
      · cases found.symm.trans known
  | some kind =>
    have decoded :
        (Except.ok kind >>= fun kind => Payload.decode kind leg.data >>=
          fun instrument =>
        pure (⟨leg.baseAsset, leg.amount, leg.side, instrument⟩ : Position)) =
        .error e ↔
        Payload.decode kind leg.data = .error e := by
      simp [bind_eq_error, map_eq_error]
    rw [decoded, Payload.decode_eq_error]
    constructor
    · exact .malformed found
    · rintro (absent | ⟨known, malformed⟩)
      · cases found.symm.trans absent
      · obtain rfl := Option.some.inj (found.symm.trans known)
        exact malformed

theorem positions_eq_error {legs : List Leg} {e : Fault} :
    estimator.positions legs = .error e ↔
      FirstFault estimator.Unresolved legs e := by
  rw [positions, mapM_eq_error]
  exact firstFault_congr fun _ _ _ => position_eq_error

theorem baseAsset_of_position {leg : Leg} {p : Position}
    (h : estimator.position leg = .ok p) : p.baseAsset = leg.baseAsset := by
  obtain ⟨_, -, h⟩ := bind_eq_ok.mp h
  obtain ⟨_, -, h⟩ := bind_eq_ok.mp h
  rw [← pure_eq_ok.mp h]

/-- Positions stand under the base assets of their legs. -/
theorem baseAssets_of_positions {legs : List Leg} {positions : List Position}
    (h : estimator.positions legs = .ok positions) :
    positions.map Position.baseAsset = legs.map Leg.baseAsset :=
  (map_eq_of_forall₂ (mapM_eq_ok.mp h) fun _ _ position =>
    (baseAsset_of_position position).symm).symm

/-! ### Base assets -/

/-- A base asset has no price to be valued at: no risk profile, nothing at the
address in its profile, or there nothing that is a price.  An asset without a
profile is named in the fault if its index can be written. -/
inductive Unpriced (estimator : Estimator) (index : Int) : Fault → Prop
  | noProfile (absent : Keyed.get? index estimator.profiles = none)
      (short : ¬ IsLong index) :
      Unpriced estimator index (.noProfile (toString index))
  | unnamed (absent : Keyed.get? index estimator.profiles = none)
      (long : IsLong index) : Unpriced estimator index .illFormed
  | noPrice {p : Profile} (profile : Keyed.get? index estimator.profiles = some p)
      (absent : Keyed.get? p.oracle estimator.prices = none) :
        Unpriced estimator index (.priceMissing p.oracle)
  | unreadable {p : Profile} {v : Value} {e : Fault}
      (profile : Keyed.get? index estimator.profiles = some p)
      (held : Keyed.get? p.oracle estimator.prices = some v)
      (unreadable : OracleValue.price p.oracle (.value v) = .error e) :
        Unpriced estimator index e

/-- The category and the price of a base asset, as far as they are at hand. -/
def info (estimator : Estimator) (index : Int) : Except Fault AssetInfo := do
  let profile ← estimator.profile index
  let price ← estimator.price profile.oracle
  return ⟨profile.category, price⟩

theorem profile_of_some {index : Int} {p : Profile}
    (found : Keyed.get? index estimator.profiles = some p) :
    estimator.profile index = .ok p := by
  rw [profile, found]
  rfl

theorem profile_of_none {index : Int}
    (absent : Keyed.get? index estimator.profiles = none) :
    estimator.profile index =
      writeWhole index >>= fun text => .error (.noProfile text) := by
  rw [profile, absent]
  rfl

theorem profile_of_not_isLong {index : Int}
    (absent : Keyed.get? index estimator.profiles = none)
    (short : ¬ IsLong index) :
    estimator.profile index = .error (.noProfile (toString index)) := by
  rw [profile_of_none absent, writeWhole_of_not_isLong short]
  rfl

theorem profile_of_isLong {index : Int}
    (absent : Keyed.get? index estimator.profiles = none)
    (long : IsLong index) : estimator.profile index = .error .illFormed := by
  rw [profile_of_none absent, writeWhole_of_isLong long]
  rfl

theorem profile_eq_ok {index : Int} {p : Profile} :
    estimator.profile index = .ok p ↔
      Keyed.get? index estimator.profiles = some p := by
  refine ⟨fun h => ?_, profile_of_some⟩
  cases held : Keyed.get? index estimator.profiles with
  | some p' => rw [Except.ok.inj ((profile_of_some held).symm.trans h)]
  | none =>
    rw [profile_of_none held] at h
    obtain ⟨_, -, h⟩ := bind_eq_ok.mp h
    cases h

theorem info_eq_error {index : Int} {e : Fault} :
    estimator.info index = .error e ↔ estimator.Unpriced index e := by
  simp only [info, bind_eq_error, pure_ne_error, and_false, exists_false, or_false]
  constructor
  · rintro (failed | ⟨p, found, failed⟩)
    · cases held : Keyed.get? index estimator.profiles with
      | some p => cases (profile_of_some held).symm.trans failed
      | none =>
        by_cases long : IsLong index
        · obtain rfl :=
            Except.error.inj ((profile_of_isLong held long).symm.trans failed)
          exact .unnamed held long
        · obtain rfl :=
            Except.error.inj ((profile_of_not_isLong held long).symm.trans failed)
          exact .noProfile held long
    · have held := profile_eq_ok.mp found
      rw [price] at failed
      split at failed
      · exact .unreadable held (by assumption) failed
      · obtain rfl := Except.error.inj failed
        exact .noPrice held (by assumption)
  · rintro (⟨absent, short⟩ | ⟨absent, long⟩ | ⟨found, absent⟩
      | ⟨found, held, unreadable⟩)
    · exact .inl (profile_of_not_isLong absent short)
    · exact .inl (profile_of_isLong absent long)
    · exact .inr ⟨_, profile_of_some found, by rw [price, absent]⟩
    · exact .inr ⟨_, profile_of_some found, by rw [price, held]; exact unreadable⟩

/-- The base assets of positions are looked up as they are first seen. -/
theorem assets_eq (estimator : Estimator) (positions : List Position) :
    estimator.assets positions =
      (Fetch.firstSeen (positions.map Position.baseAsset)).mapM fun i => do
      return (i, ← estimator.info i) := by
  have atHand : ∀ i, (estimator.sources.asset i) = .now (estimator.info i) := by
    intro i
    simp only [sources, Sources.asset, Lookup.now_andThen]
    rfl
  rw [assets, Fetch.assets_eq_mapM fun i => by rw [atHand]; rfl]
  simp only [atHand]
  rfl

theorem assets_eq_error {positions : List Position} {e : Fault} :
    estimator.assets positions = .error e ↔
      FirstFault estimator.Unpriced
        (Fetch.firstSeen (positions.map Position.baseAsset)) e := by
  rw [assets_eq, mapM_eq_error]
  refine firstFault_congr fun i _ e => ?_
  simp only [bind_eq_error, pure_ne_error, and_false, exists_false, or_false,
    info_eq_error]

/-- What was looked up stands under its base asset. -/
theorem info_of_assets {positions : List Position} {infos : Keyed Int AssetInfo}
    (h : estimator.assets positions = .ok infos) {i : Int}
    (hi : i ∈ Fetch.firstSeen (positions.map Position.baseAsset)) :
    ∃ info, estimator.info i = .ok info ∧ Keyed.get? i infos = some info := by
  rw [assets_eq, mapM_eq_ok] at h
  have each : List.Forall₂ (fun i a => i = a.1 ∧ estimator.info i = .ok a.2)
      (Fetch.firstSeen (positions.map Position.baseAsset)) infos := by
    refine h.imp fun i a found => ?_
    obtain ⟨info, found, entry⟩ := bind_eq_ok.mp found
    rw [← pure_eq_ok.mp entry]
    exact ⟨rfl, found⟩
  have keys : Fetch.firstSeen (positions.map Position.baseAsset) =
      Keyed.keys infos := by
    rw [Keyed.keys, ← List.forall₂_eq_eq_eq, List.forall₂_map_right_iff]
    exact each.imp fun _ _ found => found.1
  have once : (Keyed.keys infos).Nodup := keys ▸ eraseDups_nodup _
  obtain ⟨⟨_, info⟩, mem, rfl, found⟩ := exists_of_forall₂ each.flip hi
  exact ⟨info, found, Keyed.get?_of_mem once mem⟩

/-! ### Statistics -/

variable {live : LiveModel} {positions : List Position} {period : Value} {now : Int}

/-- The positions in a base asset have no statistics: the table of risk
categories lacks its category, or something is wrong with their values or
scenarios. -/
inductive Unstressed (live : LiveModel) (estimator : Estimator)
    (positions : List Position) (period : Value) (now : Int)
    (index : Int) : Fault → Prop
  | category {info : AssetInfo} (found : estimator.info index = .ok info)
      (absent : Keyed.get? info.category estimator.categories = none) :
      Unstressed live estimator positions period now index
        (.categoryMissing info.category)
  | stress {info : AssetInfo} {category : CategoryInfo} {e : Fault}
      (found : estimator.info index = .ok info)
      (graded : Keyed.get? info.category estimator.categories = some category)
      (failed : assetStatistics live (positions.filter fun p =>
        p.baseAsset = index) info category period now =
        .error e) : Unstressed live estimator positions period now index e

theorem groupStatistics_eq_error {infos : Keyed Int AssetInfo} {i : Int}
    {info : AssetInfo} (found : estimator.info i = .ok info)
    (held : Keyed.get? i infos = some info) {e : Fault} :
    groupStatistics live infos estimator.categories period now
      (i, positions.filter fun p => p.baseAsset = i) = .error e ↔
        Unstressed live estimator positions period now i e := by
  simp only [groupStatistics, held]
  cases graded : Keyed.get? info.category estimator.categories with
  | none =>
    constructor
    · intro h
      obtain rfl := Except.error.inj h
      exact .category found graded
    · rintro (⟨found', -⟩ | ⟨found', graded', -⟩)
      · obtain rfl := Except.ok.inj (found.symm.trans found')
        rfl
      · obtain rfl := Except.ok.inj (found.symm.trans found')
        cases graded.symm.trans graded'
  | some category =>
    simp only [bind_eq_error, pure_ne_error, and_false, exists_false, or_false]
    constructor
    · exact .stress found graded
    · rintro (⟨found', absent⟩ | ⟨found', graded', failed⟩)
      · obtain rfl := Except.ok.inj (found.symm.trans found')
        cases graded.symm.trans absent
      · obtain rfl := Except.ok.inj (found.symm.trans found')
        obtain rfl := Option.some.inj (graded.symm.trans graded')
        exact failed

/-- The statistics of groups stop with the first base asset that has none. -/
theorem groups_eq_error {infos : Keyed Int AssetInfo}
    (h : estimator.assets positions = .ok infos) {e : Fault} :
    (positionsByAsset positions).mapM
      (groupStatistics live infos estimator.categories period now) = .error e ↔
      FirstFault (Unstressed live estimator positions period now)
        (Fetch.firstSeen (positions.map Position.baseAsset)) e := by
  rw [positionsByAsset_eq, List.mapM_map, mapM_eq_error]
  refine firstFault_congr fun i hi e => ?_
  obtain ⟨info, found, held⟩ := info_of_assets h hi
  exact groupStatistics_eq_error found held

end Estimator

end ScenarioMargin
