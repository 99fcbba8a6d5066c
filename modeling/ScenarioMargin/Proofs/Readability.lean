/-
ScenarioMargin/Proofs/Readability.lean

What the reading of a price can end with.  A price that is no number of any
kind is unreadable at its address, and so is one that is an infinity or a NaN;
what is returned is finite.  Two kinds of fault are not turned into an
unreadable price.  A whole number is asked of an infinite mantissa or scale, or
a part of a number lies beyond two to the power 63: the number is too large for
what it is to become.  And a mantissa at its scale may lie beyond the largest
number of the working precision: the arithmetic signals an overflow.

`OracleValue.Escapes` names the values with such a fault, part by part in the
order in which they are read, and `OracleValue.uncaught_number` says that there
are no others.

Main result: `OracleValue.price_or_escape`.
-/
import ScenarioMargin.Oracle
import ScenarioMargin.Proofs.Stops

namespace ScenarioMargin

open Decimal

/-! ### Faults that are not caught -/

/-- The computation stops with a fault that does not make a price unreadable. -/
def Uncaught {α : Type} (x : Except Fault α) (e : Fault) : Prop :=
  x = .error e ∧ OracleValue.isUnreadable e = false

section Uncaught

variable {α β : Type} {x : Except Fault α} {e e' : Fault}

theorem not_uncaught_ok {a : α} : ¬ Uncaught (.ok a) e := nofun

theorem uncaught_error : Uncaught (.error e' : Except Fault α) e ↔
    e' = e ∧ OracleValue.isUnreadable e = false := by
  rw [Uncaught, Except.error.injEq]

theorem not_uncaught_error (caught : OracleValue.isUnreadable e' = true) :
    ¬ Uncaught (.error e' : Except Fault α) e := by
  rintro ⟨⟨⟩, uncaught⟩
  rw [caught] at uncaught
  cases uncaught

theorem uncaught_bind {f : α → Except Fault β} :
    Uncaught (x >>= f) e ↔ Uncaught x e ∨ ∃ a, x = .ok a ∧ Uncaught (f a) e := by
  simp only [Uncaught, bind_eq_error, or_and_right, exists_and_right, ← and_assoc]

theorem uncaught_map {f : α → β} : Uncaught (f <$> x) e ↔ Uncaught x e := by
  rw [Uncaught, Uncaught, map_eq_error]

end Uncaught

/-! ### Whole numbers -/

namespace Value

variable {v : Value} {e : Fault}

/-- A binary number that is an infinity. -/
def IsInfinite : Value → Prop
  | real x => Binary.magnitudeBits x = Binary.infinityBits
  | _ => False

/-- Of all values only an infinity is too large for a whole number. -/
theorem uncaught_toWhole : Uncaught v.toWhole e ↔ v.IsInfinite ∧ e = .tooLarge := by
  cases v with
  | bool b | whole n => exact iff_of_false not_uncaught_ok nofun
  | null | list vs | record fs => exact iff_of_false (not_uncaught_error rfl) nofun
  | text s =>
    refine iff_of_false ?_ nofun
    rw [toWhole]
    split
    · exact not_uncaught_ok
    · exact not_uncaught_error rfl
  | real x =>
    rw [toWhole, IsInfinite]
    by_cases infinite : Binary.magnitudeBits x = Binary.infinityBits
    · have none : Binary.whole? x = none := by
        rw [Binary.whole?, if_pos infinite.ge]
      simp only [none, infinite, if_true, true_and]
      rw [uncaught_error, eq_comm]
      exact and_iff_left_of_imp fun h => h ▸ rfl
    · refine iff_of_false ?_ fun h => infinite h.1
      rw [if_neg infinite]
      split
      · exact not_uncaught_ok
      · exact not_uncaught_error rfl

theorem need_record {fs : Keyed String Value} {key : String} {w : Value} :
    (record fs).need key = .ok w ↔ Keyed.get? key fs = some w := by
  rw [need]
  cases Keyed.get? key fs with
  | none => exact ⟨nofun, nofun⟩
  | some u => simp only [Except.ok.injEq, Option.some.injEq]

theorem not_uncaught_need {key : String} : ¬ Uncaught (v.need key) e := by
  unfold need
  split
  · split
    · exact not_uncaught_ok
    · exact not_uncaught_error rfl
  · exact not_uncaught_error rfl

end Value

/-- The magnitude of a mantissa at its scale lies beyond the working
precision. -/
def FixedPoint.Overflows (mantissa scale : ℤ) : Prop :=
  scale.natAbs ≤ maxStep ∧
    10 ^ (maxExponent + 1) ≤ |rounded (mantissa * 10 ^ (-scale))|

theorem FixedPoint.uncaught_fromRaw {mantissa scale : ℤ} {e : Fault} :
    Uncaught (liftM (fromRaw mantissa scale) : Except Fault Decimal) e ↔
      Overflows mantissa scale ∧ e = .signal .overflow := by
  rw [Uncaught, lift_eq_error, fromRaw, Overflows]
  by_cases far : maxStep < (-scale).natAbs
  · -- the arithmetic refuses the step itself, and that is caught
    have refused : (ofInt mantissa).scale (-scale) = .error .invalidOperation := by
      rw [ofInt, Decimal.scale, if_pos far]
    rw [refused]
    refine iff_of_false ?_ fun h => ?_
    · rintro ⟨⟨_, ⟨⟩, rfl⟩, ⟨⟩⟩
    · rw [Int.natAbs_neg] at far
      exact absurd h.1.1 far.not_ge
  · have moved : ((ofInt mantissa).scale (-scale)).map quantity =
        Quantity.ofRational (mantissa * 10 ^ (-scale)) :=
      ofInt_scale_quantity far
    rw [Quantity.ofRational] at moved
    rw [Int.natAbs_neg] at far
    split_ifs at moved with within
    · obtain ⟨a, kept, -⟩ := map_eq_ok.mp moved
      rw [kept]
      refine iff_of_false ?_ fun h => absurd within h.1.2.not_gt
      rintro ⟨⟨_, ⟨⟩, -⟩, -⟩
    · have signaled : (ofInt mantissa).scale (-scale) = .error .overflow :=
        map_eq_error.mp moved
      rw [signaled]
      constructor
      · rintro ⟨⟨_, ⟨⟩, rfl⟩, -⟩
        exact ⟨⟨not_lt.mp far, not_lt.mp within⟩, rfl⟩
      · rintro ⟨-, rfl⟩
        exact ⟨⟨_, rfl, rfl⟩, rfl⟩

/-! ### Numbers in three parts -/

namespace Value

variable {v : Value} {e : Fault}

/-- A whole number that is too large for a part. -/
def IsOversized (v : Value) : Prop :=
  ∃ n, v.whole? = some n ∧ (n < -(partLimit : Int) ∨ (partLimit : Int) ≤ n)

theorem uncaught_part : Uncaught v.part e ↔ v.IsOversized ∧ e = .tooLarge := by
  rw [part, IsOversized]
  cases v.whole? with
  | none => exact iff_of_false (not_uncaught_error rfl) nofun
  | some n =>
    simp only [Option.some.injEq, exists_eq_left']
    split_ifs with oversized
    · rw [uncaught_error, eq_comm, and_iff_right oversized]
      exact and_iff_left_of_imp fun h => h ▸ rfl
    · exact iff_of_false not_uncaught_ok fun h => oversized h.1

/-- A part of the wrong value is refused, and that is caught. -/
theorem uncaught_part_bind {α : Type} {f : Int → Except Fault α}
    (caught : ∀ n, ¬ Uncaught (f n) e) :
    Uncaught (v.part >>= f) e ↔ v.IsOversized ∧ e = .tooLarge := by
  rw [uncaught_bind, uncaught_part]
  refine or_iff_left ?_
  rintro ⟨n, -, uncaught⟩
  exact caught n uncaught

theorem uncaught_signPart : Uncaught v.signPart e ↔
    v.IsOversized ∧ e = .tooLarge := by
  refine uncaught_part_bind fun n => ?_
  split_ifs
  · exact not_uncaught_ok
  · exact not_uncaught_ok
  · exact not_uncaught_error rfl

theorem uncaught_digitPart : Uncaught v.digitPart e ↔
    v.IsOversized ∧ e = .tooLarge := by
  refine uncaught_part_bind fun n => ?_
  split_ifs
  · exact not_uncaught_ok
  · exact not_uncaught_error rfl

theorem uncaught_lastPart : Uncaught v.lastPart e ↔
    v.IsOversized ∧ e = .tooLarge := by
  unfold lastPart
  split
  case h_1 s =>
    refine iff_of_false ?_ nofun
    split_ifs
    · exact not_uncaught_ok
    · exact not_uncaught_ok
    · exact not_uncaught_ok
    · exact not_uncaught_error rfl
  case h_2 => rw [uncaught_map, uncaught_part]

/-- An item of a list is oversized, and all items before it are digits. -/
def HasOversizedDigit : Value → Prop
  | list ds =>
    ∃ before d after, ds = before ++ d :: after ∧ d.IsOversized ∧ ∀ b ∈ before,
      ∃ n, b.digitPart = .ok n
  | _ => False

theorem uncaught_digitsPart : Uncaught v.digitsPart e ↔
    v.HasOversizedDigit ∧ e = .tooLarge := by
  unfold digitsPart
  split
  case h_2 other =>
    refine iff_of_false (not_uncaught_error rfl) fun h => ?_
    unfold HasOversizedDigit at h
    split at h
    · exact other _ rfl
    · exact h.1
  case h_1 ds =>
    rw [uncaught_map, Uncaught, mapM_eq_error]
    constructor
    · rintro ⟨⟨before, d, after, split, failed, none⟩, uncaught⟩
      obtain ⟨oversized, rfl⟩ := uncaught_digitPart.mp ⟨failed, uncaught⟩
      exact ⟨⟨before, d, after, split, oversized,
        fun b hb => returns_of_ne_error (none b hb)⟩, rfl⟩
    · rintro ⟨⟨before, d, after, split, oversized, digits⟩, rfl⟩
      obtain ⟨failed, uncaught⟩ := uncaught_digitPart.mpr ⟨oversized, rfl⟩
      refine ⟨⟨before, d, after, split, failed, fun b hb e' stopped => ?_⟩,
        uncaught⟩
      obtain ⟨n, digit⟩ := digits b hb
      cases digit.symm.trans stopped

/-- A part of a number in three parts is oversized, and the parts that are read
before it can be read: the sign first, the last part after it, and then the
digits. -/
inductive HasOversizedPart : Value → Prop
  | sign {sign digits last : Value} (oversized : sign.IsOversized) :
      HasOversizedPart (list [sign, digits, last])
  | last {sign digits last : Value} {negative : Bool}
      (read : sign.signPart = .ok negative)
    (oversized : last.IsOversized) : HasOversizedPart (list [sign, digits, last])
  | digits {sign digits last : Value} {negative : Bool} {l : LastPart}
      (read : sign.signPart = .ok negative)
    (readLast : last.lastPart = .ok l) (oversized : digits.HasOversizedDigit) :
    HasOversizedPart (list [sign, digits, last])

theorem uncaught_ofParts {sign digits last : Value} :
    Uncaught (ofParts sign digits last) e ↔
      (list [sign, digits, last]).HasOversizedPart ∧ e = .tooLarge := by
  simp only [ofParts, uncaught_bind, uncaught_signPart, uncaught_lastPart,
    uncaught_digitsPart]
  constructor
  · rintro (⟨oversized, rfl⟩ | ⟨negative, read,
      ⟨oversized, rfl⟩ | ⟨l, readLast, ⟨oversized, rfl⟩ | ⟨coeff, -, stopped⟩⟩⟩)
    · exact ⟨.sign oversized, rfl⟩
    · exact ⟨.last read oversized, rfl⟩
    · exact ⟨.digits read readLast oversized, rfl⟩
    · -- what the parts stand for is finite, infinite, a NaN or refused
      exfalso
      cases l with
      | infinity => exact not_uncaught_ok stopped
      | nan signaling => exact not_uncaught_ok stopped
      | exponent f =>
        dsimp only at stopped
        split at stopped
        · exact not_uncaught_ok stopped
        · exact not_uncaught_error rfl stopped
  · rintro ⟨oversized | ⟨read, oversized⟩ | ⟨read, readLast, oversized⟩, rfl⟩
    · exact .inl ⟨oversized, rfl⟩
    · exact .inr ⟨_, read, .inl ⟨oversized, rfl⟩⟩
    · exact .inr ⟨_, read, .inr ⟨_, readLast, .inl ⟨oversized, rfl⟩⟩⟩

theorem uncaught_toDecimal : Uncaught v.toDecimal e ↔
    v.HasOversizedPart ∧ e = .tooLarge := by
  unfold toDecimal
  split
  case h_5 sign digits last => exact uncaught_ofParts
  -- no other value has parts
  case h_6 other =>
    refine iff_of_false (not_uncaught_error rfl) ?_
    rintro ⟨_ | _ | _, -⟩
    all_goals exact other _ _ _ rfl
  case h_4 =>
    refine iff_of_false ?_ nofun
    split
    · exact not_uncaught_ok
    · exact not_uncaught_error rfl
  case h_1 | h_2 | h_3 => exact iff_of_false not_uncaught_ok nofun
  case h_7 | h_8 => exact iff_of_false (not_uncaught_error rfl) nofun

end Value

/-! ### Prices -/

namespace OracleValue

variable {e : Fault}

/-- The faults, other than to be unreadable, of a record that may hold a
mantissa and a scale.  The mantissa is read first. -/
inductive MantissaEscapes (mantissa? scale? : Option Value) : Fault → Prop
  | mantissa {mantissa : Value} (held : mantissa? = some mantissa)
      (infinite : mantissa.IsInfinite) :
    MantissaEscapes mantissa? scale? .tooLarge
  | scale {mantissa scale : Value} {m : Int} (held : mantissa? = some mantissa)
      (read : mantissa.toWhole = .ok m)
    (heldScale : scale? = some scale) (infinite : scale.IsInfinite) :
      MantissaEscapes mantissa? scale? .tooLarge
  | overflow {mantissa scale : Value} {m s : Int}
      (held : mantissa? = some mantissa) (read : mantissa.toWhole = .ok m)
    (heldScale : scale? = some scale) (readScale : scale.toWhole = .ok s)
      (overflows : FixedPoint.Overflows m s) :
    MantissaEscapes mantissa? scale? (.signal .overflow)

/-- The faults of an oracle's value other than to be unreadable. -/
def Escapes : OracleValue → Fault → Prop
  | .scaled mantissa scale => MantissaEscapes (some mantissa) (some scale)
  | .value (.record fs) =>
    MantissaEscapes (Keyed.get? "mantissa" fs) (Keyed.get? "scale" fs)
  | .value v => fun e => v.HasOversizedPart ∧ e = .tooLarge

theorem Escapes.fault {v : OracleValue} (h : v.Escapes e) :
    e = .tooLarge ∨ e = .signal .overflow := by
  unfold Escapes at h
  split at h
  case h_3 => exact .inl h.2
  all_goals
    cases h
    case overflow => exact .inr rfl
    all_goals exact .inl rfl

theorem uncaught_mantissa {x y : Except Fault Value}
    {mantissa? scale? : Option Value} (hx : ∀ w, x = .ok w ↔ mantissa? = some w)
    (caughtX : ¬ Uncaught x e) (hy : ∀ w, y = .ok w ↔ scale? = some w)
    (caughtY : ¬ Uncaught y e) :
    Uncaught (do
      let m ← (← x).toWhole
      let s ← (← y).toWhole
      FixedPoint.fromRaw m s : Except Fault Decimal) e ↔
    MantissaEscapes mantissa? scale? e := by
  simp only [uncaught_bind, Value.uncaught_toWhole, FixedPoint.uncaught_fromRaw,
    hx, hy, caughtX, caughtY, false_or]
  constructor
  · rintro ⟨w, held, ⟨infinite, rfl⟩ | ⟨m, read, u, heldScale,
      ⟨infinite, rfl⟩ | ⟨s, readScale, overflows, rfl⟩⟩⟩
    · exact .mantissa held infinite
    · exact .scale held read heldScale infinite
    · exact .overflow held read heldScale readScale overflows
  · rintro (⟨held, infinite⟩ | ⟨held, read, heldScale, infinite⟩
      | ⟨held, read, heldScale, readScale, overflows⟩)
    · exact ⟨_, held, .inl ⟨infinite, rfl⟩⟩
    · exact ⟨_, held, .inr ⟨_, read, _, heldScale, .inl ⟨infinite, rfl⟩⟩⟩
    · exact ⟨_, held,
        .inr ⟨_, read, _, heldScale, .inr ⟨_, readScale, overflows, rfl⟩⟩⟩

/-- The faults that are not caught are those of the values that were named, and
no others. -/
theorem uncaught_number {v : OracleValue} : Uncaught v.number e ↔ v.Escapes e := by
  have held (u w : Value) : (.ok u : Except Fault Value) = .ok w ↔
      some u = some w := by
    rw [Except.ok.injEq, Option.some.injEq]
  unfold number
  split
  case h_1 mantissa scale =>
    exact uncaught_mantissa (held mantissa) not_uncaught_ok
      (held scale) not_uncaught_ok
  case h_2 fs =>
    exact uncaught_mantissa (fun w => Value.need_record) Value.not_uncaught_need
      (fun w => Value.need_record) Value.not_uncaught_need
  case h_3 v other =>
    rw [Escapes]
    · exact Value.uncaught_toDecimal
    · exact other

variable (address : String)

/-- A number that is read is a price where it is finite. -/
theorem price_of_number {v : OracleValue} {a : Decimal} (h : v.number = .ok a) :
    (v.price address = .ok a ∧ a.isFinite) ∨
      v.price address = .error (.priceUnreadable address) := by
  rw [price, h]
  dsimp only
  split_ifs with finite
  · exact .inl ⟨rfl, finite⟩
  · exact .inr rfl

/-- **Prices.**  A price is returned that is finite, or is unreadable at its
address, exactly where the oracle's value has none of the faults that were
named; each of those is what the price ends with, and it is a number too large
or an overflow. -/
theorem price_or_escape (v : OracleValue) :
    ((∀ e, ¬ v.Escapes e) ↔
      (∃ a, v.price address = .ok a ∧ a.isFinite) ∨
      v.price address = .error (.priceUnreadable address)) ∧
    ∀ e, v.Escapes e → v.price address = .error e ∧
      (e = .tooLarge ∨ e = .signal .overflow) := by
  have escaped : ∀ e, v.Escapes e → v.price address = .error e := by
    intro e escapes
    obtain ⟨stopped, uncaught⟩ := uncaught_number.mpr escapes
    rw [price, stopped]
    simp only [uncaught, Bool.false_eq_true, if_false]
  refine ⟨⟨fun none => ?_, fun settled e escapes => ?_⟩,
    fun e escapes => ⟨escaped e escapes, escapes.fault⟩⟩
  · cases read : v.number with
    | ok a =>
      exact (price_of_number address read).imp_left fun h => ⟨a, h⟩
    | error e =>
      have caught : isUnreadable e = true := by
        by_contra uncaught
        exact none e
          (uncaught_number.mp ⟨read, Bool.eq_false_of_not_eq_true uncaught⟩)
      rw [price, read]
      simp only [caught, if_true]
      exact .inr trivial
  · have stopped := escaped e escapes
    rcases settled with ⟨a, returned, -⟩ | unreadable
    · cases stopped.symm.trans returned
    · rcases escapes.fault with rfl | rfl
      all_goals cases stopped.symm.trans unreadable

end OracleValue

/-- A record with a mantissa of one and the point far behind it. -/
def Sample.steepPrice : OracleValue :=
  .value (.record [("mantissa", .whole 1), ("scale", .whole (-1000000))])

/-- A steep price, an infinite mantissa and an oversized sign: none of the
three is returned, and none is unreadable. -/
theorem sample_escaping :
    Sample.steepPrice.price "oracle" = .error (.signal .overflow) ∧
    (OracleValue.scaled (.real (Float.ofBits 0x7FF0000000000000))
      (.whole 0)).price "oracle" = .error .tooLarge ∧
    (OracleValue.value (.list
      [.whole 0x8000000000000000, .list [.whole 1], .whole 0])).price "oracle" =
      .error .tooLarge := by
  decide +kernel

/-- The steep price has a fault of its own, and a plain one has none. -/
theorem sample_price :
    (∃ e, Sample.steepPrice.Escapes e ∧
      Sample.steepPrice.price "oracle" = .error e) ∧
      ∀ e, ¬ (OracleValue.value (.text "18.5")).Escapes e := by
  have escapes : Sample.steepPrice.Escapes (.signal .overflow) :=
    OracleValue.uncaught_number.mp ⟨by decide +kernel, rfl⟩
  have read : (OracleValue.value (.text "18.5")).price "oracle" =
      .ok (.finite false 185 (-1)) := by decide +kernel
  refine ⟨⟨_, escapes, ?_⟩, ?_⟩
  · exact ((OracleValue.price_or_escape "oracle" Sample.steepPrice).2 _ escapes).1
  · exact (OracleValue.price_or_escape "oracle" _).1.mpr (.inl ⟨_, read, rfl⟩)

end ScenarioMargin
