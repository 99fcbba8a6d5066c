/-
ScenarioMargin/Value/Number.lean

Values as numbers.  `toDecimal` reads an amount exactly; `toWhole` reads a
whole number and cuts a fraction off; `asCount` takes a whole number only from
a value that is one.

An amount may be spelled in three parts, as a list of a sign, a list of digits
and an exponent; the letters `F`, `n` and `N` in the place of the exponent
stand for an infinity, a NaN and a signaling NaN.
-/
import ScenarioMargin.Binary.Exchange
import ScenarioMargin.Decimal.Numeral
import ScenarioMargin.Fault
import ScenarioMargin.Text.Whole
import ScenarioMargin.Value

namespace ScenarioMargin.Value

/-- A value that is a whole number; truth values count as one and zero. -/
def whole? : Value → Option Int
  | bool b => some (if b then 1 else 0)
  | whole n => some n
  | _ => none

/-- A count, which no other value than a whole number gives. -/
def asCount (v : Value) : Except Fault Int :=
  match v.whole? with
  | some n => .ok n
  | none => .error .wrongKind

/-- A whole number, the fraction of a binary number cut off. -/
def toWhole : Value → Except Fault Int
  | bool b => .ok (if b then 1 else 0)
  | whole n => .ok n
  | real x =>
    match Binary.whole? x with
    | some n => .ok n
    | none =>
      .error (if Binary.magnitudeBits x = Binary.infinityBits then .tooLarge
        else .illFormed)
  | text s =>
    match Text.whole? s with
    | some n => .ok n
    | none => .error .illFormed
  | _ => .error .wrongKind

/-! ### Numbers in three parts -/

/-- The first number that is too large for a part: two to the power 63. -/
def partLimit : Nat := 0x8000000000000000

/-- A whole number that is a part. -/
def part (v : Value) : Except Fault Int :=
  match v.whole? with
  | none => .error .illFormed
  | some n =>
    if n < -(partLimit : Int) ∨ (partLimit : Int) ≤ n then .error .tooLarge
    else .ok n

/-- The sign among the parts, set for one and not set for zero. -/
def signPart (v : Value) : Except Fault Bool := do
  let n ← part v
  if n = 0 then return false
  else if n = 1 then return true
  else throw .illFormed

/-- What the last part stands for: an exponent, an infinity or a NaN. -/
inductive LastPart where
  | exponent (e : Int)
  | infinity
  | nan (signaling : Bool)

/-- The last part. -/
def lastPart : Value → Except Fault LastPart
  | text s =>
    if s = "F" then .ok .infinity
    else if s = "n" then .ok (.nan false)
    else if s = "N" then .ok (.nan true)
    else .error .illFormed
  | v => LastPart.exponent <$> part v

/-- One digit among the parts. -/
def digitPart (v : Value) : Except Fault Nat := do
  let n ← part v
  if 0 ≤ n ∧ n ≤ 9 then return n.toNat else throw .illFormed

/-- The digits among the parts. -/
def digitsPart : Value → Except Fault Nat
  | list ds => Text.digitsValue <$> ds.mapM digitPart
  | _ => .error .illFormed

/-- The number in three parts. -/
def ofParts (signValue digitsValue lastValue : Value) : Except Fault Decimal := do
  let negative ← signPart signValue
  let last ← lastPart lastValue
  let coeff ← digitsPart digitsValue
  match last with
  | .infinity => return .infinity negative
  | .nan signaling => return .nan negative signaling coeff
  | .exponent e =>
    match Decimal.finite? negative coeff e with
    | some a => return a
    | none => throw (.signal .invalidOperation)

/-! ### Decimal numbers -/

/-- The decimal number that a value stands for, exactly. -/
def toDecimal : Value → Except Fault Decimal
  | bool b => .ok (if b then .one else .zero)
  | whole n => .ok (.ofInt n)
  | real x => .ok (.ofFloat x)
  | text s =>
    match Decimal.parse? s with
    | some a => .ok a
    | none => .error (.signal .invalidOperation)
  | list [s, ds, e] => ofParts s ds e
  | list _ => .error .illFormed
  | null => .error .wrongKind
  | record _ => .error .wrongKind

end ScenarioMargin.Value
