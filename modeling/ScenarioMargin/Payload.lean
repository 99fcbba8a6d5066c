/-
ScenarioMargin/Payload.lean

The binary form of instruments.  Numbers are little-endian; a future is the raw
amount per contract, an option the kind, the raw amount and its decimals, the
raw strike and its decimals, and the expiration.  A spot instrument has no
payload, and bytes beyond the last field are ignored.
-/
import ScenarioMargin.FixedPoint
import ScenarioMargin.Instrument

namespace ScenarioMargin.Payload

/-! ### Numbers as bytes -/

/-- The lowest `width` bytes of a number, the lowest first. -/
def littleEndian : Nat → Nat → List UInt8
  | 0, _ => []
  | width + 1, n => UInt8.ofNat n :: littleEndian width (n / 256)

/-- The number whose bytes are given, the lowest first. -/
def ofLittleEndian : List UInt8 → Nat
  | [] => 0
  | b :: rest => b.toNat + 256 * ofLittleEndian rest

/-- The number of bytes of a word. -/
def wordSize : Nat := 8

/-- The number of words: two to the power 64. -/
def wordSpan : Nat := 0x10000000000000000

/-- The number of words that are not negative: two to the power 63. -/
def halfWord : Nat := 0x8000000000000000

/-- An unsigned number in `width` bytes. -/
def unsigned (width : Nat) (n : Int) : Option (List UInt8) :=
  if 0 ≤ n ∧ n < (Nat.pow 256 width : Nat) then
    some (littleEndian width n.toNat)
  else none

/-- A signed number as a word, a negative one as its complement. -/
def signed (n : Int) : Option (List UInt8) :=
  if -(halfWord : Int) ≤ n ∧ n <
    halfWord then some (littleEndian wordSize (n % wordSpan).toNat) else none

/-- The signed number whose bytes are given. -/
def ofSigned (bytes : List UInt8) : Int :=
  let n := ofLittleEndian bytes
  if n < halfWord then n else n - wordSpan

/-! ### Futures -/

/-- The bytes of a future's payload. -/
def futureSize : Nat := 8

/-- The payload of a future with this amount per contract. -/
def ofFuture (amount : Decimal) : Except Fault (List UInt8) := do
  match unsigned wordSize (← FixedPoint.toRaw amount FixedPoint.futureDecimals) with
  | some bytes => return bytes
  | none => throw .futureOutOfRange

/-- The amount per contract in a future's payload. -/
def futureAmount (kind : InstrumentKind) (bytes : List UInt8) :
    Except Fault Decimal :=
  if bytes.length < futureSize then
    .error (.payloadTooShort kind futureSize bytes.length)
  else FixedPoint.fromRaw
    (ofLittleEndian (bytes.take futureSize)) FixedPoint.futureDecimals

/-! ### Options -/

/-- The figures of an option as they stand in its payload. -/
structure OptionFigures where
  code : Int
  amount : Int
  amountDecimals : Int
  strike : Int
  strikeDecimals : Int
  expiration : Int
  deriving DecidableEq, Repr

/-- The bytes of an option's payload. -/
def optionSize : Nat := 27

/-- A byte of an option's payload. -/
def byteField (n : Int) : Except Fault (List UInt8) :=
  match unsigned 1 n with
  | some bytes => .ok bytes
  | none => .error (.optionOutOfRange .byte)

/-- An unsigned word of an option's payload. -/
def wordField (n : Int) : Except Fault (List UInt8) :=
  match unsigned wordSize n with
  | some bytes => .ok bytes
  | none => .error (.optionOutOfRange .word)

/-- A signed word of an option's payload. -/
def signedField (n : Int) : Except Fault (List UInt8) :=
  match signed n with
  | some bytes => .ok bytes
  | none => .error (.optionOutOfRange .word)

/-- The bytes of the figures of an option. -/
def OptionFigures.toBytes (f : OptionFigures) : Except Fault (List UInt8) := do
  let code ← byteField f.code
  let amount ← wordField f.amount
  let amountDecimals ← byteField f.amountDecimals
  let strike ← wordField f.strike
  let strikeDecimals ← byteField f.strikeDecimals
  let expiration ← signedField f.expiration
  return code ++ amount ++ amountDecimals ++ strike ++ strikeDecimals ++ expiration

/-- The figures in an option's payload, which has all its bytes. -/
def OptionFigures.ofBytes (bytes : List UInt8) : OptionFigures where
  code := ofLittleEndian (bytes.take 1)
  amount := ofLittleEndian ((bytes.drop 1).take 8)
  amountDecimals := ofLittleEndian ((bytes.drop 9).take 1)
  strike := ofLittleEndian ((bytes.drop 10).take 8)
  strikeDecimals := ofLittleEndian ((bytes.drop 18).take 1)
  expiration := ofSigned ((bytes.drop 19).take 8)

/-- The payload of an option. -/
def ofOption (kind : OptionKind) (amount strike : Decimal)
    (expiration amountDecimals strikeDecimals : Int) :
    Except Fault (List UInt8) := do
  let rawAmount ← FixedPoint.toRaw amount amountDecimals
  let rawStrike ← FixedPoint.toRaw strike strikeDecimals
  OptionFigures.toBytes ⟨kind.code, rawAmount, amountDecimals, rawStrike,
    strikeDecimals, expiration⟩

/-- The kind of option with a number. -/
def optionKind (code : Int) : Except Fault OptionKind :=
  if code = OptionKind.call.code then .ok .call
  else if code = OptionKind.put.code then .ok .put
  else .error (.unknownOption (toString code))

/-- The option in a payload. -/
def option (bytes : List UInt8) : Except Fault Instrument := do
  if bytes.length < optionSize then
    throw (.payloadTooShort .option optionSize bytes.length)
  let f := OptionFigures.ofBytes bytes
  let kind ← optionKind f.code
  let amount ← FixedPoint.fromRaw f.amount f.amountDecimals
  let strike ← FixedPoint.fromRaw f.strike f.strikeDecimals
  return .option kind amount strike f.expiration

/-! ### Instruments -/

/-- The instrument of a kind in a payload. -/
def decode (kind : InstrumentKind) (bytes : List UInt8) : Except Fault Instrument :=
  match kind with
  | .spot => .ok .spot
  | .termFuture => Instrument.termFuture <$> futureAmount kind bytes
  | .perpFuture => Instrument.perpFuture <$> futureAmount kind bytes
  | .option => option bytes

end ScenarioMargin.Payload
