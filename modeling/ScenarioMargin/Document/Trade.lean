/-
ScenarioMargin/Document/Trade.lean

The sections of a document that say what is traded: legs with the payloads of
their instruments, and cases.

A payload is written out in hexadecimal digits, or is made from the figures of
an option or of a future.
-/
import ScenarioMargin.Collateral
import ScenarioMargin.Document.Name
import ScenarioMargin.Payload
import ScenarioMargin.Text.Hex
import ScenarioMargin.Value.Field

namespace ScenarioMargin

/-! ### Payloads -/

/-- The bytes that a value writes, if it is a text of hexadecimal digits. -/
def Payload.bytes? : Value → Option (List UInt8)
  | .text s => Text.Hex.decode s.toList
  | _ => none

/-- The bytes that a value has to write. -/
def Payload.ofHex (v : Value) : Except Fault (List UInt8) := do
  match bytes? v with
  | some bytes => return bytes
  | none => throw (.notHex (← v.quotedForm))

/-- The option kind that a value names in either case. -/
def OptionKind.ofShown? (shown : String) : Option OptionKind :=
  Named.ofName? (String.ofList (shown.toList.map Char.toLower))

/-- The kind in the description of an option; without one it is a call. -/
def OptionKind.ofDescription (v : Value) : Except Fault OptionKind := do
  match OptionKind.ofShown? (← (← v.getOr "type" (.text "call")).shown) with
  | some kind => return kind
  | none => throw (.unknownOption (← (← v.getOr "type" .null).shown))

/-- The raw number of units of an amount that a value stands for, and the
decimals of that unit. -/
def FixedPoint.rawOfValue (amount decimals : Value) : Except Fault (Int × Int) := do
  let a ← amount.toDecimal
  let d ← decimals.asCount
  return (← FixedPoint.toRaw a d, d)

/-- The payload of an option whose figures are given as values. -/
def Payload.ofOptionValues (kind : OptionKind)
    (amount strike expiration amountDecimals strikeDecimals : Value) :
    Except Fault (List UInt8) := do
  let rawAmount ← FixedPoint.rawOfValue amount amountDecimals
  let rawStrike ← FixedPoint.rawOfValue strike strikeDecimals
  let instant ← expiration.toWhole
  Payload.OptionFigures.toBytes
    ⟨kind.code, rawAmount.1, rawAmount.2, rawStrike.1, rawStrike.2, instant⟩

/-- The payload of the option that a value describes. -/
def Payload.ofOptionValue (v : Value) : Except Fault (List UInt8) := do
  let kind ← OptionKind.ofDescription v
  let amount ← v.getOr "amount_per_contract" (.whole 1)
  let strike ← v.need "strike"
  let expiration ← (← v.need "expiration").toWhole
  let decimals := Value.whole FixedPoint.optionDecimals
  Payload.ofOptionValues kind amount strike (.whole expiration) decimals decimals

/-- The payload of the future that a value describes. -/
def Payload.ofFutureValue (v : Value) : Except Fault (List UInt8) := do
  Payload.ofFuture (← (← v.getOr "amount_per_contract" (.whole 1)).toDecimal)

/-- The payload that the description of a leg gives its instrument. -/
def Payload.ofValue (v : Value) : Except Fault (List UInt8) := do
  if ← v.has "data" then ofHex (← v.need "data")
  else if ← v.has "option" then ofOptionValue (← v.need "option")
  else if ← v.has "future" then ofFutureValue (← v.need "future")
  else return []

/-! ### Legs and cases -/

/-- The leg that a value describes. -/
def Leg.ofValue (v : Value) : Except Fault Leg := do
  let baseAsset ← (← v.need "base_asset").toWhole
  let amount ← v.need "amount"
  let side ← Named.ofValue (← v.getOr "side" (.text "long"))
  let program ← (← v.need "instrument").shown
  let data ← Payload.ofValue v
  Leg.make baseAsset (← amount.toDecimal) side program data

/-- The case that a value describes: without further words a taker's, once the
legs, on the ask side. -/
def Case.ofValue (v : Value) : Except Fault Case := do
  let multiplier ← v.getOr "legs_multiplier" (.whole 1)
  let authority ← Named.ofValue (← v.getOr "authority" (.text "taker"))
  let side ← Named.ofValue (← v.getOr "side" (.text "ask"))
  return ⟨← multiplier.toDecimal, authority, side⟩

/-- The legs that the items of a value describe. -/
def Leg.listOfValue (v : Value) : Except Fault (List Leg) := do
  (← v.items).mapM Leg.ofValue

/-- The cases that the items of a value describe. -/
def Case.listOfValue (v : Value) : Except Fault (List Case) := do
  (← v.items).mapM Case.ofValue

end ScenarioMargin
