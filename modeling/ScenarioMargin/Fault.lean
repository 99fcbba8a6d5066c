/-
ScenarioMargin/Fault.lean

Everything that can stop a calculation, by cause.  Faults of the configuration,
of outside data and of the caller's input have a message; faults of a value
that cannot be used as it is asked to have none.
-/
import ScenarioMargin.Decimal.Scientific
import ScenarioMargin.Terms

namespace ScenarioMargin

/-- A field of a payload that a number does not fit. -/
inductive FieldWidth where
  | byte
  | word
  deriving DecidableEq, Repr

/-- The causes that stop a calculation. -/
inductive Fault where
  -- configuration
  /-- no member of an enumeration has this name -/
  | unknownName (noun given : String)
  /-- a risk category does not have one scenario per settlement bucket -/
  | scenarioCount (found : Nat)
  /-- the table of risk categories lacks the category of an asset in use -/
  | categoryMissing (category : RiskCategory)
  /-- the program of a leg is not in the registry -/
  | unregistered (program : String)
  -- outside data
  /-- a base asset has no risk profile -/
  | noProfile (index : String)
  /-- the look-up of a risk profile failed for a reason of its own -/
  | lookupFailed (reason : String)
  /-- there is no price at an address -/
  | priceMissing (address : String)
  /-- the price at an address is no finite number -/
  | priceUnreadable (address : String)
  -- input
  /-- a leg's amount is below zero -/
  | negativeAmount (amount : Decimal)
  /-- a payload has too few bytes for its kind -/
  | payloadTooShort (kind : InstrumentKind) (needed actual : Nat)
  /-- an option is neither a call nor a put -/
  | unknownOption (given : String)
  /-- a contract amount does not fit a future's payload -/
  | futureOutOfRange
  /-- a figure does not fit its field of an option's payload -/
  | optionOutOfRange (width : FieldWidth)
  /-- raw instrument data is not written in hexadecimal digits -/
  | notHex (shown : String)
  /-- a quote without a multiplier answers a request that leaves the size
  open -/
  | sizeLeftOpen
  /-- a quote with a multiplier answers a request that fixes the size -/
  | sizeAlreadyFixed
  /-- a size in the quote asset is to be divided by a negative price -/
  | negativePrice
  /-- a size in the quote asset is to be divided by a zero price -/
  | zeroPrice
  /-- a request's size restriction is none that is known -/
  | unknownFixedSize (shown : String)
  /-- a request's order type is none that is known -/
  | unknownOrderType (shown : String)
  /-- a response quotes neither side -/
  | emptyResponse
  /-- the side that is to be confirmed has no quote -/
  | quoteMissing
  -- values
  /-- an arithmetic operation has no result -/
  | signal (signal : Decimal.Signal)
  /-- a value of another kind is needed -/
  | wrongKind
  /-- a value of the right kind cannot be read, or cannot be written -/
  | illFormed
  /-- a number is too large for what it is to become -/
  | tooLarge
  /-- a record lacks a key -/
  | missingKey
  /-- a value that is no record is asked for a key -/
  | notRecord
  /-- something that is no instrument is to be valued -/
  | notInstrument
  /-- there is no document under a name -/
  | noDocument
  deriving DecidableEq, Repr

/-- Signals of the arithmetic are faults of a calculation. -/
instance : MonadLift (Except Decimal.Signal) (Except Fault) where
  monadLift x := x.mapError Fault.signal

/-- Why a number does not fit a field. -/
def FieldWidth.message : FieldWidth → String
  | .byte => "ubyte format requires 0 <= number <= 255"
  | .word => "argument out of range"

/-- The message of a fault that has one. -/
def Fault.message? : Fault → Option String
  | .unknownName noun given => some s!"Unknown {noun} type: {given}"
  | .scenarioCount found =>
    some s!"Expected 6 scenarios per settlement period, got {found}"
  | .categoryMissing category =>
    let name := Named.name category
    some s!"Risk category {name} is missing from risk engine config!"
  | .unregistered program =>
    some s!"Instrument {program} is missing from risk engine config!"
  | .noProfile index => some s!"Base asset {index} has no risk profile"
  | .lookupFailed reason => some reason
  | .priceMissing address =>
    some s!"Expected price aggregator at address {address}, but the account is missing"
  | .priceUnreadable address =>
    some ("Price from the aggregator at address " ++ address ++
      " can't be parsed!")
  | .negativeAmount amount =>
    let text := amount.toText
    some s!"Leg amount must be unsigned, got {text}; use side for direction"
  | .payloadTooShort kind needed actual =>
    let name := Named.name kind
    some (s!"Malformed {name} instrument data: unpack_from requires a buffer of at least {needed} bytes "
      ++
        s!"for unpacking {needed} bytes at offset 0 (actual buffer size is {actual})")
  | .unknownOption given => some s!"Unknown option type: {given}"
  | .futureOutOfRange =>
    some ("Future amount out of range: " ++ FieldWidth.word.message)
  | .optionOutOfRange width =>
    some ("Option fields out of range: " ++ width.message)
  | .notHex shown => some s!"Instrument data is not valid hex: {shown}"
  | .sizeLeftOpen =>
    some "Fixed size quote cannot be provided to non-fixed size rfq"
  | .sizeAlreadyFixed =>
    some "Non fixed size quote cannot be provided to fixed size rfq"
  | .negativePrice =>
    some "Negative prices are not allowed for fixed quote amount rfq"
  | .zeroPrice => some "Zero price cannot size a fixed quote amount rfq"
  | .unknownFixedSize shown => some s!"Invalid fixed size: {shown}"
  | .unknownOrderType shown => some s!"Invalid order type: {shown}"
  | .emptyResponse => some "A response needs at least one of bid or ask"
  | .quoteMissing => some "Cannot confirm a missing quote!"
  | _ => none

end ScenarioMargin
