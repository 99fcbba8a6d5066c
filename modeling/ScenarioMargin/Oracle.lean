/-
ScenarioMargin/Oracle.lean

Prices as an oracle holds them: a value of any kind, or a mantissa with the
number of its decimals.  A price that cannot be read, or that is no finite
number, is unreadable at its address.
-/
import ScenarioMargin.FixedPoint
import ScenarioMargin.Value.Field
import ScenarioMargin.Value.Number

namespace ScenarioMargin

/-- What an oracle holds at an address. -/
inductive OracleValue where
  | value (v : Value)
  | scaled (mantissa scale : Value)

namespace OracleValue

/-- The number of a mantissa with this many decimals. -/
def ofMantissa (mantissa scale : Value) : Except Fault Decimal := do
  let m ← mantissa.toWhole
  let s ← scale.toWhole
  FixedPoint.fromRaw m s

/-- The number that an oracle's value stands for; a record holds a mantissa and
its scale. -/
def number : OracleValue → Except Fault Decimal
  | .scaled mantissa scale => ofMantissa mantissa scale
  | .value (.record fs) => do
    let mantissa ← (← (Value.record fs).need "mantissa").toWhole
    let scale ← (← (Value.record fs).need "scale").toWhole
    FixedPoint.fromRaw mantissa scale
  | .value v => v.toDecimal

/-- The faults of a value that make a price unreadable. -/
def isUnreadable : Fault → Bool
  | .missingKey => true
  | .wrongKind => true
  | .illFormed => true
  | .signal .invalidOperation => true
  | _ => false

/-- The price at an address. -/
def price (address : String) (v : OracleValue) : Except Fault Decimal :=
  match v.number with
  | .ok a => if a.isFinite then .ok a else .error (.priceUnreadable address)
  | .error e => .error (if isUnreadable e then .priceUnreadable address else e)

end OracleValue

end ScenarioMargin
