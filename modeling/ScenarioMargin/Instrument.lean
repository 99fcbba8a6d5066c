/-
ScenarioMargin/Instrument.lean

Instruments, and the legs that hold them.  A `Leg` names its instrument by a
program and carries the instrument's payload as bytes; a `Position` is a leg
whose instrument is known.

An exposure counts from the point of view of the one who sold the legs: long
amounts are negative.
-/
import ScenarioMargin.FixedPoint

namespace ScenarioMargin

/-- What a leg is a number of. -/
inductive Instrument where
  | spot
  | termFuture (amount : Decimal)
  | perpFuture (amount : Decimal)
  | option (kind : OptionKind) (amount strike : Decimal) (expiration : Int)
  /-- an instrument that nobody can value -/
  | unrecognised
  deriving DecidableEq, Repr

/-- Whether an instrument is an option. -/
def Instrument.isOption : Instrument → Bool
  | .option .. => true
  | _ => false

/-- Whether an instrument is an option that expires after `now`. -/
def Instrument.isLive (now : Int) : Instrument → Bool
  | .option _ _ _ expiration => now < expiration
  | _ => false

/-- A number of units of an instrument, long or short, under a base asset. -/
structure Leg where
  baseAsset : Int
  amount : Decimal
  side : LegSide
  program : String
  data : List UInt8
  /-- the direction of a leg is in its side alone -/
  unsigned : amount.lt .zero = .ok false

/-- The leg with an amount, which must not be below zero. -/
def Leg.make (baseAsset : Int) (amount : Decimal) (side : LegSide)
    (program : String) (data : List UInt8) : Except Fault Leg :=
  match h : amount.lt .zero with
  | .ok false => .ok ⟨baseAsset, amount, side, program, data, h⟩
  | .ok true => .error (.negativeAmount amount)
  | .error e => .error (.signal e)

/-- The leg with an amount of `raw` units. -/
def Leg.ofRaw (baseAsset raw decimals : Int) (side : LegSide) (program : String)
    (data : List UInt8) : Except Fault Leg := do
  Leg.make baseAsset (← FixedPoint.fromRaw raw decimals) side program data

/-- A leg whose instrument is known. -/
structure Position where
  baseAsset : Int
  amount : Decimal
  side : LegSide
  instrument : Instrument
  deriving DecidableEq, Repr

/-- The signed amount of a position: a long one counts negative. -/
def Position.exposure (p : Position) : Except Decimal.Signal Decimal :=
  match p.side with
  | .long => p.amount.neg
  | .short => .ok p.amount

end ScenarioMargin
