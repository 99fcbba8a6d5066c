/-
ScenarioMargin/Rfq.lean

Requests for quotes and the collateral at the three moments of their lives: the
taker's when a request is made, the maker's when it is answered, and the
taker's when an answer is confirmed.

A request leaves the size free, fixes it as a number of times the legs, or
fixes it as an amount of the quote asset.  Only a request with a fixed number
of legs is evaluated for risk when it is made; the others lock flat amounts.
-/
import ScenarioMargin.Estimator

namespace ScenarioMargin

/-- What a request fixes of its size. -/
inductive FixedSize where
  | free
  | base (multiplier : Decimal)
  | quote (amount : Decimal)
  /-- a restriction that is none of these, as it is shown -/
  | unrecognised (shown : String)
  deriving DecidableEq, Repr

/-- Which way the taker wants to trade. -/
inductive OrderType where
  | buy
  | sell
  | twoWay
  /-- an order that is none of these, as it is shown -/
  | unrecognised (shown : String)
  deriving DecidableEq, Repr

/-- A request for quotes. -/
structure Rfq where
  legs : List Leg
  fixedSize : FixedSize
  orderType : OrderType
  period : Value

/-- A quote, which commits to a number of times the legs where the request
leaves the size open. -/
inductive Quote where
  | standard (price multiplier : Decimal)
  | fixed (price : Decimal)
  deriving DecidableEq, Repr

/-- The quotes of an answer. -/
structure Response where
  bid : Option Quote
  ask : Option Quote
  deriving DecidableEq, Repr

/-- The quote on a side. -/
def Response.quote? (response : Response) : QuoteSide → Option Quote
  | .bid => response.bid
  | .ask => response.ask

/-! ### Multipliers -/

/-- How many times the legs an amount of the quote asset buys at a price, the
quotient cut to whole units. -/
def sizeAtPrice (amount price : Decimal) : Except Fault Decimal := do
  if ← price.lt .zero then throw .negativePrice
  if price.isZero then throw .zeroPrice
  FixedPoint.truncate (← amount.div price) FixedPoint.multiplierDecimals

/-- How many times the legs a quote commits to. -/
def FixedSize.multiplier (size : FixedSize) (quote : Quote) :
    Except Fault Decimal :=
  match size, quote with
  | .free, .standard _ multiplier => .ok multiplier
  | .free, .fixed _ => .error .sizeLeftOpen
  | .base multiplier, .fixed _ => .ok multiplier
  | .base _, .standard .. => .error .sizeAlreadyFixed
  | .quote amount, .fixed price => sizeAtPrice amount price
  | .quote _, .standard .. => .error .sizeAlreadyFixed
  | .unrecognised shown, _ => .error (.unknownFixedSize shown)

/-- The sides that a taker may confirm. -/
def OrderType.sides : OrderType → Except Fault (List QuoteSide)
  | .buy => .ok [.ask]
  | .sell => .ok [.bid]
  | .twoWay => .ok [.ask, .bid]
  | .unrecognised shown => .error (.unknownOrderType shown)

/-! ### Cases of a request -/

/-- The cases of the taker who fixes a number of times the legs. -/
def Rfq.takerCases (rfq : Rfq) (multiplier : Decimal) :
    Except Fault (List Case) := do
  return (← rfq.orderType.sides).map fun side => ⟨multiplier, .taker, side⟩

/-- The case of a maker who quotes on a side, if there is a quote. -/
def Rfq.makerCase (rfq : Rfq) (response : Response) (side : QuoteSide) :
    Except Fault (Option Case) :=
  match response.quote? side with
  | none => .ok none
  | some quote => do return some ⟨← rfq.fixedSize.multiplier quote, .maker, side⟩

/-- The cases of the maker, for each side that is quoted. -/
def Rfq.makerCases (rfq : Rfq) (response : Response) :
    Except Fault (List Case) := do
  return (← [QuoteSide.bid, .ask].mapM (rfq.makerCase response)).filterMap id

/-- The multiplier that is confirmed: one of the taker's own, cut to whole
units, or that of the quote. -/
def Rfq.confirmedMultiplier (rfq : Rfq) (response : Response) (side : QuoteSide)
    (own : Option Decimal) : Except Fault Decimal :=
  match own with
  | some multiplier => FixedPoint.truncate multiplier FixedPoint.multiplierDecimals
  | none =>
    match response.quote? side with
    | none => .error .quoteMissing
    | some quote => rfq.fixedSize.multiplier quote

/-! ### Collateral -/

/-- The largest of some amounts, zero of none. -/
def largest : List Decimal → Except Decimal.Signal Decimal
  | [] => .ok .zero
  | a :: rest => rest.foldlM Decimal.larger a

namespace Estimator

/-- What the taker locks to make a request. -/
def forRequest (live : LiveModel) (estimator : Estimator) (rfq : Rfq) :
    Except Fault Decimal := do
  let config := estimator.config
  match rfq.fixedSize with
  | .free => FixedPoint.fromRaw config.variableSize config.mintDecimals
  | .quote _ => FixedPoint.fromRaw config.fixedQuote config.mintDecimals
  | .unrecognised shown => throw (.unknownFixedSize shown)
  | .base multiplier =>
    let cases ← rfq.takerCases multiplier
    largest (← estimator.required live rfq.legs cases rfq.period)

/-- What the maker locks to answer a request. -/
def forResponse (live : LiveModel) (estimator : Estimator) (rfq : Rfq)
    (response : Response) : Except Fault Decimal := do
  let cases ← rfq.makerCases response
  if cases.isEmpty then throw .emptyResponse
  largest (← estimator.required live rfq.legs cases rfq.period)

/-- What the taker locks to confirm a side of an answer. -/
def forConfirmation (live : LiveModel) (estimator : Estimator) (rfq : Rfq)
    (response : Response) (side : QuoteSide) (own : Option Decimal) :
    Except Fault Decimal := do
  let multiplier ← rfq.confirmedMultiplier response side own
  largest
    (← estimator.required live rfq.legs [⟨multiplier, .taker, side⟩] rfq.period)

end Estimator

end ScenarioMargin
