/-
ScenarioMargin/Terms.lean

The words of the domain: sides, categories and kinds, each with the name under
which documents, messages and tables know it.
-/
namespace ScenarioMargin

/-- A finite type whose members have names; `noun` is what a message calls such
a member. -/
class Named (α : Type) where
  members : List α
  name : α → String
  noun : String

/-- The member with a name. -/
def Named.ofName? {α : Type} [Named α] (s : String) : Option α :=
  Named.members.find? fun a => Named.name a == s

/-- The direction of a leg: long legs were sold to the portfolio's owner, short
ones bought from them. -/
inductive LegSide where
  | long
  | short
  deriving DecidableEq, Repr

instance : Named LegSide where
  members := [.long, .short]
  name
    | .long => "long"
    | .short => "short"
  noun := "leg side"

/-- Who a calculation is for: the maker who quotes, or the taker who asked. -/
inductive Authority where
  | maker
  | taker
  deriving DecidableEq, Repr

instance : Named Authority where
  members := [.maker, .taker]
  name
    | .maker => "maker"
    | .taker => "taker"
  noun := "authority side"

/-- The side of a quote. -/
inductive QuoteSide where
  | bid
  | ask
  deriving DecidableEq, Repr

instance : Named QuoteSide where
  members := [.bid, .ask]
  name
    | .bid => "bid"
    | .ask => "ask"
  noun := "quote side"

/-- The risk categories of base assets. -/
inductive RiskCategory where
  | veryLow
  | low
  | medium
  | high
  | veryHigh
  deriving DecidableEq, Repr

instance : Named RiskCategory where
  members := [.veryLow, .low, .medium, .high, .veryHigh]
  name
    | .veryLow => "very_low"
    | .low => "low"
    | .medium => "medium"
    | .high => "high"
    | .veryHigh => "very_high"
  noun := "risk category"

/-- The kinds of instruments that a program can stand for. -/
inductive InstrumentKind where
  | spot
  | option
  | termFuture
  | perpFuture
  deriving DecidableEq, Repr

instance : Named InstrumentKind where
  members := [.spot, .option, .termFuture, .perpFuture]
  name
    | .spot => "spot"
    | .option => "option"
    | .termFuture => "term-future"
    | .perpFuture => "perp-future"
  noun := "instrument"

/-- The number of an instrument kind. -/
def InstrumentKind.number : InstrumentKind → Nat
  | .spot => 1
  | .option => 2
  | .termFuture => 3
  | .perpFuture => 4

/-- The right that an option gives: to buy or to sell. -/
inductive OptionKind where
  | call
  | put
  deriving DecidableEq, Repr

instance : Named OptionKind where
  members := [.call, .put]
  name
    | .call => "call"
    | .put => "put"
  noun := "option"

/-- The number of an option kind. -/
def OptionKind.code : OptionKind → Nat
  | .call => 0
  | .put => 1

end ScenarioMargin
