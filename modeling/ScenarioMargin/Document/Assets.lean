/-
ScenarioMargin/Document/Assets.lean

The sections of a document that say what there is to trade: the instrument
programs and the base assets.

A program is given the name of its kind or the kind's number.  A base asset has
an index, an oracle address, a category and perhaps a price; the profiles are
kept by index and the prices by address, and in both the last entry counts.
-/
import ScenarioMargin.Document.Name
import ScenarioMargin.Fetch
import ScenarioMargin.Value.Field
import ScenarioMargin.Value.Number

namespace ScenarioMargin

/-- Whether a value is a number equal to `n`. -/
def Value.equals (n : Nat) : Value → Bool
  | .real x => x == Float.ofNat n
  | v => v.whole? == some (n : Int)

/-- The instrument kind with a number. -/
def InstrumentKind.ofNumber (v : Value) : Except Fault InstrumentKind := do
  match (Named.members : List InstrumentKind).find? fun k => v.equals k.number with
  | some k => return k
  | none => throw (.unknownName (Named.noun InstrumentKind) (← v.shown))

/-- The instrument kind that a value names or numbers. -/
def InstrumentKind.ofValue (v : Value) : Except Fault InstrumentKind :=
  if v.whole?.isSome then ofNumber v else Named.ofValue v

/-- One entry of a table of instrument programs. -/
def programEntry (field : String × Value) :
    Except Fault (String × InstrumentKind) := do
  return (field.1, ← InstrumentKind.ofValue field.2)

/-- The table of instrument programs that a record describes. -/
def programsOfValue (v : Value) : Except Fault (Keyed String InstrumentKind) := do
  return Keyed.ofEntries (← (← v.fields).mapM programEntry)

/-- A base asset as a document describes it. -/
structure AssetEntry where
  index : Int
  profile : Profile
  price : Option Value

/-- The address of an asset's price where the document gives none. -/
def defaultOracle (index : Int) : Except Fault String := do
  return "oracle-" ++ (← writeWhole index)

/-- The base asset that a value describes.  The address that goes by the index
is made even where another one is given. -/
def AssetEntry.ofValue (v : Value) : Except Fault AssetEntry := do
  let index ← (← v.need "index").toWhole
  let standard ← defaultOracle index
  let oracle ← (← v.getOr "oracle" (.text standard)).shown
  let category ← Named.ofValue (← v.need "risk_category")
  return ⟨index, ⟨category, oracle⟩, ← v.get "price"⟩

/-- The base assets that a value describes, one after the other. -/
def assetEntries (v : Value) : Except Fault (List AssetEntry) := do
  (← v.items).mapM AssetEntry.ofValue

/-- The profiles of base assets. -/
def profilesOf (entries : List AssetEntry) : Keyed Int Profile :=
  Keyed.ofEntries (entries.map fun e => (e.index, e.profile))

/-- The prices of base assets by address. -/
def pricesOf (entries : List AssetEntry) : Keyed String Value :=
  Keyed.ofEntries (entries.filterMap fun e => e.price.map (e.profile.oracle, ·))

end ScenarioMargin
