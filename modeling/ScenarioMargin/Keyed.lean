/-
ScenarioMargin/Keyed.lean

Tables that keep the order in which their keys were first entered.  Entering a
value under a present key replaces the value and leaves the key at its place; a
new key goes to the end.
-/
namespace ScenarioMargin

/-- A table from keys to values, in the order of first entry. -/
abbrev Keyed (κ : Type) (β : Type) := List (κ × β)

namespace Keyed

variable {κ β : Type} [DecidableEq κ]

/-- The value under a key. -/
def get? (key : κ) : Keyed κ β → Option β
  | [] => none
  | (k, v) :: rest => if k = key then some v else get? key rest

/-- The table with a value under a key. -/
def put (key : κ) (value : β) : Keyed κ β → Keyed κ β
  | [] => [(key, value)]
  | (k, v) :: rest =>
    if k = key then (k, value) :: rest else (k, v) :: put key value rest

/-- The table that a list of entries makes, later ones replacing earlier
ones. -/
def ofEntries (entries : List (κ × β)) : Keyed κ β :=
  entries.foldl (fun table entry => put entry.1 entry.2 table) []

/-- The table with one more item under a key of lists. -/
def adjoin (key : κ) (item : β) : Keyed κ (List β) → Keyed κ (List β)
  | [] => [(key, [item])]
  | (k, items) :: rest =>
    if k = key then (k, items ++ [item]) :: rest
    else (k, items) :: adjoin key item rest

/-- Items in lists by key, the keys in the order of their first items. -/
def groupBy (key : β → κ) (items : List β) : Keyed κ (List β) :=
  items.foldl (fun table item => adjoin (key item) item table) []

/-- The keys in order of first entry. -/
def keys (table : Keyed κ β) : List κ :=
  table.map Prod.fst

end Keyed

end ScenarioMargin
