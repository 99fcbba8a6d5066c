/-
ScenarioMargin/Value/Field.lean

Access to the parts of a value.  `get` and `getOr` ask a record for an optional
field, `need` for a required one, and each refuses values that are not records
in its own way.  `items` walks a value item by item.
-/
import ScenarioMargin.Fault
import ScenarioMargin.Keyed
import ScenarioMargin.Value

namespace ScenarioMargin.Value

/-- The fields of a record. -/
def fields : Value → Except Fault (Keyed String Value)
  | record fs => .ok fs
  | _ => .error .notRecord

/-- An optional field of a record. -/
def get (v : Value) (key : String) : Except Fault (Option Value) :=
  (Keyed.get? key) <$> v.fields

/-- An optional field of a record, with what stands for a missing one. -/
def getOr (v : Value) (key : String) (missing : Value) : Except Fault Value :=
  (·.getD missing) <$> v.get key

/-- A required field. -/
def need (v : Value) (key : String) : Except Fault Value :=
  match v with
  | record fs =>
    match Keyed.get? key fs with
    | some w => .ok w
    | none => .error .missingKey
  | _ => .error .wrongKind

/-- Whether a text holds another one. -/
def holdsText (whole part : List Char) : Bool :=
  match whole with
  | [] => part.isEmpty
  | _ :: rest => part.isPrefixOf whole || holdsText rest part

/-- Whether a value is a given text. -/
def isText (s : String) : Value → Bool
  | text t => t == s
  | _ => false

/-- Whether a record has a field, a list an item or a text a part. -/
def has (key : String) : Value → Except Fault Bool
  | record fs => .ok (Keyed.get? key fs).isSome
  | list items => .ok (items.any (isText key))
  | text s => .ok (holdsText s.toList key.toList)
  | _ => .error .wrongKind

/-- The items of a value: those of a list, the characters of a text, the keys
of a record. -/
def items : Value → Except Fault (List Value)
  | list vs => .ok vs
  | text s => .ok (s.toList.map fun c => text (String.singleton c))
  | record fs => .ok ((Keyed.keys fs).map text)
  | _ => .error .wrongKind

end ScenarioMargin.Value
