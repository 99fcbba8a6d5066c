/-
ScenarioMargin/Document/Name.lean

Names in documents.  A name may be written with humps instead of underscores
(`veryLow`) and in either case; whatever is written is brought into the form of
the names themselves before it is looked up.
-/
import ScenarioMargin.Fault
import ScenarioMargin.Value

namespace ScenarioMargin

/-- The characters of a name with an underscore before each hump: a capital
after a small letter or a digit. -/
def splitHumps : List Char → List Char
  | c :: d :: rest =>
    if (c.isLower || c.isDigit) && d.isUpper then c :: '_' :: splitHumps (d :: rest)
    else c :: splitHumps (d :: rest)
  | cs => cs

/-- The small letter of a capital.  Of the capitals outside the plain alphabet
the Kelvin sign alone has a small letter inside it; the others occur in no name
and are left alone. -/
def smallLetter (c : Char) : Char :=
  if c.toNat = 0x212A then 'k' else c.toLower

/-- What is written for a name, in the form of names. -/
def nameForm (written : String) : String :=
  String.ofList ((splitHumps written.toList).map smallLetter)

/-- The member of an enumeration that a value names. -/
def Named.ofValue {α : Type} [Named α] (v : Value) : Except Fault α := do
  let written ← v.shown
  match Named.ofName? (nameForm written) with
  | some a => return a
  | none => throw (.unknownName (Named.noun α) written)

end ScenarioMargin
