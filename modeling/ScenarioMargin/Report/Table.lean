/-
ScenarioMargin/Report/Table.lean

Tables in plain text.  Columns are aligned to the right and stand one space
apart.  The heading of a column of whole numbers has a space before it; numbers
too large for a machine word make a column of texts.
-/
import ScenarioMargin.Value

namespace ScenarioMargin

/-- A cell of a table. -/
inductive Cell where
  | text (s : String)
  | number (n : Int)
  deriving DecidableEq, Repr

/-- A table: the headings of its columns, and its rows. -/
structure Table where
  headings : List String
  rows : List (List Cell)
  deriving DecidableEq, Repr

namespace Cell

/-- The number in a cell. -/
def number? : Cell → Option Int
  | number n => some n
  | text _ => none

/-- The text of a cell. -/
def shown : Cell → Except Fault String
  | text s => .ok s
  | number n => writeWhole n

end Cell

namespace Table

/-- The first number that is too large for a signed machine word: two to the
power 63. -/
def signedLimit : Nat := 0x8000000000000000

/-- The first number that is too large for an unsigned machine word: two to the
power 64. -/
def unsignedLimit : Nat := 0x10000000000000000

/-- Whether whole numbers all fit a machine word, signed or unsigned. -/
def fitWord (ns : List Int) : Bool :=
  ns.all (fun n => -(signedLimit : Int) ≤ n && n < signedLimit) ||
    ns.all fun n => 0 ≤ n && n < unsignedLimit

/-- Whether the cells of a column are numbers. -/
def isNumeric (cells : List Cell) : Bool :=
  match cells.mapM Cell.number? with
  | some ns => fitWord ns
  | none => false

/-- A text with spaces before it up to a width. -/
def alignRight (width : Nat) (s : String) : String :=
  String.ofList (List.replicate (width - s.length) ' ') ++ s

/-- Texts aligned to the right under each other. -/
def alignColumn (texts : List String) : List String :=
  texts.map (alignRight ((texts.map String.length).foldl max 0))

/-- The lines of a column: its heading and its cells. -/
def column (heading : String) (cells : List Cell) :
    Except Fault (List String) := do
  let texts ← cells.mapM Cell.shown
  return alignColumn
    ((if isNumeric cells then " " ++ heading else heading) :: texts)

/-- The cells of the column at a position. -/
def cellsAt (rows : List (List Cell)) (position : Nat) : List Cell :=
  rows.filterMap fun row => row[position]?

/-- The columns of a table, line by line. -/
def columns (t : Table) : Except Fault (List (List String)) :=
  t.headings.zipIdx.mapM fun heading =>
    column heading.1 (cellsAt t.rows heading.2)

/-- The line at a position across columns. -/
def lineAt (columns : List (List String)) (position : Nat) : String :=
  String.intercalate " " (columns.filterMap fun texts => texts[position]?)

/-- The lines of a table: its headings and its rows. -/
def lines (t : Table) : Except Fault (List String) := do
  return (List.range (t.rows.length + 1)).map (lineAt (← t.columns))

/-- A table as text, with words in place of one without rows. -/
def textOr (t : Table) (empty : String) : Except Fault String := do
  if t.rows.isEmpty then return empty
  return String.intercalate "\n" (← t.lines)

end Table

end ScenarioMargin
