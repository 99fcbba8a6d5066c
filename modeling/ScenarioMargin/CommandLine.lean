/-
ScenarioMargin/CommandLine.lean

The program as it is run from a command line: what it prints, what it writes to
the journal, and its exit status.

A fault that has a message ends a command with status 1 and its message in the
journal.  Any other fault is left to the caller.
-/
import ScenarioMargin.CommandLine.Arguments
import ScenarioMargin.Journal
import ScenarioMargin.Report

namespace ScenarioMargin.CommandLine

/-- What a run of the program leaves behind. -/
structure Outcome where
  status : Nat
  output : String
  errors : String
  deriving DecidableEq, Repr

/-! ### Texts about the program -/

/-- The name of the program. -/
def program : String := "rfq-collateral"

/-- The names of all commands, as they stand in a usage line. -/
def choices : String :=
  "\x7b" ++ String.intercalate "," (Command.all.map Command.name) ++ "\x7d"

/-- What a command does. -/
def Command.purpose : Command → String
  | .estimate => "Required collateral for each case in a YAML config"
  | .scenarios => "Shock scenarios evaluated per base asset"
  | .describe => "Summarise a YAML config"

/-- The program with its command, if there is one. -/
def title : Option Command → String
  | none => program
  | some c => program ++ " " ++ c.name

/-- The usage line. -/
def usage (command : Option Command) : String :=
  let title := title command
  match command with
  | none => s!"usage: {title} [-h] [-v] {choices} ...\n"
  | some _ => s!"usage: {title} [-h] config\n"

/-- A word and its explanation, the explanation starting at a column. -/
def explained (indent column : Nat) (word text : String) : String :=
  let start := String.ofList (List.replicate indent ' ') ++ word
  start ++ String.ofList (List.replicate (column - start.length) ' ') ++
    text ++ "\n"

/-- The help text of a command or of the program. -/
def help (command : Option Command) : String :=
  match command with
  | none =>
    usage command ++
      "\nRFQ collateral estimator\n\npositional arguments:\n  " ++
      choices ++ "\n" ++
      String.join (Command.all.map fun c => explained 4 24 c.name c.purpose)
      ++ "\noptions:\n" ++
        explained 2 24 "-h, --help" "show this help message and exit"
      ++ explained 2 24 "-v, --verbose" "Debug logging"
  | some _ =>
    usage command ++ "\npositional arguments:\n" ++
      explained 2 14 "config" "Path to .yaml config file" ++ "\noptions:\n" ++
      explained 2 14 "-h, --help" "show this help message and exit"

/-- Why words were refused, under the usage line. -/
def refusal (command : Option Command) (reason : String) : String :=
  let title := title command
  usage command ++ s!"{title}: error: {reason}\n"

/-! ### Commands -/

/-- The text that an estimate prints. -/
def estimateText (live : LiveModel) (clock : Value) (d : Document) :
    Except Fault String := do
  Report.ofEvaluation d.name
    (← (d.estimator clock).evaluate live d.legs d.cases (.whole d.period))

/-- The text that the command for scenarios prints. -/
def scenariosText (d : Document) : Except Fault String := do
  let estimator := d.estimator .null
  let positions ← estimator.positions d.legs
  let infos ← estimator.assets positions
  Report.ofScenarios d.name
    (← Sheet.ofScenarios positions infos d.categories (.whole d.period))

/-- The text that a command prints about a document. -/
def Command.text (live : LiveModel) (clock : Value) (d : Document) :
    Command → Except Fault String
  | .estimate => estimateText live clock d
  | .scenarios => scenariosText d
  | .describe => Report.ofDocument d

/-- The journal of a command about a document. -/
def Command.journal (live : LiveModel) (clock : Value) (d : Document) :
    Command → List Entry
  | .estimate =>
    Journal.loaded d ++ Journal.ofEvaluation live
      (d.estimator clock) d.legs d.cases (.whole d.period)
  | .scenarios =>
    Journal.loaded d ++
      Journal.ofScenarios (d.estimator .null) d.legs (.whole d.period)
  | .describe => Journal.loaded d

/-- The document in a file's value; a file that holds nothing sets nothing. -/
def documentIn (v : Value) : Except Fault Document :=
  Document.ofValue (if v.isNothing then .record [] else v)

/-- The lines of entries. -/
def lines (entries : List Entry) : String :=
  String.join (entries.map Entry.line)

/-- What a command leaves behind that printed a text or failed, after its
journal. -/
def outcome (verbose : Bool) (entries : List Entry) : Except Fault String →
    Except Fault Outcome
  | .ok text => .ok ⟨0, text ++ "\n", if verbose then lines entries else ""⟩
  | .error e =>
    match e.message? with
    | some message =>
      .ok ⟨1, "",
        lines ((if verbose then entries else []) ++ [Journal.failed message])⟩
    | none => .error e

/-- Runs a command on the value in its file. -/
def perform (live : LiveModel) (clock : Value) (verbose : Bool)
    (command : Command) (v : Value) : Except Fault Outcome :=
  match documentIn v with
  | .error e => outcome verbose [] (.error e)
  | .ok d =>
    outcome verbose (command.journal live clock d) (command.text live clock d)

/-- Does what a command line asks for; `file` is the value in the file at a
path, if there is one. -/
def run (live : LiveModel) (clock : Value) (file : String → Option Value)
    (arguments : List String) : Except Fault Outcome :=
  match request arguments with
  | .help command => .ok ⟨0, help command, ""⟩
  | .refused command reason => .ok ⟨2, "", refusal command reason⟩
  | .run verbose command path =>
    match file path with
    | some v => perform live clock verbose command v
    | none => .error .noDocument

end ScenarioMargin.CommandLine
