/-
ScenarioMargin/Main.lean

The program itself: reads the file that a command names, does what the command
line asks for, and writes the texts out.  Files hold one value, written as
JSON.
-/
import ScenarioMargin.CommandLine
import ScenarioMargin.Value.Json
import Std.Time.DateTime.Timestamp

namespace ScenarioMargin.CommandLine

/-- The value in the file at a path; a file of blanks holds nothing. -/
def readValueAt (path : String) : IO (Option Value) := do
  try
    let content ← IO.FS.readFile path
    if content.trimAscii.isEmpty then return some .null
    match Json.read? content with
    | some v => return some v
    | none => throw (IO.userError "the file holds no value")
  catch
    | .noFileOrDirectory .. => return none
    | e => throw e

/-- The value in the file that a request names, if it names one. -/
def requestedValue : Request → IO (Option Value)
  | .run _ _ path => readValueAt path
  | _ => return none

/-- The seconds of the wall clock. -/
def wallClock : IO Value := do
  let instant ← Std.Time.Timestamp.now
  return .whole instant.toSecondsSinceUnixEpoch.val

/-- Runs the program on the words of a command line and gives its exit
status. -/
def start (arguments : List String) : IO UInt32 := do
  let content ← requestedValue (request arguments)
  match run blackScholes (← wallClock) (fun _ => content) arguments with
  | .ok outcome =>
    IO.print outcome.output
    IO.eprint outcome.errors
    return UInt32.ofNat outcome.status
  | .error _ =>
    IO.eprintln "The command could not be carried out."
    return 1

end ScenarioMargin.CommandLine

/-- The program. -/
def main (arguments : List String) : IO UInt32 :=
  ScenarioMargin.CommandLine.start arguments
