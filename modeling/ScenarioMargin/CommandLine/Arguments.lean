/-
ScenarioMargin/CommandLine/Arguments.lean

Reading a command line.  Options come before the command; the first word that
is no option is the command, and all words after it are the command's own.  A
long option may be shortened as long as it stays clear, and short ones may
share one word.  No option takes a value, so what else stands in an option's
word is refused.  Two dashes end the options, and words that fit nowhere are
collected and refused at the end.
-/
import ScenarioMargin.Text.Digit
import ScenarioMargin.Text.Quoted

namespace ScenarioMargin.CommandLine

/-- What an option asks for. -/
inductive Flag where
  | help
  | verbose
  deriving DecidableEq, Repr

/-- The commands. -/
inductive Command where
  | estimate
  | scenarios
  | describe
  deriving DecidableEq, Repr

/-- All commands. -/
def Command.all : List Command := [.estimate, .scenarios, .describe]

/-- The word for a command. -/
def Command.name : Command → String
  | .estimate => "estimate"
  | .scenarios => "scenarios"
  | .describe => "describe"

/-- The spellings of the options before a command. -/
def mainOptions : List (String × Flag) :=
  [("-h", .help), ("--help", .help), ("-v", .verbose), ("--verbose", .verbose)]

/-- The spellings of the options after a command. -/
def commandOptions : List (String × Flag) :=
  [("-h", .help), ("--help", .help)]

/-- Both spellings of an option. -/
def Flag.spellings : Flag → String
  | .help => "-h/--help"
  | .verbose => "-v/--verbose"

/-- The option with a spelling. -/
def flag? (options : List (String × Flag)) (spelling : String) : Option Flag :=
  (options.find? fun o => o.1 == spelling).map Prod.snd

/-! ### Words -/

/-- What follows an option in its own word: nothing, or the rest of the word
behind a short or a long spelling.  An equals sign right behind the spelling is
no part of that rest. -/
inductive Tail where
  | nothing
  | short (rest : List Char)
  | long (rest : List Char)
  deriving DecidableEq, Repr

/-- A word of a command line. -/
inductive Word where
  | operand (s : String)
  | option (flag : Flag) (tail : Tail)
  | unknown (s : String)
  | divider
  deriving DecidableEq, Repr

/-- Digits of any script, at least `least` of them. -/
def allDigits (least : Nat) (cs : List Char) : Bool :=
  least ≤ cs.length && cs.all fun c => (Text.digitValue? c).isSome

/-- Whether the characters after a dash make a negative number. -/
def isNumber (cs : List Char) : Bool :=
  let body := if cs.getLast? = some '\n' then cs.dropLast else cs
  allDigits 1 body || (allDigits 0 (body.takeWhile (· != '.'))
    && (body.dropWhile (· != '.')).head? =
      some '.' && allDigits 1 ((body.dropWhile (· != '.')).drop 1))

/-- A word that is no known option: a number or a word with a space is an
operand. -/
def otherWord (s : String) : Word :=
  if isNumber (s.toList.drop 1) || s.toList.contains ' ' then .operand s
  else .unknown s

/-- The part of a word before its first equals sign, and the part behind it. -/
def splitValue (cs : List Char) : List Char × Option (List Char) :=
  match cs.dropWhile (· != '=') with
  | [] => (cs, none)
  | _ :: value => (cs.takeWhile (· != '='), some value)

/-- Whether a word begins with two dashes. -/
def isLong (cs : List Char) : Bool :=
  ['-', '-'].isPrefixOf cs

/-- What follows an option, given the part of its word behind an equals sign. -/
def tailOf (isLongWord : Bool) : Option (List Char) → Tail
  | none => .nothing
  | some value => if isLongWord then .long value else .short value

/-- The options that a shortened long option may stand for. -/
def candidates (options : List (String × Flag)) (short : List Char) :
    List (String × Flag) :=
  options.filter fun o => short.isPrefixOf o.1.toList

/-- Why a word is not clear. -/
def unclear (s : String) (found : List (String × Flag)) : String :=
  let spellings := String.intercalate ", " (found.map Prod.fst)
  s!"ambiguous option: {s} could match {spellings}"

/-- A word that begins with two dashes and is no spelling of an option. -/
def longWord (options : List (String × Flag)) (s : String) : Except String Word :=
  let parts := splitValue s.toList
  match candidates options parts.1 with
  | [] => .ok (otherWord s)
  | [o] => .ok (.option o.2 (tailOf true parts.2))
  | found => .error (unclear s found)

/-- A word that begins with one dash and is no spelling of an option. -/
def shortWord (options : List (String × Flag)) (s : String) : Word :=
  match flag? options (String.ofList (s.toList.take 2)) with
  | some f => .option f (.short (s.toList.drop 2))
  | none => otherWord s

/-- A word that begins with a dash. -/
def dashWord (options : List (String × Flag)) (s : String) : Except String Word :=
  match flag? options s with
  | some f => .ok (.option f .nothing)
  | none =>
    let parts := splitValue s.toList
    match flag? options (String.ofList parts.1) with
    | some f => .ok (.option f (tailOf (isLong s.toList) parts.2))
    | none =>
      if s == "-" then .ok (.operand s)
      else if isLong s.toList then longWord options s
      else .ok (shortWord options s)

/-- The words of a command line; behind two dashes all words are operands. -/
def words (options : List (String × Flag)) : List String → Except String (List Word)
  | [] => .ok []
  | s :: rest =>
    if s == "--" then .ok (.divider :: rest.map .operand)
    else do
      let word ← if s.toList.head? = some '-' then dashWord options s
        else .ok (.operand s)
      return word :: (← words options rest)

/-! ### Options that share a word -/

/-- Why what follows an option in its own word is refused. -/
def tailRefused (f : Flag) (rest : List Char) : String :=
  let spellings := f.spellings
  let shown := Text.quoted (String.ofList rest)
  s!"argument {spellings}: ignored explicit argument {shown}"

/-- The options of a word in which letters follow an option; each letter has to
be a short option too. -/
def sharedWord (options : List (String × Flag)) (f : Flag) :
    List Char → Except String (List Flag)
  | [] => .ok [f]
  | c :: rest =>
    match flag? options (String.ofList ['-', c]) with
    | none => .error (tailRefused f (c :: rest))
    | some g => (sharedWord options g rest).map (f :: ·)

/-- The options of a word.  An equals sign with nothing behind it is refused as
well. -/
def flagsOf (options : List (String × Flag)) (f : Flag) :
    Tail → Except String (List Flag)
  | .nothing => .ok [f]
  | .short [] => .error (tailRefused f [])
  | .short rest => sharedWord options f rest
  | .long rest => .error (tailRefused f rest)

/-! ### Command lines -/

/-- What a command line asks for. -/
inductive Request where
  /-- a help text, of a command or of the program -/
  | help (command : Option Command)
  /-- nothing, since the words are refused, by a command or by the program -/
  | refused (command : Option Command) (reason : String)
  /-- a command for the document at a path -/
  | run (verbose : Bool) (command : Command) (path : String)
  deriving DecidableEq, Repr

/-- Refuses words that fit nowhere, if there are any. -/
def orUnrecognised (extras : List String) (request : Request) : Request :=
  if extras.isEmpty then request
  else .refused none ("unrecognized arguments: " ++ String.intercalate " " extras)

/-- Reads the words behind a command.  The first argument after the verbosity
is the path found so far, the next one holds the words that fit nowhere.  Two
dashes right before or behind the path are no word of their own. -/
def readCommand (command : Command) (verbose : Bool) :
    Option String → List String → List Word → Request
  | none, _, [] =>
    .refused (some command) "the following arguments are required: config"
  | some path, extras, [] => orUnrecognised extras (.run verbose command path)
  | none, extras, .operand s :: .divider :: rest =>
    readCommand command verbose (some s) extras rest
  | none, extras, .divider :: .operand s :: rest =>
    readCommand command verbose (some s) extras rest
  | none, extras, .operand s :: rest =>
    readCommand command verbose (some s) extras rest
  | some path, extras, .operand s :: rest =>
    readCommand command verbose (some path) (extras ++ [s]) rest
  | path, extras, .divider :: rest =>
    readCommand command verbose path (extras ++ ["--"]) rest
  | path, extras, .unknown s :: rest =>
    readCommand command verbose path (extras ++ [s]) rest
  | path, extras, .option f tail :: rest =>
    match flagsOf commandOptions f tail with
    | .error reason => .refused (some command) reason
    | .ok flags =>
      if flags.contains .help then .help (some command)
      else readCommand command verbose path extras rest

/-- The command with a name. -/
def command? (name : String) : Option Command :=
  Command.all.find? fun c => c.name == name

/-- Why a name is no command. -/
def noCommand (name : String) : String :=
  let shown := Text.quoted name
  let choices :=
    String.intercalate ", " (Command.all.map fun c => Text.quoted c.name)
  s!"argument cmd: invalid choice: {shown} (choose from {choices})"

/-- Reads a command and the words behind it. -/
def readFrom (verbose : Bool) (extras : List String) (name : String)
    (arguments : List String) : Request :=
  match command? name with
  | none => .refused none (noCommand name)
  | some command =>
    match words commandOptions arguments with
    | .error reason => .refused (some command) reason
    | .ok ws => readCommand command verbose none extras ws

/-- Reads the words before a command, of which `arguments` are the spellings. -/
def readMain (verbose : Bool) (extras : List String) : List Word → List String →
    Request
  | [], _ => orUnrecognised extras (.help none)
  | .operand s :: _, arguments => readFrom verbose extras s (arguments.drop 1)
  | .divider :: rest, arguments =>
    if rest.isEmpty then orUnrecognised (extras ++ ["--"]) (.help none)
    else readFrom verbose extras "--" (arguments.drop 1)
  | .unknown s :: rest, arguments =>
    readMain verbose (extras ++ [s]) rest (arguments.drop 1)
  | .option f tail :: rest, arguments =>
    match flagsOf mainOptions f tail with
    | .error reason => .refused none reason
    | .ok flags =>
      if flags.contains .help then .help none
      else readMain (verbose || flags.contains .verbose) extras rest
        (arguments.drop 1)

/-- What the words of a command line ask for. -/
def request (arguments : List String) : Request :=
  match words mainOptions arguments with
  | .error reason => .refused none reason
  | .ok ws => readMain false [] ws arguments

end ScenarioMargin.CommandLine
