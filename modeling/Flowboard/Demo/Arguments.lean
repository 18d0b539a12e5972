import Flowboard.Double.Basic
import Flowboard.Order.Strategy
import Flowboard.Text.Integer
import Flowboard.Text.Symbol
import Flowboard.Text.Terminal

/-! The arguments of the demonstration. -/
namespace Flowboard.Demo

/-- An option; each has a value. -/
inductive Flag where
  | workflow
  | save
  | interpreter
  | timeoutSecs
  | ordering
  deriving DecidableEq, Repr

def Flag.name : Flag → String
  | workflow => "--workflow"
  | save => "--save"
  | interpreter => "--interpreter"
  | timeoutSecs => "--timeout-secs"
  | ordering => "--ordering"

/-- An option with the name of its value. -/
def Flag.usage : Flag → String
  | workflow => "--workflow <WORKFLOW>"
  | save => "--save <SAVE>"
  | interpreter => "--interpreter <INTERPRETER>"
  | timeoutSecs => "--timeout-secs <TIMEOUT_SECS>"
  | ordering => "--ordering <ORDERING>"

def Flag.ofName? (name : String) : Option Flag :=
  [Flag.workflow, .save, .interpreter, .timeoutSecs, .ordering].find? (·.name == name)

/-- What is wrong with the arguments. -/
inductive UsageError where
  | unexpected (argument : String)
  | missingValue (flag : Flag)
  | repeated (flag : Flag)
  | invalidValue (value : String) (flag : Flag) (reason : String)
  /-- a request for help has a value -/
  | excessValue (value : String)
  deriving DecidableEq, Repr

/-- A part of a message in a colour, after which a terminal goes back to its own. -/
def coloured (s : String) : String :=
  "\x1b[33m" ++ s ++ "\x1b[0m"

/-- What is wrong, for a terminal. -/
def UsageError.colouredCause : UsageError → String
  | unexpected argument => "error: unexpected argument '" ++ coloured argument ++ "' found"
  | missingValue flag =>
    "error: a value is required for '" ++ coloured flag.usage ++ "' but none was supplied"
  | repeated flag =>
    "error: the argument '" ++ coloured flag.usage ++ "' cannot be used multiple times"
  | invalidValue value flag reason =>
    "error: invalid value '" ++ coloured value ++ "' for '" ++ coloured flag.usage ++ "': " ++ reason
  | excessValue value =>
    "error: unexpected value '" ++ coloured value ++ "' for '" ++ coloured "--help" ++
      "' found; no more were expected"

/-- The message for a terminal, which ends with a hint. -/
def UsageError.colouredMessage (e : UsageError) : String :=
  e.colouredCause ++ "\n\nFor more information, try '" ++ coloured "--help" ++ "'."

/-- The message as it is written where there is no terminal. -/
def UsageError.message (e : UsageError) : String :=
  Text.decodeLossy (Text.plainBytes (Text.encode e.colouredMessage))

/-- The values that have been given. -/
structure Given where
  workflow : Option String := none
  save : Option String := none
  interpreter : Option String := none
  timeoutSecs : Option Nat := none
  ordering : Option Strategy := none
  deriving DecidableEq, Repr

namespace Given

/-- Whether an option has a value. -/
def has (g : Given) : Flag → Bool
  | .workflow => g.workflow.isSome
  | .save => g.save.isSome
  | .interpreter => g.interpreter.isSome
  | .timeoutSecs => g.timeoutSecs.isSome
  | .ordering => g.ordering.isSome

/-- Reads the value of an option. Paths are not empty, and a time limit is at least one second. -/
def setValue (g : Given) (flag : Flag) (value : String) : Except UsageError Given :=
  match flag with
  | .workflow =>
    if value = "" then .error (.missingValue flag) else .ok { g with workflow := some value }
  | .save =>
    if value = "" then .error (.missingValue flag) else .ok { g with save := some value }
  | .interpreter => .ok { g with interpreter := some value }
  | .timeoutSecs =>
    match Text.readUnsigned (twoTo 64) value.toList with
    | .error e => .error (.invalidValue value flag e.message)
    | .ok 0 => .error (.invalidValue value flag "0 is not in 1..18446744073709551615")
    | .ok n => .ok { g with timeoutSecs := some n }
  | .ordering =>
    match Strategy.ofName value with
    | .error e => .error (.invalidValue value flag e.message)
    | .ok s => .ok { g with ordering := some s }

/-- Takes an option with its value. That there is a value is looked at first, then that there was
none before, and then the value. -/
def take (g : Given) (flag : Flag) : Option String → Except UsageError Given
  | none => .error (.missingValue flag)
  | some value => if g.has flag then .error (.repeated flag) else g.setValue flag value

end Given

/-- An option whose value is taken when the next option comes, and the value if there is one. -/
structure Pending where
  flag : Flag
  value : Option String
  deriving DecidableEq, Repr

/-- Takes the option that is pending, if there is one. -/
def settle (g : Given) : Option Pending → Except UsageError Given
  | none => .ok g
  | some p => g.take p.flag p.value

/-- An argument by its form. -/
inductive Form where
  /-- two hyphens alone, after which no options follow -/
  | divider
  | long (name : String) (value : Option String)
  | short (letter : Char)
  | plain
  deriving DecidableEq, Repr

def Form.of (argument : String) : Form :=
  match argument.toList with
  | ['-', '-'] => .divider
  | '-' :: '-' :: s =>
    let name := s.takeWhile (· != '=')
    let value := match s.drop name.length with
      | _ :: v => some (String.ofList v)
      | [] => none
    .long (String.ofList ('-' :: '-' :: name)) value
  | '-' :: c :: _ => .short c
  | _ => .plain

/-- The option that waits for its value. -/
def awaiting? : Option Pending → Option Flag
  | some ⟨flag, none⟩ => some flag
  | _ => none

/-- What arguments ask for: help, or a run with values. -/
inductive Wish where
  | help
  | values (g : Given)
  deriving DecidableEq, Repr

/-- Reads arguments. An unknown one is reported at once, before a value that is pending is looked
at, and so is a value for the request for help; a value after an equals sign is taken at once. -/
def parseFrom (g : Given) (pending : Option Pending) (divided : Bool) :
    List String → Except UsageError Wish
  | [] => (settle g pending).map .values
  | argument :: rest =>
    if divided then .error (.unexpected argument)
    else
      match Form.of argument with
      | .divider => parseFrom g pending true rest
      | .short 'h' | .long "--help" none => (settle g pending).map fun _ => .help
      | .long "--help" (some value) => .error (.excessValue value)
      | .short c => .error (.unexpected (String.ofList ['-', c]))
      | .long name value =>
        match Flag.ofName? name with
        | none => .error (.unexpected name)
        | some flag =>
          match settle g pending with
          | .error e => .error e
          | .ok g =>
            match value with
            | none => parseFrom g (some ⟨flag, none⟩) false rest
            | some v =>
              match g.take flag (some v) with
              | .error e => .error e
              | .ok g => parseFrom g none false rest
      | .plain =>
        match awaiting? pending with
        | some flag => parseFrom g (some ⟨flag, some argument⟩) false rest
        | none => .error (.unexpected argument)

/-- What the demonstration is asked to do. -/
structure Arguments where
  workflow : Option String
  save : Option String
  interpreter : String
  timeoutSecs : Nat
  ordering : Strategy
  deriving DecidableEq, Repr

/-- What a command line asks for. -/
inductive Request where
  | help
  | present (a : Arguments)
  deriving DecidableEq, Repr

/-- What the arguments of a command line ask for, with the defaults of those that are not given. -/
def Request.parse (args : List String) : Except UsageError Request :=
  match parseFrom {} none false args with
  | .error e => .error e
  | .ok .help => .ok .help
  | .ok (.values g) =>
    .ok (.present ⟨g.workflow, g.save, g.interpreter.getD "python3", g.timeoutSecs.getD 30,
      g.ordering.getD .spatial⟩)

/-- What the options mean. -/
def helpText : String :=
  String.join (
    ["Compile and run an AgentBlocks workflow\n\n", "Usage: agentblocks-demo [OPTIONS]\n\n",
     "Options:\n"] ++
    [("    ", Flag.usage .workflow,
      "Workflow document to run instead of the built-in demo workflow"),
     ("    ", Flag.usage .save, "Write the workflow document here after running"),
     ("    ", Flag.usage .interpreter,
      "Interpreter binary used to run the generated code [default: python3]"),
     ("    ", Flag.usage .timeoutSecs,
      "Seconds before the generated program is killed [default: 30]"),
     ("    ", Flag.usage .ordering, "Node ordering: spatial or dependency [default: spatial]"),
     ("-h, ", "--help", "Print help")].map fun (short, long, meaning) =>
      "  " ++ short ++ long ++ String.ofList (List.replicate (31 - long.length) ' ') ++ meaning ++
        "\n")

end Flowboard.Demo
