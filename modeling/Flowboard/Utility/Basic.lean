import Flowboard.Files.System
import Flowboard.Host.Basic
import Flowboard.Text.Integer
import Flowboard.Utility.Pipe

/-! Small programs: what they are called with, the options among it, which start with a hyphen, and what
they do. -/
namespace Flowboard.Utility

def hiddenEscape (c : Char) : List Char :=
  match c with
  | '\x07' => ['\\', 'a']
  | '\x08' => ['\\', 'b']
  | '\t' => ['\\', 't']
  | '\n' => ['\\', 'n']
  | '\x0b' => ['\\', 'v']
  | '\x0c' => ['\\', 'f']
  | '\r' => ['\\', 'r']
  | c =>
    let n := c.toNat
    let digit (k : Nat) : Char := Char.ofNat (48 + k % 8)
    ['\\', digit (n / 64), digit (n / 8), digit n]

def isHidden (c : Char) : Bool :=
  c.toNat < 32 || 126 < c.toNat

/-- The parts of a name between quotes; hidden characters stand between quotes of their own. -/
def quotedParts : Bool → List Char → List Char
  | false, [] => ['\'']
  | true, [] => ['\'']
  | false, c :: rest =>
    if isHidden c then "'$'".toList ++ hiddenEscape c ++ quotedParts true rest
    else if c = '\'' then "'\\''".toList ++ quotedParts false rest
    else c :: quotedParts false rest
  | true, c :: rest =>
    if isHidden c then hiddenEscape c ++ quotedParts true rest
    else if c = '\'' then "''\\''".toList ++ quotedParts false rest
    else '\'' :: '\'' :: c :: quotedParts false rest

def quotedName (s : String) : String :=
  let cs := s.toList
  let special (c : Char) : Bool := "\"$`\\!".toList.contains c || isHidden c
  if cs.contains '\'' && !cs.any special then "\"" ++ s ++ "\""
  else "'" ++ String.ofList (quotedParts false cs)

/-- Whether a name means something else to a shell. -/
def needsQuotes (s : String) : Bool :=
  let cs := s.toList
  cs.isEmpty || s == "\x7b" || s == "\x7d" ||
    cs.any (fun c => " !\"$&()*;<=>?[\\^`|':".toList.contains c || isHidden c) ||
    cs.head? == some '#' || cs.head? == some '~'

/-- A name, in quotes only if it needs them. -/
def plainName (s : String) : String :=
  if needsQuotes s then quotedName s else s

/-- A call of a program by its name. In its arguments every character stands for one byte. -/
structure Call where
  name : String
  args : List String
  input : Pipe
  files : FileSystem
  environment : Table String

def Call.withArgs (c : Call) (args : List String) : Call :=
  { c with args }

/-- What a program does. One whose output has no end does not end. -/
structure Effect where
  output : Pipe := .empty
  errors : List Char := []
  status : Status := .success
  millis : Nat := 0
  /-- the files afterwards, if they have changed -/
  files : Option FileSystem := none
  /-- it has waited for its input to end -/
  waited : Bool := false

def Effect.writing (text : List Char) : Effect :=
  { output := .of text }

def Effect.stuck : Effect :=
  { output := { text := [], tail := .hangs } }

/-- Fails with a message after the name of the program. -/
def Call.fails (c : Call) (status : Int) (message : String) : Effect :=
  { errors := (c.name ++ ": " ++ message ++ "\n").toList, status := .ofInt status }

/-- Fails because of the arguments. -/
def Call.misused (c : Call) (status : Int) (message : String) : Effect :=
  { errors := (c.name ++ ": " ++ message ++ "\nTry '" ++ c.name ++
      " --help' for more information.\n").toList
    status := .ofInt status }

/-- One effect after another; the last failure counts. -/
def Effect.followed (a b : Effect) : Effect :=
  { output := a.output.append b.output
    errors := a.errors ++ b.errors
    status := if b.status = .success then a.status else b.status
    millis := a.millis + b.millis
    files := b.files.or a.files
    waited := a.waited || b.waited }

def fileSource (fs : FileSystem) (path : String) : Except FileError Pipe :=
  match fs.find path with
  | .ok (.device _) => .ok { text := [], tail := .repeats ['\x00'] }
  | .ok (.file bytes) => .ok { text := Text.octets bytes, sized := true }
  | _ => .error .loop

def inputPaths : List String :=
  ["/dev/stdin", "/dev/fd/0", "/proc/self/fd/0"]

def isInput (operand : String) : Bool :=
  operand = "-" || inputPaths.contains operand

/-- What comes from an operand, for which `-` stands for the input. -/
def Call.source (c : Call) (operand : String) : Except FileError Pipe :=
  if isInput operand then .ok c.input else fileSource c.files operand

/-- The operands, or the input alone if there are none. -/
def inputsOr (operands : List String) : List String :=
  if operands.isEmpty then ["-"] else operands

/-- Whether the input is one of the operands. -/
def Call.waits (_ : Call) (operands : List String) : Bool :=
  (inputsOr operands).any isInput

/-- Works on each operand in turn; one that cannot be read is a failure with a message. -/
def Call.each (c : Call) (operands : List String) (status : Int) (describe : String → String)
    (work : String → Pipe → Effect) : Effect :=
  let effects := (inputsOr operands).map fun operand =>
    match c.source operand with
    | .ok p => work operand p
    | .error e => c.fails status (describe operand ++ ": " ++ e.reason)
  { effects.foldl Effect.followed {} with waited := c.waits operands }

/-- Works on all operands one after the other as one text. -/
def Call.together (c : Call) (operands : List String) (status : Int) (describe : String → String)
    (work : Pipe → Effect) : Effect :=
  let (text, failure) := (inputsOr operands).foldl (fun (text, failure) operand =>
    match c.source operand with
    | .ok p => (Pipe.append text p, failure)
    | .error e =>
      (text, Effect.followed failure (c.fails status (describe operand ++ ": " ++ e.reason))))
    (Pipe.empty, ({} : Effect))
  { failure.followed (work text) with waited := c.waits operands }

/-- Applies a function to all of a text that has to end. -/
def Effect.ofAll (p : Pipe) (f : List Char → List Char) : Effect :=
  match p.all? with
  | some text => .writing (f text)
  | none => .stuck

/-- The options of a program: letters, letters with a value, and long names for letters. -/
structure OptionTable where
  flags : List Char := []
  valued : List Char := []
  /-- letters whose value, if they have one, is attached to them -/
  optional : List Char := []
  long : List (String × Char) := []

/-- Options as they were given, with their values, and the other arguments. -/
structure Options where
  given : List (Char × String) := []
  operands : List String := []

abbrev OptionFault := String

namespace Options

def has (o : Options) (c : Char) : Bool :=
  o.given.any fun g => g.1 == c

def value? (o : Options) (c : Char) : Option String :=
  (o.given.reverse.find? fun g => g.1 == c).map (·.2)

def values (o : Options) (c : Char) : List String :=
  (o.given.filter fun g => g.1 == c).map (·.2)

/-- Reads the letters of one argument. The value of a letter is the rest of the argument or the
next one. -/
def readLetters (t : OptionTable) :
    List Char → List String → Except OptionFault (List (Char × String) × List String)
  | [], args => .ok ([], args)
  | c :: cs, args =>
    if t.flags.contains c then
      match readLetters t cs args with
      | .ok (given, args) => .ok ((c, "") :: given, args)
      | .error e => .error e
    else if t.valued.contains c then
      match cs, args with
      | [], value :: args => .ok ([(c, value)], args)
      | [], [] => .error ("option requires an argument -- '" ++ c.toString ++ "'")
      | cs, args => .ok ([(c, String.ofList cs)], args)
    else if t.optional.contains c then .ok ([(c, String.ofList cs)], args)
    else .error ("invalid option -- '" ++ c.toString ++ "'")

/-- The letter of a long name, which may be cut short as long as it stands for one option only. -/
def letterOf (t : OptionTable) (name : String) : Except OptionFault (String × Char) :=
  match t.long.find? (·.1 == name) with
  | some found => .ok found
  | none =>
    match t.long.filter (·.1.startsWith name) with
    | [] => .error ("unrecognized option '--" ++ name ++ "'")
    | found :: others =>
      if others.all (·.2 == found.2) then .ok found
      else
        .error ("option '--" ++ name ++ "' is ambiguous; possibilities:" ++
          String.join ((found :: others).map fun (n, _) => " '--" ++ n ++ "'"))

def readLong (t : OptionTable) (arg : List Char) (args : List String) :
    Except OptionFault (List (Char × String) × List String) :=
  let name := String.ofList (arg.takeWhile (· != '='))
  let value? := match arg.dropWhile (· != '=') with
    | [] => none
    | _ :: value => some (String.ofList value)
  match letterOf t name with
  | .error e => .error (if e.startsWith "unrecognized" then
      "unrecognized option '--" ++ String.ofList arg ++ "'" else e)
  | .ok (name, c) =>
    if t.valued.contains c then
      match value?, args with
      | some value, args => .ok ([(c, value)], args)
      | none, value :: args => .ok ([(c, value)], args)
      | none, [] => .error ("option '--" ++ name ++ "' requires an argument")
    else if t.optional.contains c then .ok ([(c, value?.getD "")], args)
    else
      match value? with
      | some _ => .error ("option '--" ++ name ++ "' doesn't allow an argument")
      | none => .ok ([(c, "")], args)

/-- Reads arguments, of which options may stand after operands. Each one uses up one of the fuel. -/
def readFrom (t : OptionTable) (mixed : Bool) :
    Nat → List String → Except OptionFault Options
  | 0, args => .ok { operands := args }
  | _, [] => .ok {}
  | fuel + 1, arg :: args =>
    let after (r : Except OptionFault (List (Char × String) × List String)) :
        Except OptionFault Options :=
      match r with
      | .error e => .error e
      | .ok (given, args) =>
        (readFrom t mixed fuel args).map fun o => { o with given := given ++ o.given }
    match arg.toList with
    | ['-', '-'] => .ok { operands := args }
    | '-' :: '-' :: name => after (readLong t name args)
    | '-' :: c :: cs => after (readLetters t (c :: cs) args)
    | _ =>
      if mixed then
        (readFrom t mixed fuel args).map fun o => { o with operands := arg :: o.operands }
      else .ok { operands := arg :: args }

end Options

def Call.withOptionsOr (c : Call) (status : Int) (t : OptionTable) (work : Options → Effect) :
    Effect :=
  match Options.readFrom t true (c.args.length + 1) c.args with
  | .ok o => work o
  | .error e => c.misused status e

def Call.withOptions (c : Call) (t : OptionTable) (work : Options → Effect) : Effect :=
  c.withOptionsOr 1 t work

end Flowboard.Utility
