import Flowboard.Shell.Expansion
import Flowboard.Utility.Condition

/-! Commands that are part of the shell and change its own state, and those that only the extended
shell has. -/
namespace Flowboard.Shell

def signalNumbers : List (String × Nat) :=
  [("EXIT", 0), ("HUP", 1), ("INT", 2), ("QUIT", 3), ("ILL", 4), ("TRAP", 5), ("ABRT", 6),
   ("BUS", 7), ("FPE", 8), ("KILL", 9), ("USR1", 10), ("SEGV", 11), ("USR2", 12), ("PIPE", 13),
   ("ALRM", 14), ("TERM", 15), ("STKFLT", 16), ("CHLD", 17), ("CONT", 18), ("STOP", 19),
   ("TSTP", 20), ("TTIN", 21), ("TTOU", 22), ("URG", 23), ("XCPU", 24), ("XFSZ", 25),
   ("VTALRM", 26), ("PROF", 27), ("WINCH", 28), ("IO", 29), ("PWR", 30), ("SYS", 31)]

/-- The names of the signals that mean nothing of their own: those from 34 on are named from the
first one, and those above 49 from the last. -/
def plainSignals : List (String × Nat) :=
  (List.range 16).map (fun i => (if i = 0 then "RTMIN" else "RTMIN+" ++ Text.naturalText i, 34 + i)) ++
  (List.range 15).map fun i =>
    (if i = 14 then "RTMAX" else "RTMAX-" ++ Text.naturalText (14 - i), 50 + i)

def signalName? (n : Nat) : Option String :=
  ((signalNumbers ++ plainSignals).find? fun e => e.2 == n).map (·.1)

/-- The name of a signal that is given by its name or number. -/
def signalOf? (s : String) : Option String :=
  match Text.natural? s.toList with
  | some n => (signalName? n).or (if n < 65 then some (Text.naturalText n) else none)
  | none =>
    let name := s.toUpper
    let name := if name.startsWith "SIG" then String.ofList (name.toList.drop 3) else name
    if (signalNumbers.lookup name).isSome || (plainSignals.lookup name).isSome || name == "ERR" || name == "DEBUG" || name == "RETURN"
    then some name else none

def signalNumber (name : String) : Nat :=
  ((signalNumbers ++ plainSignals).lookup name).getD ((Text.natural? name.toList).getD 0)

/-- The signals that do nothing unless something is done about them. -/
def harmlessSignals : List String :=
  ["EXIT", "CHLD", "CONT", "URG", "WINCH"]

/-- The signals that stop a process until it is told to go on. -/
def stoppingSignals : List String :=
  ["STOP", "TSTP", "TTIN", "TTOU"]

/-- What is said about a command that a signal has ended. -/
def deathNotice? (signal : Nat) : Option String :=
  match signal with
  | 1 => some "Hangup"
  | 3 => some "Quit"
  | 4 => some "Illegal instruction"
  | 6 => some "Aborted"
  | 8 => some "Floating point exception"
  | 9 => some "Killed"
  | 10 => some "User defined signal 1"
  | 11 => some "Segmentation fault"
  | 12 => some "User defined signal 2"
  | 14 => some "Alarm clock"
  | 15 => some "Terminated"
  | 5 => some "Trace/breakpoint trap"
  | 7 => some "Bus error"
  | 16 => some "Stack fault"
  | 24 => some "CPU time limit exceeded"
  | 25 => some "File size limit exceeded"
  | 26 => some "Virtual timer expired"
  | 27 => some "Profiling timer expired"
  | 29 => some "I/O possible"
  | 30 => some "Power failure"
  | 31 => some "Bad system call"
  | n =>
    if n = 34 then some "Real-time signal 0"
    else if 34 < n && n < 65 then some ("Real-time signal " ++ Text.naturalText (n - 34))
    else none

def signalStatus (signal : Nat) : Status :=
  .ofInt (128 + signal)

namespace State

def optionName? (letter : Char) : Option String :=
  (flagLetters.find? fun e => e.2 == letter).map (·.1)

def setLetters (s : State) (on : Bool) (letters : List Char) : State :=
  letters.foldl (fun s c => match optionName? c with
    | some name => s.setOption name on
    | none => s) s

def setArguments (s : State) : Nat → List String → State
  | 0, _ => s
  | _, [] => s
  | fuel + 1, arg :: args =>
    match arg, arg.toList with
    | "--", _ => { s with process.args := args }
    | "-", _ => if args.isEmpty then s else { s with process.args := args }
    | "-o", _ => (s.setOption (args.headD "") true).setArguments fuel (args.drop 1)
    | "+o", _ => (s.setOption (args.headD "") false).setArguments fuel (args.drop 1)
    | _, '-' :: letters =>
      let s := s.setLetters true letters
      if letters.contains 'o' then
        (s.setOption (args.headD "") true).setArguments fuel (args.drop 1)
      else s.setArguments fuel args
    | _, '+' :: letters => (s.setLetters false letters).setArguments fuel args
    | _, _ => { s with process.args := arg :: args }

/-- The lines that tell all variables. -/
def listing (s : State) (leading : String) (wanted : Variable → Bool) : List Char :=
  s.process.bindings.flatMap fun (name, v) =>
    if wanted v then
      match v.held.bind Held.value? with
      | some t => (leading ++ name ++ "=" ++ quotedText t ++ "\n").toList
      | none => if v.held.isNone && leading ≠ "" then (leading ++ name ++ "\n").toList else []
    else []

/-- The texts before and after the first equals sign. -/
def splitAssignment (arg : String) : String × Option String :=
  let name := arg.toList.takeWhile (· != '=')
  match arg.toList.drop name.length with
  | _ :: value => (.ofList name, some (.ofList value))
  | [] => (arg, none)

def isConstant (s : State) (name : String) : Bool :=
  (s.binding? name).any (·.constant)

/-- Changes what is known of a variable, which need not have a value. -/
def mark (s : State) (name : String) (f : Variable → Variable) : State :=
  let v := f ((s.binding? name).getD {})
  { s with process.bindings := s.process.bindings.insert (s.meant name) v }

/-- Makes a name stand for another one. -/
def refer (s : State) (name : String) (target : Option String) : State :=
  let old := (s.ownBinding? name).getD {}
  let held := match target with
    | some t => some (Held.text t)
    | none => old.held
  { s with process.bindings := s.process.bindings.insert name { old with held, refers := true } }

/-- Keeps the value of a variable for the end of the function. -/
def keep (s : State) (name : String) : State :=
  match s.process.frames with
  | frame :: frames =>
    if frame.any fun e => e.1 == name then s
    else { s with process.frames := ((name, s.ownBinding? name) :: frame) :: frames }
  | [] => s

/-- Gives local variables their values from outside of a function back. -/
def dropFrame (s : State) : State :=
  match s.process.frames with
  | frame :: frames =>
    let s := { s with process.frames := frames }
    frame.foldl (fun s (name, v) =>
      match v with
      | some v => { s with process.bindings := s.process.bindings.insert name v }
      | none =>
        { s with process.bindings := s.process.bindings.filter fun e => e.1 != name }) s
  | [] => s

def declare (s : State) (isLocal : Bool) (f : Variable → Variable) (args : List String) :
    State :=
  args.foldl (fun s arg =>
    let (name, value) := splitAssignment arg
    let (name, appends) := if name.endsWith "+" then (String.ofList name.toList.dropLast, true)
      else (name, false)
    if !isName name.toList then s.failed 1 (arg ++ ": bad variable name")
    else if value.isSome && s.isConstant name then s.failed 1 (name ++ ": is read only")
    else
      let outside := s.binding? name
      let s := if isLocal then s.keep name else s
      let s := if isLocal && s.process.extended then
          let v : Variable := { exported := (s.ownBinding? name).any (·.exported) }
          { s with process.bindings := s.process.bindings.insert name v }
        else s
      let s := if (f {}).upper || (f {}).lower then s.mark name f else s
      let s := match value with
        | some t =>
          let old := if appends then ((outside.bind (·.held)).bind Held.value?).getD "" else ""
          s.set name (old ++ t)
        | none => s
      s.mark name f) (s.withStatus .success)

/-- Takes away variables or functions. -/
def unsetAll (s : State) (args : List String) : State :=
  let functions := args.head? == some "-f"
  let names := args.filter fun a => !a.startsWith "-"
  names.foldl (fun s name =>
    if functions then
      { s with process.functions := s.process.functions.filter fun e => e.1 != name }
    else if s.isConstant name then s.failed 1 (name ++ ": is read only")
    else
      match name.toList.dropWhile (· != '[') with
      | '[' :: index =>
        let base := String.ofList (name.toList.takeWhile (· != '['))
        let key := String.ofList (index.takeWhile (· != ']'))
        match (s.binding? base).bind (·.held) with
        | some (.list es) =>
          let n : Int := match evaluate (scopeOf s.process.extended) key.toList s with
            | .ok (n, _) => n
            | .error _ => -1
          let n := if n < 0 then ((es.getLast?.map fun e => (e.1 : Int) + 1).getD 0) + n else n
          s.hold base (.list (es.filter fun e => (e.1 : Int) != n))
        | some (.table es) => s.hold base (.table (es.filter fun e => e.1 != key))
        | _ => s
      | _ =>
        if (s.binding? name).isNone && s.process.extended then
          { s with process.functions := s.process.functions.filter fun e => e.1 != name }
        else s.unset name) (s.withStatus .success)

/-- The first line of a text, whether a delimiter ends it, and what follows. -/
def takeLine (delimiter : Char) (p : Pipe) : Option (List Char × Bool × Pipe) :=
  let line := p.text.takeWhile (· != delimiter)
  match p.text.drop line.length with
  | _ :: rest => some (line, true, { p with text := rest })
  | [] =>
    match p.tail with
    | .ends => some (line, false, { p with text := [] })
    | .hangs => none
    | .repeats cycle =>
      if cycle.contains delimiter then
        let text := line ++ cycle ++ cycle
        let line := text.takeWhile (· != delimiter)
        let taken := line.length + 1
        -- what is left of the two turns, and then the same turns again
        some (line, true, { p with text := text.drop taken })
      else none

/-- A line in which backslashes count: its characters, and whether each one was protected. -/
def takeEscaped : Nat → Pipe → List (Char × Bool) → Option (List (Char × Bool) × Bool × Pipe)
  | 0, _, _ => none
  | fuel + 1, p, done =>
    match takeLine '\n' p with
    | none => none
    | some (line, complete, rest) =>
      let rec go : List Char → List (Char × Bool) → List (Char × Bool) × Bool
        | [], acc => (acc, false)
        | ['\\'], acc => (acc, true)
        | '\\' :: c :: cs, acc => go cs ((c, true) :: acc)
        | c :: cs, acc => go cs ((c, false) :: acc)
      let (acc, continued) := go line done
      if continued && complete then takeEscaped fuel rest acc
      else some (acc.reverse, complete, rest)

/-- Divides a line among names; the last one gets all that is left. -/
def shareOut (dividers : List Char) : List String → List (Char × Bool) → List (String × String)
  | [], _ => []
  | name :: names, cs =>
    let divides (c : Char × Bool) : Bool := !c.2 && dividers.contains c.1
    let isBlank (c : Char × Bool) : Bool := divides c && isDividingBlank c.1
    let text (cs : List (Char × Bool)) : String := String.ofList (cs.map (·.1))
    let cs := cs.dropWhile isBlank
    let field := cs.takeWhile fun c => !divides c
    let after := (cs.drop field.length).dropWhile isBlank
    let after := match after with
      | c :: rest => if divides c then rest.dropWhile isBlank else after
      | [] => []
    if names.isEmpty then
      if after.isEmpty then [(name, text field)]
      else [(name, text (cs.reverse.dropWhile isBlank).reverse)]
    else (name, text field) :: shareOut dividers names after

/-- The options of `read`. -/
structure Reading where
  raw : Bool := false
  array : Option String := none
  delimiter : Char := '\n'
  count : Option Nat := none
  descriptor : Nat := 0
  names : List String := []

def readingOf : Nat → List String → Reading → Reading
  | 0, _, r => r
  | _, [], r => r
  | fuel + 1, arg :: args, r =>
    let value := args.headD ""
    match arg.toList with
    | '-' :: letters =>
      let raw := r.raw || letters.contains 'r'
      let r := { r with raw }
      match letters.getLast? with
      | some 'a' => readingOf fuel (args.drop 1) { r with array := some value }
      | some 'd' => readingOf fuel (args.drop 1) { r with delimiter := value.toList.headD '\x00' }
      | some 'n' => readingOf fuel (args.drop 1) { r with count := Text.natural? value.toList }
      | some 'N' => readingOf fuel (args.drop 1) { r with count := Text.natural? value.toList }
      | some 'u' =>
        readingOf fuel (args.drop 1) { r with descriptor := (Text.natural? value.toList).getD 0 }
      | some 'p' => readingOf fuel (args.drop 1) r
      | some 't' => readingOf fuel (args.drop 1) r
      | _ => readingOf fuel args r
    | _ => { r with names := arg :: args }

/-- Reads a line into variables. -/
def read (s : State) (args : List String) : State × Flow :=
  let r := readingOf (args.length + 1) args {}
  let p := s.inputOf r.descriptor
  let line? : Option (List (Char × Bool) × Bool × Pipe) :=
    match r.count with
    | some n =>
      let text := (p.text.take n).takeWhile (· != r.delimiter)
      some (text.map fun c => (c, false), text.length == n, { p with text := p.text.drop n })
    | none =>
      if r.raw || r.delimiter != '\n' then
        (takeLine r.delimiter p).map fun (line, complete, rest) =>
          (line.map fun c => (c, false), complete, rest)
      else takeEscaped (p.text.length + 2) p []
  match line? with
  | none => (s, .never)
  | some (line, complete, rest) =>
    let line : List (Char × Bool) := line.filter fun c => c.1 != '\x00'
    let s := if complete then s else s.waitUntil p.ready
    let s := s.leaveInput r.descriptor rest
    let s := match r.array with
      | some name =>
        let d : Division := line.foldl (fun d (c, kept) => d.add s.dividers ⟨c, kept, !kept⟩) {}
        let values := d.fields.map fun f => String.ofList (textOfGlyphs f)
        s.hold name (.list ((List.range values.length).zip values))
      | none =>
        if r.names.isEmpty then s.set "REPLY" (String.ofList (line.map Prod.fst))
        else (shareOut s.dividers r.names line).foldl (fun s (name, value) => s.set name value) s
    (s.withStatus (if complete then .success else .failure), .next)

/-- The options of `mapfile`. -/
structure Gathering where
  strip : Bool := false
  most : Nat := 0
  skip : Nat := 0
  start : Option Nat := none
  delimiter : Char := '\n'
  descriptor : Nat := 0
  name : String := "MAPFILE"

def gatheringOf : Nat → List String → Gathering → Gathering
  | 0, _, g => g
  | _, [], g => g
  | fuel + 1, arg :: args, g =>
    let value := args.headD ""
    let number := (Text.natural? value.toList).getD 0
    match arg with
    | "-t" => gatheringOf fuel args { g with strip := true }
    | "-n" => gatheringOf fuel (args.drop 1) { g with most := number }
    | "-s" => gatheringOf fuel (args.drop 1) { g with skip := number }
    | "-O" => gatheringOf fuel (args.drop 1) { g with start := some number }
    | "-u" => gatheringOf fuel (args.drop 1) { g with descriptor := number }
    | "-d" => gatheringOf fuel (args.drop 1) { g with delimiter := value.toList.headD '\x00' }
    | arg =>
      if arg.startsWith "-td" then
        gatheringOf fuel (args.drop 1)
          { g with strip := true, delimiter := value.toList.headD '\x00' }
      else if arg.startsWith "-" then gatheringOf fuel args g
      else { g with name := arg }

/-- Reads all lines into a variable. -/
def readAll (s : State) (args : List String) : State × Flow :=
  let g := gatheringOf (args.length + 1) args {}
  let p := s.inputOf g.descriptor
  match p.all? with
  | none => (s, .never)
  | some text =>
    let last := if text.getLast? == some g.delimiter || text.isEmpty then [] else [g.delimiter]
    let parts := (Text.splitWhere (· == g.delimiter) (text ++ last)).dropLast
    let count := parts.length
    let lines := ((List.range count).zip parts).map fun (i, l) =>
      let ended := i + 1 < count || last.isEmpty
      String.ofList (if g.strip || !ended then l else l ++ [g.delimiter])
    let lines := lines.drop g.skip
    let lines := if g.most = 0 then lines else lines.take g.most
    let s := (s.waitUntil p.ready).leaveInput g.descriptor .empty
    let first := g.start.getD 0
    let s := if g.start.isSome then s else s.hold g.name (.list [])
    let s := ((List.range lines.length).zip lines).foldl (fun s (i, l) =>
      s.setElement g.name (Text.naturalText (first + i)) l) s
    (s.withStatus .success, .next)

def changeDirectory (s : State) (args : List String) : State :=
  let args := args.filter fun a => a ≠ "-P" && a ≠ "-L" && a ≠ "--"
  let back := args.head? == some "-"
  let path := match args with
    | [] => s.get "HOME"
    | "-" :: _ => s.get "OLDPWD"
    | p :: _ => p
  let failure (reason : FileError) : State :=
    if s.process.extended then s.failed 1 ("cd: " ++ path ++ ": " ++ reason.reason)
    else s.failed 2 ("cd: can't cd to " ++ path)
  match s.world.files.locate path with
  | .error e => failure e
  | .ok spot =>
    match s.world.files.look spot with
    | .ok (some .directory) =>
      let here := spot.place
      let old := FileSystem.pathOf s.world.files.here
      let s := { s with world.files.here := here }
      let s := (s.set "OLDPWD" old).set "PWD" (FileSystem.pathOf here)
      let s := if back then s.write 1 (FileSystem.pathOf here ++ "\n").toList else s
      s.withStatus .success
    | .ok (some _) => failure .notDirectory
    | .ok none => failure .notFound
    | .error e => failure e

def nextOption (s : State) (args : List String) : State :=
  match args with
  | letters :: name :: given =>
    let values := if given.isEmpty then s.process.args else given
    let index := max 1 ((Text.natural? (s.get "OPTIND").toList).getD 1)
    let silent := letters.startsWith ":"
    let finished (s : State) (index : Nat) : State :=
      let s := (s.set name "?").set "OPTIND" (Text.naturalText index)
      { s.withStatus .failure with process.letter := 0 }
    match values.drop (index - 1) with
    | [] => finished s index
    | arg :: rest =>
      let cs := arg.toList
      if s.process.letter = 0 && arg == "--" then finished s (index + 1)
      else if s.process.letter = 0 && !(arg.startsWith "-" && 1 < cs.length) then finished s index
      else
        let place := max 1 s.process.letter
        match cs.drop place with
        | [] => finished s (index + 1)
        | c :: more =>
          let s := s.withStatus .success
          let after (index letter : Nat) (s : State) : State :=
            let s := s.set "OPTIND" (Text.naturalText index)
            { s with process.letter := letter }
          let next (s : State) : State :=
            if more.isEmpty then after (index + 1) 0 s else after index (place + 1) s
          match letters.toList.dropWhile (· != c) with
          | [] =>
            let s := s.set name "?"
            let s := if silent then s.set "OPTARG" c.toString
              else (s.unset "OPTARG").write 2
                (s.process.name ++ ": Illegal option -" ++ c.toString ++ "\n").toList
            next s
          | _ :: ':' :: _ =>
            if !more.isEmpty then
              after (index + 1) 0 ((s.set name c.toString).set "OPTARG" (.ofList more))
            else
              match rest with
              | value :: _ => after (index + 2) 0 ((s.set name c.toString).set "OPTARG" value)
              | [] =>
                let s := if silent then (s.set name ":").set "OPTARG" c.toString
                  else ((s.set name "?").unset "OPTARG").write 2
                    (s.process.name ++ ": No arg for -" ++ c.toString ++ " option\n").toList
                after (index + 1) 0 s
          | _ => next ((s.set name c.toString).unset "OPTARG")
  | _ => s.failed 2 "getopts: usage: getopts optstring var [arg]"

def wait (s : State) (args : List String) : State × Flow :=
  let pids := args.filterMap fun a => Text.natural? a.toList
  if args.any fun a => (Text.natural? a.toList).isNone && !a.startsWith "%" then
    (s.failed (if s.process.extended then 1 else 2) "wait: not a pid or valid job spec", .next)
  else if args.isEmpty then
    match s.world.jobs.foldl (fun t j => do return max (← t) (← j.ending)) (some 0) with
    | some time => ((s.waitUntil time).withStatus .success, .next)
    | none => (s, .never)
  else
    pids.foldl (fun (s, flow) pid =>
      match s.world.jobs.find? fun j => j.pid == pid with
      | none => (s.withStatus (.ofInt 127), flow)
      | some j =>
        match j.ending with
        | some time => ((s.waitUntil time).withStatus j.status, flow)
        | none => (s, .never)) (s, .next)

/-- Ends a job by a signal, if it still runs. -/
def endJob (s : State) (pid signal : Nat) : State :=
  let now := s.process.clock
  let runs (j : Job) : Bool := j.pid == pid && j.ending.all (now < ·)
  if signal = 0 || !s.world.jobs.any runs then s
  else
    { s with
      world.jobs := s.world.jobs.map fun j =>
        if runs j then { j with ending := some now, status := signalStatus signal } else j
      world.events := s.world.events.filter fun e => e.owner != pid || e.time ≤ now }

def builtinNames (extended : Bool) : List String :=
  [".", ":", "[", "alias", "bg", "break", "cd", "command", "continue", "echo", "eval", "exec",
   "exit", "export", "false", "fg", "getopts", "hash", "jobs", "kill", "local", "printf", "pwd",
   "read", "readonly", "return", "set", "shift", "test", "times", "trap", "true", "type", "ulimit",
   "umask", "unalias", "unset", "wait"] ++
  (if extended then ["builtin", "declare", "let", "mapfile", "readarray", "shopt", "source",
    "typeset", "disown", "enable", "history", "dirs", "pushd", "popd", "caller", "compgen",
    "complete", "bind", "logout"] else [])

/-- The commands whose failure ends a script. -/
def specialNames : List String :=
  [".", ":", "break", "continue", "eval", "exec", "exit", "export", "readonly", "return", "set",
   "shift", "times", "trap", "unset"]

def programPath? (s : State) (name : String) : Option String :=
  let paths := if name.toList.contains '/' then [name]
    else ((s.get "PATH").splitOn ":").map fun d => d ++ "/" ++ name
  paths.find? fun p => s.world.files.find p matches .ok .program

def describe (s : State) (short : Bool) (name : String) : Option String :=
  let reserved := ["if", "then", "else", "elif", "fi", "do", "done", "case", "esac", "while",
    "until", "for", "in", "\x7b", "\x7d", "!"]
  if reserved.contains name then
    some (if short then name else name ++ " is a shell keyword")
  else if s.process.functions.contains name then
    some (if short then name
      else name ++ (if s.process.extended then " is a function" else " is a shell function"))
  else if (builtinNames s.process.extended).contains name then
    some (if short then name
      else name ++ (if specialNames.contains name && !s.process.extended
        then " is a special shell builtin" else " is a shell builtin"))
  else (s.programPath? name).map fun p => if short then p else name ++ " is " ++ p

def describeAll (s : State) (short : Bool) (names : List String) : State :=
  let missing : Int := if s.process.extended then 1 else 127
  let names := if short && !s.process.extended then names.take 1 else names
  let anyKnown := names.any fun name => (s.describe short name).isSome
  let s := s.withStatus .success
  names.foldl (fun s name =>
    match s.describe short name with
    | some t => s.write 1 (t ++ "\n").toList
    | none =>
      if short && anyKnown then s
      else
      let s := if short then s
        else if s.process.extended then s.complain ("type: " ++ name ++ ": not found")
        else s.write 1 (name ++ ": not found\n").toList
      s.withStatus (.ofInt missing)) s

/-- Writes what a command has to say, and fails if it cannot be written. -/
def tell (s : State) (name : String) (text : List Char) (status : Status) : State :=
  match s.write? 1 text with
  | some s => s.withStatus status
  | none => s.failed 1 (name ++ ": I/O error")

/-- Writes arguments after a format. -/
def printf (s : State) (args : List String) : State :=
  let args := if args.head? == some "--" then args.drop 1 else args
  let (target, args) := match s.process.extended, args with
    | true, "-v" :: name :: args => (some name, args)
    | _, args => (none, args)
  match args with
  | [] =>
    if s.process.extended then
      (s.write 2 "printf: usage: printf [-v var] format [arguments]\n".toList).withStatus (.ofInt 2)
    else s.failed 2 "printf: usage: printf format [arg ...]"
  | format :: args =>
    let (text, faults) := Utility.formatted s.process.extended format args
    let s := faults.foldl (fun s f => s.complain ("printf: " ++ f)) s
    let status : Status := if faults.isEmpty then .success else .failure
    match target with
    | some name => (s.set name (.ofList text)).withStatus status
    | none => s.tell "printf" text status

def test (s : State) (name : String) (args : List String) : State :=
  let args? := if name = "[" then
      (if args.getLast? = some "]" then some args.dropLast else none)
    else some args
  match args? with
  | none => s.failed 2 "[: missing ]"
  | some args =>
    match Utility.condition (s.filesFor args s.processCall) args with
    | .ok true => s.withStatus .success
    | .ok false => s.withStatus .failure
    | .error e => s.failed 2 (name ++ ": " ++ e)

/-- Evaluates expressions; the last one tells the status. -/
def letAll (s : State) (args : List String) : State :=
  args.foldl (fun s arg =>
    match evaluate (scopeOf true) arg.toList s with
    | .ok (n, s) => s.withStatus (if n = 0 then .failure else .success)
    | .error e => s.failed 1 ("let: " ++ arg ++ ": " ++ e.message)) s

end State

/-- The options of the extended shell, and whether they are on from the start. -/
def shellOptions : List (String × Bool) :=
  let off := ["autocd", "assoc_expand_once", "cdable_vars", "cdspell", "checkhash", "checkjobs"]
  let compatible := ["compat31", "compat32", "compat40", "compat41", "compat42", "compat43",
    "compat44"]
  off.map (·, false) ++ [("checkwinsize", true), ("cmdhist", true)] ++
  compatible.map (·, false) ++
  [("complete_fullquote", true), ("direxpand", false), ("dirspell", false), ("dotglob", false),
   ("execfail", false), ("expand_aliases", false), ("extdebug", false), ("extglob", false),
   ("extquote", true), ("failglob", false), ("force_fignore", true), ("globasciiranges", true),
   ("globskipdots", true), ("globstar", false), ("gnu_errfmt", false), ("histappend", false),
   ("histreedit", false), ("histverify", false), ("hostcomplete", true), ("huponexit", false),
   ("inherit_errexit", false), ("interactive_comments", true), ("lastpipe", false),
   ("lithist", false), ("localvar_inherit", false), ("localvar_unset", false),
   ("login_shell", false), ("mailwarn", false), ("no_empty_cmd_completion", false),
   ("nocaseglob", false), ("nocasematch", false), ("noexpand_translation", false),
   ("nullglob", false), ("patsub_replacement", true), ("progcomp", true),
   ("progcomp_alias", false), ("promptvars", true), ("restricted_shell", false),
   ("shift_verbose", false), ("sourcepath", true), ("varredir_close", false), ("xpg_echo", false)]

/-- The options that `set -o` knows in the extended shell, and whether they are on from the start. -/
def setOptions : List (String × Bool) :=
  [("allexport", false), ("braceexpand", true), ("emacs", false), ("errexit", false),
   ("errtrace", false), ("functrace", false), ("hashall", true), ("histexpand", false),
   ("history", false), ("ignoreeof", false), ("interactive-comments", true), ("keyword", false),
   ("monitor", false), ("noclobber", false), ("noexec", false), ("noglob", false),
   ("nolog", false), ("notify", false), ("nounset", false), ("onecmd", false),
   ("physical", false), ("pipefail", false), ("posix", false), ("privileged", false),
   ("verbose", false), ("vi", false), ("xtrace", false)]

namespace State

def startOptions : List String :=
  ((shellOptions ++ setOptions).filter (·.2)).map (·.1)

def optionLine (name : String) (on : Bool) : String :=
  String.ofList (name.toList ++ List.replicate (15 - name.length) ' ') ++ "\t" ++
    (if on then "on" else "off") ++ "\n"

/-- Sets, tells or tests options. -/
def shopt (s : State) (args : List String) : State :=
  let flags := (args.takeWhile fun a => a.startsWith "-").flatMap fun a => a.toList.drop 1
  let names := args.dropWhile fun a => a.startsWith "-"
  let known := if flags.contains 'o' then setOptions else shellOptions
  let change := flags.contains 's' || flags.contains 'u'
  let told (s : State) (name : String) : State :=
    let on := s.has name
    if flags.contains 'q' then s
    else if flags.contains 'p' then
      let command := if flags.contains 'o' then (if on then "set -o " else "set +o ")
        else if on then "shopt -s " else "shopt -u "
      s.write 1 (command ++ name ++ "\n").toList
    else s.write 1 (optionLine name on).toList
  match names with
  | [] =>
    let wanted := known.filter fun (name, _) =>
      !change || s.has name == flags.contains 's'
    (wanted.foldl (fun s (name, _) => told s name) s).withStatus .success
  | names =>
    names.foldl (fun s name =>
      if (known.lookup name).isNone then
        s.failed 1 ("shopt: " ++ name ++ ": invalid " ++
          (if flags.contains 'o' then "" else "shell ") ++ "option name")
      else if change then s.setOption name (flags.contains 's')
      else
        let s := told s name
        if s.has name then s else s.withStatus .failure) (s.withStatus .success)

def doubleQuoted (t : String) : String :=
  let escaped := t.toList.flatMap fun c =>
    if "\"\\$`".toList.contains c then ['\\', c] else [c]
  "\"" ++ String.ofList escaped ++ "\""

def bracketed (key : String) : String :=
  let plain := key ≠ "" && key.toList.all fun c => isNameChar c || "-.,:/+@%".toList.contains c
  "[" ++ (if plain then key else doubleQuoted key) ++ "]="

def declaration (name : String) (v : Variable) : String :=
  let letters := v.letters
  let start := "declare -" ++ (if letters = "" then "-" else letters) ++ " " ++ name
  match v.held with
  | none => start
  | some (.text t) => start ++ "=" ++ doubleQuoted t
  | some (.list es) =>
    start ++ "=(" ++ " ".intercalate (es.map fun (i, t) =>
      "[" ++ Text.naturalText i ++ "]=" ++ doubleQuoted t) ++ ")"
  | some (.table es) =>
    let all := (Held.ordered es).map fun (k, t) => bracketed k ++ doubleQuoted t ++ " "
    start ++ "=(" ++ String.join all ++ ")"

def tellDeclarations (s : State) (names : List String) (wanted : Variable → Bool) : State :=
  match names with
  | [] =>
    let all := s.process.bindings.filter fun (_, v) => wanted v
    let all := all.mergeSort fun a b => a.1 ≤ b.1
    (s.write 1 (all.flatMap fun (n, v) => (declaration n v ++ "\n").toList)).withStatus .success
  | names =>
    names.foldl (fun s name =>
      match s.ownBinding? name with
      | some v => s.write 1 (declaration name v ++ "\n").toList
      | none => s.failed 1 ("declare: " ++ name ++ ": not found")) (s.withStatus .success)

end State

end Flowboard.Shell
