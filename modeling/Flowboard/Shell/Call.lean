import Flowboard.Shell.Builtin
import Flowboard.Shell.Process
import Flowboard.Utility.Catalogue
import Flowboard.Utility.Walk

/-! Commands by their names, and the programs that shell scripts start. -/
namespace Flowboard.Shell

/-- The programs that are not part of the shell. -/
abbrev Programs := String → Option (Utility.Call → Utility.Effect)

/-- Starts a program with arguments. -/
abbrev Starter := String → List String → State → State × Flow

namespace State

/-- Runs a program that is not a shell. One that writes without end does not end. -/
def runUtility (f : Utility.Call → Utility.Effect) (name : String) (args : List String)
    (s : State) : State × Flow :=
  let input := s.inputOf 0
  let s := { s with world.steps := s.world.steps - processSteps }
  let seen := args.any mayLeadToOpen
  let files := s.filesFor (name :: args) (s.processCall)
  let e := f { name, args, input, files, environment := s.environment }
  let s := if e.waited then (s.waitUntil input.ready).leaveInput 0 { input with text := [] } else s
  let s := s.waitUntil (s.process.clock + e.millis)
  let s := match e.files with
    | some files =>
      if seen then
        let s := (s.writtenByPath files).foldl (fun (s : State) (n, text) => s.write n text) s
        { s with world.files := s.withoutOpen files }
      else { s with world.files := files }
    | none => s
  match s.write? 1 e.output.text with
  | none => (s.write 2 (name ++ ": write error\n").toList |>.withStatus .failure, .next)
  | some s =>
    let s := (s.write 2 e.errors).withStatus e.status
    match e.output.tail, s.channel? 1 with
    | .ends, _ => (s, .next)
    | tail, some (.pipe n) => ({ s with world.tails := (n, tail) :: s.world.tails }, .never)
    | _, _ => (s, .never)

def startBindings (extended : Bool) (parent : Nat) (here : Place) (environment : Table String) :
    Table Variable :=
  let exported : Table Variable := environment.map fun (name, value) =>
    (name, { held := some (.text value), exported := true })
  let own : List (String × String) :=
    [("IFS", " \t\n"), ("OPTIND", "1"), ("PPID", Text.naturalText parent), ("PS4", "+ ")] ++
    (if extended then
      [("BASH", "/usr/bin/bash"), ("BASH_VERSION", "5.2.15(1)-release"), ("EUID", "0"),
       ("HOSTNAME", "localhost"), ("HOSTTYPE", "x86_64"), ("MACHTYPE", "x86_64-pc-linux-gnu"),
       ("OSTYPE", "linux-gnu"), ("SECONDS", "0"), ("UID", "0")]
     else [])
  let version := ["5", "2", "15", "1", "release", "x86_64-pc-linux-gnu"]
  let exported := if extended then
      exported.insert "BASH_VERSINFO"
        { held := some (.list ((List.range version.length).zip version)), constant := true }
    else exported
  let t := own.foldl (fun t (name, value) =>
    t.insert name { held := some (.text value) }) exported
  t.insert "PWD" { held := some (.text (FileSystem.pathOf here)), exported := true }

/-- A shell as it is called: the names of its options, its script, and the arguments for it. -/
structure Invocation where
  options : List String := []
  isText : Bool := false
  fromInput : Bool := false
  args : List String := []

def readInvocation : Nat → List String → Invocation → Invocation
  | 0, args, i => { i with args }
  | _, [], i => i
  | fuel + 1, arg :: args, i =>
    match arg, arg.toList with
    | "--", _ => { i with args }
    | "-o", _ => readInvocation fuel (args.drop 1) { i with options := args.headD "" :: i.options }
    | _, '-' :: '-' :: _ => readInvocation fuel args i
    | _, '-' :: c :: cs =>
      let letters := c :: cs
      let options := letters.filterMap optionName? ++ i.options
      readInvocation fuel args { i with
        options
        isText := i.isText || letters.contains 'c'
        fromInput := i.fromInput || letters.contains 's' }
    | _, _ => { i with args := arg :: args }

def runShell (exec : Exec) (extended : Bool) (name : String) (args : List String) (s : State) :
    State × Flow :=
  let i := readInvocation (args.length + 1) args {}
  let input := s.inputOf 0
  let parts : Except FileError (List Char × String × List String × Bool) :=
    match i.isText, i.args with
    | true, source :: rest => .ok (source.toList, rest.headD name, rest.drop 1, false)
    | false, path :: rest =>
      if i.fromInput then .ok (input.text, name, i.args, true)
      else
        match s.files.read path with
        | .ok bytes => .ok (Text.octets bytes, path, rest, false)
        | .error e => .error e
    | _, [] => .ok (input.text, name, [], true)
  match parts with
  | .error e =>
    let message := name ++ ": 0: cannot open " ++ i.args.headD "" ++ ": " ++ e.reason ++ "\n"
    ((s.write 2 message.toList).withStatus (.ofInt (if extended then 127 else 2)), .next)
  | .ok (source, zero, rest, fromInput) =>
    let s := if fromInput then (s.waitUntil input.ready).leaveInput 0 { input with text := [] }
      else s
    let parent := s.process.pid
    let (e, t) := apart exec (fun t =>
      let process : Process :=
        { extended, pid := t.process.pid, scriptPid := t.process.pid
          ancestors := t.process.ancestors, owner := t.process.owner
          name := zero, args := rest, options := i.options ++ (if extended then startOptions else [])
          channels := t.process.channels
          clock := t.process.clock, frames := []
          bindings := startBindings extended parent t.world.files.here t.environment
          traps := t.process.traps.filter fun e => e.2 == "" }
      runSource exec source { t with process }) s
    after (e, t)

/-- The options of `xargs`. -/
structure Batching where
  most : Option Nat := none
  place : Option String := none
  divider : Option Char := none
  lines : Bool := false
  onlySome : Bool := false
  command : List String := []

def readBatching : Nat → List String → Batching → Batching
  | 0, _, b => b
  | _, [], b => b
  | fuel + 1, arg :: args, b =>
    let number (s : String) : Option Nat := Text.natural? s.toList
    match arg.toList with
    | ['-', 'n'] => readBatching fuel (args.drop 1) { b with most := number (args.headD "") }
    | '-' :: 'n' :: ds => readBatching fuel args { b with most := Text.natural? ds }
    | ['-', 'L'] =>
      readBatching fuel (args.drop 1) { b with most := number (args.headD ""), lines := true }
    | '-' :: 'L' :: ds => readBatching fuel args { b with most := Text.natural? ds, lines := true }
    | ['-', 'I'] => readBatching fuel (args.drop 1) { b with place := args.head? }
    | '-' :: 'I' :: cs => readBatching fuel args { b with place := some (.ofList cs) }
    | ['-', '0'] => readBatching fuel args { b with divider := some '\x00' }
    | ['-', 'd'] =>
      let c := match (args.headD "").toList with
        | ['\\', 'n'] => '\n'
        | ['\\', 't'] => '\t'
        | c :: _ => c
        | [] => '\n'
      readBatching fuel (args.drop 1) { b with divider := some c }
    | ['-', 'r'] => readBatching fuel args { b with onlySome := true }
    | ['-', 'P'] => readBatching fuel (args.drop 1) b
    | '-' :: _ :: _ => readBatching fuel args b
    | _ => { b with command := arg :: args }

def quotedWords : List Char → Option (List Char) → List String → List String
  | [], current, done =>
    (match current with
      | some w => String.ofList w.reverse :: done
      | none => done).reverse
  | '\\' :: c :: rest, current, done => quotedWords rest (some (c :: current.getD [])) done
  | c :: rest, current, done =>
    if c = '\'' ∨ c = '"' then
      let inside := rest.takeWhile (· != c)
      quotedWords (rest.drop (inside.length + 1)) (some (inside.reverse ++ current.getD [])) done
    else if isDividingBlank c then
      match current with
      | some w => quotedWords rest none (String.ofList w.reverse :: done)
      | none => quotedWords rest none done
    else quotedWords rest (some (c :: current.getD [])) done
termination_by s => s.length
decreasing_by all_goals simp only [List.length_cons, List.length_drop]; omega

/-- Lists of at most so many elements. -/
def batchesOf {α : Type} (n : Nat) : Nat → List α → List (List α)
  | 0, _ => []
  | _, [] => []
  | fuel + 1, xs => xs.take (max n 1) :: batchesOf n fuel (xs.drop (max n 1))

def runBatches (start : Starter) (args : List String) (s : State) : State × Flow :=
  let b := readBatching (args.length + 1) args {}
  let command := if b.command.isEmpty then ["echo"] else b.command
  let input := s.inputOf 0
  match input.all? with
  | none => (s, .never)
  | some text =>
    let s := (s.waitUntil input.ready).leaveInput 0 .empty
    let lines := (Text.lines text).map Text.chomp
    let items : List String := match b.divider, b.place with
      | some c, _ =>
        let text := if text.getLast? = some c then text.dropLast else text
        if text.isEmpty then [] else (Text.splitWhere (· == c) text).map String.ofList
      | none, some _ => (lines.map fun l => String.ofList (l.dropWhile isBlank)).filter (· ≠ "")
      | none, none =>
        if b.lines then
          (lines.filter fun l => !l.all isBlank).map String.ofList
        else quotedWords text none []
    let calls : List (List String) := match b.place with
      | some place => items.map fun item => command.map fun a => a.replace place item
      | none =>
        if items.isEmpty then (if b.onlySome then [] else [command])
        else
          let batches := batchesOf (b.most.getD items.length) (items.length + 1) items
          batches.map fun batch =>
            command ++ (if b.lines then batch.flatMap fun l => quotedWords l.toList none []
              else batch)
    let (s, flow, bad) := calls.foldl (fun (s, flow, bad) call =>
      match flow, call with
      | .next, name :: args =>
        let (s, flow) := start name args s
        let bad : Int := if s.process.status = .success then bad
          else if s.process.status.val = 127 then 127 else 123
        (s, flow, bad)
      | flow, _ => (s, flow, bad)) (s.withStatus .success, Flow.next, 0)
    match flow with
    | .next => (s.withStatus (.ofInt bad), .next)
    | flow => (s, flow)

/-- Goes through directories and does something with what it finds. -/
def runWalk (start : Starter) (args : List String) (s : State) : State × Flow :=
  let told (e : String) (s : State) : State := s.write 2 ("find: " ++ e ++ "\n").toList
  match Utility.Walk.read args with
  | .error e => ((told e s).withStatus .failure, .next)
  | .ok (plan, e) =>
    let on : Utility.Walk.Surface (State × Flow) :=
      { files := fun (s, _) => s.files
        setFiles := fun files (s, flow) => ({ s with world.files := files }, flow)
        write := fun text (s, flow) => (s.write 1 text, flow)
        complain := fun e (s, flow) => (told e s, flow)
        run := fun command (s, flow) =>
          match flow, command with
          | .next, name :: args =>
            if (s.programPath? name).isNone && !name.toList.contains '/' then
              (false, (told (Utility.quotedName name ++ ": No such file or directory") s, .next))
            else
              let (s, flow) := start name args s
              (s.process.status = .success, (s, flow))
          | flow, _ => (false, (s, flow)) }
    let s := { s with world.steps := s.world.steps - processSteps }
    let (ok, s, flow) := Utility.Walk.walk on plan e (s, .next)
    (s.withStatus (if ok then .success else .failure), flow)

/-- The interpreter named in the first line of a script. -/
def interpreterOf : String :=
  "sh"

/-- Starts a program by its name. Each program that starts another one uses up one of the fuel. -/
def start (exec : Exec) (programs : Programs) : Nat → Starter
  | 0, _, _, s => (s.withStatus (.ofInt 127), .next)
  | fuel + 1, name, args, s =>
    let again : Starter := start exec programs fuel
    let known (base : String) : Option (State × Flow) :=
      match base with
      | "sh" | "dash" => some (runShell exec false name args s)
      | "xargs" => some (runBatches again args s)
      | "find" => some (runWalk again args s)
      | base => (programs base).map fun f => s.runUtility f name args
    let missing : State × Flow :=
      (s.failed 127 (name ++ (if s.process.extended then ": command not found" else ": not found")),
        .next)
    let refused (reason : String) : State × Flow := (s.failed 126 (name ++ ": " ++ reason), .next)
    if name.toList.contains '/' then
      match s.files.find name with
      | .ok (.file _) =>
        let place := ((s.files.locate name).toOption.map (·.place)).getD []
        if s.files.isRunnable place then
          again (interpreterOf) (name :: args) s
        else refused "Permission denied"
      | _ => missing
    else
      match s.programPath? name with
      | some _ => (known name).getD missing
      | none => missing

def withChannels (s : State) (channels : List (Nat × Channel)) : State :=
  { s with process.channels := channels }

def withLoops (s : State) (loops : Nat) : State :=
  { s with process.loops := loops }

/-- Runs something whose failure does not end the script. -/
def guarded (s : State) (f : State → State × Flow) : State × Flow :=
  let before := s.process.guarded
  let (s, flow) := f { s with process.guarded := true }
  ({ s with process.guarded := before }, flow)

/-- Ends the script after a failure, if it is to end then. -/
def checked (r : State × Flow) : State × Flow :=
  match r with
  | (s, .next) =>
    if s.process.status ≠ .success && s.has "errexit" && !s.process.guarded then (s, .exit)
    else (s, .next)
  | done => done

def statusArgument (s : State) (name : String) (args : List String) : Except (State × Flow) Status :=
  match args with
  | [] => .ok s.process.status
  | a :: _ =>
    match Text.integer? a.toList with
    | some n =>
      if n < 0 && !s.process.extended then
        .error (s.failed 2 (name ++ ": Illegal number: " ++ a), .exit)
      else .ok (.ofInt n)
    | none =>
      if s.process.extended then
        .error (s.failed 2 (name ++ ": " ++ a ++ ": numeric argument required"), .exit)
      else .error (s.failed 2 (name ++ ": Illegal number: " ++ a), .exit)

/-- Leaves loops, or goes on with their next turns. -/
def leaveLoops (s : State) (flow : Nat → Flow) (args : List String) : State × Flow :=
  let n := ((args.head?.bind fun a => Text.natural? a.toList).getD 1)
  let s := s.withStatus .success
  if s.process.loops = 0 || n = 0 then (s, .next) else (s, flow (min n s.process.loops))

/-- The arguments without the options in front, and the letters of those. -/
def takeLetters : List String → List Char × List String
  | arg :: args =>
    match arg.toList with
    | '-' :: c :: cs => let (letters, rest) := takeLetters args; (c :: cs ++ letters, rest)
    | '+' :: _ :: _ => takeLetters args
    | _ => ([], arg :: args)
  | [] => ([], [])

def declareAll (s : State) (isLocal : Bool) (args : List String) : State :=
  let (letters, rest) := takeLetters args
  if letters.contains 'p' then
    s.tellDeclarations rest fun v => letters.all fun c =>
      c == 'p' || v.letters.toList.contains c
  else if letters.contains 'f' || letters.contains 'F' then
    let names := if rest.isEmpty then s.process.functions.map (·.1) else rest
    names.foldl (fun s name =>
      if s.process.functions.contains name then
        s.write 1 ((if rest.isEmpty then "declare -f " else "") ++ name ++ "\n").toList
      else s.withStatus .failure) (s.withStatus .success)
  else if letters.contains 'n' then
    rest.foldl (fun s arg =>
      let (name, target) := splitAssignment arg
      let s := if isLocal then s.keep name else s
      s.refer name target) (s.withStatus .success)
  else
    let plain := (args.filter fun a => a.startsWith "+").flatMap fun a => a.toList.drop 1
    let kind (v : Variable) : Variable :=
      { v with
        held := if letters.contains 'A' then
            (if v.held matches some (.table _) then v.held else some (.table []))
          else if letters.contains 'a' then
            (if v.held matches some (.list _) then v.held else some (.list (listOf v.held)))
          else v.held
        exported := (v.exported || letters.contains 'x') && !plain.contains 'x'
        constant := v.constant || letters.contains 'r'
        upper := (v.upper || letters.contains 'u') && !plain.contains 'u'
        lower := (v.lower || letters.contains 'l') && !plain.contains 'l'
        integer := (v.integer || letters.contains 'i') && !plain.contains 'i' }
    let s := s.declare isLocal kind rest
    if letters.contains 'i' then
      rest.foldl (fun s arg =>
        let name := (splitAssignment arg).1
        match s.get? name with
        | some t =>
          match evaluate (scopeOf true) t.toList s with
          | .ok (n, s) => s.set name (Text.integerText n)
          | .error e => s.failed 1 e.message
        | none => s) s
    else s

/-- A command that is part of the shell and needs no other command. -/
def builtin? (name : String) (args : List String) (s : State) : Option (State × Flow) :=
  let done (s : State) : Option (State × Flow) := some (s, .next)
  let operands := if args.head? == some "--" then args.drop 1 else args
  match name with
  | ":" | "true" => done (s.withStatus .success)
  | "false" => done (s.withStatus .failure)
  | "echo" =>
    let style : Utility.EchoStyle := if s.process.extended then .optional else .escaping
    done (s.tell "echo" (Utility.echo style args) .success)
  | "printf" => done (s.printf args)
  | "test" | "[" => done (s.test name args)
  | "exit" =>
    match s.statusArgument name args with
    | .ok status => some (s.withStatus status, .exit)
    | .error r => some r
  | "return" =>
    if s.process.extended && s.process.frames.isEmpty then
      done (s.failed 1 "return: can only return from a function or sourced script")
    else
      match s.statusArgument name args with
      | .ok status => some (s.withStatus status, .finish)
      | .error r => some r
  | "break" => some (s.leaveLoops .leave args)
  | "continue" => some (s.leaveLoops .again args)
  | "set" =>
    if s.process.extended && args == ["-o"] then
      done ((setOptions.foldl (fun s (name, _) =>
        s.write 1 (optionLine name (s.has name)).toList) s).withStatus .success)
    else if s.process.extended && args == ["+o"] then
      done ((setOptions.foldl (fun s (name, _) =>
        s.write 1 ((if s.has name then "set -o " else "set +o ") ++ name ++ "\n").toList)
        s).withStatus .success)
    else if args.isEmpty then done ((s.write 1 (s.listing "" fun _ => true)).withStatus .success)
    else done ((s.setArguments (args.length + 1) args).withStatus .success)
  | "shift" =>
    let n := ((args.head?.bind fun a => Text.natural? a.toList).getD 1)
    if s.process.args.length < n then
      if s.process.extended then done (s.withStatus .failure)
      else some (s.failed 2 "shift: can't shift that many", .exit)
    else done ({ s with process.args := s.process.args.drop n }.withStatus .success)
  | "unset" => done (s.unsetAll args)
  | "export" =>
    if operands.isEmpty || operands.head? == some "-p" then
      done ((s.write 1 (s.listing "export " fun v => v.exported)).withStatus .success)
    else if operands.head? == some "-n" then
      done (s.declare false (fun v => { v with exported := false }) (operands.drop 1))
    else
      done (s.declare false (fun v => { v with exported := true })
        (operands.filter fun a => !a.startsWith "-"))
  | "readonly" =>
    if operands.isEmpty || operands.head? == some "-p" then
      done ((s.write 1 (s.listing "readonly " fun v => v.constant)).withStatus .success)
    else
      done (s.declare false (fun v => { v with constant := true })
        (operands.filter fun a => !a.startsWith "-"))
  | "local" =>
    if s.process.frames.isEmpty then
      if s.process.extended then done (s.failed 1 "local: can only be used in a function")
      else some (s.failed 2 "local: not in a function", .exit)
    else done (s.declareAll true args)
  | "read" => some (s.read args)
  | "cd" | "chdir" => done (s.changeDirectory args)
  | "getopts" => done (s.nextOption args)
  | "wait" => some (s.wait (args.filter fun a => !a.startsWith "-"))
  | "kill" => done (s.kill args)
  | "trap" => done (s.trap args)
  | name =>
    if !s.process.extended then none
    else
      match name with
      | "declare" | "typeset" => done (s.declareAll (!s.process.frames.isEmpty) args)
      | "let" => done (s.letAll args)
      | "mapfile" | "readarray" => some (s.readAll args)
      | "shopt" => done (s.shopt args)
      | _ => none

/-- The number of functions that may be in functions. -/
def callDepth : Nat := 1000

def callFunction (exec : Exec) (name : String) (body : Command) (args : List String)
    (s : State) : State × Flow :=
  if callDepth ≤ s.process.frames.length then
    if s.process.extended then (s, .killed 11)
    else (s.failed 2 "Maximum function recursion depth (1000) reached", .exit)
  else
    let outside := s.process
    let inner : State := { s with
      process.traps := s.process.traps.filter fun e => e.1 != "RETURN"
      process.args := args
      process.frames := [] :: s.process.frames
      process.callers := name :: s.process.callers
      process.loops := 0 }
    let (t, flow) := exec body inner
    let (t, flow) := (t, flow)
    let t := { t.dropFrame with
      process.args := outside.args
      process.callers := outside.callers
      process.loops := outside.loops }
    match flow with
    | .finish => (t, .next)
    | flow => (t, flow)

def runFile (exec : Exec) (path : String) (args : List String) (s : State) : State × Flow :=
  match s.files.read path with
  | .error e =>
    if s.process.extended then (s.failed 1 (path ++ ": " ++ e.reason), .next)
    else (s.failed 2 (".: cannot open " ++ path ++ ": No such file"), .exit)
  | .ok bytes =>
    let outside := s.process.args
    let inner := if args.isEmpty then s else { s with process.args := args }
    let (t, flow) := runSource exec (Text.octets bytes) (inner.withStatus .success)
    let t := if args.isEmpty then t else { t with process.args := outside }
    match flow with
    | .finish => (t, .next)
    | flow => (t, flow)

/-- How deep programs may start programs. -/
def startDepth : Nat := 30

/-- Runs a command by its name. -/
def call (exec : Exec) (programs : Programs) : Nat → Bool → String → List String → State →
    State × Flow
  | 0, _, _, _, s => (s, .killed 11)
  | fuel + 1, functions, name, args, s =>
    let again := call exec programs fuel
    match if functions then s.process.functions.get? name else none with
    | some body => callFunction exec name body args s
    | none =>
      match name with
      | "eval" =>
        let source := (" ".intercalate args).toList
        let lines := Shell.read s.process.extended (s.has "extglob") s.process.line source
        if s.process.extended && lines.any Option.isNone then (s.failed 2 "eval: syntax error", .next)
        else runLines exec lines (s.withStatus .success)
      | "command" =>
        match args with
        | "-v" :: names => (s.describeAll true names, .next)
        | "-V" :: names => (s.describeAll false names, .next)
        | "-p" :: name :: args => again false name args s
        | name :: args => again false name args s
        | [] => (s.withStatus .success, .next)
      | "exec" =>
        match args with
        | [] => (s.withStatus .success, .next)
        | name :: args =>
          match start exec programs startDepth name args s with
          | (s, .next) => (s, .exit)
          | done => done
      | "." =>
        match args with
        | [] => (s.failed 2 ".: filename argument required", .next)
        | path :: rest => runFile exec path rest s
      | name =>
        if s.process.extended && name == "source" then
          match args with
          | [] => (s.failed 2 "source: filename argument required", .next)
          | path :: rest => runFile exec path rest s
        else if s.process.extended && name == "builtin" then
          match args with
          | name :: args => again false name args s
          | [] => (s.withStatus .success, .next)
        else
          match s.builtin? name args with
          | some r => r
          | none => start exec programs startDepth name args s

end State

end Flowboard.Shell
