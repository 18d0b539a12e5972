import Flowboard.Shell.Builtin

/-! Processes of shell scripts: how they run apart and end. -/
namespace Flowboard.Shell

/-- Runs a command. -/
abbrev Exec := Command → State → State × Flow

/-- The time after which a script counts as one that goes on for ever. -/
def horizon : Nat := 3600000

namespace State

/-- Gives the number of steps that are left, less one. -/
def step (s : State) : State × Flow :=
  if s.world.stalled || horizon < s.process.clock then (s, .never)
  else
    match s.world.steps with
    | 0 => (s, .exhausted)
    | n + 1 => ({ s with world.steps := n }, .next)

def runLines (exec : Exec) : List (Option Command) → State → State × Flow
  | [], s => (s, .next)
  | none :: _, s => (s.failed 2 "Syntax error", .exit)
  | some c :: rest, s =>
    match exec c s with
    | (s, .next) => runLines exec rest s
    | (s, .abandon) => runLines exec rest s
    | done => done

def runSource (exec : Exec) (source : List Char) (s : State) : State × Flow :=
  if s.has "noexec" then (s, .next)
  else
    runLines exec
      (Shell.read s.process.extended (s.has "extglob") s.process.line source) s

def endProcess (exec : Exec) (r : State × Flow) : State × Flow :=
  match r with
  | (s, .killed n) => (s, .killed n)
  | (s, .never) => (s, .never)
  | (s, .exhausted) => (s, .exhausted)
  | (s, _) =>
    match s.process.traps.get? "EXIT" with
    | none => (s, .exit)
    | some "" => (s, .exit)
    | some action =>
      let status := s.process.status
      let s := { s with process.traps := s.process.traps.filter fun e => e.1 != "EXIT" }
      match runSource exec action.toList s with
      | (s, .exit) => (s, .exit)
      | (s, .killed n) => (s, .killed n)
      | (s, .never) => (s, .never)
      | (s, .exhausted) => (s, .exhausted)
      | (s, _) => (s.withStatus status, .exit)

/-- How a process has ended: its status, the time, and the signal that has ended it. -/
structure Ended where
  status : Status
  clock : Nat
  flow : Flow

/-- The number of steps that a process of its own takes. -/
def processSteps : Nat := 10

/-- The process of a command that runs apart. -/
def child (s : State) : State :=
  let (pid, s) := s.fresh
  { s with
    world.steps := s.world.steps - processSteps
    process.pid := pid
    process.ancestors := s.process.pid :: s.process.ancestors
    process.level := s.process.level + 1
    process.traps := s.process.traps.filter fun e => e.2 == ""
    process.loops := if s.process.extended then 0 else s.process.loops }

/-- Runs something in a process of its own. What belongs to the process around is kept. -/
def apart (exec : Exec) (body : State → State × Flow) (s : State) : Ended × State :=
  let (t, flow) := endProcess exec (body s.child)
  let status := match flow with
    | .killed n => signalStatus n
    | _ => t.process.status
  let world := { t.world with files.here := s.world.files.here }
  (⟨status, t.process.clock, flow⟩, { s with world })

/-- Writes what is said about a command that a signal has ended. -/
def notice (s : State) (flow : Flow) : State :=
  match flow with
  | .killed n =>
    if s.process.extended then s
    else
      match deathNotice? n with
      | some text => s.write 2 (text ++ "\n").toList
      | none => s
  | _ => s

/-- Goes on after a command that has run in a process of its own. -/
def after (r : Ended × State) : State × Flow :=
  let (e, s) := r
  match e.flow with
  | .never => (s, .never)
  | .exhausted => (s, .exhausted)
  | flow => (((s.waitUntil e.clock).notice flow).withStatus e.status, .next)

def substitute (exec : Exec) : Substitute := fun source s =>
  let earlier := s.world.events
  let (n, s) := s.fresh
  let inner : State := { s with world.events := [] }
  let (e, t) := apart exec (fun t => runSource exec source (t.connect 1 (some (.pipe n)))) inner
  let own := t.world.events
  let text := textOn (.pipe n) own
  let events := own.filter (fun e => e.channel != .pipe n) ++ earlier
  let endless := e.flow matches .never | .exhausted
  let close := t.closing (.pipe n)
  let t : State := { t with
    world.events := events
    world.stalled := t.world.stalled || endless || close.isNone
    process.substituted := some e.status }
  (text, t.waitUntil (max e.clock (close.getD 0)))

/-- Does what is to be done about the signals that have come. -/
def deliver (exec : Exec) (r : State × Flow) : State × Flow :=
  match r with
  | (s, .next) =>
    let own (e : Nat × String) : Bool := e.1 == s.process.pid
    if s.world.signals.any own then
      let signals := s.world.signals.filter own
      let s := { s with world.signals := s.world.signals.filter fun e => !own e }
      signals.foldl (fun (s, flow) (_, name) =>
        match flow with
        | .next =>
          match s.process.traps.get? name with
          | some "" => (s, .next)
          | some action =>
            let status := s.process.status
            match runSource exec action.toList s with
            | (s, .next) => (s.withStatus status, .next)
            | done => done
          | none =>
            if harmlessSignals.contains name then (s, .next)
            else if stoppingSignals.contains name then (s, .never)
            else (s, .killed (signalNumber name))
        | flow => (s, flow)) (s, .next)
    else (s, .next)
  | done => done

/-- The signals that there are, as the shell lists them. -/
def signalTable (s : State) : String :=
  if s.process.extended then
    let known := (signalNumbers.drop 1) ++ plainSignals
    let cell (i : Nat) (name : String) (n : Nat) : String :=
      (if n < 10 then " " else "") ++ Text.naturalText n ++ ") SIG" ++ name ++
        (if i % 5 = 4 then "\n" else "\t")
    String.join ((List.range known.length).zip known |>.map fun (i, name, n) => cell i name n) ++ "\n"
  else
    let names := (List.range 65).map fun n =>
      if n = 0 || n = 16 then Text.naturalText n else (signalName? n).getD (Text.naturalText n)
    String.join (names.map (· ++ "\n"))

/-- Sends signals. -/
def kill (s : State) (args : List String) : State :=
  let (signal, targets) : Option String × List String := match args with
    | "-s" :: name :: rest => (signalOf? name, rest)
    | "-n" :: name :: rest => (signalOf? name, rest)
    | "--" :: rest => (some "TERM", rest)
    | a :: rest =>
      match a.toList with
      | '-' :: name => (signalOf? (.ofList name), rest)
      | _ => (some "TERM", args)
    | [] => (some "TERM", [])
  let targets := targets.filter (· ≠ "--")
  let bad : Int := if s.process.extended then 1 else 2
  match args, signal with
  | "-l" :: [], _ | "-L" :: [], _ => (s.write 1 s.signalTable.toList).withStatus .success
  | "-l" :: names, _ =>
    let told (s : State) (name : String) : State := s.write 1 (name ++ "\n").toList
    (if s.process.extended then names else names.take 1).foldl (fun s n =>
      match Text.natural? n.toList, signalOf? n with
      | some number, _ =>
        match signalName? (if 128 < number then number - 128 else number) with
        | some name => told s name
        | none => s.failed bad ("kill: invalid signal number or exit status: " ++ n)
      | none, some name =>
        if s.process.extended then told s (Text.naturalText (signalNumber name))
        else s.failed 2 ("kill: Illegal number: " ++ n)
      | none, none => s.failed bad ("kill: Illegal number: " ++ n)) (s.withStatus .success)
  | _, none => s.failed bad "kill: invalid signal number or name"
  | _, some name =>
    if targets.isEmpty then
      if s.process.extended then
        (s.write 2 ("kill: usage: kill [-s sigspec | -n signum | -sigspec] pid | jobspec ... " ++
          "or kill -l [sigspec]\n").toList).withStatus (.ofInt 2)
      else s.failed 2 "kill: Usage: kill [-s sigspec | -signum | -sigspec] [pid | job]..."
    else
      targets.foldl (fun s target =>
        let pid? := match target.toList with
          | '%' :: _ => s.process.lastJob
          | t => Text.natural? t
        match pid? with
        | none => s.failed bad ("kill: Illegal number: " ++ target)
        | some pid =>
          if pid = s.process.pid || pid = s.process.scriptPid || pid = 0 ||
              s.process.ancestors.contains pid then
            let pid := if pid = 0 then s.process.pid else pid
            { s with world.signals := s.world.signals ++ [(pid, name)] }
          else if s.world.jobs.any fun j => j.pid == pid && j.ending.all (s.process.clock < ·) then
            s.endJob pid (signalNumber name)
          else s.failed 1 "kill: No such process") (s.withStatus .success)

/-- Says what is to be done about signals. -/
def trap (s : State) (args : List String) : State :=
  let args := if args.head? == some "--" then args.drop 1 else args
  let reset (s : State) (name : String) : State :=
    { s with process.traps := s.process.traps.filter fun e => e.1 != name }
  let shown (name : String) : String :=
    if s.process.extended && 0 < signalNumber name then "SIG" ++ name else name
  let told (s : State) (names : List String) : State :=
    let wanted := names.filterMap signalOf?
    let traps := s.process.traps.filter fun e => names.isEmpty || wanted.contains e.1
    let traps := traps.mergeSort fun a b => signalNumber a.1 ≤ signalNumber b.1
    let text := traps.flatMap fun (name, action) =>
      ("trap -- " ++ quotedText action ++ " " ++ shown name ++ "\n").toList
    (s.write 1 text).withStatus .success
  match args with
  | [] => told s []
  | "-p" :: names => if s.process.extended then told s names else s.failed 1 "trap: -p: bad trap"
  | action :: names =>
    let isNumber := (Text.natural? action.toList).isSome
    let (action, names) : Option String × List String :=
      if names.isEmpty || isNumber then (none, action :: names)
      else if action = "-" then (none, names) else (some action, names)
    names.foldl (fun s name =>
      match signalOf? name with
      | none => s.failed 1 ("trap: " ++ name ++ ": bad trap")
      | some name =>
        match action with
        | none => reset s name
        | some action => { s with process.traps := s.process.traps.insert name action })
      (s.withStatus .success)

end State

end Flowboard.Shell
