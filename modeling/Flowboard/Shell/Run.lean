import Flowboard.Shell.Builtin
import Flowboard.Shell.Call
import Flowboard.Shell.Process

/-! What shell scripts do. -/
namespace Flowboard.Shell

def State.absolute (s : State) (path : String) : String :=
  if path.startsWith "/" then path
  else FileSystem.slashedPath s.world.files.here ++ path

def State.descriptorOf? (s : State) (path : String) : Option Nat :=
  let after (start : String) : Option Nat :=
    if path.startsWith start then Text.natural? (path.toList.drop start.length) else none
  let n? := match path with
    | "/dev/stdin" => some 0
    | "/dev/stdout" => some 1
    | "/dev/stderr" => some 2
    | _ => (after "/dev/fd/").or (after "/proc/self/fd/")
  n?.bind fun n => if (s.channel? n).isSome then some n else none

def cannotOpen {α : Type} (s : State) (path : String) (e : FileError) : Expanding α :=
  if s.process.extended then fail 1 (path ++ ": " ++ e.reason)
  else
    fail 2 ("cannot open " ++ path ++ ": " ++
      (if e = .notFound then "No such file" else e.reason))

def cannotCreate {α : Type} (s : State) (path : String) (e : FileError) : Expanding α :=
  if s.process.extended then fail 1 (path ++ ": " ++ e.reason)
  else
    fail 2 ("cannot create " ++ path ++ ": " ++
      (if e = .notFound then "Directory nonexistent" else e.reason))

/-- Opens a file for writing. -/
def create (path : String) (appends : Bool) : Expanding Channel := do
  let s ← get
  match s.descriptorOf? path with
  | some n => pure ((s.channel? n).getD .output)
  | none =>
    match appends, s.world.files.find path with
    | true, .ok (.file _) => pure (.file (s.absolute path))
    | _, found =>
      if s.has "noclobber" && !appends && (found matches .ok (.file _)) then
        fail (if s.process.extended then 1 else 2) ("cannot create " ++ path ++ ": File exists")
      else
        match s.world.files.write path [] with
        | .ok files =>
          set { s with world.files := files }
          pure (.file (s.absolute path))
        | .error e => cannotCreate s path e

def State.freeDescriptor (s : State) : Nat :=
  ((List.range 1000).find? fun i => (s.channel? (i + 10)).isNone).getD 0 + 10

def redirect (run : Substitute) (r : Redirect) : Expanding Unit := do
  let r ← match r.held with
    | none => pure r
    | some name =>
      let s ← get
      let closes := r.kind == .same && plain? r.word == some ['-']
      if closes then pure { r with descriptor := (Text.natural? (s.get name).toList).getD 1000 }
      else
        let n := s.freeDescriptor
        set (s.set name (Text.naturalText n))
        pure { r with descriptor := n }
  match r.kind with
  | .line =>
    let text ← textOf run r.word
    let (c, s) := (← get).opened (.of (text ++ ['\n']))
    set (s.connect r.descriptor (some c))
  | kind =>
    let name := String.ofList (← textOf run r.word)
    let s ← get
    match kind with
    | .input =>
      match s.descriptorOf? name with
      | some n => set (s.connect r.descriptor (s.channel? n))
      | none =>
        match Utility.fileSource s.files name with
        | .error e => cannotOpen s name e
        | .ok p =>
          let (c, s) := s.openedAt (s.absolute name) p
          set (s.connect r.descriptor (some c))
    | .output => do
      let c ← create name false
      modify fun s => s.connect r.descriptor (some c)
    | .append => do
      let c ← create name true
      modify fun s => s.connect r.descriptor (some c)
    | .both appends => do
      let c ← create name appends
      modify fun s => (s.connect 1 (some c)).connect 2 (some c)
    | _ =>
      if name = "-" then set (s.connect r.descriptor none)
      else
        match Text.natural? name.toList with
        | some n =>
          match s.channel? n with
          | some c => set (s.connect r.descriptor (some c))
          | none =>
            fail (if s.process.extended then 1 else 2) (name ++ ": Bad file descriptor")
        | none =>
          if s.process.extended then do
            let c ← create name false
            modify fun s => (s.connect 1 (some c)).connect 2 (some c)
          else fail 2 (name ++ ": Bad fd number")

/-- Refuses to change a constant. -/
def changeable (name : String) : Expanding Unit := do
  let s ← get
  if s.isConstant name then
    if s.process.extended then
      throw { message := name ++ ": readonly variable", status := 1, mild := true }
    else fail 2 (name ++ ": is read only")

/-- The key in front of a value of a list, if there is one. -/
def keyed? (w : Word) : Option (List Char × Word) :=
  match w with
  | .text false ['['] :: rest =>
    let rec go (key : List Char) : Word → Option (List Char × Word)
      | .text false [']'] :: .text false ['='] :: value => some (key.reverse, value)
      | .text _ s :: rest => go (s.reverse ++ key) rest
      | .parameter _ p :: rest => go (p.name.toList.reverse ++ '$' :: key) rest
      | _ => none
    go [] rest
  | _ => none

def indexText (run : Substitute) (name : String) (index : List Char) : Expanding String := do
  let s ← get
  let text ← textOf run (wordOf true true index)
  match (s.binding? name).bind (·.held) with
  | some (.table _) => pure (.ofList text)
  | _ => pure (Text.integerText (← evaluated text))

/-- Puts a value behind the others of a list. -/
def State.addElement (s : State) (name value : String) : State :=
  let elements := State.listOf ((s.binding? name).bind (·.held))
  let next := (elements.getLast?.map fun e => e.1 + 1).getD 0
  s.setElement name (Text.naturalText next) value

def assign (run : Substitute) (a : Assignment) : Expanding Unit := do
  changeable a.name
  match a.value with
  | .one w =>
    let text := String.ofList (← textOf run w)
    match a.index with
    | some index =>
      let key ← indexText run a.name index
      let s ← get
      let old := (((s.binding? a.name).bind (·.held)).bind (·.element? key)).getD ""
      set (s.setElement a.name key (if a.appends then old ++ text else text))
    | none =>
      let s ← get
      if (s.binding? a.name).any (·.integer) then
        let sum := if a.appends then s.get a.name ++ "+(" ++ text ++ ")" else text
        let n ← evaluated sum.toList
        modify fun s => s.set a.name (Text.integerText n)
      else set (s.set a.name (if a.appends then s.get a.name ++ text else text))
  | .many ws =>
    let s ← get
    let held := (s.binding? a.name).bind (·.held)
    let empty : Held := match held with
      | some (.table es) => .table (if a.appends then es else [])
      | h => .list (if a.appends then State.listOf h else [])
    let values ← ws.mapM fun w => do
      match keyed? w with
      | some (key, value) =>
        let key ← indexText run a.name key
        let text := String.ofList (← textOf run value)
        pure (some key, [text])
      | none => do pure (none, ← fieldsOf run w)
    modify fun s => s.hold a.name empty
    for (key, texts) in values do
      match key with
      | some key => modify fun s => texts.foldl (fun s t => s.setElement a.name key t) s
      | none => modify fun s => texts.foldl (fun s t => s.addElement a.name t) s

/-- Runs something that may fail; a failure ends the script or the line. -/
def State.attempt {α : Type} (s : State) (m : Expanding α) : Except Flow α × State :=
  match m.run s with
  | .ok a s => if s.world.stalled then (.error .never, s) else (.ok a, s)
  | .error e s =>
    let s := s.failed e.status e.message
    (.error (if e.mild then .abandon else .exit), s)

/-- The text of a regular expression, in which quoted characters stand for themselves. -/
def regexText (gs : List Glyph) : List Char :=
  gs.flatMap fun g => if g.quoted && !g.char.isAlphanum then ['\\', g.char] else [g.char]

def State.keepMatch (s : State) (found : Option Utility.Regex.Found) : State :=
  match found with
  | none => s.hold "BASH_REMATCH" (.list [])
  | some f =>
    let greatest := f.after.groups.foldl (fun n g => max n g.1) 0
    let groups := (List.range greatest).map fun i =>
      (i + 1, String.ofList ((f.after.groups.lookup (i + 1)).getD []))
    s.hold "BASH_REMATCH" (.list ((0, .ofList f.matched) :: groups))

def testOf (run : Substitute) : Test → Expanding Bool
  | .negation t => do pure !(← testOf run t)
  | .both a b => do if ← testOf run a then testOf run b else pure false
  | .either a b => do if ← testOf run a then pure true else testOf run b
  | .one op w => do
    let text := String.ofList (← textOf run w)
    let s ← get
    match op with
    | "-v" =>
      match readIndexed true text.toList with
      | some ({ name, index := some index, .. }, []) =>
        pure (((s.binding? name).bind (·.held)).bind (·.element? (.ofList index))).isSome
      | _ => pure ((s.binding? text).bind (·.held)).isSome
    | "-R" => pure ((s.ownBinding? text).any (·.refers))
    | "-o" => pure (s.has text)
    | op => pure ((Utility.unary? s.files op text).getD false)
  | .two a op b => do
    let left ← textOf run a
    match op with
    | "==" | "=" => fitsWord run true b left
    | "!=" => do pure !(← fitsWord run true b left)
    | "=~" => do
      let r := Utility.Regex.ofText true (regexText (← glyphsOf run b))
      let found := r.find? ((← get).has "nocasematch") left
      modify fun s => s.keepMatch found
      pure found.isSome
    | "<" => do pure (decide (left < (← textOf run b)))
    | ">" => do pure (decide ((← textOf run b) < left))
    | op => do
      let x ← evaluated left
      let y ← evaluated (← textOf run b)
      pure (((Utility.integerTest? op).map fun f => f x y).getD false)

namespace State

/-- The commands whose arguments may be assignments. -/
def declaringNames : List String :=
  ["export", "readonly", "local", "declare", "typeset"]

/-- The fields of the words of a command. An assignment to a declaring command is not divided. -/
def fieldsOfAll (run : Substitute) (words : List Word) : Expanding (List String) := do
  match words with
  | [] => pure []
  | first :: rest =>
    let declares := (plain? first).any fun w => declaringNames.contains (.ofList w)
    let head ← fieldsOf run first
    let fields ← rest.mapM fun w => do
      match if declares then assignment? w else none with
      | some { name, index := none, appends, value := .one value } =>
        let text := String.ofList (← textOf run value)
        pure [name ++ (if appends then "+=" else "=") ++ text]
      | _ => fieldsOf run w
    pure (head ++ fields.flatten)

/-- Gives variables the values that they had. -/
def restore (s : State) (old : List (String × Option Variable)) : State :=
  old.foldl (fun s (name, v) => match v with
    | some v => { s with process.bindings := s.process.bindings.insert name v }
    | none => s.unset name) s

/-- A word as a trace shows it. -/
def traced (s : State) (field : String) : String :=
  let plain := field ≠ "" && field.toList.all fun c =>
    c.isAlphanum || "_-+=./:,@%^".toList.contains c
  if plain || !s.process.extended then field else quotedText field

/-- Writes a command before it runs. -/
def trace (s : State) (fields : List String) : State :=
  if s.has "xtrace" && !fields.isEmpty then
    s.write 2 ("+ " ++ " ".intercalate (fields.map s.traced) ++ "\n").toList
  else s

/-- Does what is to be done about a failure of what has just run. -/
def reacted (exec : Exec) (r : State × Flow) : State × Flow :=
  match deliver exec r with
  | (s, .next) =>
    if s.process.status = .success || s.process.guarded then (s, .next)
    else
      match s.process.traps.get? "ERR" with
      | none => checked (s, .next)
      | some action =>
        let status := s.process.status
        match runSource exec action.toList { s with process.guarded := true } with
        | (s, .next) => checked ({ s with process.guarded := false }.withStatus status, .next)
        | done => done
  | done => done

/-- Does what is to be done after a command of one stage. -/
def settled (exec : Exec) (r : State × Flow) : State × Flow :=
  match r with
  | (s, .next) => reacted exec ({ s with process.statuses := [s.process.status] }, .next)
  | done => reacted exec done

/-- Runs something with an input, for what it writes alone: what it writes, and whether it ends. -/
def outcomeOf (exec : Exec) (body : State → State × Flow) (input : Pipe) (s : State) :
    List Char × Bool :=
  let (n, s) := s.fresh
  let inner : State := { s with world.events := [], world.partners := [] }
  let (e, t) := apart exec (fun t =>
    let (source, t) := t.opened input
    body ((t.connect 0 (some source)).connect 1 (some (.pipe n)))) inner
  (textOn (.pipe n) t.world.events, !(e.flow matches .never | .exhausted))

/-- Lets the commands that talk to the script read what has been written, and write. -/
def withPartners (exec : Exec) (s : State) : State :=
  s.world.partners.foldl (fun s p =>
    let written := textOn (.pipe p.pipe) s.world.events
    let isOpen := s.process.channels.any fun e => e.2 == .pipe p.pipe
    let (text, ends) := outcomeOf exec (exec p.body)
      { text := written, tail := if isOpen then .hangs else .ends } s
    let left := ((s.world.sources.lookup p.source).getD .empty).text.length
    let taken := p.passed - left
    let rest : Pipe := { text := text.drop taken, tail := if ends then .ends else .hangs }
    { s with
      world.sources := s.world.sources.map fun e => if e.1 = p.source then (e.1, rest) else e
      world.partners := s.world.partners.map fun q =>
        if q.source = p.source then { q with passed := text.length } else q }) s

/-- Starts a command that talks to the script. -/
def partner (name : String) (body : Command) (s : State) : State × Flow :=
  let (pid, s) := s.fresh
  let (pipe, s) := s.fresh
  let (source, s) := s.fresh
  let s : State := { s with
    world.sources := (source, { text := [], tail := .hangs }) :: s.world.sources
    world.partners := { pipe, source, body } :: s.world.partners
    process.lastJob := some pid }
  let s := (s.connect 63 (some (.source source))).connect 60 (some (.pipe pipe))
  let s := s.hold name (.list [(0, "63"), (1, "60")])
  ((s.set (name ++ "_PID") (Text.naturalText pid)).withStatus .success, .next)

/-- Lets scripts read the files that a command has written for them. -/
def runSinks (exec : Exec) (sinks : List (String × List Char)) (r : State × Flow) : State × Flow :=
  match r with
  | (s, .next) =>
    let status := s.process.status
    let s := sinks.foldl (fun s (path, source) =>
      let text := ((s.files.read path).toOption.map Text.octets).getD []
      (apart exec (fun t =>
        let (c, t) := t.opened (.of text)
        runSource exec source (t.connect 0 (some c))) s).2) s
    (s.withStatus status, .next)
  | done => done

/-- Does what is to be done before a command. -/
def debugged (exec : Exec) (s : State) : State × Flow :=
  match if s.process.extended && s.process.callers.isEmpty then s.process.traps.get? "DEBUG"
      else none with
  | none => (s, .next)
  | some action =>
    let traps := s.process.traps
    let status := s.process.status
    let inner := { s with process.traps := traps.filter fun e => e.1 != "DEBUG" }
    match runSource exec action.toList inner with
    | (s, .next) => ({ s with process.traps := traps }.withStatus status, .next)
    | done => done

def simple (exec : Exec) (programs : Programs) (line : Nat) (assignments : List Assignment)
    (words : List Word) (redirects : List Redirect) (s : State) : State × Flow :=
  match s.step with
  | (s, .next) =>
    let run := substitute exec
    let s : State := { s with process.line := line, process.substituted := none }
    let (s, before) := s.debugged exec
    if before ≠ .next then (s, before)
    else
    match s.attempt (fieldsOfAll run words) with
    | (.error flow, s) => (s, flow)
    | (.ok fields, s) =>
      let s := s.trace fields
      let s : State := { s with process.lastField := fields.getLastD s.process.lastField }
      let channels := s.process.channels
      match s.attempt (redirects.forM (redirect run)), fields with
      | (.error .never, s), _ => (s.withChannels channels, .never)
      | (.error flow, s), fields =>
        let ends := !s.process.extended && fields.head?.any specialNames.contains
        checked (s.withChannels channels, if ends then flow else .next)
      | (.ok _, s), [] =>
        match s.attempt (assignments.forM (assign run)) with
        | (.error flow, s) => (s.withChannels channels, flow)
        | (.ok _, s) =>
          let s := (s.withChannels channels).withStatus (s.process.substituted.getD .success)
          settled exec (s, .next)
      | (.ok _, s), name :: args =>
        let declares := declaringNames.contains name
        let lists := assignments.filter fun a => a.value matches .many _
        let singles := assignments.filter fun a => a.value matches .one _
        let old := singles.map fun a => (a.name, s.binding? a.name)
        match s.attempt (singles.forM (assign run)) with
        | (.error flow, s) => (s.withChannels channels, flow)
        | (.ok _, s) =>
          let s := singles.foldl (fun s a =>
            s.mark a.name fun v => { v with exported := true }) s
          let args := if declares then args ++ lists.map (·.name) else args
          let s := if s.world.partners.isEmpty then s else s.withPartners exec
          let sinks := s.world.sinks
          let s : State := { s with world.sinks := [] }
          let (s, flow) := call exec programs startDepth true name args s
          let (s, flow) := if sinks.isEmpty then (s, flow) else
            let inner := s.process.channels
            let (s, flow) := runSinks exec sinks (s.withChannels channels, flow)
            (s.withChannels inner, flow)
          let s := if singles.isEmpty ||
            (specialNames.contains name && !s.process.extended) then s else s.restore old
          let keeps := name = "exec" && args.isEmpty
          let s := if keeps then s else s.withChannels channels
          match flow, if declares then lists else [] with
          | .next, a :: as =>
            match s.attempt ((a :: as).forM (assign run)) with
            | (.error flow, s) => (s, flow)
            | (.ok _, s) => (s, .next)
          | flow, _ => settled exec (s, flow)
  | done => done

/-- The commands of a pipe in order. -/
def stages : Command → List Command
  | .pipe a b => a :: stages b
  | c => [c]

/-- What is known of the commands of a pipe that have run. -/
structure Piping where
  /-- what the next command reads -/
  input : Option Pipe := none
  clock : Nat
  statuses : List Status := []
  /-- a command writes without end, and ends when nobody reads any more -/
  writes : Bool := false
  flow : Flow := .next

def runStage (exec : Exec) (start : Nat) (last : Bool) (c : Command) (p : Piping) (s : State) :
    Piping × State :=
  let (n, s) := s.fresh
  let earlier := s.world.events
  let body (t : State) : State × Flow :=
    let t := match p.input with
      | some input =>
        let (source, t) := t.opened input
        t.connect 0 (some source)
      | none => t
    let t := if last then t else t.connect 1 (some (.pipe n))
    exec c t
  -- a command that writes without end leaves half of the steps to the others
  let kept := if last then 0 else s.world.steps / 2
  let inner : State := { s with
    world.events := []
    world.steps := s.world.steps - kept
    process.clock := start }
  let (e, t) := apart exec body inner
  let t : State := { t with world.steps := t.world.steps + kept }
  let own := t.world.events
  let text := textOn (.pipe n) own
  let tail := (t.world.tails.lookup n).getD
    (if e.flow matches .never | .exhausted then .hangs else .ends)
  let repeats := tail matches .repeats _
  let endless := e.flow matches .never | .exhausted
  let writes := endless && (repeats || (e.flow == .exhausted && !text.isEmpty))
  let clock := if endless then p.clock else max p.clock e.clock
  let clock := max clock ((t.closing (.pipe n)).getD 0)
  let input : Pipe := { text, tail, ready := if endless then start else e.clock }
  let flow := match p.flow with
    | .next => if endless && (last || !writes) then e.flow else .next
    | flow => flow
  let flow := if last && !endless && p.writes then .next else flow
  ({ input := some input, clock, statuses := p.statuses ++ [e.status], writes, flow },
    { t with world.events := own.filter (fun e => e.channel != .pipe n) ++ earlier })

def runStages (exec : Exec) (start : Nat) : List Command → Piping → State → Piping × State
  | [], p, s => (p, s)
  | c :: rest, p, s =>
    let (p, s) := runStage exec start rest.isEmpty c p s
    runStages exec start rest p s

def pipeline (exec : Exec) (commands : List Command) (s : State) : State × Flow :=
  let start := s.process.clock
  let process := s.process
  let (p, t) := runStages exec start commands { clock := start } s
  let last := p.statuses.getLastD .success
  let status := if s.has "pipefail" then
      (p.statuses.reverse.find? (· ≠ .success)).getD .success
    else last
  let t := ({ t with process := { process with statuses := p.statuses } }.waitUntil p.clock)
  (t.withStatus status, p.flow)

def takenBy : Command → List Nat
  | .simple _ _ _ redirects => redirects.flatMap descriptors
  | .redirected _ redirects => redirects.flatMap descriptors
  | _ => []
where
  descriptors (r : Redirect) : List Nat :=
    if r.kind matches .both _ then [1, 2] else [r.descriptor]

/-- Runs a command beside the script. -/
def background (exec : Exec) (c : Command) (s : State) : State × Flow :=
  let (pid, s) := s.fresh
  let process := s.process
  let (t, flow) := endProcess exec (
    let (source, t) := s.child.openedAt "/dev/null" .empty
    let t := t.connect 0 (some source)
    exec c { t with process.pid := pid, process.owner := pid })
  let status := match flow with
    | .killed n => signalStatus n
    | _ => t.process.status
  let ending := if flow matches .never | .exhausted then none else some t.process.clock
  let taken := takenBy c
  let held := t.process.channels.filter fun e => !taken.contains e.1
  let job : Job := { pid, ending, status, holds := held.map (·.2) }
  ({ process := { process with lastJob := some pid, status := .success }
     world := { t.world with
      files.here := s.world.files.here
      jobs := t.world.jobs ++ [job] } }, .next)

def turns {α : Type} (turn : α → α ⊕ (State × Flow)) (left : α → State) :
    Nat → α → State × Flow
  | 0, a => (left a, .exhausted)
  | n + 1, a =>
    match turn a with
    | .inl a => turns turn left n a
    | .inr r => r

/-- What a flow inside of a loop means for it: it goes on, or it ends with another flow. -/
def afterTurn : Flow → Option Flow
  | .next => none
  | .again n => if n ≤ 1 then none else some (.again (n - 1))
  | .leave n => some (if n ≤ 1 then .next else .leave (n - 1))
  | flow => some flow

def whileLoop (wanted : Bool) (condition body : State → State × Flow) (s : State) :
    State × Flow :=
  let loops := s.process.loops
  let turn (a : State × Status) : (State × Status) ⊕ (State × Flow) :=
    let (s, last) := a
    match s.guarded condition with
    | (s, .next) =>
      if (s.process.status == Status.success) == wanted then
        let (s, flow) := body s
        match afterTurn flow with
        | none => .inl (s, s.process.status)
        | some flow => .inr (s, flow)
      else .inr (s.withStatus last, .next)
    | (s, flow) =>
      match afterTurn flow with
      | none => .inl (s, last)
      | some flow => .inr (s, flow)
  let (t, flow) := turns turn (·.1) (s.world.steps + 1)
    (s.withLoops (loops + 1), Status.success)
  (t.withLoops loops, flow)

def eachValue (name : String) (body : State → State × Flow) : List String → State → State × Flow
  | [], s => (s, .next)
  | value :: values, s =>
    let (s, flow) := body (s.set name value)
    match afterTurn flow with
    | none => eachValue name body values s
    | some flow => (s, flow)

def expression (run : Substitute) (source : List Char) : Expanding Int := do
  evaluated (← textOf run (wordOf true true source))

/-- Whether one of several patterns fits a text. -/
def fitsAny (run : Substitute) (subject : List Char) : List Word → Expanding Bool
  | [] => pure false
  | p :: ps => do
    let s ← getThe State
    if ← fitsWord run (s.has "extglob") p subject then pure true else fitsAny run subject ps

/-- The command of the first arm with a pattern that fits, with those of the arms that it goes on
to. An arm that is `reached` needs no pattern. -/
def armOf (run : Substitute) (subject : List Char) : Bool → Arms → Expanding Command
  | _, .done => pure .skip
  | reached, .arm patterns body ending rest => do
    let chosen ← if reached then pure true else fitsAny run subject patterns
    if chosen then
      match ending with
      | .stop => pure body
      | .fall => do pure (.sequence body (← armOf run subject true rest))
      | .more => do pure (.sequence body (← armOf run subject false rest))
    else armOf run subject false rest

end State

open State in
/-- Runs a command. Each command in a command uses up one of the fuel. -/
def execute (programs : Programs) : Nat → Command → State → State × Flow
  | 0, _, s => (s, .killed 11)
  | fuel + 1, c, s =>
    let exec := execute programs fuel
    let run := substitute exec
    match c with
    | .skip => (s, .next)
    | .simple line assignments words redirects =>
      simple exec programs line assignments words redirects s
    | .sequence a b =>
      match exec a s with
      | (s, .next) => execute programs fuel b s
      | done => done
    | .background a => background exec a s
    | .beside name a => partner name a s
    | .both a b =>
      match s.guarded (exec a) with
      | (s, .next) =>
        if s.process.status = .success then execute programs fuel b s else (s, .next)
      | done => done
    | .either a b =>
      match s.guarded (exec a) with
      | (s, .next) =>
        if s.process.status = .success then (s, .next) else execute programs fuel b s
      | done => done
    | .negation a =>
      match s.guarded (exec a) with
      | (s, .next) =>
        (s.withStatus (if s.process.status = .success then .failure else .success), .next)
      | done => done
    | .pipe a b => reacted exec (pipeline exec (a :: stages b) s)
    | .choice condition yes no =>
      match s.guarded (exec condition) with
      | (s, .next) =>
        if s.process.status = .success then execute programs fuel yes s
        else execute programs fuel no (s.withStatus .success)
      | done => done
    | .loop wanted condition body => whileLoop wanted (exec condition) (exec body) s
    | .each name words body =>
      let values : Expanding (List String) := match words with
        | some ws => do pure (← ws.mapM (fieldsOf run)).flatten
        | none => do pure (← get).process.args
      match s.attempt values with
      | (.error flow, s) => (s, flow)
      | (.ok values, s) =>
        let loops := s.process.loops
        let inner := (s.withLoops (loops + 1)).withStatus .success
        let (t, flow) := eachValue name (exec body) values inner
        (t.withLoops loops, flow)
    | .counted first condition next body =>
      match s.attempt (expression run first) with
      | (.error _, s) => (s.withStatus .failure, .next)
      | (.ok _, s) =>
        let holds (s : State) : State × Flow :=
          if condition.all isExprBlank then (s.withStatus .success, .next)
          else
            match s.attempt (expression run condition) with
            | (.error _, s) => (s.withStatus .failure, .next)
            | (.ok n, s) => (s.withStatus (if n = 0 then .failure else .success), .next)
        let turn (s : State) : State × Flow :=
          match s.step with
          | (s, .next) =>
            let (s, flow) := exec body s
            match afterTurn flow with
            | none =>
              let status := s.process.status
              match s.attempt (expression run next) with
              | (.error _, s) => (s, .leave 1)
              | (.ok _, s) => (s.withStatus status, .next)
            | some .next => (s, .leave 1)
            | some flow =>
              (s, flow)
          | done => done
        whileLoop true holds turn s
    | .cases subject arms =>
      let chosen : Expanding Command := do
        let text ← textOf run subject
        armOf run text false arms
      match s.attempt chosen with
      | (.error flow, s) => (s, flow)
      | (.ok body, s) =>
        execute programs fuel body (s.withStatus (s.process.substituted.getD .success))
    | .apart body => settled exec (after (apart exec (exec body) s))
    | .redirected body redirects =>
      let channels := s.process.channels
      match s.attempt (redirects.forM (redirect run)) with
      | (.error .never, s) => (s, .never)
      | (.error _, s) => checked (s.withChannels channels, .next)
      | (.ok _, s) =>
        let sinks := s.world.sinks
        let (s, flow) := exec body { s with world.sinks := [] }
        runSinks exec sinks (s.withChannels channels, flow)
    | .define name body =>
      let functions := s.process.functions.insert name body
      ({ s with process.functions := functions }.withStatus .success, .next)
    | .test t =>
      match s.step with
      | (s, .next) =>
        match s.attempt (testOf run t) with
        | (.error .abandon, s) => settled exec (s.withStatus .failure, .next)
        | (.error flow, s) => (s, flow)
        | (.ok b, s) => settled exec (s.withStatus (if b then .success else .failure), .next)
      | done => done
    | .arithmetic source =>
      match s.step with
      | (s, .next) =>
        match s.attempt (expression run source) with
        | (.error _, s) => settled exec (s.withStatus .failure, .next)
        | (.ok n, s) => settled exec (s.withStatus (if n = 0 then .failure else .success), .next)
      | done => done

/-- How deep commands may stand in commands. -/
def depth : Nat := 100000

/-- The number of steps after which a script counts as one that goes on for ever. A simple command is
one step, and a process of its own takes some more. -/
def patience : Nat := 400000

def standardEnvironment : Table String :=
  [("HOME", "/root"),
   ("PATH", "/usr/local/sbin:/usr/local/bin:/usr/sbin:/usr/bin:/sbin:/bin")]

def processId : Nat := 4096

def State.initial (extended : Bool) (fs : FileSystem) (path : String) : State :=
  { process :=
      { extended, pid := processId, scriptPid := processId, owner := processId, name := path
        options := if extended then State.startOptions else []
        channels := [(0, .source 0), (1, .output), (2, .errors)]
        bindings := State.startBindings extended 1 fs.here standardEnvironment }
    world :=
      { files := fs, sources := [(0, .empty)]
        origins := [(0, "/dev/null")], fresh := processId + 1, steps := patience } }

/-- What a script that has come to an end has done. It is over when nobody can write any more. -/
def State.activity (s : State) (flow : Flow) : Activity :=
  let output := Text.octetBytes (State.textOn .output s.world.events)
  let errors := Text.octetBytes (State.textOn .errors s.world.events)
  let ending : Ending := match flow with
    | .killed _ => .killed
    | .never => .never
    | .exhausted => .never
    | _ => .exit s.process.status
  match s.closing .output, s.closing .errors with
  | some a, some b => ⟨output, errors, ⟨max s.process.clock (max a b)⟩, ending⟩
  | _, _ => ⟨output, errors, ⟨s.process.clock⟩, .never⟩

/-- What a script does, and the files after it. -/
def perform (programs : Programs) (extended : Bool) (fs : FileSystem) (path source : String) :
    Activity × FileSystem :=
  let exec := execute programs depth
  let text := Text.octetsOf source
  let (s, flow) := State.endProcess exec
    (State.runSource exec text (State.initial extended fs path))
  (s.activity flow, s.world.files)

def activity (programs : Programs) (extended : Bool) (fs : FileSystem) (path source : String) :
    Activity :=
  (perform programs extended fs path source).1

end Flowboard.Shell
