import Flowboard.Script.Thread
import Flowboard.Time.Zone

/-! Functions that reach the machine: processes, files, time and signals. -/
namespace Flowboard.Script

def clockFunction (k : Calls) (name : String) (args : List Value) : Action Value := do
  match name with
  | "sleep" =>
    let v ← firstOf name args
    let p ← plain v
    if p.int?.isNone && !(p matches .float _) && (← special? v "__index__").isNone then
      Action.typeError ("'" ++ (← typeName v) ++ "' object cannot be interpreted as an integer")
    let x ← floatOf k p
    if x < 0.0 then Action.valueError "sleep length must be non-negative"
    else if x.isNaN then Action.valueError "Invalid value NaN (not a number)"
    else if 100000000.0 < x then throw .never
    else
      -- waking up takes a moment
      let _ ← await k .none (some (microseconds x + 60))
      return .none
  | "time" => return .float (startSeconds + (← elapsed))
  | "time_ns" => return .int (nanosNow (← get))
  | "monotonic" | "perf_counter" | "process_time" => return .float (1000.0 + (← elapsed))
  | "monotonic_ns" | "perf_counter_ns" => return .int (1000000000000 + 1000 * (← get).clock)
  | name => noMember (.module "_clock") name

/-- A format without what only commands know. -/
def bareFormat : List Char → List Char
  | '%' :: c :: s =>
    if c = 'N' ∨ c = 'q' ∨ c = ':' ∨ c = '+' then '%' :: '%' :: c :: bareFormat s
    else '%' :: c :: bareFormat s
  | c :: s => c :: bareFormat s
  | [] => []

def momentFunction (name : String) (args : List Value) : Action Value := do
  match name, args with
  | "text", [.str format, .tuple fields] =>
    match fields with
    | [.int year, .int month, .int day, .int hour, .int minute, .int second, .int weekday,
        .int yearDay, .str zone, .int offset] =>
      let m := Moment.ofParts year month.toNat 1 hour.toNat minute.toNat second.toNat
      let m := { m with
        year, month := month.toNat, day := day.toNat, weekday := ((weekday + 1) % 7).toNat
        yearDay := (yearDay - 1).toNat, second := second.toNat, hour := hour.toNat
        minute := minute.toNat, seconds := m.seconds + (day - 1) * 86400 - offset
        offset := { seconds := offset, name := zone } }
      return .str (.ofList (m.text (bareFormat format.toList)))
    | _ => return .none
  | "local", [.int seconds, .str setting] =>
    let m := (Zone.ofSetting setting).moment seconds
    let int (n : Nat) : Value := .int n
    return .tuple [.int m.year, int m.month, int m.day, int m.hour, int m.minute, int m.second,
      int ((m.weekday + 6) % 7), int (m.yearDay + 1), int (if m.offset.summer then 1 else 0),
      .str m.offset.name, .int m.offset.seconds]
  | "seconds", [.int shown, .str setting, .bool late] =>
    return .int ((Zone.ofSetting setting).secondsOf shown late)
  | "zone", [.str setting] =>
    let z := Zone.ofSetting setting
    match z.summer with
    | none => return .tuple [.str z.standard.name, .int z.standard.seconds]
    | some s =>
      return .tuple [.str z.standard.name, .int z.standard.seconds, .str s.offset.name,
        .int s.offset.seconds]
  | "place", [.str place] => return .bool (Zone.ofPlace? place).isSome
  | name, _ => noMember (.module "_moments") name

def signalFunction (k : Calls) (name : String) (args : List Value) : Action Value := do
  match name, args with
  | "signal", [n, f] =>
    let n ← intOf k n
    if n < 1 || 64 < n then Action.valueError "signal number out of range"
    if n = 9 || n = 19 then refuse 22 "Invalid argument" none
    let old := ((← get).handlers.lookup n).getD .none
    modify fun w => { w with handlers := (n, f) :: w.handlers }
    return old
  | "getsignal", [n] => return ((← get).handlers.lookup (← intOf k n)).getD .none
  | "alarm", [n] =>
    let n ← intOf k n
    let w ← get
    set { w with
      alarm := if n ≤ 0 then none else some (w.clock + 1000000 * n.toNat), interval := 0 }
    return .int ((w.alarm.map fun t => (t - w.clock + 999999) / 1000000).getD 0)
  | "setitimer", [_, seconds, interval] =>
    let (x, y) := (microseconds (← floatOf k seconds), microseconds (← floatOf k interval))
    let w ← get
    set { w with alarm := if x = 0 then none else some (w.clock + x), interval := y }
    let left := (w.alarm.map fun t => t - w.clock).getD 0
    return .tuple [.int left, .int w.interval]
  | "getitimer", [_] =>
    let w ← get
    return .tuple [.int ((w.alarm.map fun t => t - w.clock).getD 0), .int w.interval]
  | "raise_signal", [n] => deliver k (← intOf k n); return .none
  | "pause", _ =>
    match (← get).alarm with
    | some t => pass k (t - (← get).clock); return .none
    | none => throw .never
  | name, _ => noMember (.module "_signal") name

/-- The part of a path before its last slash, and the part after it. -/
def splitPath (s : String) : String × String :=
  match lastPosition? ['/'] s.toList with
  | none => ("", s)
  | some n =>
    let head := s.toList.take (n + 1)
    let cut := stripRight (· == '/') head
    (.ofList (if cut.isEmpty then head else cut), .ofList (s.toList.drop (n + 1)))

/-- A path before the last point of its name, and what starts with that point. -/
def splitExtension (s : String) : String × String :=
  let name := (splitPath s).2.toList
  let dots := name.takeWhile (· == '.')
  match lastPosition? ['.'] (name.drop dots.length) with
  | none => (s, "")
  | some n =>
    let tail := (name.drop dots.length).drop n
    (.ofList (s.toList.take (s.length - tail.length)), .ofList tail)

/-- Functions on paths that do not ask what stands under them. -/
def pathFunction (k : Calls) (name : String) (args : List Value) : Action Value := do
  let s ← fsPath k (← firstOf name args)
  match name with
  | "isabs" => return .bool (s.startsWith "/")
  | "basename" => return .str (splitPath s).2
  | "splitext" => return .tuple [.str (splitExtension s).1, .str (splitExtension s).2]
  | name => noMember (.module "posixpath") name

/-- A word that a shell takes as it is. -/
def shellQuoted (s : String) : String :=
  "'" ++ s.replace "'" "'\\''" ++ "'"

/-- What a shell has to do before a command so that it sees the variables of the script. -/
def exportedChanges : Action String := do
  let w ← get
  match w.shared.get? "posix.environ" with
  | none => return ""
  | some v =>
    match ← Action.object? v with
    | some (.dict d _) =>
      let now := d.toList.filterMap fun
        | (.str n, .str v) => some (n, v)
        | _ => none
      let changed := now.filter fun (n, v) => w.environment.lookup n ≠ some v
      let gone := w.environment.filter fun (n, _) => (now.lookup n).isNone
      return String.join (changed.map fun (n, v) => "export " ++ n ++ "=" ++ shellQuoted v ++ "; ")
        ++ String.join (gone.map fun (n, _) => "unset " ++ n ++ "; ")
    | _ => return ""

/-- Runs a command; its files stay. -/
def startCommand (command : String) : Action Activity := do
  let changes ← exportedChanges
  let w ← get
  let (a, fs) := w.shell w.files (changes ++ command)
  set { w with files := { fs with here := w.files.here } }
  return a

def endingNumber : Ending → Value
  | .exit s => .int s.val
  | .killed => .int (-9)
  | .never => .none

/-- A command as a shell takes it, and the name of its program. -/
def commandText (k : Calls) (v : Value) (inShell : Bool) : Action (String × String) := do
  match v with
  | .str s => return (if inShell then s else shellQuoted s, s)
  | .bytes b =>
    let s := Text.decodeLossy b
    return (if inShell then s else shellQuoted s, s)
  | v =>
    let items ← match ← Action.object? v with
      | some (.object _ _ .none) => pure [v]
      | _ => itemsOf k v
    let parts ← items.mapM (fsPath k)
    if inShell then
      let rest := parts.drop 1
      return if rest.isEmpty then (parts.headD "", "sh")
        else ("sh -c " ++ " ".intercalate (parts.map shellQuoted), "sh")
    else return (" ".intercalate (parts.map shellQuoted), parts.headD "")

def processFunction (k : Calls) (name : String) (args : List Value) : Action Value := do
  match name, args with
  | "text", [v, .bool inShell] =>
    let (text, program) ← commandText k v inShell
    return .tuple [.str text, .str program]
  | "find", [.str program, place] =>
    match place with
    | .str d =>
      match (← get).files.find d with
      | .ok (.directory) => pure ()
      | .ok _ => systemError "NotADirectoryError" 20 "Not a directory" (some d)
      | .error e => fileError e d
    | _ => pure ()
    let test := if program.any (· == '/') then "[ -e " ++ shellQuoted program ++ " ]"
      else "command -v " ++ shellQuoted program
    let a ← startCommand test
    if a.ending ≠ .exit (.ofInt 0) then
      systemError "FileNotFoundError" 2 "No such file or directory" (some program)
    if program.any (· == '/') then
      let a ← startCommand ("[ -x " ++ shellQuoted program ++ " ] && [ ! -d " ++
        shellQuoted program ++ " ]")
      if a.ending ≠ .exit (.ofInt 0) then
        systemError "PermissionError" 13 "Permission denied" (some program)
    return .none
  | "start", [.str command, feed, place, bound] =>
    let move := match place with
      | .str d => "cd " ++ shellQuoted d ++ "; "
      | _ => ""
    let bindings ← match bound with
      | .none => pure ""
      | v =>
        let pairs ← itemsOf k v
        let given := pairs.filterMap fun
          | .tuple [.str n, .str v] => some (n, v)
          | _ => none
        let gone := (← get).environment.filter fun (n, _) =>
          n ≠ "PATH" && (given.lookup n).isNone
        pure (String.join (gone.map fun (n, _) => "unset " ++ n ++ "; ") ++
          String.join (given.map fun (n, v) => "export " ++ n ++ "=" ++ shellQuoted v ++ "; "))
    let fed := match feed with
      | .bytes b => "printf %s " ++ shellQuoted (.ofList (Text.octets b)) ++ " | "
      | _ => ""
    let command := if fed = "" then command else "\x7b " ++ command ++ "\n\x7d"
    let a ← startCommand (move ++ bindings ++ fed ++ command)
    return .tuple [endingNumber a.ending, .bytes a.output, .bytes a.errors,
      .float ((floatOfInt? a.span.millis).getD 0.0 / 1000.0)]
  | "emit", [.int fd, .bytes b] =>
    writeDirectly fd b
    return .none
  | name, _ => noMember (.module "_process") name

def entryNumber (fs : FileSystem) (place : Place) : Nat :=
  100000 + (fs.entries.takeWhile fun (path, _) => path != FileSystem.pathOf place).length

/-- What the system knows about something: its mode, number, device, links, owner, group, size and
the moment of its last change. -/
def statValues (mode number links size : Nat) (moment : Int) : Value :=
  .tuple [.int mode, .int number, .int 45, .int links, .int 0, .int 0, .int size, .int moment]

def entryStat (w : World) (place : Place) (e : Entry) : Value :=
  let kind := match e with
    | .directory => 0o040000
    | .file _ | .program => 0o100000
    | .device _ => 0o020000
    | .pipe _ => 0o010000
    | .link _ => 0o120000
  let (links, size) := (1, (entryBytes e).length)
  statValues (kind + w.files.modeAt place) (entryNumber w.files place) links size
    ((w.times.get? (FileSystem.pathOf place)).getD (startOfRuns * 1000000000))

/-- What the system knows about the source of an opening. -/
def openingStat : Action Value := do
  let w ← get
  return statValues 0o010600 2 1 0 (nanosNow w)

/-- Where a path leads to, with a link at its end followed or not, and what stands there. -/
def entryUnder (path : String) (follow : Bool) : Action (Place × Entry) := do
  let fs := (← get).files
  match fs.locateWith follow path with
  | .error e => fileError e path
  | .ok spot =>
    match fs.look spot with
    | .error e => fileError e path
    | .ok none => if spot.place.isEmpty then return ([], .directory) else fileError .notFound path
    | .ok (some e) => return (spot.place, e)

/-- The status with which a process ends, as its parent gets it. -/
def waitNumber : Ending → Option Nat
  | .exit s => some (256 * s.val)
  | _ => none

/-- The process goes on as two. -/
def copyProcess : Action Value := do
  let w ← get
  match w.fates with
  | .offspring visit :: rest =>
    become w visit rest
  | [] => become w {} []
  | .parent o :: rest =>
    let own := o.last
    let past := w.met.length
    -- what the other one wrote, as far as it comes later than what is written here
    let pieces := (own.moments.take (own.moments.length - w.moments.length)).reverse
    let cuts := pieces ++ [(own.clock, own.output.size, own.errors.size)]
    let late := (cuts.zip (cuts.drop 1)).flatMap fun ((t, a, b), (_, c, d)) =>
      (if a < c then [(t, false, own.output.extract a c)] else []) ++
        (if b < d then [(t, true, own.errors.extract b d)] else [])
    let late := late ++ own.late
    let n := w.openings.size
    set { w with
      met := .parent o :: w.met, fates := rest
      files := { own.files with here := w.files.here }
      feeds := w.feeds ++ own.poured.reverse.map fun (p : Nat × List UInt8 × Nat) =>
        (p.1, p.2.1, if p.2.2 = 0 then 0 else w.poured.length + p.2.2)
      times := own.times
      openings := own.openings.extract 0 n
      processes := max w.processes own.processes
      late := (w.late ++ late).mergeSort fun a b => a.1 ≤ b.1
      children := w.children ++
        [({ visit := o.visit, thirsty := o.thirsty, poured := w.poured.length
            number := o.number, status := o.status, finish := own.clock, origin := past
            attentive := own.handlers.any fun (_, v) => match v with
              | .int 0 => false
              | _ => true } : Child)] }
    settleLate
    return .int o.number
where
  become (w : World) (visit : Visit) (rest : List (Fate World)) : Action Value := do
    if 40 < w.met.length then refuse 11 "Resource temporarily unavailable" none
    set { w with
      met := .offspring visit :: w.met, fates := rest
      kept := w.descriptors ++ w.kept, poured := [], dried := visit.dry
      feeds := visit.bytes, taken := 0
      elders := w.process :: w.elders
      process := 4097 + w.processes, processes := w.processes + 1
      children := [], alarm := none, coming := visit.signals
      moments := (w.clock, w.output.size, w.errors.size) :: w.moments, late := [] }
    return .int 0

def waitFor (k : Calls) (number : Int) (atOnce : Bool) : Action Value := do
  let w ← get
  let wanted := w.children.filter fun c => number < 1 || number = (c.number : Int)
  let ended := wanted.filter fun c => c.status.isSome
  let first := ended.foldl (fun (best : Option Child) c => match best with
    | none => some c
    | some b => if c.finish < b.finish then some c else some b) none
  match first with
  | none =>
    if wanted.isEmpty then refuse 10 "No child processes" none
    else if atOnce then return .tuple [.int 0, .int 0]
    else
      match wanted.find? (·.thirsty) with
      | some c => visitAgain c []
      | none => pure ()
      match w.alarm with
      | some t => pass k (t - w.clock); throw .never
      | none => throw .never
  | some c =>
    if atOnce && w.clock < c.finish then return .tuple [.int 0, .int 0]
    if w.clock < c.finish then pass k (c.finish - w.clock)
    modify fun w => { w with children := w.children.filter fun d => d.number ≠ c.number }
    return .tuple [.int c.number, .int (c.status.getD 0)]

/-- Sends a signal to a child. One that does something about signals has to live its life once more;
all others end. -/
def signalChild (c : Child) (n : Int) : Action Unit := do
  let w ← get
  if n = 0 || w.clock ≥ c.finish && c.status.isSome then return
  if c.attentive && n ≠ 9 then
    visitAgain c [(w.clock, n)]
  else if quietSignals.contains n then return
  else
    set { w with
      late := w.late.filter fun (t, _, _) => t ≤ w.clock
      children := w.children.map fun (d : Child) =>
        if d.number = c.number then { d with status := some n.toNat, finish := w.clock } else d }

def signalProcess (k : Calls) (p n : Int) : Action Unit := do
  let w ← get
  if n < 0 || 64 < n then refuse 22 "Invalid argument" none
  let own : Action Unit := if n ≠ 0 then deliver k n else pure ()
  if p = w.process || p = 0 then own
  else
    match w.children.find? fun c => p = (c.number : Int) with
    | some c => signalChild c n
    | none =>
      if w.elders.any fun e => p = (e : Int) then
        -- a parent hears of it later
        return
      else if p = -1 || p = -(w.process : Int) then own
      else refuse 3 "No such process" none

/-- The functions of the system under files and processes. -/
def osFunction (k : Calls) (name : String) (args : List Value) : Action Value := do
  let first := firstOf name args
  let path : Action String := do fsPath k (← first)
  let second := args[1]?.getD .none
  let whole (v : Value) : Action Int := intOf k v
  match name with
  | "getpid" => return .int (← get).process
  | "_exit" => throw (.exit (.ofInt (← whole (← first))))
  | "abort" =>
    modify fun w => { w with killer := 6 }
    throw .killed
  | "kill" | "killpg" =>
    match args with
    | [p, n] =>
      signalProcess k (← whole p) (← whole n)
      return .none
    | _ => Action.typeError "kill() missing required argument 'signal' (pos 2)"
  | "fork" => copyProcess
  | "waitpid" =>
    match args with
    | [p, options] => waitFor k (← whole p) ((← whole options) % 2 = 1)
    | _ => Action.typeError ("waitpid expected 2 arguments, got " ++ Text.naturalText args.length)
  | "write" =>
    match args with
    | [fd, v] =>
      let fd ← whole fd
      let b ← match ← bytesOf? v with
        | some b => pure b
        | none =>
          Action.typeError ("a bytes-like object is required, not '" ++ (← typeName v) ++ "'")
      putBytes fd b
      return .int b.length
    | _ => Action.typeError ("write expected 2 arguments, got " ++ Text.naturalText args.length)
  | "stat" =>
    match args with
    | [p, follow] =>
      let p ← fsPath k p
      match pathDescriptor? p with
      | some _ => openingStat
      | none =>
        let (place, e) ← entryUnder p (follow.int? == some 1)
        return entryStat (← get) place e
    | _ => Action.typeError "stat() missing required argument 'path' (pos 1)"
  | "access" =>
    let path ← path
    let n ← whole second
    let w ← get
    match w.files.locate path with
    | .error _ => return .bool false
    | .ok spot =>
      match w.files.look spot with
      | .ok (some _) =>
        return .bool (n.toNat % 2 = 0 || w.files.isRunnable spot.place)
      | .ok none => return .bool spot.place.isEmpty
      | .error _ => return .bool false
  | "urandom" =>
    let n ← whole (← first)
    if n < 0 then Action.valueError "negative argument not allowed"
    let w ← get
    set { w with chance := w.chance + n.toNat + 1 }
    return .bytes (noise w.chance n.toNat)
  | name => noMember (.module "posix") name
where
  /-- Bytes that follow no pattern one can see. -/
  noise (seed : Nat) : Nat → List UInt8
    | 0 => []
    | n + 1 =>
      let x := (seed + n + 1) * 0x9E3779B97F4A7C15 % 0x10000000000000000
      let x := (Nat.xor x (x / 0x40000000)) * 0xBF58476D1CE4E5B9 % 0x10000000000000000
      let x := (Nat.xor x (x / 0x8000000)) * 0x94D049BB133111EB % 0x10000000000000000
      UInt8.ofNat (x / 0x100000000) :: noise seed n

def streamFunction (stream name : String) (args : List Value) : Action Value := do
  match stream, name with
  | "sys.stdin", name => inputMethod name false args
  | _, "fileno" => return .int (if stream.startsWith "sys.stderr" then 2 else 1)
  | "sys.stdout.buffer", "write" =>
    match args with
    | [.bytes b] => writeBuffered b; return .int b.length
    | v => Action.typeError ("a bytes-like object is required, not '" ++
        (← typeName (v.headD .none)) ++ "'")
  | stream, "write" =>
    match args with
    | [.str s] =>
      if stream.startsWith "sys.stderr" || stream.startsWith "sys.__stderr" then writeErrors s
      else writeOutput s
      return .int s.length
    | v =>
      Action.typeError ("write() argument must be str, not " ++ (← typeName (v.headD .none)))
  | stream, "flush" =>
    if stream.startsWith "sys.stdout" || stream.startsWith "sys.__stdout" then flush
    return .none
  | _, _ => return .none

def sysFunction (k : Calls) (name : String) (args : List Value) : Action Value := do
  match name with
  | "exit" => leaveWith args
  | "getrecursionlimit" => return .int (← get).recursionLimit
  | "setrecursionlimit" =>
    let n ← intOf k (← firstOf name args)
    modify fun w => { w with recursionLimit := n.toNat }
    return .none
  | "getrefcount" => return .int 2
  | "getdefaultencoding" | "getfilesystemencoding" => return .str "utf-8"
  | "intern" => firstOf name args
  | "exc_info" =>
    match (← get).handling with
    | e :: _ =>
      let trace ← match ← member? k e "__traceback__" with
        | some t => pure t
        | none => pure .none
      return .tuple [← typeOf e, e, trace]
    | [] => return .tuple [.none, .none, .none]
  | "_getframe" =>
    let n ← match args.head? with
      | some v => intOf k v
      | none => pure 0
    let all := stations (← get)
    match all.drop n.toNat with
    | [] => Action.valueError "call stack is not deep enough"
    | rest => frameObject rest
  | _ => return .none

end Flowboard.Script
