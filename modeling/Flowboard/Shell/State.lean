import Flowboard.Double.Basic
import Flowboard.Files.System
import Flowboard.Shell.Command
import Flowboard.Utility.Basic

/-! What a running shell script has and does. -/
namespace Flowboard.Shell

/-- Where a descriptor leads. -/
inductive Channel where
  /-- what the run as a whole writes -/
  | output
  | errors
  /-- what another command reads -/
  | pipe (n : Nat)
  /-- the file with an absolute path, to whose end is written -/
  | file (path : String)
  /-- what was opened for reading -/
  | source (n : Nat)
  deriving DecidableEq, Repr

/-- A text that was written. -/
structure Event where
  time : Nat
  owner : Nat
  channel : Channel
  text : List Char

/-- A command that runs beside the script. -/
structure Job where
  pid : Nat
  ending : Option Nat
  status : Status
  holds : List Channel

/-- A command that runs beside the script and talks to it. -/
structure Partner where
  /-- the pipe that it reads -/
  pipe : Nat
  /-- the source that has what it writes -/
  source : Nat
  body : Command
  /-- how much of what it writes has been passed on -/
  passed : Nat := 0

/-- What all commands of a run share. -/
structure World where
  files : FileSystem
  sources : List (Nat × Pipe) := []
  /-- the paths under which sources were opened -/
  origins : List (Nat × String) := []
  /-- what follows the text in pipes that have no end -/
  tails : List (Nat × Tail) := []
  /-- the latest first -/
  events : List Event := []
  /-- the next number for pipes, sources and processes -/
  fresh : Nat
  /-- the steps that are left -/
  steps : Nat
  jobs : List Job := []
  /-- signals on their way, with the numbers of the processes they go to -/
  signals : List (Nat × String) := []
  /-- something waits for ever -/
  stalled : Bool := false
  partners : List Partner := []
  /-- files that scripts read when the command has written them -/
  sinks : List (String × List Char) := []

/-- The values that a variable holds. -/
inductive Held where
  | text (s : String)
  /-- values by number, in increasing order -/
  | list (elements : List (Nat × String))
  /-- values by text -/
  | table (elements : List (String × String))
  deriving DecidableEq, Repr

namespace Held

/-- The place of a key in a table, which is a number below 1024. -/
def bucketOf (key : String) : Nat :=
  key.toList.foldl (fun h c => Nat.xor (h * 16777619 % 4294967296) c.toNat) 2166136261 % 1024

/-- The elements of a table in the order of their places, later ones first at the same place. -/
def ordered (elements : List (String × String)) : List (String × String) :=
  elements.reverse.mergeSort fun a b => bucketOf a.1 ≤ bucketOf b.1

/-- The value of a variable, or of one of its elements. -/
def element? (h : Held) (index : String) : Option String :=
  match h with
  | .text t => if index = "0" then some t else none
  | .list es => (Text.natural? index.toList).bind fun n => es.lookup n
  | .table es => es.lookup index

def value? : Held → Option String
  | .text t => some t
  | .list es => es.lookup 0
  | .table es => es.lookup "0"

def values : Held → List String
  | .text t => [t]
  | .list es => es.map (·.2)
  | .table es => (ordered es).map (·.2)

def keys : Held → List String
  | .text _ => ["0"]
  | .list es => es.map fun e => Text.naturalText e.1
  | .table es => (ordered es).map (·.1)

end Held

structure Variable where
  held : Option Held := none
  exported : Bool := false
  constant : Bool := false
  /-- its values are those of expressions -/
  integer : Bool := false
  /-- its values get upper or lower case -/
  upper : Bool := false
  lower : Bool := false
  /-- it stands for the variable of which it holds the name -/
  refers : Bool := false
  deriving DecidableEq, Repr

/-- What belongs to one process of a run. -/
structure Process where
  extended : Bool
  /-- its own number, and that of the script it belongs to -/
  pid : Nat
  scriptPid : Nat
  /-- the numbers of the processes that it is in, the nearest first -/
  ancestors : List Nat := []
  /-- the number of the job that it belongs to -/
  owner : Nat
  name : String
  args : List String := []
  bindings : Table Variable := []
  functions : Table Command := []
  options : List String := []
  status : Status := .success
  /-- the status of the last substitution in the words of a command -/
  substituted : Option Status := none
  lastJob : Option Nat := none
  channels : List (Nat × Channel)
  traps : Table String := []
  /-- milliseconds since the run began -/
  clock : Nat := 0
  /-- failures do not end the script -/
  guarded : Bool := false
  /-- the values that local variables had outside of functions -/
  frames : List (List (String × Option Variable)) := []
  /-- how many loops the command is in -/
  loops : Nat := 0
  line : Nat := 1
  /-- how far `getopts` has come in an argument -/
  letter : Nat := 0
  /-- the statuses of the commands of the last pipe -/
  statuses : List Status := []
  /-- the names of the functions that it is in -/
  callers : List String := []
  /-- the permissions that new files do not have -/
  mask : Nat := 18
  lastField : String := ""
  /-- what random numbers come from -/
  seed : Nat := 42
  /-- how many processes apart it is in -/
  level : Nat := 0
  /-- the directories to go back to -/
  directories : List String := []
  /-- when it started, in milliseconds -/
  started : Nat := 0

structure State where
  process : Process
  world : World

/-- How a command goes on. -/
inductive Flow where
  | next
  | leave (loops : Nat)
  /-- goes on with the next turn of a loop -/
  | again (loops : Nat)
  /-- leaves a function -/
  | finish
  /-- gives the rest of the line up -/
  | abandon
  | exit
  | killed (signal : Nat)
  /-- waits for ever -/
  | never
  /-- does more than there are steps for -/
  | exhausted
  deriving DecidableEq, Repr

namespace State

/-- What is known under a name itself. -/
def ownBinding? (s : State) (name : String) : Option Variable :=
  s.process.bindings.get? name

/-- The name that a name stands for. Each reference uses up one of the fuel. -/
def referred (s : State) : Nat → String → String
  | 0, name => name
  | fuel + 1, name =>
    match s.ownBinding? name with
    | some { refers := true, held := some (.text target), .. } => s.referred fuel target
    | _ => name

def meant (s : State) (name : String) : String :=
  s.referred 8 name

def binding? (s : State) (name : String) : Option Variable :=
  s.ownBinding? (s.meant name)

def has (s : State) (option : String) : Bool :=
  s.process.options.contains option

def setOption (s : State) (option : String) (on : Bool) : State :=
  let others := s.process.options.filter (· != option)
  { s with process.options := if on then option :: others else others }

def get? (s : State) (name : String) : Option String :=
  ((s.binding? name).bind (·.held)).bind Held.value?

def get (s : State) (name : String) : String :=
  (s.get? name).getD ""

/-- Puts a variable in the place of another one, which keeps what else is known of it. -/
def hold (s : State) (name : String) (h : Held) : State :=
  let old := (s.binding? name).getD {}
  let v := { old with held := some h, exported := old.exported || s.has "allexport" }
  { s with process.bindings := s.process.bindings.insert (s.meant name) v }

/-- Puts an element among others in increasing order. -/
def insertElement (n : Nat) (value : String) : List (Nat × String) → List (Nat × String)
  | [] => [(n, value)]
  | (k, v) :: rest =>
    if n < k then (n, value) :: (k, v) :: rest
    else if n = k then (n, value) :: rest
    else (k, v) :: insertElement n value rest

/-- Puts an element among others, a new one at the end. -/
def insertKey (key value : String) : List (String × String) → List (String × String)
  | [] => [(key, value)]
  | (k, v) :: rest => if key = k then (key, value) :: rest else (k, v) :: insertKey key value rest

def listOf (h : Option Held) : List (Nat × String) :=
  match h with
  | some (.text t) => [(0, t)]
  | some (.list es) => es
  | _ => []

def cased (s : State) (name value : String) : String :=
  match s.binding? name with
  | some { upper := true, .. } => value.map Char.toUpper
  | some { lower := true, .. } => value.map Char.toLower
  | _ => value

def set (s : State) (name value : String) : State :=
  let value := s.cased name value
  let s := if name = "RANDOM" then
      { s with process.seed := (Text.natural? value.toList).getD 0 % twoTo 32 }
    else s
  match (s.binding? name).bind (·.held) with
  | some (.list es) => s.hold name (.list (insertElement 0 value es))
  | some (.table es) => s.hold name (.table (insertKey "0" value es))
  | _ => s.hold name (.text value)

/-- Sets an element of a variable. A negative number counts from the end. -/
def setElement (s : State) (name index value : String) : State :=
  let value := s.cased name value
  match (s.binding? name).bind (·.held) with
  | some (.table es) => s.hold name (.table (insertKey index value es))
  | h =>
    let es := listOf h
    let n := (Text.integer? index.toList).getD 0
    let n := if n < 0 then ((es.getLast?.map fun e => (e.1 : Int) + 1).getD 0) + n else n
    s.hold name (.list (insertElement n.toNat value es))

def unset (s : State) (name : String) : State :=
  let name := s.meant name
  { s with process.bindings := s.process.bindings.filter fun e => e.1 != name }

/-- The variables that other programs see. -/
def environment (s : State) : Table String :=
  s.process.bindings.filterMap fun (name, v) =>
    if v.exported then (v.held.bind Held.value?).map fun value => (name, value) else none

def fresh (s : State) : Nat × State :=
  (s.world.fresh, { s with world.fresh := s.world.fresh + 1 })

/-- Lets time pass up to a time that has not yet come. -/
def waitUntil (s : State) (time : Nat) : State :=
  { s with process.clock := max s.process.clock time }

def channel? (s : State) (descriptor : Nat) : Option Channel :=
  s.process.channels.lookup descriptor

def connect (s : State) (descriptor : Nat) (c : Option Channel) : State :=
  let others := s.process.channels.filter fun e => e.1 != descriptor
  { s with process.channels := match c with
      | some c => (descriptor, c) :: others
      | none => others }

def opened (s : State) (p : Pipe) : Channel × State :=
  let (n, s) := s.fresh
  (.source n, { s with world.sources := (n, p) :: s.world.sources })

def openedAt (s : State) (path : String) (p : Pipe) : Channel × State :=
  let (c, s) := s.opened p
  match c with
  | .source n => (c, { s with world.origins := (n, path) :: s.world.origins })
  | c => (c, s)

def inputOf (s : State) (descriptor : Nat) : Pipe :=
  match s.channel? descriptor with
  | some (.source n) => (s.world.sources.lookup n).getD .empty
  | _ => .empty

def leaveInput (s : State) (descriptor : Nat) (p : Pipe) : State :=
  match s.channel? descriptor with
  | some (.source n) =>
    { s with world.sources := s.world.sources.map fun e => if e.1 = n then (n, p) else e }
  | _ => s

def writeTo (s : State) (c : Channel) (text : List Char) : Option State :=
  if text.isEmpty then some s
  else
    match c with
    | .source _ => none
    | .file path =>
      match s.world.files.find path with
      | .ok (.file old) =>
        match s.world.files.write path (old ++ Text.octetBytes text) with
        | .ok files => some { s with world.files := files }
        | .error _ => none
      | _ =>
        match s.world.files.write path (Text.octetBytes text) with
        | .ok files => some { s with world.files := files }
        | .error _ => none
    | c =>
      let e : Event := ⟨s.process.clock, s.process.owner, c, text⟩
      some { s with world.events := e :: s.world.events }

def write? (s : State) (descriptor : Nat) (text : List Char) : Option State :=
  match s.channel? descriptor with
  | some c => s.writeTo c text
  | none => if text.isEmpty then some s else none

def write (s : State) (descriptor : Nat) (text : List Char) : State :=
  (s.write? descriptor text).getD s

/-- Writes a message about an error. -/
def complain (s : State) (message : String) : State :=
  let line := if s.process.extended then "line " else ""
  s.write 2 (s.process.name ++ ": " ++ line ++ Text.naturalText s.process.line ++ ": " ++ message ++
    "\n").toList

def withStatus (s : State) (status : Status) : State :=
  { s with process.status := status }

def failed (s : State) (status : Int) (message : String) : State :=
  (s.complain message).withStatus (.ofInt status)

/-- Files as they are, for programs to see. -/
def files (s : State) : FileSystem :=
  s.world.files

def mayLeadToOpen (argument : String) : Bool :=
  1 < (argument.splitOn "/dev/").length || 1 < (argument.splitOn "/proc").length

/-- What a program finds under the number of something open. -/
def openEntry (s : State) : Channel → Entry
  | .source n =>
    match s.world.origins.lookup n, s.world.sources.lookup n with
    | some path, _ => .link path
    | none, some p => .pipe (Text.octetBytes p.text)
    | none, none => .pipe []
  | .file path => .link path
  | _ => .pipe []

/-- The directory of what a process has. -/
def processPlaces (s : State) : List Place :=
  [["proc", "self"], ["proc", Text.naturalText s.process.scriptPid]]

/-- How the shell itself was called. -/
def processCall (s : State) : List String :=
  (if s.process.extended then "bash" else "sh") :: s.process.name :: s.process.args

/-- The files for a program that is called by a name with arguments, which finds there what is open
and what it is called. -/
def filesFor (s : State) (own shell : List String) : FileSystem :=
  let bytes (t : String) : List UInt8 := Text.octetBytes t.toList
  if own.any mayLeadToOpen then
    let described (fs : FileSystem) (place : Place) (call : List String) : FileSystem :=
      let name := ((call.headD "").splitOn "/").getLastD ""
      let texts : List (String × List UInt8) :=
        [("comm", bytes (String.ofList (name.toList.take 15) ++ "\n")),
         ("cmdline", call.flatMap fun a => bytes a ++ [0]),
         ("status", bytes ("Name:\t" ++ name ++ "\nUmask:\t0022\nState:\tR (running)\n")),
         ("environ", s.environment.flatMap fun (n, v) => bytes (n ++ "=" ++ v) ++ [0])]
      let fs := (fs.put place .directory).put (place ++ ["fd"]) .directory
      let fs := texts.foldl (fun fs (n, bytes) => fs.put (place ++ [n]) (.file bytes)) fs
      let fs := fs.put (place ++ ["cwd"]) (.link (FileSystem.pathOf fs.here))
      let fs := fs.put (place ++ ["root"]) (.link "/")
      let binary := if name = "sh" then "dash" else if name = "awk" then "mawk" else name
      let fs := fs.put (place ++ ["exe"]) (.link ("/usr/bin/" ++ binary))
      let fs := fs.erase (place ++ ["fd", "0"])
      s.process.channels.foldl (fun fs (n, c) =>
        fs.put (place ++ ["fd", Text.naturalText n]) (s.openEntry c)) fs
    let places := s.processPlaces
    let fs := (places.take 1).foldl (fun fs p => described fs p own) s.files
    (places.drop 1).foldl (fun fs p => described fs p shell) fs
  else s.files

/-- What was written to pipes by their paths, with the numbers of their descriptors. -/
def writtenByPath (s : State) (fs : FileSystem) : List (Nat × List Char) :=
  s.process.channels.filterMap fun (n, c) =>
    match c, fs.entry? ["proc", "self", "fd", Text.naturalText n] with
    | .source _, _ => none
    | .file _, _ => none
    | _, some (.pipe bytes) => if bytes.isEmpty then none else some (n, Text.octets bytes)
    | _, _ => none

/-- The files that a program leaves, without what it has found of open ones. -/
def withoutOpen (s : State) (fs : FileSystem) : FileSystem :=
  let inside (path : String) : Bool := path.startsWith "/proc/"
  let left := fs.entries.filterMap fun (path, e) =>
    if inside path then
      (s.files.entries.get? path).map fun old => (path, if e matches .file _ then e else old)
    else some (path, e)
  let lost := s.files.entries.filter fun e => inside e.1 && (fs.entries.get? e.1).isNone
  { fs with entries := left ++ lost }

/-- The texts of events on a channel in the order of their times. -/
def textOn (c : Channel) (events : List Event) : List Char :=
  let own := (events.filter fun e => e.channel == c).reverse
  let ordered := own.mergeSort fun a b => a.time ≤ b.time
  ordered.foldl (fun parts e => e.text :: parts) [] |>.reverse.flatten

/-- When the last job that holds a channel ends, if all end. -/
def closing (s : State) (c : Channel) : Option Nat :=
  s.world.jobs.foldl (fun time j =>
    if j.holds.contains c then do return max (← time) (← j.ending) else time) (some 0)

end State

end Flowboard.Shell
