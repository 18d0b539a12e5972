import Flowboard.Files.System
import Flowboard.Host.Basic
import Flowboard.Script.Chance
import Flowboard.Script.Tree
import Flowboard.Search.Reader
import Std.Data.HashMap

/-! Values of scripts, and the world that scripts change. -/
namespace Flowboard.Script

/-- A value. Those that can change stand in the world under a number. -/
inductive Value where
  | none
  | ellipsis
  /-- an operation says that it has no answer -/
  | unsupported
  | bool (b : Bool)
  | int (n : Int)
  | float (x : Float)
  | complex (real imaginary : Float)
  | str (s : String)
  | bytes (b : List UInt8)
  | tuple (xs : List Value)
  | range (first last step : Int)
  | slice (first last step : Value)
  /-- a function or a type that is always there, or one of a module after the module's name -/
  | builtin (name : String)
  /-- a function of a value that is no object of a class in the script -/
  | method (self : Value) (name : String)
  /-- a function with its first argument -/
  | bound (self function : Value)
  | module (name : String)
  | ref (place : Nat)
  deriving Inhabited

/-- Pairs in the order in which they came. A pair is found by a text that equal keys share. -/
structure Dict where
  entries : Array (Option (Value × Value)) := #[]
  places : Std.HashMap String Nat := {}

namespace Dict

def empty : Dict := {}

def size (d : Dict) : Nat :=
  d.places.size

def find? (d : Dict) (key : String) : Option (Value × Value) :=
  (d.places.get? key).bind fun i => (d.entries[i]?).join

def get? (d : Dict) (key : String) : Option Value :=
  (d.find? key).map (·.2)

def contains (d : Dict) (key : String) : Bool :=
  d.places.contains key

/-- Binds a key; one that was there keeps its place. -/
def insert (d : Dict) (key : String) (k v : Value) : Dict :=
  let ⟨entries, places⟩ := d
  match places.get? key with
  | some i => ⟨entries.modify i fun e => e.map fun (k, _) => (k, v), places⟩
  | none =>
    let n := entries.size
    ⟨entries.push (some (k, v)), places.insert key n⟩

def erase (d : Dict) (key : String) : Dict :=
  match d.places.get? key with
  | some i => ⟨d.entries.modify i fun _ => none, d.places.erase key⟩
  | none => d

def toList (d : Dict) : List (Value × Value) :=
  d.entries.toList.filterMap id

def keys (d : Dict) : List Value :=
  d.toList.map (·.1)

def values (d : Dict) : List Value :=
  d.toList.map (·.2)

def set (d : Dict) (name : String) (v : Value) : Dict :=
  d.insert ("s" ++ name) (.str name) v

def named? (d : Dict) (name : String) : Option Value :=
  d.get? ("s" ++ name)

/-- Takes away a name. -/
def unset (d : Dict) (name : String) : Dict :=
  d.erase ("s" ++ name)

end Dict

/-- How a block of statements is left before its end. -/
inductive Exit where
  | raise (v : Value)
  | give (v : Value)
  | leave
  | again

/-- What is left to do in a call, from the inside to the outside. -/
inductive Frame where
  | stmts (ss : List Stmt)
  | loop (condition : Expr) (body otherwise : List Stmt)
  | each (iterator : Value) (target : Expr) (body otherwise : List Stmt)
  /-- the body of a statement with handlers is under way -/
  | attempt (handlers : List Handler) (otherwise final : List Stmt)
  /-- these statements follow, however the ones before them are left -/
  | final (ss : List Stmt)
  /-- the block goes on being left -/
  | resume (e : Exit)
  /-- an exception is being handled under a name -/
  | handling (name : Option String)
  /-- the block of a manager is under way -/
  | using (manager : Value)
  /-- a value that was sent goes to targets -/
  | receive (targets : List Expr)
  /-- values come from another iterator, and its result goes to targets -/
  | delegate (iterator : Value) (targets : List Expr)
  /-- a value is given back after it has been sent -/
  | giveSent

structure Parameter where
  name : String
  standard : Option Value
  taking : Taking

/-- The names that a body binds and those it takes from elsewhere. -/
structure Names where
  own : List String := []
  outermost : List String := []
  outer : List String := []

structure Function where
  name : String
  /-- its name after the names around it -/
  title : String
  params : List Parameter
  body : List Stmt
  names : Names
  /-- where it was defined -/
  scope : Nat
  yields : Bool
  /-- a call of it can be waited for -/
  awaits : Bool := false
  module : String := "__main__"
  /-- the types of its parameters -/
  notes : Dict := .empty
  about : Option String := none
  attributes : Dict := .empty
  /-- the line of the script on which it was defined -/
  line : Nat := 1

/-- A class with its bases, nearest first, and what it holds itself. -/
structure Class where
  name : String
  ancestors : List Value
  attributes : Dict
  bases : List Value := []
  /-- the class of the class -/
  kind : Value := .builtin "type"
  module : String := "__main__"
  /-- its name after the names around it -/
  title : String := name

inductive Iterator where
  | values (xs : List Value)
  | elements (list : Nat) (next : Nat)
  | counting (next last step : Int)
  | endless (next step : Value)
  | mapped (f : Value) (sources : List Value)
  | zipped (sources : List Value) (fill : Option Value)
  | enumerated (next : Int) (source : Value)
  | chained (sources : List Value)
  | cycled (all left : List Value)
  | sliced (skip : Nat) (left : Option Nat) (step : Nat) (source : Value)
  /-- the keys, values or pairs of a mapping or a set that must not change its size -/
  | entries (which : String) (dict next size : Nat)
  /-- the elements of an object under indices -/
  | indexed (object : Value) (next : Nat)
  /-- a call that has been interrupted; one that is over has no frames -/
  | generator (frames : List Frame) (scope : Nat) (name kind : String)
  /-- an interrupted call that goes on just now -/
  | running (kind : String)
  | done

/-- What a mapping does beside what all mappings do. -/
inductive Mapping where
  | plain
  | ordered
  | counting
  /-- a missing value is made by a function -/
  | supplied (factory : Value)

/-- How a function of a class takes its first argument. -/
inductive Wrapping where
  | property
  | ofClass
  | static
  deriving DecidableEq, Repr

/-- Where bytes come from and go to. -/
inductive Source where
  | input
  | output
  | errors
  | entry (place : Place)

/-- A source that is open, and the place in it where reading and writing go on. -/
structure Opening where
  source : Source
  position : Nat := 0
  reads : Bool := false
  writes : Bool := false
  /-- what is written goes to the end -/
  appends : Bool := false

/-- A file that is open under a descriptor. -/
structure OpenFile where
  descriptor : Nat
  name : Value
  mode : String
  /-- bytes are read and written, no text -/
  binary : Bool
  /-- nothing is read ahead -/
  bare : Bool := false
  encoding : String := "UTF-8"
  errors : String := "strict"
  /-- what ends a line, if it is not any of the usual ends -/
  newline : Option String := none
  /-- text that has been read from the source and from nobody yet -/
  ahead : List Char := []
  aheadBytes : List UInt8 := []
  /-- the descriptor is closed with the file -/
  owns : Bool := true
  closed : Bool := false

/-- Bytes that stand in another value, seen as numbers of a format. -/
structure Window where
  source : Value
  /-- where the first number starts -/
  start : Int
  /-- how far apart numbers start -/
  step : Int
  /-- how many numbers there are in each direction -/
  shape : List Nat
  format : String := "B"
  /-- the bytes cannot be changed through it -/
  fixed : Bool := false
  released : Bool := false

inductive Obj where
  | list (xs : Array Value) (ends : Bool)
  | dict (d : Dict) (kind : Mapping)
  | set (d : Dict) (frozen : Bool)
  | function (f : Function)
  | type (c : Class)
  | object (type : Value) (attributes : Dict) (base : Value)
  | iterator (it : Iterator)
  | wrapped (how : Wrapping) (f : Value) (setter : Value)
  | curried (f : Value) (args : List Value) (named : List (String × Value))
  | file (f : OpenFile)
  /-- bytes that can change -/
  | octets (b : ByteArray)
  | window (w : Window)
  /-- the keys, values or pairs of a mapping, or the names of an object or a scope as a mapping -/
  | view (which : String) (dict : Nat)
  /-- an object seen as one of the classes behind a class -/
  | above (type self : Value)

/-- Variables and where they stand. -/
structure Scope where
  bindings : Std.HashMap String Value := {}
  parent : Nat := 0
  names : Names := {}
  /-- it is the outermost one of a module -/
  ofModule : Bool := false
  /-- functions in it do not see its variables -/
  ofClass : Bool := false
  /-- a mapping that is told about all names that are bound -/
  keeper : Option Value := none
  /-- a name that is bound by an expression is bound outside of it -/
  ofComprehension : Bool := false
  /-- the first parameter of the call -/
  first : Option String := none
  /-- what comes before the names of functions in it -/
  title : String := ""
  captured : Bool := false
  /-- the names in the order in which they were bound, the last one first, in a class or a module -/
  order : List String := []

/-- A call that is made beside the others. It is resumed where it had to wait by making it once more:
it starts in the world in which it started, and at each place where it had to wait it goes on in the
world in which it was resumed, with what the wait gave. -/
structure Thread (world : Type) where
  function : Value
  /-- the world in which it started -/
  origin : Option world := none
  resumed : List (world × Bool) := []
  /-- what has to be true before it goes on -/
  ready : Value := .none
  /-- when it goes on anyway, in microseconds -/
  deadline : Option Nat := none
  ended : Bool := false

/-- What comes to a copy of a process from outside. -/
structure Visit where
  /-- signals with their moments -/
  signals : List (Nat × Int) := []
  /-- the bytes that come through pipes -/
  bytes : List (Nat × List UInt8 × Nat) := []
  /-- pipes through which nothing comes any more -/
  dry : List Nat := []

/-- What came of the process that went on as a copy of another one: what the other one sees of it. -/
structure Offspring (world : Type) where
  number : Nat
  /-- the world in which it ended -/
  last : world
  /-- its status as a parent gets it, unless it goes on for ever -/
  status : Option Nat
  /-- it waits for bytes of a pipe -/
  thirsty : Bool := false
  visit : Visit := {}

/-- Which of two processes a script goes on as where a process is copied. -/
inductive Fate (world : Type) where
  | offspring (v : Visit)
  | parent (o : Offspring world)

/-- A process that was started and not waited for. -/
structure Child where
  /-- what came to it from outside -/
  visit : Visit := {}
  number : Nat
  status : Option Nat
  /-- when it ends, in microseconds -/
  finish : Nat
  /-- the place of its start among the fates -/
  origin : Nat
  /-- it does something about signals -/
  attentive : Bool := false
  /-- it waits for bytes of a pipe -/
  thirsty : Bool := false
  /-- how often the parent had written to pipes when it started -/
  poured : Nat := 0

/-- A call that is under way. -/
structure Call where
  name : String
  title : String
  module : String
  /-- the line of its function -/
  first : Nat
  scope : Nat
  /-- the line on which the one who made it goes on -/
  back : Nat

/-- A place that an exception came through. -/
structure Station where
  call : Call
  line : Nat

structure World where
  heap : Array Obj := #[]
  /-- the first scope is that of the script -/
  scopes : Array Scope := #[{ ofModule := true }]
  scope : Nat := 0
  /-- the exceptions that are being handled, the last one first -/
  handling : List Value := []
  depth : Nat := 0
  /-- the number of steps before patience ends -/
  steps : Nat
  /-- microseconds since the start -/
  clock : Nat := 0
  files : FileSystem
  args : List String
  environment : List (String × String)
  input : List UInt8
  inputEnds : Bool := true
  sent : Value := .none
  thrown : Option Value := none
  /-- what an iterator gave back at its end -/
  returned : Value := .none
  /-- text that waits for its bytes to be kept -/
  pending : String := ""
  /-- bytes that wait to be written -/
  buffered : ByteArray := .empty
  output : ByteArray := .empty
  errors : ByteArray := .empty
  /-- what names in modules stand for, once they have been asked for or bound -/
  shared : Std.HashMap String Value := {}
  /-- the scopes of modules that have been loaded -/
  modules : Std.HashMap String Nat := {}
  /-- the greatest lengths of queues that have one -/
  limits : Std.HashMap Nat Nat := {}
  /-- the scope of the body of a class that is being made -/
  body : Option Nat := none
  atExit : List (Value × List Value) := []
  recursionLimit : Nat := 1000
  /-- what a command does in a shell -/
  shell : FileSystem → String → Activity × FileSystem
  /-- the texts of modules -/
  library : String → Option String
  imported : List String := []
  /-- the patterns that have been read -/
  patterns : Array Search.Compiled := #[]
  /-- what is done about signals -/
  handlers : List (Int × Value) := []
  /-- when a signal comes, in microseconds -/
  alarm : Option Nat := none
  /-- how long after it the signal comes once more, if it does -/
  interval : Nat := 0
  /-- the calls that are made beside the script -/
  threads : Array (Thread World) := #[]
  /-- the threads that wait, the one that has waited longest first -/
  queue : List Nat := []
  /-- the thread that is under way, or else the script itself -/
  thread : Option Nat := none
  /-- the worlds in which the thread goes on where it had to wait before -/
  replay : List (World × Bool) := []
  /-- the line of the script that is under way -/
  line : Nat := 1
  /-- the calls that are under way, the last one first -/
  calls : List Call := []
  /-- the places that exceptions came through, the innermost first, and how many of them are further
  out than the handler -/
  traces : Std.HashMap Nat (List Station × Nat) := {}
  /-- where the script lies -/
  path : String := ""
  openings : Array Opening :=
    #[{ source := .input, reads := true }, { source := .output, writes := true },
      { source := .errors, writes := true }]
  /-- the numbers of openings by their descriptors -/
  descriptors : List (Nat × Nat) := [(0, 0), (1, 1), (2, 2)]
  /-- the bytes that wait in pipes -/
  pipes : Array (List UInt8) := #[]
  /-- the descriptors that the processes before this one had when it was copied -/
  kept : List (Nat × Nat) := []
  /-- what the process has written to pipes, the last first, each with how much had come to it
  before -/
  poured : List (Nat × List UInt8 × Nat) := []
  /-- what comes through pipes from other processes, each with how much has to be written before -/
  feeds : List (Nat × List UInt8 × Nat) := []
  /-- how much has come through pipes from other processes -/
  taken : Nat := 0
  /-- the pipes to which the processes before this one do not write any more -/
  dried : List Nat := []
  /-- the streams that are always there and have been closed -/
  shut : List Nat := []
  /-- the permissions that new files do not get -/
  mask : Nat := 0o022
  /-- when files were changed, in nanoseconds, by their paths -/
  times : Std.HashMap String Int := {}
  /-- the number of the process -/
  process : Nat := 4096
  /-- the numbers of the processes before it, the nearest first -/
  elders : List Nat := [1]
  /-- the number of processes so far -/
  processes : Nat := 0
  children : List Child := []
  /-- the fates that have been met, the last one first, and those that come -/
  met : List (Fate World) := []
  fates : List (Fate World) := []
  /-- signals that come at moments -/
  coming : List (Nat × Int) := []
  /-- what others write at moments: whether it goes to the errors, and the bytes -/
  late : List (Nat × Bool × ByteArray) := []
  /-- the moments of what was written so far, with the sizes of the output and the errors before it,
  the last one first -/
  moments : List (Nat × Nat × Nat) := []
  /-- how much has been asked of chance -/
  chance : Nat := 0
  /-- the registers that numbers by chance come from -/
  registers : Array Chance.Register := #[]
  /-- the signal that ended the process -/
  killer : Nat := 9
  /-- objects that have been keys and do not equal each other, by texts that equal ones share -/
  peers : Std.HashMap String (List Nat) := {}
  /-- objects that somebody asks about when they go away, with the depths of the calls in which they
  last came up -/
  watched : List (Nat × Nat) := []
  /-- objects and the numbers of those that look at them, the last one first -/
  lookers : List (Nat × Nat) := []
  /-- values that a call that is under way needs afterwards -/
  held : List Value := []
  /-- what the calls held that exceptions ended -/
  detained : List (Nat × List Value) := []
  /-- how often it has been asked which objects are left -/
  sweeps : Nat := 0
  /-- nobody asks again as long as more steps are left than these -/
  sweepAt : Nat := 0
  /-- classes can have a rule for the end of their objects -/
  endings : Bool := false

/-- Why a script does not go on. -/
inductive Signal where
  | raise (v : Value)
  | exit (status : Status)
  | killed
  | never
  /-- a thread has to wait in a world until something is true or a moment comes -/
  | paused (w : World) (ready : Value) (deadline : Option Nat)
  /-- the script has to start once more with other fates -/
  | anew (fates : List (Fate World))

abbrev Action := EStateM Signal World

/-- What a script cannot know without running functions of its own. -/
structure Calls where
  call : Value → List Value → List (String × Value) → Action Value
  next : Value → Action (Option Value)
  load : String → Action Unit

namespace Action

def allocate (o : Obj) : Action Value :=
  modifyGet fun w => (.ref w.heap.size, { w with heap := w.heap.push o })

def object? (v : Value) : Action (Option Obj) := do
  match v with
  | .ref i => return (← get).heap[i]?
  | _ => return none

def store (i : Nat) (o : Obj) : Action Unit :=
  modify fun w => { w with heap := w.heap.setIfInBounds i o }

def change (i : Nat) (f : Obj → Obj) : Action Unit :=
  modify fun w => { w with heap := w.heap.modify i f }

/-- Raises an exception of a kind that is always there. -/
def raiseWith {α : Type} (kind : String) (args : List Value) : Action α := do
  let e ← allocate (.object (.builtin kind) (Dict.empty.set "args" (.tuple args)) .none)
  throw (.raise e)

def raise {α : Type} (kind message : String) : Action α :=
  raiseWith kind [.str message]

def typeError {α : Type} (message : String) : Action α :=
  raise "TypeError" message

def valueError {α : Type} (message : String) : Action α :=
  raise "ValueError" message

def list (xs : List Value) : Action Value :=
  allocate (.list xs.toArray false)

def iterator (it : Iterator) : Action Value :=
  allocate (.iterator it)

/-- Objects that stand directly in a value. -/
def directly (w : World) (v : Value) : List Nat :=
  let places (vs : List Value) : List Nat := vs.filterMap fun
    | .ref i => some i
    | _ => none
  match v with
  | .tuple xs => places xs
  | .ref i =>
    i :: match w.heap[i]? with
      | some (.list xs _) => places xs.toList
      | some (.dict d _) => places d.values
      | some (.object _ attributes _) => places attributes.values
      | _ => []
  | _ => []

/-- A value loses one that held it: objects in it that are watched may end in the call that is under
way. -/
def dropped (v : Value) : Action Unit := do
  let w ← get
  if !w.watched.isEmpty then
    let found := directly w v
    set { w with
      watched := w.watched.map fun (i, d) => if found.contains i then (i, max d w.depth) else (i, d) }
    match v with
    | .tuple xs => if 1 < xs.length then let _ ← allocate (.list xs.toArray false)
    | _ => pure ()

/-- Takes one of the steps that are left. -/
def step : Action Unit := do
  let w ← get
  if w.steps = 0 then throw .never else set { w with steps := w.steps - 1 }

/-- Takes many steps at once. -/
def work (n : Nat) : Action Unit := do
  let w ← get
  if w.steps < n then throw .never else set { w with steps := w.steps - n }

end Action

end Flowboard.Script
