import Flowboard.Files.System
import Flowboard.Host.Basic
import Flowboard.Prototype.Code
import Flowboard.Search.Match
import Flowboard.Search.Reader
import Flowboard.Utility.Pipe
import Std.Data.HashMap

/-! Values, objects, and the state of a program with prototypes. -/
namespace Flowboard.Prototype

inductive Value where
  | undefined
  | null
  | bool (b : Bool)
  | number (x : Float)
  | bigint (n : Int)
  | text (s : String)
  | symbol (id : Nat)
  | object (ref : Nat)
  /-- no value yet, or no element -/
  | hole
  deriving Inhabited

def Literal.value : Literal → Value
  | .undefined => .undefined
  | .null => .null
  | .bool b => .bool b
  | .number x => .number x
  | .bigint n => .bigint n
  | .text s => .text s
  | .hole => .hole

/-- What a member is found under. -/
inductive Name where
  | text (s : String)
  | symbol (id : Nat)
  /-- known only inside of a class -/
  | hidden (s : String)
  deriving DecidableEq, Hashable, Inhabited

structure Property where
  value : Value := .undefined
  /-- what is called to get and to set it, for a property without a value -/
  access : Option (Value × Value) := none
  writable : Bool := true
  shown : Bool := true
  configurable : Bool := true
  deriving Inhabited

/-- Properties in the order in which they came. The index serves when there are many. -/
structure Members where
  entries : Array (Name × Property) := #[]
  index : Std.HashMap Name Nat := {}
  deriving Inhabited

namespace Members

def few : Nat := 8

def place? (m : Members) (n : Name) : Option Nat :=
  if m.entries.size ≤ few then m.entries.findIdx? (·.1 == n) else m.index[n]?

def get? (m : Members) (n : Name) : Option Property :=
  match m.place? n with
  | some i => (m.entries[i]?).map (·.2)
  | none => none

def indexOf (entries : Array (Name × Property)) : Std.HashMap Name Nat :=
  (entries.foldl (fun (x : Std.HashMap Name Nat × Nat) e => (x.1.insert e.1 x.2, x.2 + 1)) ({}, 0)).1

def insert (m : Members) (n : Name) (p : Property) : Members :=
  match m.place? n with
  | some i => { m with entries := m.entries.set! i (n, p) }
  | none =>
    let size := m.entries.size
    let entries := m.entries.push (n, p)
    if size < few then { m with entries }
    else if size = few then ⟨entries, indexOf entries⟩
    else ⟨entries, m.index.insert n size⟩

end Members

/-- A function with what it has around it. -/
structure Closure where
  code : Nat
  scope : Nat
  /-- for a function that takes over what is around it -/
  this : Value := .undefined
  newTarget : Value := .undefined
  owner : Value := .undefined
  /-- where methods of the parent are looked for -/
  home : Value := .undefined
  /-- fields of new objects: their keys and functions that give their values -/
  fields : List (Value × Value) := []
  deriving Inhabited

structure Handler where
  target : Nat
  final : Bool
  stack : List Value
  scope : Nat
  deriving Inhabited

/-- A call of a function that is under way. -/
structure Frame where
  code : Nat
  ops : Array Op
  pc : Nat := 0
  stack : List Value := []
  scope : Nat
  this : Value
  function : Value
  args : List Value
  newTarget : Value := .undefined
  handlers : List Handler := []
  /-- the result is the new object unless another one is given -/
  constructing : Bool := false
  deriving Inhabited

/-- How a function that waits goes on. -/
inductive Resumption where
  | value (v : Value)
  | thrown (v : Value)
  | left (v : Value)
  deriving Inhabited

structure Reaction where
  /-- the promise of what the reaction gives -/
  target : Value
  fulfilled : Value
  rejected : Value
  /-- the function that waits -/
  waiting : Option Nat := none
  deriving Inhabited

inductive Settled where
  | pending
  | fulfilled (v : Value)
  | rejected (v : Value)
  deriving Inhabited

structure Promise where
  state : Settled := .pending
  /-- it is bound to another one -/
  resolved : Bool := false
  reactions : List Reaction := []
  handled : Bool := false
  deriving Inhabited

/-- Entries in the order in which they came, and where they are. -/
structure Entries where
  entries : Array (Option (Value × Value)) := #[]
  index : Std.HashMap String Nat := {}
  deriving Inhabited

/-- What walks over something. -/
inductive Walk where
  /-- over an array: keys, values or both -/
  | array (target : Value) (place : Nat) (what : String)
  | entries (target : Nat) (place : Nat) (what : String)
  | text (rest : List Char)
  /-- by calls of a function of an object -/
  | calls (target next : Value)
  /-- over values that are ready -/
  | list (rest : List Value)
  | finished
  deriving Inhabited

structure Regex where
  source : String
  flags : String
  compiled : Search.Compiled

/-- What an object is besides its members. -/
inductive Kind where
  | plain
  | array (items : Array Value)
  | closure (c : Closure)
  | native (family name : String) (data : List Value)
  | error
  | boxed (v : Value)
  | map (m : Entries) (weak : Bool)
  | set (m : Entries) (weak : Bool)
  | promise (p : Promise)
  /-- a function that can be gone on with; the promise of its result, if it has one -/
  | generator (frame : Option Frame) (running : Bool) (result : Value)
      (requests : List (Resumption × Value))
  | walk (w : Walk)
  | regex (r : Regex)
  | date (time : Float)
  | typed (name : String) (items : Array Value)
  /-- what is left of a call that ends early -/
  | leaving (v : Value)

structure Object where
  kind : Kind := .plain
  proto : Value := .null
  members : Members := {}
  extensible : Bool := true
  deriving Inhabited

structure Scope where
  vars : Array Value
  parent : Nat
  deriving Inhabited

/-- Something to be done later. -/
inductive Job where
  | react (r : Reaction) (s : Settled)
  | resolve (promise thenable thenMethod : Value)
  deriving Inhabited

structure Timer where
  id : Nat
  due : Nat
  every : Option Nat
  function : Value
  args : List Value
  deriving Inhabited

/-- Why a program does not go on. -/
inductive Stop where
  | thrown (v : Value)
  | exit (status : Int)
  /-- it works or waits for ever -/
  | never
  deriving Inhabited

structure World where
  heap : Array Object := #[]
  scopes : Array Scope := #[]
  codes : Array Code := #[]
  /-- what symbols are described by -/
  symbols : Array (Option String) := #[]
  /-- symbols that all parts of a program share -/
  shared : List (String × Nat) := []
  output : List String := []
  errors : List String := []
  /-- what is to be done before anything else -/
  ticks : List Job := []
  jobs : List Job := []
  /-- jobs that came later, the last one first -/
  laterJobs : List Job := []
  timers : List Timer := []
  immediates : List Timer := []
  fresh : Nat := 1
  now : Nat := 0
  indent : Nat := 0
  counts : List (String × Nat) := []
  modules : List (String × Value) := []
  /-- rejected promises that nothing waits for -/
  unhandled : List Nat := []
  depth : Nat := 0
  /-- arrays that are being joined -/
  joining : List Nat := []
  /-- what is called when the program ends, and other such functions -/
  listeners : List (String × Value) := []
  steps : Nat
  files : FileSystem
  environment : List (String × String)
  input : Pipe := .empty
  seed : Nat := 1

abbrev Bare := ExceptT Stop (StateM World)

/-- How a command of a shell is run. -/
abbrev Runner := FileSystem → String → Activity × FileSystem

/-- How functions are called and what is started outside. -/
structure Calls where
  /-- a function, what it is called on, and its arguments -/
  call : Value → Value → List Value → Bare Value
  /-- a class, arguments, and the class that is asked for -/
  construct : Value → List Value → Value → Bare Value
  /-- goes on with a function that waits; tells its value and whether it is done -/
  resume : Nat → Resumption → Bare (Value × Bool)
  /-- reads and runs a program -/
  evaluate : String → Bare Value
  runner : Runner

abbrev Action := ReaderT Calls Bare

def globalRef : Nat := 0
def objectProto : Nat := 1
def functionProto : Nat := 2
def arrayProto : Nat := 3

def classNames : List String :=
  ["globalThis", "Object", "Function", "Array", "String", "Number", "Boolean", "BigInt", "Symbol",
   "Error", "TypeError", "RangeError", "SyntaxError", "ReferenceError", "EvalError", "URIError",
   "AggregateError", "Map", "Set", "WeakMap", "WeakSet", "WeakRef", "Promise", "RegExp", "Date",
   "Generator", "AsyncGenerator", "Iterator", "Array Iterator", "Map Iterator", "Set Iterator",
   "String Iterator", "RegExp String Iterator", "Uint8Array", "Int8Array", "Uint16Array",
   "Int16Array", "Uint32Array", "Int32Array", "Float32Array", "Float64Array",
   "Uint8ClampedArray", "BigInt64Array", "BigUint64Array", "Buffer", "ArrayBuffer",
   "GeneratorFunction", "AsyncFunction", "AsyncGeneratorFunction", "Iterator Helper",
   "EventEmitter", "Stats", "Proxy", "TextEncoder", "TextDecoder", "URL", "URLSearchParams",
   "AbortController", "AssertionError", "Timeout", "Immediate", "Hash", "WriteStream"]

/-- The place of the prototype of a class. -/
def protoRef (name : String) : Nat :=
  classNames.idxOf name

/-- Symbols with a meaning of their own, by their places. -/
def knownSymbols : List String :=
  ["iterator", "asyncIterator", "hasInstance", "toPrimitive", "toStringTag", "species",
   "isConcatSpreadable", "match", "matchAll", "replace", "search", "split", "unscopables"]

def knownSymbol (name : String) : Name :=
  .symbol (knownSymbols.idxOf name)

def iteratorSymbol : Name := .symbol 0

def alloc (o : Object) : Action Nat :=
  modifyGet fun w => (w.heap.size, { w with heap := w.heap.push o })

def allocValue (o : Object) : Action Value := do
  return .object (← alloc o)

def newArray (items : Array Value) : Action Value :=
  allocValue { kind := .array items, proto := .object arrayProto }

def newObject : Action Value :=
  allocValue { proto := .object objectProto }

def objectAt (ref : Nat) : Action Object := do
  return (← get).heap.getD ref default

def kindAt (ref : Nat) : Action Kind := do
  return ((← get).heap.getD ref default).kind

def modifyObject (ref : Nat) (f : Object → Object) : Action Unit :=
  modify fun w => { w with heap := w.heap.modify ref f }

def setKind (ref : Nat) (k : Kind) : Action Unit :=
  modifyObject ref fun o => { o with kind := k }

/-- Gives an object a property as it stands. -/
def putOwn (ref : Nat) (n : Name) (p : Property) : Action Unit :=
  modifyObject ref fun o => { o with members := o.members.insert n p }

/-- Gives an object a value under a name that is not shown. -/
def putHidden (ref : Nat) (n : String) (v : Value) : Action Unit :=
  putOwn ref (.text n) { value := v, shown := false }

def native (family name : String) (data : List Value) : Action Value :=
  allocValue { kind := .native family name data, proto := .object functionProto }

def newError (kind message : String) : Action Value := do
  let ref ← alloc { kind := .error, proto := .object (protoRef kind) }
  putHidden ref "stack" (.text (kind ++ ": " ++ message ++ "\n    at <anonymous>"))
  putHidden ref "message" (.text message)
  return .object ref

def throwValue {α : Type} (v : Value) : Action α :=
  throw (.thrown v)

def throwNew {α : Type} (kind message : String) : Action α := do
  throwValue (← newError kind message)

def throwType {α : Type} (message : String) : Action α :=
  throwNew "TypeError" message

def call (f this : Value) (args : List Value) : Action Value := fun k =>
  k.call f this args

def construct (f : Value) (args : List Value) : Action Value := fun k =>
  k.construct f args f

/-- Counts steps. -/
def work (n : Nat) : Action Unit := do
  let w ← get
  if w.steps ≤ n then throw .never
  set { w with steps := w.steps - n }

def isCallable (v : Value) : Action Bool := do
  match v with
  | .object r =>
    match ← kindAt r with
    | .closure _ | .native .. => return true
    | _ => return false
  | _ => return false

def arg (args : List Value) (i : Nat) : Value :=
  args.getD i .undefined

/-- Catches what is thrown. -/
def attempt {α : Type} (a : Action α) : Action (Except Value α) := fun k w =>
  match a k w with
  | (.ok x, w) => (.ok (.ok x), w)
  | (.error (.thrown v), w) => (.ok (.error v), w)
  | (.error e, w) => (.error e, w)

def isWide (c : Char) : Bool :=
  0x10000 ≤ c.toNat && !Text.isHalf c

def unitCount (s : String) : Nat :=
  s.foldl (fun n c => if isWide c then n + 2 else n + 1) 0

/-- The units of a text. Halves stand for the parts of characters beyond sixteen bits. -/
def units (s : List Char) : List Char :=
  if s.any isWide then
    s.flatMap fun c =>
      if isWide c then
        let n := c.toNat - 0x10000
        [Text.ofCodePoint (0xD800 + n / 1024), Text.ofCodePoint (0xDC00 + n % 1024)]
      else [c]
  else s

/-- Joins halves again. -/
def ofUnits : List Char → List Char
  | a :: b :: rest =>
    let m := Text.codePoint a
    let n := Text.codePoint b
    if 0xD800 ≤ m && m < 0xDC00 && 0xDC00 ≤ n && n < 0xE000 then
      Char.ofNat (0x10000 + (m - 0xD800) * 1024 + (n - 0xDC00)) :: ofUnits rest
    else a :: ofUnits (b :: rest)
  | s => s

def unitsOf (s : String) : Array Char :=
  (units s.toList).toArray

def textOfUnits (s : List Char) : String :=
  String.ofList (if s.any Text.isHalf then ofUnits s else s)

end Flowboard.Prototype
