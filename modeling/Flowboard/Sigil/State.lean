import Std.Data.HashMap
import Flowboard.Files.System
import Flowboard.Host.Basic
import Flowboard.Search.Match
import Flowboard.Search.Reader
import Flowboard.Sigil.Value
import Flowboard.Text.Octet
import Flowboard.Text.Symbol

/-! What a program whose variables have sigils keeps, has read and has written so far. -/
namespace Flowboard.Sigil

/-- A hash: places of values by their keys, with the order in which the keys came. -/
structure Table where
  entries : Std.HashMap String (Nat × Nat) := {}
  clock : Nat := 0
  /-- the keys that are still to be gone through -/
  walk : Option (List String) := none
  deriving Inhabited

def Table.keys (t : Table) : List String :=
  let all := t.entries.toList.map fun (k, order, _) => (order, k)
  (all.mergeSort fun a b => a.1 ≤ b.1).map (·.2)

def Table.cell? (t : Table) (key : String) : Option Nat :=
  (t.entries[key]?).map (·.2)

def Table.put (t : Table) (key : String) (cell : Nat) : Table :=
  match t.entries[key]? with
  | some (order, _) => { t with entries := t.entries.insert key (order, cell) }
  | none => { t with entries := t.entries.insert key (t.clock, cell), clock := t.clock + 1 }

/-- Where what is written to a handle goes, or where what is read comes from. -/
inductive Way where
  | closed
  | input
  | output
  | errors
  /-- `rest` has been read -/
  | reading
  | writing
  deriving BEq, Repr, Inhabited

structure Handle where
  name : String
  way : Way := .closed
  path : String := ""
  /-- what is left to be read -/
  rest : List Char := []
  /-- what has been read, as a number of characters -/
  taken : Nat := 0
  lines : Nat := 0
  /-- what waits to be written, the last piece first -/
  pieces : List (List Char) := []
  /-- letters are read and written in the form of UTF-8 -/
  wide : Bool := false
  names : List String := []
  /-- how the command that is read has ended -/
  status : Int := 0
  deriving Inhabited

/-- The last pattern that matched. -/
structure Match where
  text : Array Char := #[]
  groups : Search.Groups := #[]
  count : Nat := 0
  deriving Inhabited

/-- Variables by the numbers of their declarations. -/
abbrev Scope := List (Nat × Nat)

/-- Something that can be called. -/
structure Closure where
  name : String
  package : String
  body : List Statement
  scope : Scope
  deriving Inhabited

/-- The cell that stands for a name again when a block ends. -/
structure Restore where
  name : String
  cell : Nat

/-- Why something does not go on. -/
inductive Stop where
  | leap (how : Leap) (label : Option String)
  | return_ (vs : Array Value)
  | die (v : Value)
  | exit (code : Int)
  /-- it waits or works for ever -/
  | stuck

/-- How a command of a shell is run. -/
abbrev Runner := FileSystem → String → Activity × FileSystem

structure World where
  file : String
  runner : Runner
  files : FileSystem
  cells : Array Value := #[.absent]
  arrays : Array (Array Nat) := #[#[]]
  hashes : Array Table := #[]
  closures : Array Closure := #[]
  handles : Array Handle := #[]
  blessed : Std.HashMap Target String := {}
  scalars : Std.HashMap String Nat := {}
  lists : Std.HashMap String Nat := {}
  tables : Std.HashMap String Nat := {}
  routines : Std.HashMap String Nat := {}
  streams : Std.HashMap String Nat := {}
  scope : Scope := []
  /-- variables that named routines see before they are declared -/
  statics : Std.HashMap Nat Nat := {}
  /-- declarations that have been carried out -/
  declared : Std.HashMap Nat Unit := {}
  topic : Nat := 0
  arguments : Nat := 0
  want : Option Bool := none
  /-- how many calls run -/
  depth : Nat := 0
  line : Nat := 0
  package : String := "main"
  matched : Match := {}
  /-- where the next search in a scalar starts -/
  positions : Std.HashMap Nat Nat := {}
  restores : List Restore := []
  patterns : Std.HashMap String Search.Compiled := {}
  overloads : Std.HashMap String (List (String × Value)) := {}
  lastRead : Option Nat := none
  selected : Nat := 1
  /-- what has been written, the last piece first -/
  output : List (List Char) := []
  errors : List (List Char) := []
  standard : List Char := []
  endless : Bool := false
  /-- the input has been asked for -/
  waited : Bool := false
  /-- the operands are being read -/
  operands : Bool := false
  /-- the file that takes what is written instead of the output -/
  edited : Option (String × String) := none
  wide : Bool := false
  nextId : Nat := 0
  known : List (String × String) := []
  imports : List (String × String) := []
  ends : List (List Statement) := []
  random : Option Nat := none
  /-- ranges that are open, and how long -/
  flips : Std.HashMap Nat Nat := {}
  steps : Nat := 6000000
  millis : Nat := 0
  /-- checks that a program has made of itself -/
  checks : Nat := 0
  failures : Nat := 0

abbrev Run := ExceptT Stop (StateM World)

/-- Counts one step. -/
def tick : Run Unit :=
  countStep .stuck World.steps fun w n => { w with steps := n }

/-- Where the program is, at the end of a message. -/
def whereabouts : Run String := do
  let w ← get
  let read := match w.lastRead.bind fun h => w.handles[h]? with
    | some h =>
      if 0 < h.lines && h.way != .closed then
        let name := if h.name.startsWith "main::" then String.ofList (h.name.toList.drop 6)
          else h.name
        ", <" ++ (if name == "ARGV" then "" else name) ++ "> " ++
          (if (w.scalars["main::/"]?.bind (w.cells[·]?)).any (fun v => v matches .text "\n")
            then "line " else "chunk ") ++ Text.naturalText h.lines
      else ""
    | none => ""
  return " at " ++ w.file ++ " line " ++ Text.naturalText w.line ++ read ++ ".\n"

/-- Ends with a message that tells the place. -/
def fault {α : Type} (message : String) : Run α := do
  throw (.die (.text (message ++ (← whereabouts))))

def newCell (v : Value) : Run Nat := fun w =>
  (.ok w.cells.size, { w with cells := w.cells.push v })

def getCell (c : Nat) : Run Value := fun w =>
  (.ok (w.cells.getD c .absent), w)

def setCell (c : Nat) (v : Value) : Run Unit :=
  modify fun w =>
    { w with
      cells := w.cells.setIfInBounds c v
      positions := if w.positions.isEmpty then w.positions else w.positions.erase c }

def newArray (vs : Array Value) : Run Nat := fun w =>
  let first := w.cells.size
  let ids := (Array.range vs.size).map (· + first)
  (.ok w.arrays.size, { w with cells := w.cells ++ vs, arrays := w.arrays.push ids })

def newArrayOf (cells : Array Nat) : Run Nat := fun w =>
  (.ok w.arrays.size, { w with arrays := w.arrays.push cells })

def newHash : Run Nat := fun w =>
  (.ok w.hashes.size, { w with hashes := w.hashes.push {} })

/-- The scalar under a full name. -/
def sharedCell (name : String) : Run Nat := do
  let w ← get
  if name == "main::_" then return w.topic
  match w.scalars[name]? with
  | some c => return c
  | none =>
    let c ← newCell .absent
    modify fun w => { w with scalars := w.scalars.insert name c }
    return c

def sharedArray (name : String) : Run Nat := do
  let w ← get
  if name == "main::_" then return w.arguments
  match w.lists[name]? with
  | some a => return a
  | none =>
    let a ← newArrayOf #[]
    modify fun w => { w with lists := w.lists.insert name a }
    return a

def sharedHash (name : String) : Run Nat := do
  let w ← get
  match w.tables[name]? with
  | some h => return h
  | none =>
    let h ← newHash
    modify fun w => { w with tables := w.tables.insert name h }
    return h

/-- Something new of a kind, as its place. -/
def fresh (kind : Shape) : Run Nat :=
  match kind with
  | .scalar => newCell .absent
  | .array => newArrayOf #[]
  | .hash => newHash
  | .code => return 0

def ownPlace (kind : Shape) (id : Nat) : Run Nat := do
  let w ← get
  match w.scope.lookup id with
  | some p => return p
  | none =>
    match w.statics[id]? with
    | some p => return p
    | none =>
      let p ← fresh kind
      modify fun w => { w with statics := w.statics.insert id p }
      return p

/-- Carries out a declaration. The first time the variable may be known already. -/
def declareOwnVar (kind : Shape) (id : Nat) : Run Nat := do
  let w ← get
  if w.declared.contains id then
    let p ← fresh kind
    modify fun w => { w with scope := (id, p) :: w.scope }
    return p
  else
    modify fun w => { w with declared := w.declared.insert id () }
    let p ← match (← get).statics[id]? with
      | some p => pure p
      | none => do
        let p ← fresh kind
        modify fun w => { w with statics := w.statics.insert id p }
        pure p
    modify fun w => { w with scope := (id, p) :: w.scope }
    return p

def cellOf (n : Name) : Run Nat :=
  match n with
  | .own id => ownPlace .scalar id
  | .shared name => sharedCell name

def arrayOf (n : Name) : Run Nat :=
  match n with
  | .own id => ownPlace .array id
  | .shared name => sharedArray name

def hashOf (n : Name) : Run Nat :=
  match n with
  | .own id => ownPlace .hash id
  | .shared name => sharedHash name

/-- The value of a scalar under a full name. -/
def shared (name : String) : Run Value := do
  getCell (← sharedCell name)

def setShared (name : String) (v : Value) : Run Unit := do
  setCell (← sharedCell name) v

def arrayCells (a : Nat) : Run (Array Nat) := fun w =>
  (.ok (w.arrays.getD a #[]), w)

def arrayValues (a : Nat) : Run (Array Value) := fun w =>
  (.ok ((w.arrays.getD a #[]).map fun c => w.cells.getD c .absent), w)

def setArray (a : Nat) (cells : Array Nat) : Run Unit :=
  modify fun w => { w with arrays := w.arrays.setIfInBounds a cells }

def fillArray (a : Nat) (vs : Array Value) : Run Unit :=
  modify fun w =>
    let first := w.cells.size
    let ids := (Array.range vs.size).map (· + first)
    { w with cells := w.cells ++ vs, arrays := w.arrays.setIfInBounds a ids }

def pushValues (a : Nat) (vs : Array Value) : Run Unit :=
  modify fun w =>
    let first := w.cells.size
    let ids := (Array.range vs.size).map (· + first)
    { w with cells := w.cells ++ vs, arrays := w.arrays.modify a (· ++ ids) }

/-- The place of an index that may count from the end. -/
def indexIn (size : Nat) (i : Int) : Option Nat :=
  if 0 ≤ i then some i.toNat
  else if -i ≤ size then some (size - i.natAbs) else none

def arrayItem (a : Nat) (i : Int) : Run Value := fun w =>
  let cells := w.arrays.getD a #[]
  (.ok (match indexIn cells.size i with
    | some k =>
      match cells[k]? with
      | some c => w.cells.getD c .absent
      | none => .absent
    | none => .absent), w)

/-- The scalar at an index, which is made if there is none. -/
def itemCell (a : Nat) (i : Int) : Run Nat := do
  let w ← get
  let size := (w.arrays.getD a #[]).size
  match indexIn size i with
  | none => fault "Modification of non-creatable array value attempted, subscript -1"
  | some k =>
    if k < size then return (w.arrays.getD a #[]).getD k 0
    else
      if 10000000 < k then fault "Out of memory!"
      let first := w.cells.size
      let more := k + 1 - size
      modify fun w =>
        { w with
          cells := w.cells ++ Array.replicate more .absent
          arrays := w.arrays.modify a (· ++ (Array.range more).map (· + first)) }
      return first + more - 1

def hashEntry (h : Nat) (key : String) : Run Value := fun w =>
  (.ok (match (w.hashes.getD h {}).cell? key with
    | some c => w.cells.getD c .absent
    | none => .absent), w)

/-- The scalar under a key, which is made if there is none. -/
def entryCell (h : Nat) (key : String) : Run Nat := do
  let w ← get
  match (w.hashes.getD h {}).cell? key with
  | some c => return c
  | none =>
    let c ← newCell .absent
    modify fun w => { w with hashes := w.hashes.modify h (·.put key c) }
    return c

def hashKeys (h : Nat) : Run (List String) := fun w =>
  (.ok (w.hashes.getD h {}).keys, w)

/-- Keys and values, one after the other. -/
def hashPairs (h : Nat) : Run (Array Value) := fun w =>
  let t := w.hashes.getD h {}
  (.ok ((t.keys.flatMap fun k =>
    [Value.text k, ((t.cell? k).bind (w.cells[·]?)).getD .absent]).toArray), w)

def clearHash (h : Nat) : Run Unit :=
  modify fun w => { w with hashes := w.hashes.setIfInBounds h {} }

/-- Puts back what stood for names before. -/
def goBack (r : Restore) : Run Unit :=
  modify fun w =>
    if r.name == "main::_" then { w with topic := r.cell }
    else { w with scalars := w.scalars.insert r.name r.cell }

def goBackTo : Nat → List Restore → Run Unit
  | _, [] => return
  | depth, r :: rest => do
    if rest.length + 1 ≤ depth then return
    goBack r
    modify fun w => { w with restores := rest }
    goBackTo depth rest

/-- Runs something with names of its own. -/
def inBlock {α : Type} (body : Run α) : Run α := fun w =>
  let depth := w.restores.length
  let (r, v) := body w
  let v := { v with scope := w.scope, package := w.package }
  if v.restores.length == depth then (r, v)
  else
    match goBackTo depth v.restores v with
    | (_, v) => (r, v)

def pushRestore (r : Restore) : Run Unit :=
  modify fun w => { w with restores := r :: w.restores }

def newHandle (h : Handle) : Run Nat := fun w =>
  (.ok w.handles.size, { w with handles := w.handles.push h })

/-- The handle under a full name, which is made if there is none. -/
def handleNamed (name : String) : Run Nat := do
  let w ← get
  match w.streams[name]? with
  | some h => return h
  | none =>
    let h ← newHandle { name }
    modify fun w => { w with streams := w.streams.insert name h }
    return h

def handleAt (h : Nat) : Run Handle := fun w =>
  (.ok (w.handles.getD h default), w)

def setHandle (h : Nat) (new : Handle) : Run Unit :=
  modify fun w => { w with handles := w.handles.setIfInBounds h new }

def written (wide : Bool) (s : String) : List Char :=
  let cs := s.toList
  if wide then (if cs.all (·.toNat < 128) then cs else Text.octetsOf s)
  else if cs.all (·.toNat < 256) then cs else Text.octetsOf s

/-- Writes what waits to be written to a file. -/
def flushHandle (h : Nat) : Run Unit := do
  let d ← handleAt h
  if d.way == .writing && !d.pieces.isEmpty then
    let w ← get
    let old := (w.files.read d.path).toOption.getD []
    let new := old ++ Text.octetBytes d.pieces.reverse.flatten
    match w.files.write d.path new with
    | .ok files => set { w with files }
    | .error _ => pure ()
    setHandle h { d with pieces := [] }

def flushAll : Run Unit := do
  let n := (← get).handles.size
  for h in [0:n] do
    flushHandle h

def writeTo (h : Nat) (s : String) : Run Bool := do
  let d ← handleAt h
  let text := written d.wide s
  match d.way with
  | .output =>
    let w ← get
    match w.edited with
    | some (path, pending) =>
      set { w with edited := some (path, pending ++ String.ofList text) }
      return true
    | none =>
      set { w with output := text :: w.output }
      return true
  | .errors =>
    modify fun w => { w with errors := text :: w.errors }
    return true
  | _ => return false

/-- Closes a handle; false if it was not open or its command failed. -/
def closeHandle (h : Nat) : Run Bool := do
  flushHandle h
  let d ← handleAt h
  match d.way with
  | .closed => return false
  | _ =>
    setHandle h { d with way := .closed, rest := [], pieces := [], lines := 0 }
    setShared "main::?" (.int d.status)
    return d.status == 0

def restOf (h : Nat) : Run (List Char) := do
  let d ← handleAt h
  if d.way == .input then
    modify fun w => { w with waited := true }
    return (← get).standard
  else return d.rest

def setRest (h : Nat) (rest : List Char) (taken lines : Nat) : Run Unit := do
  let d ← handleAt h
  if d.way == .input then modify fun w => { w with standard := rest }
  setHandle h { d with
    rest := if d.way == .input then [] else rest
    taken := d.taken + taken
    lines := d.lines + lines }

/-- A record at the start of a text, with what ends it, and what follows. -/
def splitRecord (separator : Option (List Char)) (s : List Char) : List Char × List Char :=
  match separator with
  | none => (s, [])
  | some ['\n'] =>
    let line := s.takeWhile (· != '\n')
    let rest := s.drop line.length
    (line ++ rest.take 1, rest.drop 1)
  | some [] =>
    let s := s.dropWhile (· == '\n')
    let rec go : Nat → List Char → List Char → List Char × List Char
      | 0, done, s => (done.reverse, s)
      | _, done, [] => (done.reverse, [])
      | _ + 1, done, '\n' :: '\n' :: rest =>
        (('\n' :: '\n' :: done).reverse, rest.dropWhile (· == '\n'))
      | fuel + 1, done, c :: rest => go fuel (c :: done) rest
    go (s.length + 1) [] s
  | some mark =>
    let n := mark.length
    let rec find : Nat → List Char → List Char → List Char × List Char
      | 0, done, s => (done.reverse, s)
      | _, done, [] => (done.reverse, [])
      | fuel + 1, done, c :: rest =>
        if (c :: rest).take n == mark then (done.reverse ++ mark, (c :: rest).drop n)
        else find fuel (c :: done) rest
    find (s.length + 1) [] s

def asRead (wide : Bool) (cs : List Char) : String :=
  if wide then Text.decodeLossy (Text.octetBytes cs) else String.ofList cs

def recordEnd : Run (Option (List Char)) := do
  match ← shared "main::/" with
  | .absent => return none
  | .text s => return some s.toList
  | .int n => return some (Text.integerDigits 10 n)
  | _ => return some ['\n']

def readRecord (h : Nat) : Run (Option String) := do
  let rest ← restOf h
  let sep ← recordEnd
  let d ← handleAt h
  modify fun w => { w with lastRead := some h }
  if rest.isEmpty || d.way == .closed then
    -- nothing is a record of its own if all is read at once
    let w ← get
    if d.way == .input && w.endless then throw .stuck
    return none
  let (line, rest) := splitRecord sep rest
  setRest h rest line.length 1
  setShared "main::." (.int (d.lines + 1))
  return some (asRead d.wide line)

def Match.group (m : Match) (n : Nat) : Value :=
  match (m.groups[n]?).join with
  | some (a, b) =>
    if n ≤ m.count then .text (String.ofList (m.text.extract a b).toList) else .absent
  | none => .absent

/-- Letters that say how a pattern is read. -/
def patternOptions (wide : Bool) (flags : List Char) : Search.Options :=
  { fold := flags.contains 'i', lines := flags.contains 'm', all := flags.contains 's',
    spaced := flags.contains 'x', ascii := flags.contains 'a' || !wide }

/-- The pattern of a text, which is read only once. -/
def compiled (text : String) (flags : List Char) : Run Search.Compiled := do
  let w ← get
  let flags := flags.filter fun c => "imsxa".toList.contains c
  let key := String.ofList (flags ++ '/' :: text.toList)
  match w.patterns[key]? with
  | some p => return p
  | none =>
    let wide := w.wide || text.toList.any (255 < ·.toNat)
    match Search.compile .relaxed false (patternOptions wide flags) text.toList with
    | .ok p =>
      modify fun w => { w with patterns := w.patterns.insert key p }
      return p
    | .error e =>
      let place := e.place.getD 0
      let cs := text.toList
      fault (e.what ++ " in regex; marked by <-- HERE in m/" ++ String.ofList (cs.take place) ++
        " <-- HERE " ++ String.ofList (cs.drop place) ++ "/")

end Flowboard.Sigil
