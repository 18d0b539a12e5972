import Flowboard.Files.System
import Flowboard.Host.Basic
import Flowboard.Rules.Value
import Flowboard.Utility.Basic

/-! What a program of rules has read, keeps and has written so far. -/
namespace Flowboard.Rules

/-- What a name stands for. -/
inductive Slot where
  | scalar (c : Cell)
  | array (id : Nat)
  deriving Inhabited

/-- Why something does not go on. -/
inductive Stop where
  | fatal (message : String)
  /-- it waits or works for ever -/
  | stuck

/-- How a command of a shell is run. -/
abbrev Runner := FileSystem → String → Activity × FileSystem

structure World where
  program : Program
  name : String
  globals : Std.HashMap String Slot := {}
  arrays : Array Dictionary := #[]
  record : List Char := []
  fields : Array Cell := #[]
  /-- what has been written, the last piece first -/
  output : List (List Char) := []
  /-- what waits to be written -/
  pending : List (List Char) := []
  errors : List (List Char) := []
  files : FileSystem
  /-- files and commands that are written to, the last piece first -/
  outlets : List (String × Outlet × List (List Char)) := []
  /-- what is left of files and commands that are read -/
  inlets : List (String × List Char) := []
  /-- what is left of the current file of records -/
  current : Option (List Char) := none
  /-- the place of the next operand -/
  place : Nat := 1
  /-- an operand has been read -/
  anyFile : Bool := false
  standard : List Char := []
  endless : Bool := false
  /-- the ranges of the rules that are open -/
  ranges : List Nat := []
  code : Int := 0
  seed : Cell := .number 0.0
  random : Generator := .ofSeed 42
  steps : Nat := 8000000
  millis : Nat := 0

abbrev Run := ExceptT Stop (StateM World)

/-- Counts one step. -/
def tick : Run Unit :=
  countStep .stuck World.steps fun w n => { w with steps := n }

def slot? (name : String) : Run (Option Slot) := do
  return (← get).globals[name]?

def putSlot (name : String) (s : Slot) : Run Unit :=
  modify fun w => { w with globals := w.globals.insert name s }

/-- The value of a variable of the whole program. -/
def global (w : World) (name : String) : Cell :=
  match w.globals[name]? with
  | some (.scalar c) => c
  | _ => .unset

def globalText (w : World) (name : String) : List Char :=
  (global w name).toText "%.6g".toList

def setGlobal (name : String) (c : Cell) : Run Unit :=
  modify fun w => { w with globals := w.globals.insert name (.scalar c) }

/-- The format in which numbers become texts. -/
def conversion : Run (List Char) := do
  return globalText (← get) "CONVFMT"

def textOf (c : Cell) : Run (List Char) :=
  match c with
  | .text s | .both s _ => return s
  | c => return c.toText (← conversion)

/-- The array of a name, which is made if there is none. -/
def arrayOf (name : String) : Run Nat := do
  match ← slot? name with
  | some (.array id) => return id
  | some (.scalar (.unset)) | none =>
    let id := (← get).arrays.size
    modify fun w => { w with arrays := w.arrays.push {} }
    putSlot name (.array id)
    return id
  | some (.scalar _) => throw (.fatal ("type error: " ++ name ++ " is not an array"))

/-- The value under a key, which is made if there is none. -/
def element (id : Nat) (key : String) : Run Cell := do
  let w ← get
  let d := w.arrays.getD id {}
  match d.entries[key]? with
  | some (c, _) =>
    set { w with arrays := w.arrays.modify id fun d =>
      { entries := d.entries.insert key (c, d.clock + 1), clock := d.clock + 1 } }
    return c
  | none =>
    set { w with arrays := w.arrays.modify id fun d =>
      { entries := d.entries.insert key (.unset, d.clock + 1), clock := d.clock + 1 } }
    return .unset

def isGap (c : Char) : Bool :=
  c == ' ' || c == '\t' || c == '\n'

/-- The parts of a text between matches of an expression. Each match uses up one of the fuel. -/
def splitPattern (r : Utility.Regex) : Nat → List Char → List Char → List (List Char)
  | 0, before, s => [before.reverse ++ s]
  | fuel + 1, before, s =>
    match r.findFrom? false (s.length + 1) [] ⟨before, s, []⟩ with
    | none => [before.reverse ++ s]
    | some f =>
      if f.matched.isEmpty then
        match f.after.ahead with
        | c :: rest =>
          splitPattern r fuel (c :: (f.before.reverse ++ before)) rest
        | [] => [before.reverse ++ s]
      else (before.reverse ++ f.before) :: splitPattern r fuel [] f.after.ahead

/-- The fields of a text, given what stands between them. A line feed divides too if `lines`. -/
def splitFields (separator : List Char) (lines : Bool) (s : List Char) : List (List Char) :=
  if s.isEmpty then []
  else
    match separator with
    | [' '] => Text.wordsWhere isGap s
    | [] => s.map fun c => [c]
    | [c] =>
      if c = '\\' then Text.splitWhere (· == c) s
      else Text.splitWhere (fun d => d == c || (lines && d == '\n')) s
    | text =>
      let r := patternOf text
      let r := if lines then .either r (.char '\n') else r
      splitPattern r (s.length + 1) [] s

def setRecord (s : List Char) : Run Unit := do
  let w ← get
  let lines := (globalText w "RS").isEmpty
  let parts := splitFields (globalText w "FS") lines s
  set { w with
    record := s
    fields := (parts.map Cell.ofInput).toArray
    globals := w.globals.insert "NF" (.scalar (ofNat parts.length)) }

def joinFields : Run Unit := do
  let w ← get
  let gap := globalText w "OFS"
  let format := globalText w "CONVFMT"
  let record := gap.intercalate (w.fields.toList.map (·.toText format))
  set { w with
    record
    globals := w.globals.insert "NF" (.scalar (ofNat w.fields.size)) }

def setFieldCount (n : Nat) : Run Unit := do
  let w ← get
  let fields := if n ≤ w.fields.size then w.fields.extract 0 n
    else w.fields ++ Array.replicate (n - w.fields.size) (.text [])
  set { w with fields }
  joinFields

def getField (i : Nat) : Run Cell := do
  let w ← get
  if i = 0 then return .ofInput w.record else return w.fields.getD (i - 1) .unset

def setField (i : Nat) (c : Cell) : Run Unit := do
  if i = 0 then
    setRecord (← textOf c)
  else
    let w ← get
    let fields := if i ≤ w.fields.size then w.fields
      else w.fields ++ Array.replicate (i - w.fields.size) (.text [])
    set { w with fields := fields.setIfInBounds (i - 1) c }
    joinFields

def putElement (id : Nat) (key : String) (c : Cell) : Run Unit :=
  modify fun w => { w with arrays := w.arrays.modify id fun d =>
    { entries := d.entries.insert key (c, d.clock + 1), clock := d.clock + 1 } }

/-- Gives a variable a value; some variables mean more. -/
def setVariable (name : String) (c : Cell) : Run Unit := do
  putSlot name (.scalar c)
  if name = "NF" then setFieldCount (wholeOf c.toNumber).toNat

def readRecord (separator : List Char) (s : List Char) : Option (List Char × List Char) :=
  if s.isEmpty then none
  else
    match separator with
    | ['\n'] =>
      let line := s.takeWhile (· != '\n')
      some (line, s.drop (line.length + 1))
    | [] =>
      let s := s.dropWhile (· == '\n')
      if s.isEmpty then none
      else
        let rec go : Nat → List Char → List Char → List Char × List Char
          | 0, done, s => (done.reverse, s)
          | _, done, [] => (done.reverse, [])
          | fuel + 1, done, '\n' :: rest =>
            if rest.head? == some '\n' || rest.isEmpty then
              (done.reverse, rest.dropWhile (· == '\n'))
            else go fuel ('\n' :: done) rest
          | fuel + 1, done, c :: rest => go fuel (c :: done) rest
        some (go (s.length + 1) [] s)
    | [c] =>
      let record := s.takeWhile (· != c)
      let rest := s.drop (record.length + 1)
      -- a line feed at the end of the last record stays
      some (record, rest)
    | text =>
      let r := patternOf text
      match r.find? false s with
      | some f => if f.matched.isEmpty then some (s, []) else some (f.before, f.after.ahead)
      | none => some (s, [])

def World.flush (w : World) : World :=
  { w with output := w.pending ++ w.output, pending := [] }

/-- Writes what has been gathered for a file or a command. -/
def deliver (run : Runner) (name : String) (outlet : Outlet) (pieces : List (List Char)) :
    Run Int := do
  let text := pieces.reverse.flatten
  let w ← get
  match outlet with
  | .command =>
    let path := "/tmp/.records"
    match w.files.write path (Text.octetBytes text) with
    | .error _ => return 1
    | .ok files =>
      let (a, files) := run files ("(" ++ name ++ "\n) < " ++ path)
      let files := match files.locate path with
        | .ok s => files.erase s.place
        | .error _ => files
      modify fun w => { w with
        files
        output := Text.octets a.output :: w.output
        errors := Text.octets a.errors :: w.errors
        millis := w.millis + a.span.millis }
      match a.ending with
      | .exit status => return status.val
      | .killed => return 256
      | .never => throw .stuck
  | _ =>
    let old := (w.files.read name).toOption.getD []
    match w.files.write name (old ++ Text.octetBytes text) with
    | .ok files =>
      set { w with files }
      return 0
    | .error _ => return 1

def deliverAll (run : Runner) (close : Bool) : Run Unit := do
  let outlets := (← get).outlets.reverse
  for (name, outlet, pieces) in outlets do
    if outlet != .command || close then
      let _ ← deliver run name outlet pieces
  modify fun w =>
    let kept := w.outlets.map fun (n, o, ps) => (n, o, if o == .command then ps else [])
    { w with outlets := if close then [] else kept }

def writeTo (outlet : Outlet) (name : String) (text : List Char) : Run Unit := do
  let w ← get
  if outlet != .command && (name = "/dev/stdout" || name = "-") then
    set { w with pending := text :: w.pending }
  else if outlet != .command && name = "/dev/stderr" then
    set { w with errors := text :: w.errors }
  else if w.outlets.any (·.1 == name) then
    set { w with outlets := w.outlets.map fun (n, o, ps) =>
      if n == name then (n, o, text :: ps) else (n, o, ps) }
  else
    let start := if outlet = .file then w.files.write name [] else
      if outlet = .append then w.files.write name ((w.files.read name).toOption.getD []) else
        .ok w.files
    match start with
    | .ok files =>
      -- a command starts with everything written
      let w := if outlet = .command then w.flush else w
      set { w with files, outlets := (name, outlet, [text]) :: w.outlets }
    | .error e => throw (.fatal ("cannot open \"" ++ name ++ "\" for output (" ++ e.reason ++ ")"))

end Flowboard.Rules
