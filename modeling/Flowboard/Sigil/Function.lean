import Flowboard.Rules.Value
import Flowboard.Sigil.Grammar
import Flowboard.Sigil.Operation
import Flowboard.Time.Calendar
import Flowboard.Utility.Digest

/-! The functions that every program has: on texts, arrays, hashes, files and commands. -/
namespace Flowboard.Sigil

section
variable (k : Evaluator)

def textsOf (vs : List Value) : Run (List String) :=
  vs.mapM (textOf)

/-- Sets the common variable while something runs. -/
def withTopic {α : Type} (cell : Nat) (body : Run α) : Run α := fun w =>
  let old := w.topic
  let (r, v) := body { w with topic := cell }
  (r, { v with topic := old })

def codeOf (v : Value) : Run Nat := do
  let s ← textOf v
  let name := if (s.splitOn "::").length > 1 then s else "main::" ++ s
  match (← get).routines[name]? with
  | some f => return f
  | none => fault ("Undefined subroutine &" ++ name ++ " called")

end

section
variable (k : Evaluator)

def valuesOf (args : List Expr) : Run (Array Value) := do
  let parts ← args.mapM k.list
  return parts.toArray.flatMap id

def scalarAt (args : List Expr) (i : Nat) : Run Value :=
  match args[i]? with
  | some e => k.scalar e
  | none => return .absent

def textAt (args : List Expr) (i : Nat) : Run String := do
  textOf (← scalarAt k args i)

def numberAt (args : List Expr) (i : Nat) : Run Number := do
  numberOf (← scalarAt k args i)

/-- The name of a handle that is written as a word. -/
def handleWord? : Expr → Option String
  | .handleNamed n => some n
  | .call full [.constant (.text _)] false => some full
  | .constant (.text s) =>
    if isHandleWord s then some (fullName "main" s) else none
  | _ => none

/-- The handle that an expression names; values are no handles. -/
def handleOf (e : Expr) : Run (Option Nat) := do
  match handleWord? e with
  | some n => return some (← handleNamed n)
  | none =>
    let _ ← k.scalar e
    return none

/-- The next operand that can be read; false if there is none. -/
def nextOperand (editing : Bool) : Nat → Run Bool
  | 0 => return false
  | fuel + 1 => do
    let argv ← sharedArray "main::ARGV"
    let cells ← arrayCells argv
    let h ← handleNamed "main::ARGV"
    let d ← handleAt h
    if cells.isEmpty then
      if (← get).operands then return false
      modify fun w => { w with operands := true }
      setHandle h { d with way := .input }
      setShared "main::ARGV" (.text "-")
      return true
    modify fun w => { w with operands := true }
    let path ← textOf (← getCell (cells.getD 0 0))
    setArray argv (cells.extract 1 cells.size)
    setShared "main::ARGV" (.text path)
    if path == "-" then
      setHandle h { d with way := .input }
      return true
    match (← get).files.read path with
    | .ok bytes =>
      setHandle h { d with way := .reading, path, rest := Text.octets bytes }
      if editing then modify fun w => { w with edited := some (path, "") }
      return true
    | .error e =>
      let w ← get
      let message := "Can't open " ++ path ++ ": " ++ e.reason ++ " at " ++ w.file ++ " line " ++
        Text.naturalText (max w.line 1) ++ (if 0 < d.lines then
          ", <> line " ++ Text.naturalText d.lines else "") ++ ".\n"
      modify fun w => { w with errors := message.toList :: w.errors }
      nextOperand editing fuel

def readOperands (editing : Bool) : Nat → Run (Option String)
  | 0 => return none
  | fuel + 1 => do
    let h ← handleNamed "main::ARGV"
    match ← readRecord h with
    | some s => return some s
    | none =>
      if ← nextOperand editing 1000 then readOperands editing fuel
      else
        let d ← handleAt h
        setHandle h { d with way := .closed }
        modify fun w => { w with operands := false }
        return none

def editsFiles : Run Bool := do
  match (← get).scalars["main::^I"]? with
  | some c => return !((← getCell c) matches .absent)
  | none => return false

/-- A record of a handle; the handle of the operands goes through all of them. -/
def readFrom (h : Nat) : Run (Option String) := do
  let d ← handleAt h
  if d.name == "main::ARGV" then readOperands (← editsFiles) 1000
  else readRecord h

/-- Defines the routines of a program and does what comes first. -/
def enterProgram (p : Program) (s : ReadState) : Run Unit := do
  modify fun w => { w with
    nextId := p.declared
    known := s.known
    imports := s.imports
    ends := p.last.reverse ++ w.ends
    wide := w.wide || p.wide }
  for r in p.routines do
    modify fun w => { w with
      routines := w.routines.insert r.name w.closures.size
      closures := w.closures.push ⟨r.name, r.package, r.body, w.scope⟩ }
  match p.data with
  | some text =>
    let h ← handleNamed (s.package ++ "::DATA")
    let d ← handleAt h
    setHandle h { d with way := .reading, rest := text }
  | none => pure ()

def runText (text : String) (visible : Visible) (package file : String) (want : Option Bool) :
    Run (Array Value) := do
  let w ← get
  match Program.read file text.toList visible package w.nextId w.known w.imports with
  | .error e => throw (.die (.text e))
  | .ok (p, s) =>
    enterProgram p s
    for (package, body) in p.first do
      let old := (← get).package
      modify fun w => { w with package }
      let _ ← k.block body none
      modify fun w => { w with package := old }
    k.block p.body want

def moduleDirectories : List String :=
  ["/etc/perl", "/usr/local/lib/x86_64-linux-gnu/perl/5.36.0", "/usr/local/share/perl/5.36.0",
   "/usr/lib/x86_64-linux-gnu/perl5/5.36", "/usr/share/perl5",
   "/usr/lib/x86_64-linux-gnu/perl-base", "/usr/lib/x86_64-linux-gnu/perl/5.36",
   "/usr/share/perl/5.36", "/usr/local/lib/site_perl"]

/-- The text of an ending or a warning, with its place. -/
def messageOf (vs : Array Value) (other : String) : Run Value := do
  let vs := vs.toList
  let s := "".intercalate (← textsOf vs)
  let s := if s.isEmpty then other else s
  if s.endsWith "\n" then return .text s
  return .text (s ++ (← whereabouts))

def isArrayExpr : Expr → Bool
  | .var .array _ | .deref .array _ | .declare _ .array _ => true
  | _ => false

/-- Takes values out of an array and puts others there. -/
def splice (args : List Expr) (list : Bool) : Run (Array Value) := do
  let a ← k.array (args.headD (.list []))
  let cells ← arrayCells a
  let size := cells.size
  let start : Nat ← match args[1]? with
    | none => pure 0
    | some e => do
      let i := (← numberOf (← k.scalar e)).toInt
      pure (min (if i < 0 then size - i.natAbs else i.toNat) size)
  let count : Nat ← match args[2]? with
    | none => pure (size - start)
    | some e => do
      let v ← k.scalar e
      let n := (← numberOf v).toInt
      pure (if n < 0 then size - start - n.natAbs else min n.toNat (size - start))
  let new ← valuesOf k (args.drop 3)
  let newCells ← new.mapM newCell
  let taken := cells.extract start (start + count)
  setArray a (cells.extract 0 start ++ newCells ++ cells.extract (start + count) size)
  let vs ← taken.mapM getCell
  return if list then vs else #[vs.back?.getD .absent]

def simpleFunction? (name : String) (v : Value) : Run (Option Value) := do
  let wide := (← get).wide
  let text (f : String → String) : Run (Option Value) := do
    return some (.text (f (← textOf v)))
  match name with
  | "lc" => text (lowerText wide)
  | "uc" => text (upperText wide)
  | "ucfirst" => text (onFirst (upperText wide))
  | "int" =>
    match ← numberOf v with
    | .float x =>
      if x.isNaN || x.isInf then return some (.float x)
      else
        match Script.truncated? x with
        | some n => return some (Number.ofInt n).toValue
        | none => return some (.float x)
    | n => return some n.toValue
  | _ => return none

end

end Flowboard.Sigil
