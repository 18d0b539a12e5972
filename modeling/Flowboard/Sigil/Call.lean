import Flowboard.Sigil.Evaluation
import Flowboard.Utility.Basic

/-! Programs whose variables have sigils, as they are called. -/
namespace Flowboard.Sigil

/-- How a program is called. -/
structure Invocation where
  /-- pieces of the program that are arguments -/
  texts : List String := []
  /-- modules that it uses -/
  uses : List String := []
  loops : Bool := false
  prints : Bool := false
  splits : Bool := false
  separator : Option String := none
  /-- ends of lines are taken off and put back -/
  lines : Option (Option Nat) := none
  recordEnd : Option Nat := none
  edits : Option String := none
  checks : Bool := false
  version : Bool := false
  wide : Bool := false
  directories : List String := []
  operands : List String := []

/-- Reads the letters of one argument; the next arguments may belong to them. -/
def readLetters : Nat → List Char → List String → Invocation →
    Except String (List String × Invocation)
  | 0, _, rest, i => .ok (rest, i)
  | _, [], rest, i => .ok (rest, i)
  | fuel + 1, c :: cs, rest, i =>
    match c with
    | 'e' | 'E' =>
      if cs.isEmpty then
        match rest with
        | t :: rest => .ok (rest, { i with texts := i.texts ++ [t] })
        | [] => .error ("No code specified for -" ++ c.toString ++ ".\n")
      else .ok (rest, { i with texts := i.texts ++ [String.ofList cs] })
    | 'p' => readLetters fuel cs rest { i with loops := true, prints := true }
    | c => .error ("Unrecognized switch: -" ++ String.ofList (c :: cs) ++
        "  (-h will show valid options).\n")

def readInvocation : Nat → List String → Invocation → Except String Invocation
  | 0, _, i => .ok i
  | _, [], i => .ok i
  | fuel + 1, arg :: rest, i =>
    match arg.toList with
    | ['-'] => .ok { i with operands := arg :: rest }
    | ['-', '-'] => .ok { i with operands := rest }
    | '-' :: cs =>
      match readLetters (cs.length + 1) cs rest i with
      | .ok (rest, i) => readInvocation fuel rest i
      | .error e => .error e
    | _ => .ok { i with operands := arg :: rest }

/-- The program of a call, with the loop that it asks for around it. -/
def Invocation.programText (i : Invocation) (body : List Char) : List Char :=
  let front := "".intercalate i.uses
  if !i.loops then front.toList ++ body
  else
    let chomps := if i.lines.isSome then "chomp; " else ""
    let splits := if !i.splits then ""
      else
        match i.separator with
        | none => "our @F = split(' '); "
        | some s =>
          let quoted := match s.toList with
            | '/' :: t => 1 < s.length && t.getLast? == some '/'
            | '"' :: t => 1 < s.length && t.getLast? == some '"'
            | '\'' :: t => 1 < s.length && t.getLast? == some '\''
            | _ => false
          let pattern := if quoted then s else "m\x01" ++ s ++ "\x01"
          "our @F = split(" ++ pattern ++ "); "
    let after := if i.prints then "\n;\x7d continue \x7b print; \x7d" else "\n;\x7d"
    front.toList ++ "LINE: while (<>) \x7b ".toList ++ chomps.toList ++ splits.toList ++ body ++
      after.toList

/-- How deep expressions and calls may be. -/
def depthOfPrograms : Nat := 12000

/-- The variables that every program has. -/
def startVariables (file : String) : List (String × Value) :=
  [("/", .text "\n"), ("\"", .text " "), (";", .text "\x1c"), ("0", .text file), ("@", .text ""),
   ("!", .dual 0 ""), ("$", .int 4242), ("]", .float 5.036), ("^V", .text "v5.36.0"),
   ("^O", .text "linux"), ("^W", .int 0), ("^T", .int startOfRuns),
   ("^X", .text "/usr/bin/perl"), ("?", .int 0), ("|", .int 0), ("<", .int 0), (">", .int 0),
   ("(", .text "0 0"), (")", .text "0 0")]

/-- Gets everything ready for a program. -/
def prepare (c : Utility.Call) (i : Invocation) (file : String) (operands : List String) :
    Run Unit := do
  for (name, way) in [("STDIN", Way.input), ("STDOUT", .output), ("STDERR", .errors)] do
    let h ← newHandle { name := "main::" ++ name, way, wide := i.wide }
    modify fun w => { w with streams := w.streams.insert ("main::" ++ name) h }
  for (n, v) in startVariables file do
    setShared ("main::" ++ n) v
  fillArray (← sharedArray "main::ARGV") (operands.map Value.text).toArray
  fillArray (← sharedArray "main::INC") ((i.directories ++ moduleDirectories).map
    Value.text).toArray
  let env ← sharedHash "main::ENV"
  for (n, v) in c.environment do
    let cell ← entryCell env n
    setCell cell (.text v)
  match i.recordEnd with
  | some 1000 => setShared "main::/" (.text "")
  | some n =>
    setShared "main::/" (if n == 0o777 then .absent else .text (Char.ofNat n).toString)
  | none => pure ()
  match i.lines with
  | some (some n) => setShared "main::\\" (.text (Char.ofNat n).toString)
  | some none => setShared "main::\\" (.text "\n")
  | none => pure ()
  match i.edits with
  | some s => setShared "main::^I" (.text s)
  | none => pure ()

def runEnds (k : Evaluator) : Nat → Run Unit
  | 0 => return
  | fuel + 1 => do
    match (← get).ends with
    | [] => return
    | body :: rest =>
      modify fun w => { w with ends := rest }
      let _ ← k.block body none
      runEnds k fuel

/-- How a program has ended. -/
inductive Outcome where
  | ended (status : Int)
  | stuck

/-- What an ending means for the whole program, with its message. -/
def outcomeOf (s : Stop) : Run Outcome := do
  match s with
  | .exit n => return .ended n
  | .die v =>
    let text ← textOf v
    let _ ← writeTo 2 text
    let number := match ← shared "main::!" with
      | .dual n _ => n
      | _ => 0
    let child := match ← shared "main::?" with
      | .int n => n / 256
      | _ => 0
    let status := if number % 256 != 0 then number else if child % 256 != 0 then child else 255
    return .ended status
  | _ => return .stuck

def caught (body : Run Unit) : Run Outcome := fun w =>
  match body w with
  | (.ok _, v) => (.ok (.ended 0), v)
  | (.error s, v) =>
    match outcomeOf s v with
    | (.ok o, v) => (.ok o, v)
    | (.error _, v) => (.ok .stuck, v)

def runProgram (p : Program) (s : ReadState) : Run Outcome := do
  let k := evaluator depthOfPrograms
  let early : Run Unit := do
    enterProgram p s
    for (package, body) in p.first do
      modify fun w => { w with package }
      let _ ← k.block body none
      modify fun w => { w with package := "main" }
  match ← caught early with
  | .stuck => return .stuck
  | .ended n =>
    if n != 0 then
      let w ← get
      let _ ← writeTo 2 ("BEGIN failed--compilation aborted at " ++ w.file ++ " line " ++
        Text.naturalText w.line ++ ".\n")
      return .ended n
    let first ← caught do
      let _ ← k.block p.body none
    match first with
    | .stuck => return .stuck
    | .ended n =>
      setShared "main::?" (.int n)
      modify fun w => { w with lastRead := none }
      let last ← caught (runEnds k 1000)
      let status ← shared "main::?"
      match last with
      | .stuck => return .stuck
      | .ended m =>
        let kept := match status with
          | .int n => n
          | _ => n
        let w ← get
        -- a program that checks itself tells how much went wrong
        let failures := if 0 < w.failures && kept == 0 then (w.failures : Int) else kept
        return .ended (if m != 0 then m else failures)

def perform (run : Runner) (c : Utility.Call) : Utility.Effect :=
  let failed (status : Int) (message : String) : Utility.Effect :=
    { errors := message.toList, status := .ofInt status }
  match readInvocation (c.args.length + 1) c.args {} with
  | .error e => failed 29 e
  | .ok i =>
    if i.version then
      .writing ("\nThis is perl 5, version 36, subversion 0 (v5.36.0) built for " ++
        "x86_64-linux-gnu-thread-multi\n").toList
    else
      let standard := c.input.text
      let source : Except String (String × List Char × List String × List Char) :=
        if !i.texts.isEmpty then
          .ok ("-e", ("\n".intercalate i.texts ++ "\n").toList, i.operands, standard)
        else
          match i.operands with
          | [] => .ok ("-", standard, [], [])
          | "-" :: rest => .ok ("-", standard, rest, [])
          | path :: rest =>
            match c.files.read path with
            | .ok bytes => .ok (path, Text.octets bytes, rest, standard)
            | .error e => .error ("Can't open perl script \"" ++ path ++ "\": " ++ e.reason ++ "\n")
      match source with
      | .error e => failed 2 e
      | .ok (file, body, operands, standard) =>
        let text := i.programText body
        match Program.read file text [] "main" 0 [] [] with
        | .error e => failed 255 e
        | .ok (p, s) =>
          if i.checks then { errors := (file ++ " syntax OK\n").toList }
          else
            let start : World :=
              { file, runner := run, files := c.files, standard, endless := c.input.endless }
            let all : Run Outcome := do
              prepare c i file operands
              let o ← runProgram p s
              let n := (← get).handles.size
              for h in [0:n] do
                if 2 < h then
                  let _ ← closeHandle h
              flushAll
              return o
            let (result, w) := all start
            let effect (status : Int) (tail : Tail) : Utility.Effect :=
              { output := { text := w.output.reverse.flatten, tail }
                errors := w.errors.reverse.flatten
                status := .ofInt status
                millis := w.millis
                files := some w.files
                waited := w.waited }
            match result with
            | .ok (.ended n) => effect n .ends
            | _ =>
              -- one that has written much goes on with it
              let last := w.output.headD []
              effect 0 (if 10000 < w.output.length && !last.isEmpty then .repeats last else .hangs)

end Flowboard.Sigil
