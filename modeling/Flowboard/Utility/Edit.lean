import Flowboard.Utility.Basic
import Flowboard.Utility.Regex
import Flowboard.Utility.Translate

/-! Edits of lines by a list of commands. -/
namespace Flowboard.Utility

namespace Edit

/-- The lines that a command is for. -/
inductive Address where
  | line (n : Nat)
  | last
  | every (step first : Nat)
  | pattern (r : Regex) (fold : Bool)

/-- A part of the text that a match is replaced by. -/
inductive Substitute where
  | char (c : Char)
  | group (n : Nat)

inductive Action where
  | replace (r : Regex) (parts : List Substitute) (fold every shows : Bool) (nth : Nat)
  | exchange (pairs : List (Char × Char))
  | print
  | printFirst
  | delete
  | deleteFirst
  | quit (silent : Bool) (status : Nat)
  | next
  | nextAppended
  | number
  | hold (append : Bool)
  | get (append : Bool)
  | swap
  | insert (text : List Char)
  | append (text : List Char)
  | change (text : List Char)
  | label (name : List Char)
  | branch (name : List Char) (afterReplace : Bool)
  | block
  | close
  deriving Inhabited

structure Instruction where
  first : Option Address
  second : Option Address
  inverse : Bool
  action : Action

def skipBlanks (s : List Char) : List Char :=
  s.dropWhile fun c => c = ' ' || c = '\t'

/-- The text up to a mark, before which a backslash stands for the mark itself, and the rest. -/
def untilMark (mark : Char) : List Char → Option (List Char × List Char)
  | [] => none
  | '\\' :: c :: s =>
    (untilMark mark s).map fun (t, rest) =>
      (if c = mark then c :: t else '\\' :: c :: t, rest)
  | c :: s =>
    if c = mark then some ([], s) else (untilMark mark s).map fun (t, rest) => (c :: t, rest)

def readAddress (extended : Bool) (s : List Char) : Option Address × List Char :=
  let ds := s.takeWhile Char.isDigit
  match s with
  | '$' :: s => (some .last, s)
  | '/' :: t =>
    match untilMark '/' t with
    | some (p, 'I' :: rest) => (some (.pattern (.ofText extended p) true), rest)
    | some (p, rest) => (some (.pattern (.ofText extended p) false), rest)
    | none => (none, s)
  | s =>
    match Text.natural? ds, s.drop ds.length with
    | some n, '~' :: rest =>
      let es := rest.takeWhile Char.isDigit
      (some (.every ((Text.natural? es).getD 0) n), rest.drop es.length)
    | some n, rest => (some (.line n), rest)
    | none, s => (none, s)

def readSubstitutes : List Char → List Substitute
  | [] => []
  | '\\' :: c :: s =>
    (if c.isDigit then .group (c.toNat - '0'.toNat)
     else if c = 'n' then .char '\n'
     else if c = 't' then .char '\t'
     else .char c) :: readSubstitutes s
  | '&' :: s => .group 0 :: readSubstitutes s
  | c :: s => .char c :: readSubstitutes s

/-- The text after `a`, `i` or `c`, up to the end of its line. -/
def readText (s : List Char) : List Char × List Char :=
  let s := skipBlanks s
  let s := match s with
    | '\\' :: '\n' :: t => t
    | '\\' :: t => t
    | t => t
  (s.takeWhile (· != '\n') ++ ['\n'], (s.dropWhile (· != '\n')).drop 1)

/-- A word up to a blank, a semicolon or the end of its line. -/
def readName (s : List Char) : List Char × List Char :=
  let s := skipBlanks s
  let ends (c : Char) : Bool := c == '\n' || c == ';' || c == '}'
  (s.takeWhile fun c => !ends c, s.dropWhile fun c => !ends c)

def readAction (extended : Bool) (s : List Char) : Option (Action × List Char) :=
  match s with
  | 's' :: mark :: t => do
    let (pattern, t) ← untilMark mark t
    let (text, t) ← untilMark mark t
    let flags := t.takeWhile fun c => c.isAlphanum
    let nth := (Text.natural? (flags.filter Char.isDigit)).getD 1
    some (.replace (.ofText extended pattern) (readSubstitutes text)
      (flags.contains 'i' || flags.contains 'I') (flags.contains 'g') (flags.contains 'p') nth,
      t.drop flags.length)
  | 'y' :: mark :: t => do
    let (froms, t) ← untilMark mark t
    let (tos, t) ← untilMark mark t
    some (.exchange (froms.zip tos), t)
  | 'p' :: t => some (.print, t)
  | 'P' :: t => some (.printFirst, t)
  | 'd' :: t => some (.delete, t)
  | 'D' :: t => some (.deleteFirst, t)
  | 'q' :: t =>
    let ds := (skipBlanks t).takeWhile Char.isDigit
    some (.quit false ((Text.natural? ds).getD 0), (skipBlanks t).drop ds.length)
  | 'Q' :: t =>
    let ds := (skipBlanks t).takeWhile Char.isDigit
    some (.quit true ((Text.natural? ds).getD 0), (skipBlanks t).drop ds.length)
  | 'n' :: t => some (.next, t)
  | 'N' :: t => some (.nextAppended, t)
  | '=' :: t => some (.number, t)
  | 'h' :: t => some (.hold false, t)
  | 'H' :: t => some (.hold true, t)
  | 'g' :: t => some (.get false, t)
  | 'G' :: t => some (.get true, t)
  | 'x' :: t => some (.swap, t)
  | 'i' :: t => let (text, rest) := readText t; some (.insert text, rest)
  | 'a' :: t => let (text, rest) := readText t; some (.append text, rest)
  | 'c' :: t => let (text, rest) := readText t; some (.change text, rest)
  | ':' :: t => let (name, rest) := readName t; some (.label name, rest)
  | 'b' :: t => let (name, rest) := readName t; some (.branch name false, rest)
  | 't' :: t => let (name, rest) := readName t; some (.branch name true, rest)
  | '{' :: t => some (.block, t)
  | '}' :: t => some (.close, t)
  | _ => none

def readAll (extended : Bool) : Nat → List Char → Option (List Instruction)
  | 0, _ => none
  | fuel + 1, s =>
    match s.dropWhile fun c => c = ' ' || c = '\t' || c = '\n' || c = ';' with
    | [] => some []
    | '#' :: t => readAll extended fuel (t.dropWhile (· != '\n'))
    | s =>
      let (first, s) := readAddress extended s
      let (second, s) := match first, s with
        | some _, ',' :: t => readAddress extended (skipBlanks t)
        | _, s => (none, s)
      let s := skipBlanks s
      let (inverse, s) := match s with
        | '!' :: t => (true, skipBlanks t)
        | t => (false, t)
      match readAction extended s with
      | none => none
      | some (action, rest) =>
        (readAll extended fuel rest).map (⟨first, second, inverse, action⟩ :: ·)

structure State where
  line : List Char
  held : List Char := []
  number : Nat := 0
  ahead : List (List Char)
  output : List (List Char) := []
  /-- texts that follow the line -/
  pending : List (List Char) := []
  replaced : Bool := false
  /-- the instructions whose range has begun, by their places -/
  begun : List Nat := []

def Address.holds (s : State) : Address → Bool
  | .line n => s.number == n
  | .last => s.ahead.isEmpty
  | .every step first =>
    if step = 0 then s.number == first
    else first ≤ s.number && (s.number - first) % step == 0
  | .pattern r fold => (r.find? fold s.line).isSome

/-- Whether an instruction at a place is for the line, and the ranges that have begun then. -/
def Instruction.chosen (i : Instruction) (place : Nat) (s : State) : Bool × State :=
  let (hit, s) := match i.first, i.second with
    | none, _ => (true, s)
    | some a, none => (a.holds s, s)
    | some a, some b =>
      let ends : Bool := match b with
        | .line n => n ≤ s.number
        | b => b.holds s
      if s.begun.contains place then
        (true, if ends then { s with begun := s.begun.erase place } else s)
      else if a.holds s then
        let past : Bool := match b with
          | .line n => n ≤ s.number
          | _ => false
        (true, if past then s else { s with begun := place :: s.begun })
      else (false, s)
  (hit != i.inverse, s)

/-- The text that a match is replaced by. -/
def substituted (parts : List Substitute) (f : Regex.Found) : List Char :=
  parts.flatMap fun
    | .char c => [c]
    | .group 0 => f.matched
    | .group n => (f.after.groups.lookup n).getD []

/-- Replaces matches from the `nth` on: one of them, or all. -/
def replaceFrom (r : Regex) (parts : List Substitute) (fold every : Bool) :
    Nat → Nat → Regex.Place → Option (List Char)
  | 0, _, _ => none
  | fuel + 1, nth, p =>
    match r.findFrom? fold (p.ahead.length + 1) [] p with
    | none => none
    | some f =>
      let after := { f.after with groups := [] }
      -- an empty match moves on by one character
      let (kept, after) := match f.matched, after.ahead with
        | [], c :: ahead => ([c], { after with behind := c :: after.behind, ahead })
        | _, _ => ([], after)
      let finished : Bool := f.matched.isEmpty && f.after.ahead.isEmpty
      if nth ≤ 1 then
        let rest :=
          if every && !finished then
            (replaceFrom r parts fold every fuel 1 after).getD after.ahead
          else after.ahead
        some (f.before ++ substituted parts f ++ kept ++ rest)
      else if finished then none
      else
        (replaceFrom r parts fold every fuel (nth - 1) after).map fun rest =>
          f.before ++ f.matched ++ kept ++ rest

def State.write (s : State) (text : List Char) : State :=
  { s with output := text :: s.output }

/-- What comes of a line: the next one is due, the same one again, or the end with a status. -/
inductive Result where
  | due (s : State)
  | again (s : State)
  | done (s : State) (status : Nat)

/-- The place after the end of the block that starts at a place. -/
def blockEnd (program : Array Instruction) : Nat → Nat → Nat → Nat
  | 0, i, _ => i
  | fuel + 1, i, depth =>
    match (program[i]?).map Instruction.action with
    | some .block => blockEnd program fuel (i + 1) (depth + 1)
    | some .close => if depth ≤ 1 then i + 1 else blockEnd program fuel (i + 1) (depth - 1)
    | some _ => blockEnd program fuel (i + 1) depth
    | none => i

def labelPlace (program : Array Instruction) : Nat :=
  (program.findIdx? fun _ => false).getD program.size

def divided (a b : List Char) : List Char :=
  a ++ '\n' :: b

/-- The end of a line: it is written unless that is left to commands, and texts follow it. -/
def State.finish (s : State) (quiet : Bool) : State :=
  let s := if quiet then s else s.write (s.line ++ ['\n'])
  { s with output := s.pending ++ s.output, pending := [] }

/-- Runs the instructions from a place on. Each one uses up one of the fuel. -/
def execute (program : Array Instruction) (quiet : Bool) : Nat → Nat → State → Result
  | 0, _, s => .done s 0
  | fuel + 1, place, s =>
    match program[place]? with
    | none => .due (s.finish quiet)
    | some i =>
      let (chosen, s) := i.chosen place s
      if !chosen then
        match i.action with
        | .block => execute program quiet fuel (blockEnd program program.size place 0) s
        | _ => execute program quiet fuel (place + 1) s
      else
        let go (s : State) : Result := execute program quiet fuel (place + 1) s
        match i.action with
        | .replace r parts fold every shows nth =>
          match replaceFrom r parts fold every (s.line.length + 2) nth ⟨[], s.line, []⟩ with
          | some line =>
            let s := { s with line, replaced := true }
            go (if shows then s.write (line ++ ['\n']) else s)
          | none => go s
        | .exchange pairs => go { s with line := s.line.map fun c => (pairs.lookup c).getD c }
        | .print => go (s.write (s.line ++ ['\n']))
        | .printFirst => go (s.write (s.line.takeWhile (· != '\n') ++ ['\n']))
        | .delete => .due { s with output := s.pending ++ s.output, pending := [] }
        | .deleteFirst =>
          if s.line.contains '\n' then
            .again { s with line := (s.line.dropWhile (· != '\n')).drop 1 }
          else .due { s with output := s.pending ++ s.output, pending := [] }
        | .quit silent status => .done (if silent then s else s.finish quiet) status
        | .next =>
          match s.ahead with
          | line :: ahead =>
            let s := s.finish quiet
            go { s with line, ahead, number := s.number + 1 }
          | [] => .done (s.finish quiet) 0
        | .nextAppended =>
          match s.ahead with
          | line :: ahead =>
            go { s with line := divided s.line line, ahead, number := s.number + 1 }
          | [] => .done (s.finish quiet) 0
        | .number => go (s.write (Nat.toDigits 10 s.number ++ ['\n']))
        | .hold append => go { s with held := if append then divided s.held s.line else s.line }
        | .get append => go { s with line := if append then divided s.line s.held else s.held }
        | .swap => go { s with line := s.held, held := s.line }
        | .insert text => go (s.write text)
        | .append text => go { s with pending := text :: s.pending }
        | .change text =>
          let s := if i.second.isSome && s.begun.contains place then s else s.write text
          .due s
        | .label _ => go s
        | .branch name afterReplace =>
          if afterReplace && !s.replaced then go s
          else
            let target := if name.isEmpty then program.size else labelPlace program
            execute program quiet fuel target
              (if afterReplace then { s with replaced := false } else s)
        | .block => go s
        | .close => go s

/-- How many instructions one line may take. -/
def patience : Nat := 20000

/-- Goes through all lines. -/
def run (program : Array Instruction) (quiet : Bool) : Nat → State → State × Nat
  | 0, s => (s, 0)
  | fuel + 1, s =>
    match execute program quiet patience 0 s with
    | .done s status => (s, status)
    | .again s => run program quiet fuel s
    | .due s =>
      match s.ahead with
      | [] => (s, 0)
      | line :: ahead =>
        run program quiet fuel
          { s with line, ahead, number := s.number + 1, replaced := false }

/-- What a program makes of a text. The last line keeps the lack of a line feed. -/
def edited (program : Array Instruction) (quiet : Bool) (text : List Char) : List Char × Nat :=
  match (Text.lines text).map Text.chomp with
  | [] => ([], 0)
  | line :: ahead =>
    let (s, status) := run program quiet (2 * text.length + 2) { line, ahead, number := 1 }
    let out := s.output.reverse.flatten
    (if text.getLast? = some '\n' then out else Text.chomp out, status)

end Edit

def sed (c : Call) : Effect :=
  let table : OptionTable :=
    { flags := "nErsuz".toList, valued := "e".toList
      long := [("quiet", 'n'), ("silent", 'n'), ("regexp-extended", 'E'), ("expression", 'e')] }
  c.withOptions table fun o =>
    let (scripts, operands) := match o.values 'e', o.operands with
      | [], s :: rest => ([s], rest)
      | ss, rest => (ss, rest)
    let script := ("\n".intercalate scripts).toList
    match Edit.readAll (o.has 'E' || o.has 'r') (script.length + 2) script with
    | none => c.fails 1 "-e expression #1, char 1: unknown command"
    | some program =>
      c.together operands 2 (fun n => "can't read " ++ n) fun p =>
        match p.all? with
        | none => .stuck
        | some text =>
          let quiet := o.has 'n' || script.take 2 == ['#', 'n']
          let (out, status) := Edit.edited program.toArray quiet text
          { output := .of out, status := .ofInt status }

end Flowboard.Utility
