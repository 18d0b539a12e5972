import Flowboard.Search.Match
import Flowboard.Search.Reader
import Flowboard.Shell.Pattern
import Flowboard.Utility.Basic
import Flowboard.Utility.Place
import Flowboard.Utility.Regex

/-! Lines that match an expression. -/
namespace Flowboard.Utility

open Text (lines chomp)

/-- What is looked for: the longest match of an expression, or the first match of a pattern. -/
inductive Needle where
  | expression (r : Regex)
  | pattern (p : Search.Pattern) (groups : Nat)

def Needle.find? (fold : Bool) (p : Regex.Place) : Needle → Option Regex.Found
  | .expression r => r.findFrom? fold (p.ahead.length + 1) [] p
  | .pattern r groups =>
    let text := (p.behind.reverse ++ p.ahead).toArray
    let start := p.behind.length
    match Search.searchFrom text r groups (text.size + 1 - start) start .anywhere
        Search.patience with
    | (.found last kept, _) =>
      let first := ((kept[0]?).join.map (·.1)).getD start
      let read := (text.extract 0 last).toList
      let after : Regex.Place := ⟨read.reverse, text.toList.drop last, []⟩
      some ⟨p.ahead.take (first - start), read.drop first, after⟩
    | _ => none

/-- What is looked for in lines. -/
structure Query where
  needles : List Needle
  ignoreCase : Bool
  inverse : Bool
  whole : Bool
  word : Bool

/-- Whether a match has no word character beside it. -/
def standsAlone (f : Regex.Found) : Bool :=
  let behind := f.after.behind.drop f.matched.length
  !(behind.head?.any Regex.isWordChar) && !f.after.wordAhead

def Needle.whole : Needle → Needle
  | .expression r => .expression (.sequence .lineStart (.sequence r .lineEnd))
  | .pattern p n => .pattern (.both (.start false) (.both p .last)) n

/-- The first match in a line from a place on that the query takes. -/
def Query.find? (q : Query) (p : Regex.Place) : Option Regex.Found :=
  let found := q.needles.filterMap fun needle =>
    let needle := if q.whole then needle.whole else needle
    let rec search : Nat → Regex.Place → List Char → Option Regex.Found
      | 0, _, _ => none
      | fuel + 1, p, skipped =>
        match needle.find? q.ignoreCase p with
        | none => none
        | some f =>
          if !q.word || standsAlone f then some { f with before := skipped ++ f.before }
          else
            match p.ahead.drop f.before.length with
            | c :: ahead =>
              search fuel
                { p with behind := c :: (f.before.reverse ++ p.behind), ahead }
                (skipped ++ f.before ++ [c])
            | [] => none
    search (p.ahead.length + 1) p []
  found.foldl (fun best f =>
    match best with
    | some b => if f.before.length < b.before.length ||
        (f.before.length == b.before.length && b.matched.length < f.matched.length) then some f
        else best
    | none => some f) none

def Query.matches (q : Query) (line : List Char) : Bool :=
  (q.find? ⟨[], line, []⟩).isSome != q.inverse

/-- All matches in a line that are not empty, and the places where they start. -/
def Query.all (q : Query) : Nat → Regex.Place → List (Nat × List Char)
  | 0, _ => []
  | fuel + 1, p =>
    match q.find? p with
    | none => []
    | some f =>
      if f.matched.isEmpty then
        match f.after.ahead with
        | c :: ahead => q.all fuel { f.after with behind := c :: f.after.behind, ahead }
        | [] => []
      else (f.after.behind.length - f.matched.length, f.matched) :: q.all fuel f.after

def grepTable : OptionTable :=
  { flags := "EFGPivycnqoxwlLshHrRabzZUTI".toList, valued := "emABCfXYS".toList, optional := ['K']
    long := [("extended-regexp", 'E'), ("fixed-strings", 'F'), ("basic-regexp", 'G'),
      ("perl-regexp", 'P'), ("ignore-case", 'i'), ("no-ignore-case", 'U'), ("invert-match", 'v'),
      ("count", 'c'), ("line-number", 'n'), ("quiet", 'q'), ("silent", 'q'),
      ("only-matching", 'o'), ("line-regexp", 'x'), ("word-regexp", 'w'),
      ("files-with-matches", 'l'), ("files-without-match", 'L'), ("no-messages", 's'),
      ("no-filename", 'h'), ("with-filename", 'H'), ("recursive", 'r'), ("text", 'a'),
      ("byte-offset", 'b'), ("null-data", 'z'), ("null", 'Z'), ("regexp", 'e'),
      ("max-count", 'm'), ("after-context", 'A'), ("before-context", 'B'), ("context", 'C'),
      ("file", 'f'), ("include", 'X'), ("exclude", 'Y'), ("group-separator", 'S'),
      ("color", 'K'), ("colour", 'K')] }

/-- How many lines around matching ones are shown. -/
structure Surroundings where
  before : Nat
  after : Nat

namespace Surroundings

/-- The lines that are shown, with whether they match; `none` stands between two groups. -/
def rows (s : Surroundings) (hits : Array Bool) : List (Option (Nat × Bool)) :=
  let n := hits.size
  let near := (List.range n).filter fun i =>
    (List.range (s.before + s.after + 1)).any fun d =>
      s.after ≤ i + d && hits.getD (i + d - s.after) false
  let shown := near.foldl (fun (rows, last) i =>
    let rows := match last with
      | some l => if l + 1 = i then rows else none :: rows
      | none => rows
    (some (i, hits.getD i false) :: rows, some i))
    (([] : List (Option (Nat × Bool))), (none : Option Nat))
  shown.1.reverse

end Surroundings

/-- The needles of the lines of a text, or what is wrong with one of them. -/
def needles (o : Options) (name : String) (texts : List (List Char)) :
    Except String (List Needle) :=
  let extended := o.has 'E' || name == "egrep"
  let literal := o.has 'F' || name == "fgrep"
  texts.mapM fun text =>
    if literal then .ok (.expression (Regex.ofLiteral text))
    else if o.has 'P' then
      match Search.compile .relaxed true { fold := o.has 'i' || o.has 'y' } text with
      | .ok c => .ok (.pattern c.pattern c.groups)
      | .error f => .error f.what
    else
      match text with
      | '[' :: ':' :: rest =>
        if text.getLast? == some ']' && (rest.dropLast.getLast?) == some ':' then
          .error "character class syntax is [[:space:]], not [:space:]"
        else wrong extended text
      | _ => wrong extended text
where
  wrong (extended : Bool) (text : List Char) : Except String Needle :=
    match Regex.fault? extended text with
    | some e => .error e
    | none => .ok (.expression (Regex.ofText extended text))

/-- Numbers as options stand for lines around matching ones. -/
def withContextOption (args : List String) : List String :=
  args.flatMap fun a =>
    match a.toList with
    | '-' :: d :: ds => if (d :: ds).all Char.isDigit then ["-C", String.ofList (d :: ds)] else [a]
    | _ => [a]

/-- Writes the lines of its operands that match. It fails if there are none. -/
def grep (call : Call) : Effect :=
  let c := call.withArgs (withContextOption call.args)
  let usage : Effect :=
    { errors := ("Usage: grep [OPTION]... PATTERNS [FILE]...\n" ++
        "Try 'grep --help' for more information.\n").toList
      status := .ofInt 2 }
  match Options.readFrom grepTable true (c.args.length + 1) c.args with
  | .error e => { usage with errors := ("grep: " ++ e ++ "\n").toList ++ usage.errors }
  | .ok o =>
    let written := (o.values 'f').mapM fun path => match c.source path with
      | .ok p => Except.ok ((lines p.text).map chomp)
      | .error e => .error (path ++ ": " ++ e.reason)
    let number (letter : Char) : Option Nat :=
      (o.value? letter).bind fun s => Text.natural? s.toList
    let context? := number 'C'
    let (patterns, operands) := match o.values 'e', o.has 'f', o.operands with
      | [], false, p :: rest => ([p], rest)
      | ps, _, rest => (ps, rest)
    if patterns.isEmpty && !o.has 'f' then usage
    else
      let texts := patterns.flatMap fun p => Text.splitWhere (· == '\n') p.toList
      match written.bind fun ts => needles o c.name (texts ++ ts.flatten) with
      | .error e => c.fails 2 e
      | .ok needles =>
        let q : Query := ⟨needles, o.has 'i' || o.has 'y', o.has 'v', o.has 'x', o.has 'w'⟩
        let recursive := o.has 'r' || o.has 'R'
        let given := if recursive && operands.isEmpty then ["."] else operands
        let sources := if recursive then
            given.flatMap fun path => [path]
          else operands
        let fits (letter : Char) (path : String) : Bool := (o.values letter).any fun g =>
          Shell.Glob.fits (Shell.Glob.ofText false g.toList) (lastName path).toList
        let sources := sources.filter fun p => (!o.has 'X' || fits 'X' p) && !fits 'Y' p
        let named := (1 < operands.length || o.has 'H' || recursive) && !o.has 'h'
        let shownName (name : String) : String :=
          if name = "-" then "(standard input)" else name
        let ending : Char := if o.has 'z' then '\x00' else '\n'
        let label (name : String) (mark : Char) : List Char :=
          if named then (shownName name).toList ++ [if o.has 'Z' then '\x00' else mark] else []
        let split (text : List Char) : List (List Char) :=
          if o.has 'z' then Text.wordsWhere (· == ending) text else (lines text).map chomp
        let effect := if recursive && sources.isEmpty then ({} : Effect) else
          c.each sources 2 id fun name p =>
          match p.all? with
          | none => .stuck
          | some text =>
            let ls := (split text).toArray
            let all := ls.map q.matches
            let chosen := match number 'm' with
              | some n => (all.foldl (fun (kept, left) hit =>
                  (kept.push (hit && 0 < left), if hit then left - 1 else left))
                  ((#[] : Array Bool), n)).1
              | none => all
            let count := (chosen.filter id).size
            let status : Status := if count = 0 then .failure else .success
            let binary := text.contains '\x00' && !o.has 'a' && !o.has 'z'
            if o.has 'q' then { status }
            else if o.has 'l' || o.has 'L' then
              { output := .of (if (count = 0) != o.has 'L' then [] else
                  (shownName name).toList ++ [if o.has 'Z' then '\x00' else '\n']), status }
            else if o.has 'c' then
              { output := .of (label name ':' ++ Nat.toDigits 10 count ++ ['\n']), status }
            else if binary && 0 < count then
              { errors := ("grep: " ++ shownName name ++ ": binary file matches\n").toList }
            else
              let starts := (ls.foldl (fun (at_, n) l => (Array.push at_ n, n + l.length + 1))
                ((#[] : Array Nat), 0)).1
              let row (l : List Char) (i place : Nat) (mark : Char) : List Char :=
                label name mark ++ (if o.has 'n' then Nat.toDigits 10 (i + 1) ++ [mark] else []) ++
                  (if o.has 'b' then Nat.toDigits 10 (starts.getD i 0 + place) ++ [mark] else []) ++
                  l ++ [ending]
              let around : Surroundings :=
                ⟨(number 'B').getD (context?.getD 0), (number 'A').getD (context?.getD 0)⟩
              let grouped := o.has 'A' || o.has 'B' || o.has 'C'
              let separator := ((o.value? 'S').getD "--").toList ++ ['\n']
              let text := (around.rows chosen).flatMap fun
                | none => if grouped then separator else []
                | some (i, hit) =>
                  let l := ls.getD i []
                  if o.has 'o' then
                    if hit && !q.inverse then
                      (q.all (l.length + 1) ⟨[], l, []⟩).flatMap fun (place, m) => row m i place ':'
                    else []
                  else row l i 0 (if hit then ':' else '-')
              { output := .of text, status }
        -- one operand with a match is enough, unless another one cannot be read
        let found := (inputsOr sources).any fun name =>
          match c.source name with
          | .ok p => (split p.text).any q.matches && number 'm' != some 0
          | .error _ => false
        let broken := (inputsOr sources).any fun name => match c.source name with
          | .ok _ => false
          | .error _ => true
        { effect with
          errors := if o.has 's' then [] else effect.errors
          status := if broken && !(o.has 'q' && found) then .ofInt 2
            else if found then .success else .failure }

end Flowboard.Utility
