import Flowboard.Text.Integer
import Flowboard.Utility.Class

/-! Regular expressions, and the longest of the first matches in a text. -/
namespace Flowboard.Utility

inductive Regex where
  | nothing
  | char (c : Char)
  | any
  | bracket (negated : Bool) (items : List SetItem)
  | sequence (a b : Regex)
  | either (a b : Regex)
  | repeated (least : Nat) (most : Option Nat) (a : Regex)
  /-- a part whose match is kept under a number -/
  | group (n : Nat) (a : Regex)
  /-- the match of a group once more -/
  | again (n : Nat)
  | lineStart
  | lineEnd
  | wordEdge (wanted : Bool)
  | wordStart
  | wordEnd
  deriving Repr

namespace Regex

/-- A text that has been matched so far: what lies behind, last character first, what lies ahead,
and the matches of groups. -/
structure Place where
  behind : List Char
  ahead : List Char
  groups : List (Nat × List Char)

def isWordChar (c : Char) : Bool :=
  c.isAlphanum || c == '_'

def Place.wordBehind (p : Place) : Bool :=
  p.behind.head?.any isWordChar

def Place.wordAhead (p : Place) : Bool :=
  p.ahead.head?.any isWordChar

/-- One step over a character for which `ok` holds. -/
def Place.step (p : Place) (ok : Char → Bool) : List Place :=
  match p.ahead with
  | c :: rest => if ok c then [{ p with behind := c :: p.behind, ahead := rest }] else []
  | [] => []

/-- The first of the places with the same text ahead. -/
def distinct (ps : List Place) : List Place :=
  (ps.foldl (fun (out : List Place) p =>
    if out.any fun q => q.ahead.length == p.ahead.length then out else p :: out) []).reverse

/-- Whether two characters are the same, or the same letter if case does not count. -/
def sameChar (fold : Bool) (a b : Char) : Bool :=
  a == b || (fold && a.toLower == b.toLower)

/-- A text taken over as it stands. -/
def Place.literal (fold : Bool) (p : Place) : List Char → List Place
  | [] => [p]
  | c :: cs => (p.step (sameChar fold c)).flatMap fun p => p.literal fold cs

/-- The places after a match, the wanted ones first. Each repetition uses up one of the fuel. -/
def ends (fold : Bool) : Nat → Regex → Place → List Place
  | 0, _, _ => []
  | fuel + 1, r, p =>
    match r with
    | nothing => [p]
    | char c => p.step (sameChar fold c)
    | any => p.step (fun c => c != '\n')
    | bracket negated items => p.step fun c =>
        if fold then
          (items.any fun i => i.contains c || i.contains c.toLower || i.contains c.toUpper)
            != negated
        else inBracket negated items c
    | sequence a b => distinct ((ends fold fuel a p).flatMap (ends fold fuel b))
    | either a b => distinct (ends fold fuel a p ++ ends fold fuel b p)
    | repeated least most a =>
      let stop := if least = 0 then [p] else []
      if most = some 0 then stop
      else
        let further := (ends fold fuel a p).filter fun q =>
          q.ahead.length < p.ahead.length || 0 < least
        distinct (further.flatMap (ends fold fuel
          (repeated (least - 1) (most.map (· - 1)) a)) ++ stop)
    | group n a => (ends fold fuel a p).map fun q =>
        let matched := (q.behind.take (p.ahead.length - q.ahead.length)).reverse
        { q with groups := (n, matched) :: q.groups.filter (·.1 != n) }
    | again n => p.literal fold ((p.groups.lookup n).getD [])
    | lineStart => if p.behind.isEmpty then [p] else []
    | lineEnd => if p.ahead.isEmpty then [p] else []
    | wordEdge wanted => if (p.wordBehind != p.wordAhead) == wanted then [p] else []
    | wordStart => if !p.wordBehind && p.wordAhead then [p] else []
    | wordEnd => if p.wordBehind && !p.wordAhead then [p] else []

/-- How many constructors an expression has. -/
def size : Regex → Nat
  | sequence a b => a.size + b.size + 1
  | either a b => a.size + b.size + 1
  | repeated least most a => a.size + least + most.getD 0 + 1
  | group _ a => a.size + 1
  | _ => 1

def matchAt? (fold : Bool) (r : Regex) (p : Place) : Option Place :=
  (ends fold (r.size + p.ahead.length + 8) r p).foldl (fun best q =>
    match best with
    | some b => if q.ahead.length < b.ahead.length then some q else some b
    | none => some q) none

/-- A match: the text before it, the match itself, and where it ends. -/
structure Found where
  before : List Char
  matched : List Char
  after : Place

def findFrom? (fold : Bool) (r : Regex) : Nat → List Char → Place → Option Found
  | 0, _, _ => none
  | fuel + 1, skipped, p =>
    match r.matchAt? fold p with
    | some q =>
      some ⟨skipped.reverse, (q.behind.take (p.ahead.length - q.ahead.length)).reverse, q⟩
    | none =>
      match p.ahead with
      | c :: rest =>
        r.findFrom? fold fuel (c :: skipped) { p with behind := c :: p.behind, ahead := rest }
      | [] => none

def find? (fold : Bool) (r : Regex) (text : List Char) : Option Found :=
  r.findFrom? fold (text.length + 1) [] ⟨[], text, []⟩

/-- A number between braces. -/
def readCount? (s : List Char) : Option (Nat × List Char) :=
  let digits := s.takeWhile Char.isDigit
  (Text.natural? digits).map (·, s.drop digits.length)

/-- An expression with what is written after it for its repetitions. In the extended way of writing,
parentheses, braces and the like have their meaning without a backslash. -/
def readRepeats (extended : Bool) : Nat → Regex → List Char → Regex × List Char
  | 0, r, s => (r, s)
  | fuel + 1, r, s =>
    match s, extended with
    | '*' :: s, _ => readRepeats extended fuel (.repeated 0 none r) s
    | '+' :: s, true => readRepeats extended fuel (.repeated 1 none r) s
    | '{' :: t, true =>
      match readCount? t with
      | some (n, '}' :: rest) => readRepeats extended fuel (.repeated n (some n) r) rest
      | _ => (r, s)
    | s, _ => (r, s)

/-- What a backslash with a character after it stands for. -/
def escaped (c : Char) : Regex :=
  let space : List SetItem := [.named "space"]
  let word : List SetItem := [.named "alnum", .range '_' '_']
  match c with
  | 'w' => .bracket false word
  | 'W' => .bracket true word
  | 's' => .bracket false space
  | 'S' => .bracket true space
  | 'b' => .wordEdge true
  | 'B' => .wordEdge false
  | '<' => .wordStart
  | '>' => .wordEnd
  | 'n' => .char '\n'
  | 't' => .char '\t'
  | c => if c.isDigit && c != '0' then .again (c.toNat - '0'.toNat) else .char c

mutual

/-- Alternatives up to the end or a closing parenthesis. -/
def readEither (extended : Bool) : Nat → Nat → List Char → Regex × Nat × List Char
  | 0, groups, s => (.nothing, groups, s)
  | fuel + 1, groups, s =>
    let (a, groups, s) := readSequence extended fuel groups true s
    let bar? := match s, extended with
      | '|' :: s, true => some s
      | '\\' :: '|' :: s, false => some s
      | _, _ => none
    match bar? with
    | some s =>
      let (b, groups, s) := readEither extended fuel groups s
      (.either a b, groups, s)
    | none => (a, groups, s)

/-- Expressions one after the other; `first` tells that nothing stands before. -/
def readSequence (extended : Bool) :
    Nat → Nat → Bool → List Char → Regex × Nat × List Char
  | 0, groups, _, s => (.nothing, groups, s)
  | fuel + 1, groups, first, s =>
    let more (r : Regex) (groups : Nat) (s : List Char) : Regex × Nat × List Char :=
      let (r, s) := readRepeats extended (s.length + 1) r s
      let (b, groups, s) := readSequence extended fuel groups false s
      (.sequence r b, groups, s)
    let grouped (t : List Char) : Regex × Nat × List Char :=
      let n := groups + 1
      let (a, groups, t) := readEither extended fuel n t
      let t := match t, extended with
        | ')' :: t, true => t
        | '\\' :: ')' :: t, false => t
        | t, _ => t
      more (.group n a) groups t
    let last (t : List Char) : Bool :=
      t.isEmpty || (if extended then t.head? == some ')' || t.head? == some '|'
        else t.take 2 == ['\\', ')'] || t.take 2 == ['\\', '|'])
    match s with
    | [] => (.nothing, groups, [])
    | '(' :: t => if extended then grouped t else more (.char '(') groups t
    | '\\' :: '(' :: t => if extended then more (.char '(') groups t else grouped t
    | ')' :: t => if extended then (.nothing, groups, s) else more (.char ')') groups t
    | '\\' :: ')' :: t => if extended then more (.char ')') groups t else (.nothing, groups, s)
    | '|' :: t => if extended then (.nothing, groups, s) else more (.char '|') groups t
    | '\\' :: '|' :: t => if extended then more (.char '|') groups t else (.nothing, groups, s)
    | '\\' :: c :: t =>
      if extended && "+?{}.*[]^$".toList.contains c then more (.char c) groups t
      else more (escaped c) groups t
    | '.' :: t => more .any groups t
    | '[' :: t =>
      match readBracket false t with
      | some ((negated, items), t) => more (.bracket negated items) groups t
      | none => more (.char '[') groups t
    | '^' :: t =>
      if extended || first then
        let (b, groups, t) := readSequence extended fuel groups true t
        (.sequence .lineStart b, groups, t)
      else more (.char '^') groups t
    | '$' :: t =>
      if extended || last t then
        let (b, groups, t) := readSequence extended fuel groups false t
        (.sequence .lineEnd b, groups, t)
      else more (.char '$') groups t
    | '*' :: t => if extended then more .nothing groups t else more (.char '*') groups t
    | '+' :: t => if extended then more .nothing groups t else more (.char '+') groups t
    | '?' :: t => if extended then more .nothing groups t else more (.char '?') groups t
    | c :: t => more (.char c) groups t

end

/-- The expression of a text. A closing parenthesis that closes nothing stands for itself; each one
uses up one of the fuel. -/
def readWhole (extended : Bool) : Nat → Nat → List Char → Regex
  | 0, _, _ => .nothing
  | fuel + 1, groups, s =>
    match readEither extended (3 * s.length + 3) groups s with
    | (r, groups, ')' :: rest) =>
      .sequence r (.sequence (.char ')') (readWhole extended fuel groups rest))
    | (r, _, _) => r

def ofText (extended : Bool) (s : List Char) : Regex :=
  readWhole extended (s.length + 1) 0 s

/-- The rest after a set between brackets, or what is wrong with it. -/
def skipSet : Nat → Bool → List Char → Except String (List Char)
  | 0, _, _ => .error "Unmatched [, [^, [:, [., or [="
  | _, _, [] => .error "Unmatched [, [^, [:, [., or [="
  | fuel + 1, first, c :: s =>
    if c = ']' ∧ ¬ first then .ok s
    else
      match c, s with
      | a, '-' :: b :: rest =>
        if b = ']' then skipSet fuel false s
        else if b < a then .error "Invalid range end"
        else skipSet fuel false rest
      | _, _ => skipSet fuel false s

/-- What is wrong with an expression, given how many groups are open and have been closed. -/
def faultFrom (extended : Bool) : Nat → List Nat → List Nat → Nat → List Char → Option String
  | 0, _, _, _, _ => none
  | fuel + 1, opened, closed, count, s =>
    let unmatched := "Unmatched ( or \\("
    let go := faultFrom extended fuel
    let close (rest : List Char) (lone : Option String) : Option String :=
      match opened with
      | n :: opened => go opened (n :: closed) count rest
      | [] => lone.or (go [] closed count rest)
    match s with
    | [] => if opened.isEmpty then none else some unmatched
    | ['\\'] => some "Trailing backslash"
    | '\\' :: '(' :: t => if extended then go opened closed count t
        else go ((count + 1) :: opened) closed (count + 1) t
    | '\\' :: ')' :: t => if extended then go opened closed count t
        else close t (some "Unmatched ) or \\)")
    | '(' :: t => if extended then go ((count + 1) :: opened) closed (count + 1) t
        else go opened closed count t
    | ')' :: t => if extended then close t none else go opened closed count t
    | '\\' :: c :: t =>
      if c.isDigit && c != '0' && !closed.contains (c.toNat - '0'.toNat) then
        some "Invalid back reference"
      else if c = '{' ∧ ¬ extended ∧ ¬ counted t then some "Unmatched \\\x7b"
      else go opened closed count t
    | '[' :: t =>
      let t := if t.head? = some '^' then t.drop 1 else t
      if t.isEmpty then some "Invalid regular expression"
      else match skipSet (t.length + 1) true t with
      | .ok rest => go opened closed count rest
      | .error e => some e
    | _ :: t => go opened closed count t
where
  /-- a number and a closing brace -/
  counted (t : List Char) : Bool :=
    (readCount? t).any fun (_, rest) => rest.take 2 == ['\\', '\x7d']

/-- What is wrong with an expression. -/
def fault? (extended : Bool) (s : List Char) : Option String :=
  faultFrom extended (s.length + 1) [] [] 0 s

def ofLiteral (s : List Char) : Regex :=
  s.foldr (fun c r => .sequence (.char c) r) .nothing

end Regex

end Flowboard.Utility
