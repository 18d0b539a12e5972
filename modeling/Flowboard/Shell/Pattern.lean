import Flowboard.Utility.Class

/-! Patterns of shell scripts. -/
namespace Flowboard.Shell

/-- How often one of several patterns has to fit. -/
inductive GroupKind where
  | once
  | atMostOnce
  | anyTimes
  | someTimes
  /-- none of them may fit -/
  | never
  deriving DecidableEq, Repr

/-- The kind of group that a character in front of a parenthesis starts. -/
def GroupKind.ofChar? : Char → Option GroupKind
  | '@' => some once
  | '?' => some atMostOnce
  | '*' => some anyTimes
  | '+' => some someTimes
  | '!' => some never
  | _ => none

/-- What one place of a pattern stands for. -/
inductive Glob where
  /-- any text -/
  | any
  /-- any character -/
  | one
  | char (c : Char)
  | set (negated : Bool) (items : List Utility.SetItem)
  | group (kind : GroupKind) (alternatives : List (List Glob))

namespace Glob

/-- The alternatives of a group after its parenthesis, and what follows the closing one. -/
def splitGroup : Nat → Nat → List Char → List (List Char) → List Char →
    Option (List (List Char) × List Char)
  | 0, _, _, _, _ => none
  | _, _, _, _, [] => none
  | fuel + 1, depth, current, done, '\\' :: c :: s =>
    splitGroup fuel depth (c :: '\\' :: current) done s
  | fuel + 1, depth, current, done, c :: s =>
    match c, depth with
    | ')', 0 => some ((current.reverse :: done).reverse, s)
    | '|', 0 => splitGroup fuel 0 [] (current.reverse :: done) s
    | ')', depth + 1 => splitGroup fuel depth (c :: current) done s
    | '(', depth => splitGroup fuel (depth + 1) (c :: current) done s
    | _, depth => splitGroup fuel depth (c :: current) done s

/-- The pattern of a text, in which a backslash takes the meaning from the character after it. There
are groups only if `groups`. Each character uses up one of the fuel. -/
def read (groups : Bool) : Nat → List Char → List Glob
  | 0, _ => []
  | _, [] => []
  | fuel + 1, '\\' :: c :: s => .char c :: read groups fuel s
  | fuel + 1, c :: s =>
    let group? : Option (GroupKind × List (List Char) × List Char) :=
      match if groups then GroupKind.ofChar? c else none, s with
      | some kind, '(' :: inside =>
        (splitGroup (s.length + 1) 0 [] [] inside).map fun (alts, rest) => (kind, alts, rest)
      | _, _ => none
    match group? with
    | some (kind, alts, rest) => .group kind (alts.map (read groups fuel)) :: read groups fuel rest
    | none =>
      match c with
      | '*' => .any :: read groups fuel s
      | '?' => .one :: read groups fuel s
      | '[' =>
        match Utility.readBracket true s with
        | some ((negated, items), rest) => .set negated items :: read groups fuel rest
        | none => .char '[' :: read groups fuel s
      | c => .char c :: read groups fuel s

def ofText (groups : Bool) (s : List Char) : List Glob :=
  read groups (s.length + 1) s

/-- All ends of a text, the whole text first. -/
def suffixes : List Char → List (List Char)
  | [] => [[]]
  | c :: s => (c :: s) :: suffixes s

/-- Ends of one text, each once, the longest first. -/
def arranged (texts : List (List Char)) : List (List Char) :=
  let sorted := texts.mergeSort fun a b => b.length ≤ a.length
  let rec distinct : List (List Char) → List (List Char)
    | a :: b :: rest => if a.length = b.length then distinct (b :: rest) else a :: distinct (b :: rest)
    | texts => texts
  distinct sorted

/-- What is left after doing something again and again, at each time for new ends only. -/
def closure (once : List (List Char) → List (List Char)) :
    Nat → List (List Char) → List (List Char) → List (List Char)
  | 0, all, _ => all
  | fuel + 1, all, latest =>
    let next := (once latest).filter fun t => !all.any (·.length == t.length)
    if next.isEmpty then all else closure once fuel (arranged (all ++ next)) next

mutual

/-- What may be left of texts after one place of a pattern. The longest of them stands first. -/
def step : Glob → List (List Char) → List (List Char)
  | any, texts =>
    match texts with
    | longest :: _ => suffixes longest
    | [] => []
  | one, texts => past (fun _ => true) texts
  | char c, texts => past (· == c) texts
  | set negated items, texts => past (Utility.inBracket negated items) texts
  | group kind alts, texts =>
    let once := eachOf alts
    let turns := (texts.headD []).length + 1
    match kind with
    | .once => arranged (once texts)
    | .atMostOnce => arranged (texts ++ once texts)
    | .anyTimes => closure once turns texts texts
    | .someTimes =>
      let first := arranged (once texts)
      closure once turns first first
    | .never => arranged (texts.flatMap fun t =>
        let fitting := once [t]
        (suffixes t).filter fun r => !fitting.any (·.length == r.length))
where
  past (ok : Char → Bool) (texts : List (List Char)) : List (List Char) :=
    texts.filterMap fun
      | c :: s => if ok c then some s else none
      | [] => none

/-- What may be left of texts after all places of a pattern. -/
def stepAll : List Glob → List (List Char) → List (List Char)
  | [], texts => texts
  | g :: gs, texts => stepAll gs (step g texts)

/-- What may be left of texts after one of several patterns. -/
def eachOf : List (List Glob) → List (List Char) → List (List Char)
  | [], _ => []
  | p :: ps, texts => stepAll p texts ++ eachOf ps texts

end

/-- What may be left of a text after a pattern, the longest first. -/
def rests (p : List Glob) (s : List Char) : List (List Char) :=
  stepAll p [s]

/-- Whether a pattern fits a whole text. -/
def fits (p : List Glob) (s : List Char) : Bool :=
  (rests p s).any List.isEmpty

/-- A text without what a pattern fits at its start. -/
def trimStart (longest : Bool) (p : List Glob) (s : List Char) : List Char :=
  let left := rests p s
  ((if longest then left.getLast? else left.head?)).getD s

/-- The longest or shortest end of a text that a pattern fits, as the text before it. -/
def beforeEnd? (longest : Bool) (p : List Glob) (s : List Char) : Option (List Char) :=
  let ends := suffixes s
  let fitting := if longest then ends.find? (fits p) else ends.reverse.find? (fits p)
  fitting.map fun e => s.take (s.length - e.length)

/-- A text without what a pattern fits at its end. -/
def trimEnd (longest : Bool) (p : List Glob) (s : List Char) : List Char :=
  (beforeEnd? longest p s).getD s

/-- Puts something in the place of what a pattern fits, everywhere if `everywhere`. -/
def replace (everywhere : Bool) (p : List Glob) (put : List Char → List Char) :
    Nat → List Char → List Char
  | 0, s => s
  | fuel + 1, s =>
    let kept : List Char := match s with
      | c :: s => c :: replace everywhere p put fuel s
      | [] => []
    match (rests p s).getLast? with
    | some rest =>
      if rest.length < s.length then
        put (s.take (s.length - rest.length)) ++
          (if everywhere then replace everywhere p put fuel rest else rest)
      else kept
    | none => kept

end Glob

end Flowboard.Shell
