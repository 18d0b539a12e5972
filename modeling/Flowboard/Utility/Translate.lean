import Flowboard.Utility.Basic
import Flowboard.Utility.Class

/-! Replaces, removes or joins characters one by one. -/
namespace Flowboard.Utility

/-- The value of up to `width` octal digits, and what follows them. -/
def readOctal : Nat → Nat → List Char → Nat × List Char
  | 0, acc, s => (acc, s)
  | _, acc, [] => (acc, [])
  | width + 1, acc, c :: s =>
    if '0' ≤ c ∧ c ≤ '7' then readOctal width (8 * acc + (c.toNat - '0'.toNat)) s
    else (acc, c :: s)

def letterEscape? : Char → Option Char
  | 'a' => some '\x07'
  | 'b' => some '\x08'
  | 'f' => some '\x0c'
  | 'n' => some '\n'
  | 'r' => some '\r'
  | 't' => some '\t'
  | 'v' => some '\x0b'
  | '\\' => some '\\'
  | _ => none

/-- The character at the start of a text, which a backslash may stand before. -/
def readListed : List Char → Option (Char × List Char)
  | [] => none
  | '\\' :: c :: s =>
    if '0' ≤ c ∧ c ≤ '7' then
      let (n, rest) := readOctal 3 0 (c :: s)
      some (Char.ofNat (n % 256), rest)
    else some ((letterEscape? c).getD c, s)
  | c :: s => some (c, s)

/-- A set of characters in the order of its text. A character with a star may fill up to a length,
which is given by its place. -/
inductive Listed where
  | char (c : Char)
  | fill (c : Char)
  deriving DecidableEq, Repr

/-- The characters of a text with ranges and classes. -/
def readList : Nat → List Char → List Listed
  | 0, _ => []
  | _, [] => []
  | fuel + 1, s =>
    let plain : List Listed :=
      match readListed s with
      | none => []
      | some (a, '-' :: rest) =>
        match readListed rest with
        | some (b, after) =>
          if a ≤ b then
            ((List.range (b.toNat - a.toNat + 1)).map fun i => .char (Char.ofNat (a.toNat + i))) ++
              readList fuel after
          else readList fuel after
        | none => .char a :: readList fuel ('-' :: rest)
      | some (a, rest) => .char a :: readList fuel rest
    match s with
    | '[' :: ':' :: t =>
      match readClassName t with
      | some (name, rest) => (classChars name).map .char ++ readList fuel rest
      | none => plain
    | '[' :: '=' :: c :: '=' :: ']' :: t => .char c :: readList fuel t
    | '[' :: c :: '*' :: t =>
      let digits := t.takeWhile Char.isDigit
      match t.drop digits.length with
      | ']' :: rest =>
        match Text.natural? digits with
        | some n => if n = 0 then .fill c :: readList fuel rest
            else (List.replicate n (.char c)) ++ readList fuel rest
        | none => .fill c :: readList fuel rest
      | _ => plain
    | _ => plain

/-- The first range of a text whose end stands before its start. Each character uses up one of the
fuel. -/
def reversedRange? : Nat → List Char → Option (Char × Char)
  | 0, _ => none
  | fuel + 1, s =>
    match s with
    | '[' :: ':' :: t =>
      match readClassName t with
      | some (_, rest) => reversedRange? fuel rest
      | none => reversedRange? fuel t
    | s =>
      match readListed s with
      | none => none
      | some (a, '-' :: rest) =>
        match readListed rest with
        | some (b, after) => if b < a then some (a, b) else reversedRange? fuel after
        | none => none
      | some (_, rest) => reversedRange? fuel rest

def filled (length : Nat) (xs : List Listed) : List Char :=
  let fixed := (xs.filter fun x => match x with | .char _ => true | .fill _ => false).length
  xs.flatMap fun
    | .char c => [c]
    | .fill c => List.replicate (length - fixed) c

/-- The characters of a text with ranges and classes, filled up to a length. -/
def listed (length : Nat) (s : String) : List Char :=
  filled length (readList (s.length + 1) s.toList)

/-- Leaves out a character after the same one if it is in the set. -/
def squeeze (members : Char → Bool) (s : List Char) : List Char :=
  let (_, out) := s.foldl (fun (last, out) c =>
    if last = some c ∧ members c then (last, out) else (some c, c :: out))
    (none, ([] : List Char))
  out.reverse

/-- Characters with those that they are replaced by, the later pairs first. The last replacement
stands for those that are missing. -/
def replacements (froms tos : List Char) : List (Char × Char) :=
  let missing := froms.length - tos.length
  let tos := tos ++ List.replicate missing (tos.getLast?.getD ' ')
  (froms.zip tos).reverse

def tr (c : Call) : Effect :=
  let table : OptionTable :=
    { flags := "cCdst".toList
      long := [("complement", 'c'), ("delete", 'd'), ("squeeze-repeats", 's'),
        ("truncate-set1", 't')] }
  c.withOptions table fun o =>
    let inverse := o.has 'c' || o.has 'C'
    let set (s : String) : List Char :=
      let cs := listed 0 s
      if inverse then ((List.range 256).map Char.ofNat).filter (!cs.contains ·) else cs
    let done (p : Pipe) : Effect := { output := p, waited := true }
    let squeezed (members : List Char) (p : Pipe) : Effect :=
      match p.all? with
      | some text => done (.of (squeeze members.contains text))
      | none => done p
    let input := { c.input with ready := 0, sized := false }
    let without (members : List Char) : Pipe :=
      input.flatMap fun ch => if members.contains ch then [] else [ch]
    match (o.operands.findSome? fun a => reversedRange? (a.length + 1) a.toList) with
    | some (a, b) =>
      c.fails 1 ("range-endpoints of '" ++ a.toString ++ "-" ++ b.toString ++
        "' are in reverse collating sequence order")
    | none =>
    match o.operands, o.has 'd', o.has 's' with
    | [a], true, false => done (without (set a))
    | [a, b], true, true => squeezed (listed 0 b) (without (set a))
    | [a], false, true => squeezed (set a) input
    | [a, b], false, squeezes =>
      let froms := set a
      let tos := listed froms.length b
      let froms := if o.has 't' then froms.take tos.length else froms
      if tos.isEmpty then c.fails 1 "when not truncating set1, string2 must be non-empty"
      else
        let pairs := replacements froms tos
        let replaced := input.flatMap fun ch => [(pairs.lookup ch).getD ch]
        if squeezes then squeezed tos replaced else done replaced
    | [], _, _ => c.misused 1 "missing operand"
    | [a], false, false =>
      c.misused 1 ("missing operand after '" ++ a ++
        "'\nTwo strings must be given when translating.")
    | _ :: b :: rest, _, _ => c.misused 1 ("extra operand '" ++ (rest.headD b) ++ "'")
    | [a], true, true =>
      c.misused 1 ("missing operand after '" ++ a ++
        "'\nTwo strings must be given when both deleting and squeezing repeats.")

end Flowboard.Utility
