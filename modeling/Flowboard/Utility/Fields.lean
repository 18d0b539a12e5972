import Flowboard.Double.Basic
import Flowboard.Text.Integer
import Flowboard.Text.Octet
import Flowboard.Utility.Basic

/-! Orders of lines, by their characters, by numbers in them, by months or by versions, and programs
that compare lines or work on the parts of lines. -/
namespace Flowboard.Utility

open Text (natural?)

/-- Which of two texts comes first, by the numbers of their characters. -/
def compareText : List Char → List Char → Ordering
  | [], [] => .eq
  | [], _ => .lt
  | _, [] => .gt
  | a :: s, b :: t => if a < b then .lt else if b < a then .gt else compareText s t

def isBlankChar (c : Char) : Bool :=
  c == ' ' || c == '\t'

/-- The number that a text starts with after blanks: a sign, digits, digits after a point, and what
follows. -/
structure Leading where
  negative : Bool
  whole : Nat
  fraction : List Char
  rest : List Char

def Leading.of (s : List Char) : Leading :=
  let s := s.dropWhile isBlankChar
  let (negative, s) := match s with
    | '-' :: s => (true, s)
    | s => (false, s)
  let whole := s.takeWhile Char.isDigit
  let after := s.drop whole.length
  let (fraction, rest) := match after with
    | '.' :: t => (t.takeWhile Char.isDigit, t.dropWhile Char.isDigit)
    | t => ([], t)
  ⟨negative, (natural? whole).getD 0, (fraction.reverse.dropWhile (· == '0')).reverse, rest⟩

def Leading.isZero (x : Leading) : Bool :=
  x.whole == 0 && x.fraction.isEmpty

def Leading.compare (a b : Leading) : Ordering :=
  let size := (Ord.compare a.whole b.whole).then (compareText a.fraction b.fraction)
  match a.negative && !a.isZero, b.negative && !b.isZero with
  | false, false => size
  | true, true => size.swap
  | true, false => .lt
  | false, true => .gt

/-- The place of the letter behind a number, with the sign of the number. -/
def Leading.unit (x : Leading) : Int :=
  let place : Nat := match x.rest with
    | 'k' :: _ => 1
    | c :: _ => (("KMGTPEZYRQ".toList.findIdx? (· == c)).map (· + 1)).getD 0
    | [] => 0
  if x.isZero then 0 else if x.negative then -(place : Int) else place

/-- Which of two numbers with letters is smaller. -/
def compareHuman (a b : List Char) : Ordering :=
  let x := Leading.of a
  let y := Leading.of b
  let sign (l : Leading) : Int := if l.isZero then 0 else if l.negative then -1 else 1
  (Ord.compare (sign x) (sign y)).then ((Ord.compare x.unit y.unit).then (x.compare y))

/-- A number with an exponent: its class, and for a finite one its sign, digits and exponent. -/
structure General where
  /-- no number, not a number, minus infinity, finite, infinity -/
  rank : Nat
  negative : Bool := false
  digits : Nat := 0
  exponent : Int := 0

def General.of (s : List Char) : General :=
  let s := s.dropWhile fun c => c == ' ' || (9 ≤ c.toNat && c.toNat ≤ 13)
  let (negative, s) := match s with
    | '-' :: s => (true, s)
    | '+' :: s => (false, s)
    | s => (false, s)
  let word := (s.take 3).map Char.toLower
  if word == "inf".toList then ⟨if negative then 2 else 4, negative, 0, 0⟩
  else if word == "nan".toList then ⟨1, false, 0, 0⟩
  else
    let whole := s.takeWhile Char.isDigit
    let after := s.drop whole.length
    let (fraction, rest) := match after with
      | '.' :: t => (t.takeWhile Char.isDigit, t.dropWhile Char.isDigit)
      | t => ([], t)
    if whole.isEmpty && fraction.isEmpty then ⟨0, false, 0, 0⟩
    else
      let power : Int := match rest with
        | e :: t =>
          if e == 'e' || e == 'E' then
            let (minus, t) := match t with
              | '-' :: t => (true, t)
              | '+' :: t => (false, t)
              | t => (false, t)
            let n : Int := (natural? (t.takeWhile Char.isDigit)).getD 0
            if minus then -n else n
          else 0
        | [] => 0
      ⟨3, negative, (natural? (whole ++ fraction)).getD 0, power - fraction.length⟩

def General.compare (a b : General) : Ordering :=
  (Ord.compare a.rank b.rank).then <|
    if a.rank != 3 then .eq
    else
      let low := min a.exponent b.exponent
      let scaled (x : General) : Int :=
        let n : Int := x.digits * tenTo (min (x.exponent - low).toNat 10000)
        if x.negative then -n else n
      Ord.compare (scaled a) (scaled b)

/-- The number of a month, zero for other texts. -/
def monthOf (s : List Char) : Nat :=
  let word := ((s.dropWhile isBlankChar).take 3).map Char.toUpper
  let months := ["JAN", "FEB", "MAR", "APR", "MAY", "JUN", "JUL", "AUG", "SEP", "OCT", "NOV", "DEC"]
  ((months.findIdx? fun m => m.toList == word).map (· + 1)).getD 0

/-- The rank of a character in a version; digits count for nothing and the end for less. -/
def versionRank : List Char → Int
  | [] => -1
  | c :: _ =>
    if c.isDigit then 0
    else if c.isAlpha then c.toNat
    else if c == '~' then -2
    else c.toNat + 256

/-- Compares texts part by part, numbers as numbers. Each part uses up one of the fuel. -/
def compareParts : Nat → List Char → List Char → Ordering
  | 0, _, _ => .eq
  | _, [], [] => .eq
  | fuel + 1, a, b =>
    let (order, a, b) := words (a.length + b.length + 1) a b
    match order with
    | .eq =>
      let x := (a.takeWhile Char.isDigit).dropWhile (· == '0')
      let y := (b.takeWhile Char.isDigit).dropWhile (· == '0')
      match (Ord.compare x.length y.length).then (compareText x y) with
      | .eq => compareParts fuel (a.dropWhile Char.isDigit) (b.dropWhile Char.isDigit)
      | o => o
    | o => o
where
  /-- the parts before the next numbers -/
  words : Nat → List Char → List Char → Ordering × List Char × List Char
    | 0, a, b => (.eq, a, b)
    | fuel + 1, a, b =>
      let text (s : List Char) : Bool := s.head?.any fun c => !c.isDigit
      if text a || text b then
        match Ord.compare (versionRank a) (versionRank b) with
        | .eq => words fuel (a.drop 1) (b.drop 1)
        | o => (o, a, b)
      else (.eq, a, b)

/-- A text without the endings after points that start with letters. -/
def withoutEndings (s : List Char) : List Char :=
  let rec go : Nat → List Char → List Char
    | 0, r => r
    | fuel + 1, r =>
      let ending := r.takeWhile fun c => c.isAlphanum || c == '~'
      match r.drop ending.length, ending.getLast? with
      | '.' :: rest, some c => if c.isAlpha || c == '~' then go fuel rest else r
      | _, _ => r
  (go (s.length + 1) s.reverse).reverse

def compareVersions (a b : List Char) : Ordering :=
  let hidden (s : List Char) : Nat := match s with
    | [] => 0
    | ['.'] => 1
    | ['.', '.'] => 2
    | '.' :: _ => 3
    | _ => 4
  let n := a.length + b.length + 2
  (Ord.compare (hidden a) (hidden b)).then
    ((compareParts n (withoutEndings a) (withoutEndings b)).then
      ((compareParts n a b).then (compareText a b)))

open Text (lines chomp padLeft splitWhere natural?)

/-- What counts in a text that is compared. -/
inductive SortKind where
  | text
  | numeric
  | general
  | human
  | month
  | version
  deriving DecidableEq, Repr

/-- How lines are compared: a part of each, and what counts in it. -/
structure SortKey where
  /-- the fields and characters before the part -/
  first : Nat × Nat := (0, 0)
  /-- the last field, and the last character in it if it is not taken whole -/
  last : Option (Nat × Nat) := none
  kind : SortKind := .text
  fold : Bool := false
  reverse : Bool := false
  /-- blanks before the first and the last place do not count -/
  blanks : Bool × Bool := (false, false)
  letters : Bool := false
  visible : Bool := false

/-- Whether a key asks for nothing but an order of characters. -/
def SortKey.isPlain (k : SortKey) : Bool :=
  k.kind == .text && !k.fold && k.blanks == (false, false) && !k.letters && !k.visible

/-- The text after so many fields. -/
def skipFields (separator : Option Char) : Nat → List Char → List Char
  | 0, s => s
  | n + 1, s =>
    match separator with
    | some c => skipFields separator n ((s.dropWhile (· != c)).drop 1)
    | none => skipFields separator n ((s.dropWhile isBlankChar).dropWhile (!isBlankChar ·))

/-- How many characters of a line lie before the end of a key. -/
def SortKey.limit (k : SortKey) (separator : Option Char) (line : List Char) : Nat :=
  match k.last with
  | none => line.length
  | some (fields, 0) =>
    match separator with
    | some c =>
      let before := skipFields separator (fields - 1) line
      line.length - before.length + (before.takeWhile (· != c)).length
    | none => line.length - (skipFields separator fields line).length
  | some (fields, chars) =>
    let before := skipFields separator (fields - 1) line
    let before := if k.blanks.2 then before.dropWhile isBlankChar else before
    line.length - before.length + chars

def SortKey.part (k : SortKey) (separator : Option Char) (line : List Char) : List Char :=
  let start := skipFields separator k.first.1 line
  let start := if k.blanks.1 then start.dropWhile isBlankChar else start
  let start := start.drop k.first.2
  start.take (k.limit separator line - (line.length - start.length))

def SortKey.compare (k : SortKey) (separator : Option Char) (a b : List Char) : Ordering :=
  let a := k.part separator a
  let b := k.part separator b
  let order := match k.kind with
    | .numeric => (Leading.of a).compare (Leading.of b)
    | .general => (General.of a).compare (General.of b)
    | .human => compareHuman a b
    | .month => Ord.compare (monthOf a) (monthOf b)
    | .version => compareVersions a b
    | .text =>
      let prepared (s : List Char) : List Char :=
        let s := if k.letters then s.filter (fun c => c.isAlphanum || isBlankChar c) else s
        let s := if k.visible then s.filter (fun c => 32 ≤ c.toNat && c.toNat < 127) else s
        if k.fold then s.map Char.toUpper else s
      compareText (prepared a) (prepared b)
  if k.reverse then order.swap else order

def SortKey.withLetter (k : SortKey) (start : Bool) : Char → SortKey
  | 'n' => { k with kind := .numeric }
  | 'g' => { k with kind := .general }
  | 'h' => { k with kind := .human }
  | 'M' => { k with kind := .month }
  | 'V' => { k with kind := .version }
  | 'f' => { k with fold := true }
  | 'r' => { k with reverse := true }
  | 'b' => { k with blanks := (k.blanks.1 || start, k.blanks.2 || !start) }
  | 'd' => { k with letters := true }
  | 'i' => { k with visible := true }
  | _ => k

def sortLetters : List Char := "bdfghiMnRrV".toList

/-- The key of a text such as `2.3,3n`. -/
def SortKey.ofText (s : String) : Except String SortKey :=
  let wrong (what : String) : Except String SortKey :=
    .error (what ++ ": invalid field specification '" ++ s ++ "'")
  let number (t : List Char) : Option Nat × List Char :=
    let ds := t.takeWhile Char.isDigit
    (natural? ds, t.drop ds.length)
  let chars (t : List Char) : Option Nat × List Char := match t with
    | '.' :: t => number t
    | t => (none, t)
  match number s.toList with
  | (none, _) => .error ("invalid number at field start: invalid count at start of '" ++ s ++ "'")
  | (some 0, _) => wrong "field number is zero"
  | (some n, t) =>
    let (place, t) := chars t
    if place = some 0 then wrong "character offset is zero"
    else
      let letters := t.takeWhile sortLetters.contains
      let t := t.drop letters.length
      let key : SortKey := { first := (n - 1, place.getD 1 - 1) }
      let key := letters.foldl (fun k c => k.withLetter true c) key
      match t with
      | [] => .ok key
      | ',' :: t =>
        match number t with
        | (none, _) =>
          .error ("invalid number after ',': invalid count at start of '" ++ String.ofList t ++ "'")
        | (some 0, _) => wrong "field number is zero"
        | (some m, t) =>
          let (place, t) := chars t
          let letters := t.takeWhile sortLetters.contains
          if letters.length < t.length then wrong "stray character in field spec"
          else
            let key := { key with last := some (m, place.getD 0) }
            .ok (letters.foldl (fun k c => k.withLetter false c) key)
      | _ => wrong "stray character in field spec"

def sortTable : OptionTable :=
  { flags := "nrufbdgsczVhmMRiC".toList, valued := "ktoSTW*".toList
    long := [("reverse", 'r'), ("numeric-sort", 'n'), ("unique", 'u'), ("key", 'k'),
      ("field-separator", 't'), ("ignore-case", 'f'), ("stable", 's'), ("output", 'o'),
      ("general-numeric-sort", 'g'), ("human-numeric-sort", 'h'), ("month-sort", 'M'),
      ("version-sort", 'V'), ("random-sort", 'R'), ("ignore-leading-blanks", 'b'),
      ("dictionary-order", 'd'), ("ignore-nonprinting", 'i'), ("merge", 'm'),
      ("zero-terminated", 'z'), ("check", 'c'), ("sort", '*'), ("buffer-size", 'S'),
      ("temporary-directory", 'T'), ("parallel", 'W')] }

/-- Joins two lists in order; of equal lines those of the first list come first. -/
def mergeLines (before : List Char → List Char → Bool) :
    Nat → List (List Char) → List (List Char) → List (List Char)
  | 0, as, bs => as ++ bs
  | _, [], bs => bs
  | _, as, [] => as
  | fuel + 1, a :: as, b :: bs =>
    if before b a then b :: mergeLines before fuel (a :: as) bs
    else a :: mergeLines before fuel as (b :: bs)

/-- The first line that should not stand behind the line before it, with its number. -/
def disorderIn (bad : List Char → List Char → Bool) : Nat → List (List Char) →
    Option (Nat × List Char)
  | i, a :: b :: rest => if bad a b then some (i + 1, b) else disorderIn bad (i + 1) (b :: rest)
  | _, _ => none

/-- Brings the lines of all operands in order. -/
def sort (c : Call) : Effect :=
  match Options.readFrom sortTable true (c.args.length + 1) c.args with
  | .error e => c.misused 2 e
  | .ok o =>
    let named := (o.values '*').filterMap fun
      | "numeric" => some 'n'
      | "general-numeric" => some 'g'
      | "human-numeric" => some 'h'
      | "month" => some 'M'
      | "version" => some 'V'
      | "random" => some 'R'
      | _ => none
    let base := (o.given.map (·.1) ++ named).foldl (fun (k : SortKey) letter =>
      if letter == 'b' then { k with blanks := (true, true) } else k.withLetter true letter) {}
    match (o.values 'k').mapM SortKey.ofText, o.value? 't' with
    | .error e, _ => c.fails 2 e
    | .ok _, some "" => c.fails 2 "empty tab"
    | .ok keys, tab =>
      if tab.any fun t => 1 < t.length && t != "\\0" then
        c.fails 2 ("multi-character tab " ++ quotedName (tab.getD ""))
      else
        let separator := tab.bind fun s => if s = "\\0" then some '\x00' else s.toList.head?
        let keys := keys.map fun k =>
          if k.isPlain && !k.reverse then { base with first := k.first, last := k.last } else k
        let keys := if keys.isEmpty then [base] else keys
        let order (a b : List Char) : Ordering :=
          keys.foldl (fun r k => r.then (k.compare separator a b)) .eq
        let whole (a b : List Char) : Ordering :=
          if o.has 's' || o.has 'u' then .eq
          else if base.reverse then (compareText a b).swap
          else compareText a b
        let ending : Char := if o.has 'z' then '\x00' else '\n'
        let linesOf (text : List Char) : List (List Char) :=
          if o.has 'z' then
            let parts := Text.splitWhere (· == ending) text
            if parts.getLast? == some [] then parts.dropLast else parts
          else (lines text).map chomp
        let sources := (inputsOr o.operands).map fun n => (n, c.source n)
        let unread := sources.findSome? fun (n, r) => match r with
          | .error .isDirectory => some ("read failed: " ++ plainName n ++ ": Is a directory")
          | .error e => some ("cannot read: " ++ plainName n ++ ": " ++ e.reason)
          | .ok _ => none
        let stuck := sources.any fun (_, r) => match r with
          | .ok p => p.endless
          | .error _ => false
        match unread with
        | some e => c.fails 2 e
        | none =>
          if stuck then .stuck
          else
            let all := sources.map fun (_, r) => match r with
              | .ok p => linesOf p.text
              | .error _ => []
            let full (a b : List Char) : Ordering := (order a b).then (whole a b)
            if o.has 'c' || o.has 'C' then
              let bad (a b : List Char) : Bool :=
                full a b == .gt || (o.has 'u' && order a b == .eq)
              match disorderIn bad 1 (all.headD []) with
              | none => { waited := c.waits o.operands }
              | some (i, line) =>
                let name := (inputsOr o.operands).headD "-"
                if o.has 'C' then { status := .failure }
                else c.fails 1 (plainName name ++ ":" ++ Text.naturalText i ++ ": disorder: " ++
                  String.ofList line)
            else
              let sorted := if o.has 'm' then
                  all.foldl (fun out ls =>
                    mergeLines (fun a b => full a b == .lt) (out.length + ls.length + 1) out ls) []
                else all.flatten.mergeSort fun a b => full a b != .gt
              let kept := if o.has 'u' then
                  (sorted.foldl (fun (out : List (List Char)) l =>
                    match out with
                    | last :: _ => if order last l == .eq then out else l :: out
                    | [] => [l]) []).reverse
                else sorted
              let result := kept.flatMap fun l => l ++ [ending]
              let done : Effect := match o.value? 'o' with
                | none => .writing result
                | some path =>
                  match c.files.write path (Text.octetBytes result) with
                  | .ok fs => { files := some fs }
                  | .error e => c.fails 2 ("open failed: " ++ plainName path ++ ": " ++ e.reason)
              { done with waited := c.waits o.operands }

/-- Lines that are equal and stand together. -/
def groups (same : List Char → List Char → Bool) (ls : List (List Char)) :
    List (List (List Char)) :=
  let out := ls.foldl (fun (out : List (List (List Char))) l =>
    match out with
    | (first :: more) :: rest =>
      if same ((first :: more).getLastD l) l then (l :: first :: more) :: rest else [l] :: out
    | _ => [l] :: out) []
  out.reverse.map List.reverse

/-- One line of each group of equal ones. -/
def uniq (c : Call) : Effect :=
  let table : OptionTable :=
    { flags := "cduiDz".toList, valued := "fsw".toList, optional := "GA".toList
      long := [("count", 'c'), ("repeated", 'd'), ("unique", 'u'), ("ignore-case", 'i'),
        ("all-repeated", 'A'), ("group", 'G'), ("skip-fields", 'f'), ("skip-chars", 's'),
        ("check-chars", 'w'), ("zero-terminated", 'z')] }
  c.withOptions table fun o =>
    let number (letter : Char) : Option Nat := (o.value? letter).bind fun s => natural? s.toList
    let part (l : List Char) : List Char :=
      let l := (skipFields none ((number 'f').getD 0) l).drop ((number 's').getD 0)
      let l := match number 'w' with
        | some n => l.take n
        | none => l
      if o.has 'i' then l.map Char.toLower else l
    let ending : Char := if o.has 'z' then '\x00' else '\n'
    let result (text : List Char) : List Char :=
      let ls := if o.has 'z' then
          let parts := Text.splitWhere (· == ending) text
          if parts.getLast? == some [] then parts.dropLast else parts
        else (lines text).map chomp
      let gs := groups (fun a b => part a == part b) ls
      let block (g : List (List Char)) : List Char := g.flatMap (· ++ [ending])
      let all := o.has 'D' || o.has 'A'
      if o.has 'G' then
        let bodies := gs.map block
        [ending].intercalate bodies
      else if all then
        let bodies := (gs.filter fun g => 1 < g.length).map block
        bodies.flatten
      else
        let kept := gs.filter fun g =>
          (!o.has 'd' || 1 < g.length) && (!o.has 'u' || g.length == 1)
        kept.flatMap fun g =>
          (if o.has 'c' then padLeft 7 (Nat.toDigits 10 g.length) ++ [' '] else []) ++
            g.headD [] ++ [ending]
    let source := o.operands.headD "-"
    match c.source source with
    | .error e => c.fails 1 (plainName source ++ ": " ++ e.reason)
    | .ok p =>
      match p.all? with
      | none => .stuck
      | some text =>
        let done : Effect := match o.operands.drop 1 with
          | path :: _ =>
            if path = "-" then .writing (result text)
            else
              match c.files.write path (Text.octetBytes (result text)) with
              | .ok fs => { files := some fs }
              | .error e => c.fails 1 (plainName path ++ ": " ++ e.reason)
          | [] => .writing (result text)
        { done with waited := c.waits (o.operands.take 1) }

/-- A range of positions counted from one; it may have no end. -/
structure PositionRange where
  first : Nat
  last : Option Nat

def PositionRange.contains (r : PositionRange) (n : Nat) : Bool :=
  r.first ≤ n && (match r.last with
    | some m => n ≤ m
    | none => true)

def PositionRange.read (fields : Bool) (s : List Char) : Except String PositionRange :=
  let value (t : List Char) : Except String Nat :=
    match natural? t with
    | some 0 => .error (if fields then "fields are numbered from 1"
        else "byte/character positions are numbered from 1")
    | some n => .ok n
    | none => .error ("invalid " ++ (if fields then "field value " else
        "byte/character position ") ++ quotedName (String.ofList t))
  match splitWhere (· == '-') s with
  | [[], []] => .error "invalid range with no endpoint: -"
  | [[]] => .error (if fields then "fields are numbered from 1"
      else "byte/character positions are numbered from 1")
  | [a] => (value a).map fun n => ⟨n, some n⟩
  | [[], b] => (value b).map fun n => ⟨1, some n⟩
  | [a, []] => (value a).map fun n => ⟨n, none⟩
  | [a, b] => do
    let n ← value a
    let m ← value b
    if m < n then .error "invalid decreasing range" else .ok ⟨n, some m⟩
  | _ => .error ("invalid " ++ (if fields then "field range" else "byte or character range"))

/-- The ranges of a text with commas between them. -/
def readPositions (fields : Bool) (s : String) : Except String (List PositionRange) :=
  (splitWhere (fun c => c == ',' || c == ' ' || c == '\t') s.toList).mapM (PositionRange.read fields)

def positions? (s : String) : Option (List PositionRange) :=
  (readPositions true s).toOption

def chooseItems {α : Type} (chosen : Nat → Bool) (xs : List α) : List α :=
  (xs.zip (List.range xs.length)).filterMap fun (x, i) => if chosen (i + 1) then some x else none

/-- The characters at chosen positions, with a text between those that belong to different
ranges. -/
def chooseChars (ranges : List PositionRange) (chosen : Nat → Bool) (between : List Char)
    (line : List Char) : List Char :=
  if between.isEmpty then chooseItems chosen line
  else
    let (out, _) := (line.zip (List.range line.length)).foldl (fun (out, any) (c, i) =>
      let n := i + 1
      if chosen n then
        let fresh := any && (!chosen (n - 1) || (ranges.any (·.first == n) &&
          !ranges.any fun r => r.first < n && r.contains n))
        ((if fresh then c :: (between.reverse ++ out) else c :: out), true)
      else (out, any)) (([] : List Char), false)
    out.reverse

/-- Chosen parts of each line. -/
def cut (c : Call) : Effect :=
  let table : OptionTable :=
    { flags := "snCz".toList, valued := "fdcbO".toList
      long := [("fields", 'f'), ("delimiter", 'd'), ("characters", 'c'), ("bytes", 'b'),
        ("only-delimited", 's'), ("output-delimiter", 'O'), ("complement", 'C'),
        ("zero-terminated", 'z')] }
  c.withOptions table fun o =>
    let given := o.given.filter fun g => "fcb".toList.contains g.1
    match given with
    | [] => c.misused 1 "you must specify a list of bytes, characters, or fields"
    | _ :: _ :: _ => c.misused 1 "only one list may be specified"
    | [(letter, spec)] =>
      let fields := letter == 'f'
      if (o.value? 'd').any fun d => 1 < d.length then
        c.misused 1 "the delimiter must be a single character"
      else if o.has 'd' && !fields then
        c.misused 1 "an input delimiter may be specified only when operating on fields"
      else if o.has 's' && !fields then
        c.misused 1
          "suppressing non-delimited lines makes sense\n\tonly when operating on fields"
      else
        match readPositions fields spec with
        | .error e => c.misused 1 e
        | .ok ranges =>
          let chosen (n : Nat) : Bool :=
            let inside := ranges.any (·.contains n)
            if o.has 'C' then !inside else inside
          let delimiter := match o.value? 'd' with
            | some d => d.toList.headD '\x00'
            | none => '\t'
          let between := ((o.value? 'O').map String.toList).getD
            (if fields then [delimiter] else [])
          let ending : Char := if o.has 'z' then '\x00' else '\n'
          c.each o.operands 1 plainName fun _ p =>
            .ofAll p fun text =>
              let ls := if o.has 'z' then Text.wordsWhere (· == ending) text
                else (lines text).map chomp
              ls.flatMap fun line =>
                if fields then
                  if !line.contains delimiter then (if o.has 's' then [] else line ++ [ending])
                  else
                    let parts := chooseItems chosen (splitWhere (· == delimiter) line)
                    (between.intercalate parts) ++ [ending]
                else chooseChars ranges chosen between line ++ [ending]

/-- The texts between columns; a backslash with a zero stands for none. -/
def readDelimiters : List Char → List (List Char)
  | '\\' :: 'n' :: s => ['\n'] :: readDelimiters s
  | '\\' :: 't' :: s => ['\t'] :: readDelimiters s
  | '\\' :: '0' :: s => [] :: readDelimiters s
  | '\\' :: '\\' :: s => ['\\'] :: readDelimiters s
  | c :: s => [c] :: readDelimiters s
  | [] => []

/-- Deals the lines of one source to several readers in turn. -/
def dealt (ls : List (List Char)) (readers i : Nat) : List (List Char) :=
  (ls.zip (List.range ls.length)).filterMap fun (l, k) => if k % readers = i then some l else none

/-- The lines of all operands side by side, or those of each one behind one another. -/
def paste (c : Call) : Effect :=
  let table : OptionTable :=
    { flags := "sz".toList, valued := ['d']
      long := [("serial", 's'), ("delimiters", 'd'), ("zero-terminated", 'z')] }
  c.withOptions table fun o =>
    let delimiters := readDelimiters ((o.value? 'd').getD "\t").toList
    let ending : Char := if o.has 'z' then '\x00' else '\n'
    let between (i : Nat) : List Char :=
      if delimiters.isEmpty then [] else delimiters.getD (i % delimiters.length) []
    let join (parts : List (List Char)) : List Char :=
      ((parts.zip (List.range parts.length)).flatMap fun (part, i) =>
        (if i = 0 then [] else between (i - 1)) ++ part) ++ [ending]
    let operands := inputsOr o.operands
    let sources := operands.map fun n => (n, c.source n)
    let stuck := sources.any fun (_, r) => match r with
      | .ok p => p.endless
      | .error _ => false
    let broken := sources.filterMap fun (n, r) => match r with
      | .error e => some (plainName n ++ ": " ++ e.reason)
      | .ok _ => none
    if stuck then .stuck
    else
      let readers := (operands.filter (· == "-")).length
      let columns := ((sources.zip (List.range sources.length)).map fun ((n, r), i) =>
        match r with
        | .ok p =>
          let ls := (lines p.text).map chomp
          if n == "-" && !o.has 's' then
            dealt ls readers ((operands.take i).filter (· == "-")).length
          else ls
        | .error _ => [])
      let e : Effect := match broken with
        | first :: _ =>
          if o.has 's' then
            { Effect.writing (((sources.zip columns).filter fun ((_, r), _) => match r with
                | .ok _ => true
                | .error _ => false).flatMap fun (_, ls) => join ls) with
              errors := broken.flatMap fun b => ("paste: " ++ b ++ "\n").toList
              status := .failure }
          else c.fails 1 first
        | [] =>
          if o.has 's' then .writing (columns.flatMap join)
          else
            let longest := columns.foldl (fun n ls => max n ls.length) 0
            .writing ((List.range longest).flatMap fun i =>
              join (columns.map fun ls => ls.getD i []))
      { e with waited := c.waits o.operands }

end Flowboard.Utility
