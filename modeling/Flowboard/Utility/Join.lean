import Flowboard.Utility.Fields
import Flowboard.Utility.Place

/-! Programs on the lines of two texts: where they differ and which fields they have in common; and
items that stand before each other. -/
namespace Flowboard.Utility

open Text (lines chomp)

def Call.pair (c : Call) (status : Int) (operands : List String)
    (work : String → String → List Char → List Char → Effect) : Effect :=
  match operands with
  | [] => c.misused status "missing operand"
  | [a] => c.misused status ("missing operand after '" ++ a ++ "'")
  | [a, b] =>
    match c.source a, c.source b with
    | .error e, _ => c.fails status (a ++ ": " ++ e.reason)
    | _, .error e => c.fails status (b ++ ": " ++ e.reason)
    | .ok p, .ok q =>
      match p.all?, q.all? with
      | some x, some y => { work a b x y with waited := operands.contains "-" }
      | _, _ => .stuck
  | _ :: _ :: extra :: _ => c.misused status ("extra operand '" ++ extra ++ "'")

/-- Where two texts differ first. -/
inductive Parting where
  | nowhere
  | atByte (byte line : Nat) (a b : Char)
  | atEnd (first : Bool) (byte line : Nat) (fullLine : Bool)
  deriving DecidableEq, Repr

/-- Walks over two texts. A number of bytes and lines lies behind; the last one was the end of a
line if `fresh`. -/
def parting (byte line : Nat) (fresh : Bool) : List Char → List Char → Parting
  | [], [] => .nowhere
  | [], _ :: _ => .atEnd true byte line fresh
  | _ :: _, [] => .atEnd false byte line fresh
  | x :: xs, y :: ys =>
    if x = y then
      if x = '\n' then parting (byte + 1) (line + 1) true xs ys
      else parting (byte + 1) line false xs ys
    else .atByte (byte + 1) (line + 1) x y

/-- Tells where two files differ first. -/
def cmp (c : Call) : Effect :=
  let table : OptionTable :=
    { flags := ['s', 'l', 'b'], long := [("silent", 's'), ("quiet", 's'), ("verbose", 'l')] }
  c.withOptions table fun o =>
    let operands := if o.operands.length = 1 then o.operands ++ ["-"] else o.operands
    c.pair 2 operands fun a b x y =>
      let number (n : Nat) : String := Text.naturalText n
      match parting 0 0 false x y with
      | .nowhere => {}
      | .atByte byte line _ _ =>
        let told := a ++ " " ++ b ++ " differ: char " ++ number byte ++ ", line " ++ number line ++
          "\n"
        { output := .of (if o.has 's' then [] else told.toList), status := .failure }
      | .atEnd first byte line fullLine =>
        let place := if byte = 0 then " which is empty"
          else if fullLine then " after byte " ++ number byte ++ ", line " ++ number line
          else " after byte " ++ number byte ++ ", in line " ++ number (line + 1)
        let told := "cmp: EOF on " ++ (if first then a else b) ++ place ++ "\n"
        { errors := if o.has 's' then [] else told.toList, status := .failure }

/-- Which of two lists of lines a line is in. -/
inductive Share where
  | first
  | second
  | both
  deriving DecidableEq, Repr

/-- The lines of two lists in order, each with where it is. -/
def shared : List (List Char) → List (List Char) → List (Share × List Char)
  | [], ys => ys.map (Share.second, ·)
  | xs, [] => xs.map (Share.first, ·)
  | x :: xs, y :: ys =>
    match compareText x y with
    | .eq => (.both, x) :: shared xs ys
    | .lt => (.first, x) :: shared xs (y :: ys)
    | .gt => (.second, y) :: shared (x :: xs) ys
termination_by xs ys => xs.length + ys.length

def inOrder : List (List Char) → Bool
  | a :: b :: rest => compareText a b != .gt && inOrder (b :: rest)
  | _ => true

/-- Writes the lines of two files in columns: those of the first one, of the second, and of both. -/
def comm (c : Call) : Effect :=
  let table : OptionTable :=
    { flags := "123zTcn".toList, valued := ['D']
      long := [("output-delimiter", 'D'), ("total", 'T'), ("check-order", 'c'),
        ("nocheck-order", 'n'), ("zero-terminated", 'z')] }
  c.withOptions table fun o =>
    c.pair 1 o.operands fun _ _ x y =>
      let xs := (lines x).map chomp
      let ys := (lines y).map chomp
      let gap := ((o.value? 'D').getD "\t").toList
      let tab (hidden : Char) : List Char := if o.has hidden then [] else gap
      let all := shared xs ys
      let shown := all.flatMap fun (share, line) =>
        match share with
        | .first => if o.has '1' then [] else line ++ ['\n']
        | .second => if o.has '2' then [] else tab '1' ++ line ++ ['\n']
        | .both => if o.has '3' then [] else tab '1' ++ tab '2' ++ line ++ ['\n']
      let count (share : Share) : List Char :=
        Nat.toDigits 10 (all.filter (·.1 == share)).length
      let total := if o.has 'T' then
          gap.intercalate [count .first, count .second, count .both, "total".toList] ++ ['\n']
        else []
      let complaint (n : String) (ls : List (List Char)) : List Char :=
        if inOrder ls then [] else ("comm: file " ++ n ++ " is not in sorted order\n").toList
      let unpaired := all.any (·.1 != .both)
      let errors := if o.has 'n' || !unpaired then [] else complaint "1" xs ++ complaint "2" ys
      let errors := if errors.isEmpty then []
        else errors ++ "comm: input is not in sorted order\n".toList
      { output := .of (shown ++ total), errors
        status := if errors.isEmpty then .success else .failure }

/-- The lengths of the longest common parts of a line with the rest of its list, and another list:
one row of a table from the row below it. -/
def commonRow (x : List Char) (ys : List (List Char)) (below : List Nat) : List Nat :=
  -- both lists are longer by one than `ys`
  match ys, below with
  | y :: ys, b :: below =>
    let right := commonRow x ys below
    let here := if x = y then below.headD 0 + 1 else max b (right.headD 0)
    here :: right
  | _, _ => [0]

/-- All rows of the table, the first one first. -/
def commonRows (xs ys : List (List Char)) : List (List Nat) :=
  xs.foldr (fun x rows => commonRow x ys (rows.headD []) :: rows)
    [List.replicate (ys.length + 1) 0]

/-- A part of two lists: a line of both, or one that is only in the first or the second. -/
abbrev Step := Share

/-- The way through the table: lines of the first list before those of the second. -/
def steps : Nat → List (List Char) → List (List Char) → List (List Nat) → List Step
  | 0, _, _, _ => []
  | _, [], ys, _ => ys.map fun _ => .second
  | _, xs, [], _ => xs.map fun _ => .first
  | fuel + 1, x :: xs, y :: ys, rows =>
    let right := rows.map (·.drop 1)
    if x = y then .both :: steps fuel xs ys (right.drop 1)
    else if (right.headD []).headD 0 ≤ ((rows.drop 1).headD []).headD 0 then
      .first :: steps fuel xs (y :: ys) (rows.drop 1)
    else .second :: steps fuel (x :: xs) ys right

/-- Lines that change: how many of both lists lie before, and the lines of each. -/
structure Change where
  beforeFirst : Nat
  beforeSecond : Nat
  old : List (List Char)
  new : List (List Char)

/-- The changes along a way. -/
def changes : List Step → Nat → Nat → List (List Char) → List (List Char) → Option Change →
    List Change
  | [], _, _, _, _, current => current.toList
  | .both :: rest, i, j, xs, ys, current =>
    current.toList ++ changes rest (i + 1) (j + 1) (xs.drop 1) (ys.drop 1) none
  | .first :: rest, i, j, xs, ys, current =>
    let c := current.getD ⟨i, j, [], []⟩
    changes rest (i + 1) j (xs.drop 1) ys (some { c with old := c.old ++ xs.take 1 })
  | .second :: rest, i, j, xs, ys, current =>
    let c := current.getD ⟨i, j, [], []⟩
    changes rest i (j + 1) xs (ys.drop 1) (some { c with new := c.new ++ ys.take 1 })

/-- The numbers of lines after those before them. -/
def rangeText (before count : Nat) : String :=
  if count = 0 then Text.naturalText before
  else if count = 1 then Text.naturalText (before + 1)
  else Text.naturalText (before + 1) ++ "," ++ Text.naturalText (before + count)

/-- A line after a mark; it is told if it does not end. -/
def marked (mark : String) (line : List Char) : List Char :=
  mark.toList ++ (if line.getLast? = some '\n' then line
    else line ++ "\n\\ No newline at end of file\n".toList)

def Change.text (c : Change) : List Char :=
  let letter := if c.old.isEmpty then "a" else if c.new.isEmpty then "d" else "c"
  let heading := rangeText c.beforeFirst c.old.length ++ letter ++
    rangeText c.beforeSecond c.new.length ++ "\n"
  let between := if c.old.isEmpty || c.new.isEmpty then [] else "---\n".toList
  heading.toList ++ c.old.flatMap (marked "< ") ++ between ++ c.new.flatMap (marked "> ")

/-- Writes what has to change in the first file for it to become the second one. -/
def diff (c : Call) : Effect :=
  let table : OptionTable :=
    { flags := ['q', 's', 'a'], long := [("brief", 'q'), ("report-identical-files", 's')] }
  c.withOptions table fun o =>
    c.pair 2 o.operands fun a b x y =>
      if x = y then
        .writing (if o.has 's' then ("Files " ++ a ++ " and " ++ b ++ " are identical\n").toList
          else [])
      else if o.has 'q' then
        { output := .of ("Files " ++ a ++ " and " ++ b ++ " differ\n").toList, status := .failure }
      else
        let xs := lines x
        let ys := lines y
        let way := steps (xs.length + ys.length + 1) xs ys (commonRows xs ys)
        { output := .of ((changes way 0 0 xs ys none).flatMap Change.text), status := .failure }

namespace Join

/-- A field of a line that is written. -/
inductive Cell where
  /-- the common field -/
  | key
  /-- a field of the first or the second file -/
  | field (second : Bool) (n : Nat)
  deriving DecidableEq, Repr

/-- How lines are joined. -/
structure Style where
  separator : Option Char := none
  first : Nat := 1
  second : Nat := 1
  /-- lines of a file that have no partner are shown -/
  lone : Bool × Bool := (false, false)
  /-- lines with a partner are shown -/
  pairs : Bool := true
  empty : List Char := []
  cells : Option (List Cell) := none
  fold : Bool := false

abbrev Row := List (List Char)

def Style.fields (s : Style) (line : List Char) : Row :=
  match s.separator with
  | some c => Text.splitWhere (· == c) line
  | none => Text.wordsWhere (fun c => c == ' ' || c == '\t') line

def key (n : Nat) (row : Row) : List Char :=
  row.getD (n - 1) []

def Style.compare (s : Style) (a b : List Char) : Ordering :=
  if s.fold then compareText (a.map Char.toLower) (b.map Char.toLower) else compareText a b

def others (n : Nat) (row : Row) : Row :=
  row.take (n - 1) ++ row.drop n

/-- The line for two rows, of which one may be missing. -/
def Style.line (s : Style) (a b : Option Row) : List Char :=
  let orEmpty (x : List Char) : List Char := if x.isEmpty then s.empty else x
  let common := match a, b with
    | some a, _ => key s.first a
    | none, some b => key s.second b
    | none, none => []
  let cells := match s.cells with
    | none =>
      orEmpty common :: ((a.map (others s.first)).getD [] ++ (b.map (others s.second)).getD []).map
        orEmpty
    | some cells => cells.map fun
      | .key => orEmpty common
      | .field false n => ((a.bind fun r => r[n - 1]?).map orEmpty).getD s.empty
      | .field true n => ((b.bind fun r => r[n - 1]?).map orEmpty).getD s.empty
  let mark := [s.separator.getD ' ']
  (mark.intercalate cells) ++ ['\n']

/-- Goes through the rows of both files. Each step uses up one of the fuel. -/
def Style.run (s : Style) : Nat → List Row → List Row → List (List Char)
  | 0, _, _ => []
  | fuel + 1, as, bs =>
    match as, bs with
    | [], bs => if s.lone.2 then bs.map fun b => s.line none (some b) else []
    | as, [] => if s.lone.1 then as.map fun a => s.line (some a) none else []
    | a :: as, b :: bs =>
      match s.compare (key s.first a) (key s.second b) with
      | .lt => (if s.lone.1 then [s.line (some a) none] else []) ++ s.run fuel as (b :: bs)
      | .gt => (if s.lone.2 then [s.line none (some b)] else []) ++ s.run fuel (a :: as) bs
      | .eq =>
        let same (n : Nat) (k : List Char) (r : Row) : Bool := s.compare (key n r) k == .eq
        let k := key s.first a
        let left := a :: as.takeWhile (same s.first k)
        let right := b :: bs.takeWhile (same s.second k)
        let written := if s.pairs then
            left.flatMap fun a => right.map fun b => s.line (some a) (some b)
          else []
        written ++ s.run fuel (as.drop (left.length - 1)) (bs.drop (right.length - 1))

def Style.unpaired (s : Style) (as bs : List Row) : Bool :=
  as.any fun a => bs.all fun b => s.compare (key s.first a) (key s.second b) != .eq

/-- The number of the first line that should stand before the line before it. -/
def Style.disorder? (s : Style) (n : Nat) : Nat → List Row → Option Nat
  | i, a :: b :: rest =>
    if s.compare (key n a) (key n b) == .gt then some (i + 1)
    else s.disorder? n (i + 1) (b :: rest)
  | _, _ => none

def readCells (text : String) : Option (List Cell) :=
  (Text.wordsWhere (fun c => c == ',' || c == ' ') text.toList).mapM fun
    | ['0'] => some .key
    | '1' :: '.' :: ds => (Text.natural? ds).map (.field false)
    | '2' :: '.' :: ds => (Text.natural? ds).map (.field true)
    | _ => none

/-- As many cells as the first lines of both files have. -/
def autoCells (s : Style) (as bs : List Row) : List Cell :=
  let cells (second : Bool) (n : Nat) (row : Row) : List Cell :=
    ((List.range row.length).filter fun i => i + 1 != n).map fun i => .field second (i + 1)
  .key :: ((as.head?.map (cells false s.first)).getD [] ++
    (bs.head?.map (cells true s.second)).getD [])

end Join

/-- Joins the lines of two files with the same field. -/
def join (c : Call) : Effect :=
  let table : OptionTable :=
    { flags := "icHnz".toList, valued := "t12javeo".toList
      long := [("ignore-case", 'i'), ("check-order", 'c'), ("nocheck-order", 'n'),
        ("header", 'H'), ("zero-terminated", 'z')] }
  c.withOptions table fun o =>
    match o.operands with
    | [] => c.misused 1 "missing operand"
    | [only] => c.misused 1 ("missing operand after " ++ quotedName only)
    | left :: right :: [] =>
      let number (letter : Char) : Option Nat :=
        ((o.value? letter).or (o.value? 'j')).bind fun s => Text.natural? s.toList
      let side (letter : Char) (n : String) : Bool := (o.values letter).contains n
      let style : Join.Style :=
        { separator := (o.value? 't').bind fun s =>
            if s = "\\0" then some '\x00' else if s.isEmpty then some '\n' else s.toList.head?
          first := (number '1').getD 1
          second := (number '2').getD 1
          lone := (side 'a' "1" || side 'v' "1", side 'a' "2" || side 'v' "2")
          pairs := !o.has 'v'
          empty := ((o.value? 'e').getD "").toList
          fold := o.has 'i' }
      match c.source left, c.source right with
      | .error e, _ => c.fails 1 (left ++ ": " ++ e.reason)
      | _, .error e => c.fails 1 (right ++ ": " ++ e.reason)
      | .ok a, .ok b =>
        match a.all?, b.all? with
        | some a, some b =>
          let ls (text : List Char) : List (List Char) := (Text.lines text).map Text.chomp
          let as := (ls a).map style.fields
          let bs := (ls b).map style.fields
          let cells? := match o.value? 'o' with
            | none => some none
            | some "auto" => some (some (Join.autoCells style as bs))
            | some text => (Join.readCells text).map some
          match cells? with
          | none => c.fails 1 ("invalid file number in field spec: " ++
              quotedName ((o.value? 'o').getD ""))
          | some cells =>
            let style := { style with cells }
            let (heading, as, bs) := if o.has 'H' then
                ([style.line as.head? bs.head?], as.drop 1, bs.drop 1)
              else ([], as, bs)
            let text := (heading ++ style.run (as.length + bs.length + 1) as bs).flatten
            let loose := style.unpaired as bs ||
              { style with first := style.second, second := style.first }.unpaired bs as
            let fault (name : String) (source : List Char) (n : Nat) (rows : List Join.Row) :
                Option String :=
              (style.disorder? n 1 rows).map fun i =>
                name ++ ":" ++ Text.naturalText i ++ ": is not sorted: " ++
                  String.ofList ((ls source).getD (i - 1) [])
            let faults := if o.has 'n' || !(loose || o.has 'c') then [] else
              ((fault left a style.first as).toList ++ (fault right b style.second bs).toList)
            if faults.isEmpty then .writing text
            else
              { output := .of text
                errors := (faults ++ ["input is not in sorted order"]).flatMap fun f =>
                  ("join: " ++ f ++ "\n").toList
                status := .failure }
        | _, _ => .stuck
    | _ :: _ :: extra :: _ => c.misused 1 ("extra operand " ++ quotedName extra)

namespace Precedence

/-- An item with the number of items that must stand before it, and those that must stand after it,
the last one told first. -/
structure Item where
  name : List Char
  count : Nat := 0
  after : List Nat := []
  written : Bool := false
  deriving Inhabited

/-- The items of pairs in the order of their names. -/
def ofPairs (pairs : List (List Char × List Char)) : Array Item :=
  let names := (pairs.flatMap fun (a, b) => [a, b]).mergeSort fun a b => compareText a b != .gt
  let names := names.foldl (fun (out : List (List Char)) n =>
    if out.head? == some n then out else n :: out) []
  let items : Array Item := (names.reverse.map fun name => { name }).toArray
  let place (n : List Char) : Nat := (items.findIdx? fun i => i.name == n).getD 0
  pairs.foldl (fun items (a, b) =>
    if a == b then items
    else
      let i := place a
      let j := place b
      (items.modify i fun x => { x with after := j :: x.after }).modify j fun x =>
        { x with count := x.count + 1 }) items

/-- Writes the items of a queue and those that become free by that. -/
def drain : Nat → List Nat → Array Item → List (List Char) → Array Item × List (List Char)
  | 0, _, items, out => (items, out)
  | _, [], items, out => (items, out)
  | fuel + 1, i :: queue, items, out =>
    let item := items.getD i default
    let items := items.modify i fun x => { x with written := true }
    let (items, free) := item.after.foldl (fun (items, free) j =>
      let items := Array.modify items j fun x => { x with count := x.count - 1 }
      (items, if (items.getD j default).count = 0 then j :: free else free)) (items, [])
    drain fuel (queue ++ free.reverse) items (item.name :: out)

/-- A chain of items of which each one must stand before the next one, up to one that closes a
loop. -/
structure Chain where
  items : Array Item
  head : Option Nat := none
  /-- the items after each other -/
  links : List (Nat × Nat) := []
  /-- the loop, once it is closed -/
  loop : Option (List Nat) := none

/-- The items from one to another one. Each item uses up one of the fuel. -/
def Chain.path (c : Chain) (last : Nat) : Nat → Nat → List Nat
  | 0, _ => []
  | fuel + 1, i =>
    if i = last then [i]
    else
      match c.links.lookup i with
      | some next => i :: c.path last fuel next
      | none => [i]

/-- Looks whether an item stands before the head of the chain. -/
def Chain.visit (c : Chain) (k : Nat) : Chain :=
  let item := c.items.getD k default
  if c.loop.isSome || item.count = 0 then c
  else
    match c.head with
    | none => { c with head := some k }
    | some head =>
      if !item.after.contains head then c
      else if (c.links.lookup k).isSome then
        let items := c.items.modify k fun x => { x with after := x.after.erase head }
        { c with
          items := items.modify head fun x => { x with count := x.count - 1 }
          loop := some (c.path k (c.items.size + 1) head) }
      else { c with head := some k, links := (k, head) :: c.links }

/-- Goes through all items again and again until a loop is closed. -/
def Chain.close : Nat → Chain → Chain
  | 0, c => c
  | fuel + 1, c =>
    let c := (List.range c.items.size).foldl Chain.visit c
    if c.loop.isSome then c else c.close fuel

/-- Writes all items; of a loop, one pair is left out. -/
def order : Nat → Array Item → List (List Char) → List (List (List Char)) →
    List (List Char) × List (List (List Char))
  | 0, _, out, loops => (out.reverse, loops.reverse)
  | fuel + 1, items, out, loops =>
    let free := (List.range items.size).filter fun i =>
      let x := items.getD i default
      x.count = 0 && !x.written
    let (items, out) := drain (items.size + 1) free items out
    if items.all (·.written) then (out.reverse, loops.reverse)
    else
      let c := Chain.close (2 * items.size + 2) { items }
      let names := (c.loop.getD []).map fun i => (items.getD i default).name
      order fuel c.items out (names :: loops)

end Precedence

/-- Puts the items of pairs into an order in which the first of each pair stands before the
second. -/
def tsort (c : Call) : Effect :=
  c.withOptions {} fun o =>
    match o.operands with
    | _ :: extra :: _ => c.misused 1 ("extra operand " ++ quotedName extra)
    | _ =>
      c.each o.operands 1 plainName fun name p =>
        match p.all? with
        | none => .stuck
        | some text =>
          let words := Text.wordsWhere (fun c => c == ' ' || c == '\t' || c == '\n') text
          if words.length % 2 = 1 then
            c.fails 1 (name ++ ": input contains an odd number of tokens")
          else
            let pairs := (List.range (words.length / 2)).map fun i =>
              (words.getD (2 * i) [], words.getD (2 * i + 1) [])
            let (out, loops) := Precedence.order (words.length + 1) (Precedence.ofPairs pairs) [] []
            let errors := loops.flatMap fun loop =>
              (c.name ++ ": " ++ name ++ ": input contains a loop:\n").toList ++
                loop.flatMap fun n => (c.name ++ ": ").toList ++ n ++ ['\n']
            { output := .of (out.flatMap (· ++ ['\n'])), errors
              status := if loops.isEmpty then .success else .failure }

end Flowboard.Utility
