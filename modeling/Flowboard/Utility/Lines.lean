import Flowboard.Utility.Basic
import Flowboard.Utility.Fields
import Flowboard.Utility.Regex

/-! Programs that pass lines on: all or some of them, backwards, or with numbers. -/
namespace Flowboard.Utility

open Text (lines chomp padLeft)

/-- Numbers lines; a number takes six places and a tab follows it. -/
def numbered (n : Nat) (line : List Char) : List Char :=
  padLeft 6 (Nat.toDigits 10 n) ++ '\t' :: line

/-- Numbers the lines for which `p` holds; the others stay behind `blank`. -/
def numberLines (p : List Char → Bool) (blank : List Char) (ls : List (List Char)) : List Char :=
  let (_, out) := ls.foldl (fun (n, out) line =>
    if p (chomp line) then (n + 1, numbered n line :: out) else (n, (blank ++ line) :: out))
    (1, ([] : List (List Char)))
  out.reverse.flatten

/-- Leaves out empty lines after empty lines. -/
def squeezeLines (ls : List (List Char)) : List (List Char) :=
  let (_, out) := ls.foldl (fun (last, out) line =>
    if line = ['\n'] ∧ last = some ['\n'] then (last, out) else (some line, line :: out))
    (none, ([] : List (List Char)))
  out.reverse

/-- A character that does not show, made to show. -/
def visible (tabs : Bool) (c : Char) : List Char :=
  let low (n : Nat) : List Char :=
    if n = 127 then ['^', '?'] else if n < 32 then ['^', Char.ofNat (n + 64)] else [Char.ofNat n]
  if c = '\n' then [c]
  else if c = '\t' then (if tabs then ['^', 'I'] else [c])
  else if c.toNat < 128 then low c.toNat
  else 'M' :: '-' :: low (c.toNat - 128)

/-- Passes its operands on. -/
def cat (c : Call) : Effect :=
  let table : OptionTable :=
    { flags := "nbsAETuvet".toList
      long := [("number", 'n'), ("number-nonblank", 'b'), ("squeeze-blank", 's'),
        ("show-all", 'A'), ("show-ends", 'E'), ("show-tabs", 'T'), ("show-nonprinting", 'v')] }
  c.withOptions table fun o =>
    let plain := o.given.all fun g => g.1 == 'u'
    let ends := o.has 'A' || o.has 'E' || o.has 'e'
    let tabs := o.has 'A' || o.has 'T' || o.has 't'
    let hidden := o.has 'A' || o.has 'v' || o.has 'e' || o.has 't'
    let shown (line : List Char) : List Char :=
      let body := (chomp line).flatMap fun ch =>
        if hidden then visible tabs ch
        else if tabs && ch == '\t' then ['^', 'I']
        else [ch]
      let ending := if line.getLast? = some '\n' then (if ends then ['$', '\n'] else ['\n']) else []
      body ++ ending
    if plain then c.each o.operands 1 plainName fun _ p => { output := { p with ready := 0 } }
    else c.together o.operands 1 plainName fun p =>
      .ofAll p fun text =>
        let ls := if o.has 's' then squeezeLines (lines text) else lines text
        let ls := ls.map shown
        if o.has 'b' then
          numberLines (fun l => !(l.isEmpty || l == ['$'])) [] ls
        else if o.has 'n' then numberLines (fun _ => true) [] ls
        else ls.flatten

/-- What letters behind a number multiply it with. -/
def multiple? (letters : List Char) : Option Nat :=
  let power (base : Nat) (c : Char) : Option Nat :=
    ("KMGTPEZY".toList.findIdx? (· == c)).map fun i => Nat.pow base (i + 1)
  match letters with
  | [] => some 1
  | ['b'] => some 512
  | ['k'] => some 1024
  | ['k', 'B'] => some 1000
  | ['m'] => some 1048576
  | [c] => power 1024 c
  | [c, 'B'] => power 1000 c
  | [c, 'i', 'B'] => power 1024 c
  | _ => none

/-- A number of lines or bytes, in which letters stand for a multiple. -/
def count? (s : List Char) : Option Nat :=
  let digits := s.takeWhile Char.isDigit
  match Text.natural? digits, multiple? (s.drop digits.length) with
  | some n, some k => some (n * k)
  | _, _ => none

/-- Which part of a text is meant: the first or last so many pieces, or all but those. -/
inductive Portion where
  | upTo (n : Nat)
  | allBut (n : Nat)
  deriving DecidableEq, Repr

def Portion.ofText? : List Char → Option Portion
  | '-' :: s => (count? s).map .allBut
  | '+' :: s => (count? s).map .upTo
  | s => (count? s).map .upTo

def lastOf {α : Type} (n : Nat) (xs : List α) : List α :=
  xs.drop (xs.length - n)

/-- The lines of a text, each one up to a certain ending. -/
def linesEnding (ending : Char) (text : List Char) : List (List Char) :=
  if ending = '\n' then lines text
  else
    let parts := Text.splitWhere (· == ending) text
    parts.dropLast.map (· ++ [ending]) ++ (if parts.getLastD [] == [] then [] else
      [parts.getLastD []])

def headOf (bytes : Bool) (ending : Char) (part : Portion) (p : Pipe) : Effect :=
  match bytes, part with
  | true, .upTo n => match p.take? n with
    | some text => .writing text
    | none => .stuck
  | false, .upTo n =>
    if ending = '\n' then
      match p.takeLines? n with
      | some ls => .writing ls.flatten
      | none => .stuck
    else .ofAll p fun text => ((linesEnding ending text).take n).flatten
  | true, .allBut n => .ofAll p fun text => text.take (text.length - n)
  | false, .allBut n => .ofAll p fun text =>
    let ls := linesEnding ending text
    (ls.take (ls.length - n)).flatten

/-- The last part of a text; with a plus sign it is counted from the start. -/
def tailOf (bytes fromStart : Bool) (ending : Char) (n : Nat) (p : Pipe) : Effect :=
  .ofAll p fun text =>
    if bytes then (if fromStart then text.drop (n - 1) else lastOf n text)
    else
      let ls := linesEnding ending text
      (if fromStart then ls.drop (n - 1) else lastOf n ls).flatten

/-- The arguments with a number after the first hyphen written as an option with a value. -/
def withCountOption (args : List String) : List String :=
  match args with
  | arg :: rest =>
    match arg.toList with
    | '-' :: d :: ds =>
      if d.isDigit && ds.all Char.isDigit then "-n" :: String.ofList (d :: ds) :: rest
      else args
    | _ => args
  | [] => []

/-- Works on each operand, with headings if there are several. -/
def Call.withHeadings (c : Call) (o : Options) (work : Pipe → Effect) : Effect :=
  let operands := inputsOr o.operands
  let quoted := quotedName
  let effects := operands.map fun operand =>
    match c.source operand with
    | .ok p => (some operand, work p)
    | .error .isDirectory =>
      (some operand, c.fails 1 ("error reading " ++ quoted operand ++ ": Is a directory"))
    | .error e =>
      (none, c.fails 1 ("cannot open " ++ quoted operand ++ " for reading: " ++ e.reason))
  let (_, all) := effects.foldl (fun (first, all) (_, e) =>
    (first, Effect.followed all e)) (true, ({} : Effect))
  { all with waited := c.waits o.operands }

def portionTable : OptionTable :=
  { flags := "qvz".toList, valued := "nc".toList
    long := [("lines", 'n'), ("bytes", 'c'), ("quiet", 'q'), ("silent", 'q'), ("verbose", 'v'),
      ("zero-terminated", 'z')] }

def head (c : Call) : Effect :=
  (c.withArgs (withCountOption c.args)).withOptions portionTable fun o =>
    let bytes := (o.given.reverse.find? fun g => g.1 == 'n' || g.1 == 'c').any (·.1 == 'c')
    let text := ((o.given.reverse.find? fun g => g.1 == 'n' || g.1 == 'c').map (·.2)).getD "10"
    match Portion.ofText? text.toList with
    | some part => c.withHeadings o (headOf bytes (if o.has 'z' then '\x00' else '\n') part)
    | none =>
      c.fails 1 ("invalid number of " ++ (if bytes then "bytes" else "lines") ++ ": '" ++ text ++
        "'")

def tail (c : Call) : Effect :=
  let table := { portionTable with flags := "qvzfF".toList }
  (c.withArgs (withCountOption c.args)).withOptions table fun o =>
    let bytes := (o.given.reverse.find? fun g => g.1 == 'n' || g.1 == 'c').any (·.1 == 'c')
    let text := ((o.given.reverse.find? fun g => g.1 == 'n' || g.1 == 'c').map (·.2)).getD "10"
    let (fromStart, digits) := match text.toList with
      | '+' :: s => (true, s)
      | '-' :: s => (false, s)
      | s => (false, s)
    match count? digits with
    | some n => c.withHeadings o
      (tailOf bytes fromStart (if o.has 'z' then '\x00' else '\n') n)
    | none =>
      c.fails 1 ("invalid number of " ++ (if bytes then "bytes" else "lines") ++ ": '" ++ text ++
        "'")

/-- The pieces of a text, each one up to a separator. -/
def piecesBy (separator : List Char) : Nat → List Char → List Char → List (List Char)
  | 0, current, s => [current.reverse ++ s]
  | _, current, [] => if current.isEmpty then [] else [current.reverse]
  | fuel + 1, current, c :: s =>
    if separator.isPrefixOf (c :: s) then
      (current.reverse ++ separator) :: piecesBy separator fuel [] ((c :: s).drop separator.length)
    else piecesBy separator fuel (c :: current) s

def piecesFrom (separator : List Char) : Nat → List Char → List Char → List (List Char)
  | 0, current, s => [current.reverse ++ s]
  | _, current, [] => [current.reverse]
  | fuel + 1, current, c :: s =>
    if separator.isPrefixOf (c :: s) then
      current.reverse ::
        piecesFrom separator fuel separator.reverse ((c :: s).drop separator.length)
    else piecesFrom separator fuel (c :: current) s

/-- The lines of each operand, the last one first. -/
def tac (c : Call) : Effect :=
  let table : OptionTable :=
    { flags := "br".toList, valued := ['s']
      long := [("before", 'b'), ("regex", 'r'), ("separator", 's')] }
  c.withOptions table fun o =>
    let separator := ((o.value? 's').getD "\n").toList
    let describe (n : String) : String := "failed to open " ++ quotedName n ++ " for reading"
    if separator.isEmpty then c.fails 1 "separator cannot be empty"
    else
      c.each o.operands 1 describe fun _ p =>
        .ofAll p fun text =>
          let pieces := if o.has 'b' then piecesFrom separator (text.length + 1) [] text
            else piecesBy separator (text.length + 1) [] text
          pieces.reverse.flatten

/-- The characters of each line, the last one first. -/
def rev (c : Call) : Effect :=
  c.withOptions {} fun o =>
    c.each o.operands 1 (fun n => "cannot open " ++ n) fun _ p =>
      .ofAll p fun text => (lines text).flatMap fun line =>
        (chomp line).reverse ++ (if line.getLast? = some '\n' then ['\n'] else [])

/-- Which lines of a part of a page have numbers. -/
inductive Numbered where
  | all
  | filled
  | none
  | fitting (r : Regex)

def Numbered.ofText? : List Char → Option Numbered
  | ['a'] => some .all
  | ['t'] => some .filled
  | ['n'] => some .none
  | 'p' :: r => some (.fitting (Regex.ofText false r))
  | _ => Option.none

def Numbered.holds (line : List Char) : Numbered → Bool
  | .all => true
  | .filled => !line.isEmpty
  | .none => false
  | .fitting r => (r.find? false line).isSome

/-- What is known while lines are numbered. -/
structure Numbering where
  style : Numbered
  next : Int
  /-- how many empty lines have stood together -/
  empty : Nat := 0
  out : List (List Char) := []

/-- Numbers lines. Three pairs of marks alone on a line start the head of a page, two its body and
one its foot. -/
def nl (c : Call) : Effect :=
  let table : OptionTable :=
    { flags := ['p'], valued := "bhfdilnsvw".toList
      long := [("body-numbering", 'b'), ("header-numbering", 'h'), ("footer-numbering", 'f'),
        ("section-delimiter", 'd'), ("line-increment", 'i'), ("join-blank-lines", 'l'),
        ("number-format", 'n'), ("no-renumber", 'p'), ("number-separator", 's'),
        ("starting-line-number", 'v'), ("number-width", 'w')] }
  c.withOptions table fun o =>
    let style (letter : Char) (default : String) : Option Numbered :=
      Numbered.ofText? ((o.value? letter).getD default).toList
    let number (letter : Char) (default : Int) : Int :=
      ((o.value? letter).bind fun s => Text.integer? s.toList).getD default
    match style 'b' "t", style 'h' "n", style 'f' "n" with
    | some body, some top, some foot =>
      let width := (number 'w' 6).toNat
      let separator := ((o.value? 's').getD "\t").toList
      let step := number 'i' 1
      let first := number 'v' 1
      let join := max (number 'l' 1).toNat 1
      let mark := match ((o.value? 'd').getD "\\:").toList with
        | [c] => [c, ':']
        | m => m
      let shown (n : Int) : List Char :=
        let digits := Text.integerDigits 10 n
        match (o.value? 'n').getD "rn" with
        | "ln" => Text.padRight width digits
        | "rz" =>
          let sign := if n < 0 then ['-'] else []
          let ds := if n < 0 then digits.drop 1 else digits
          sign ++ List.replicate (width - sign.length - ds.length) '0' ++ ds
        | _ => padLeft width digits
      let gap := List.replicate (width + separator.length) ' '
      let take (s : Numbering) (line : List Char) : Numbering :=
        let l := chomp line
        let fresh (style : Numbered) (resets : Bool) : Numbering :=
          { s with style, out := ['\n'] :: s.out
                   next := if resets && !o.has 'p' then first else s.next }
        if !mark.isEmpty && l == mark ++ mark ++ mark then fresh top true
        else if !mark.isEmpty && l == mark ++ mark then fresh body true
        else if !mark.isEmpty && l == mark then fresh foot true
        else
          let empty := if l.isEmpty then s.empty + 1 else 0
          let due := match s.style with
            | .all => !l.isEmpty || empty = join
            | style => style.holds l
          let empty := if empty = join then 0 else empty
          if due then
            { s with empty, next := s.next + step
                     out := (shown s.next ++ separator ++ l ++ ['\n']) :: s.out }
          else { s with empty, out := (gap ++ l ++ ['\n']) :: s.out }
      c.together o.operands 1 plainName fun p =>
        .ofAll p fun text =>
          ((lines text).foldl take { style := body, next := first }).out.reverse.flatten
    | none, _, _ => c.misused 1 ("invalid body numbering style: " ++ quotedName
        ((o.value? 'b').getD ""))
    | _, none, _ => c.misused 1 ("invalid header numbering style: " ++ quotedName
        ((o.value? 'h').getD ""))
    | _, _, none => c.misused 1 ("invalid footer numbering style: " ++ quotedName
        ((o.value? 'f').getD ""))

def nextColumn (bytes : Bool) (column : Nat) (c : Char) : Nat :=
  if bytes then column + 1
  else
    match c with
    | '\x08' => column - 1
    | '\r' => 0
    | '\t' => column + 8 - column % 8
    | _ => column + 1

/-- What is known while a line is broken: what has been written, and the current line, last
character first. -/
structure Folding where
  written : List Char := []
  line : List Char := []
  column : Nat := 0

/-- Takes a character into the current line. Each new line uses up one of the fuel. -/
def Folding.take (bytes spaces : Bool) (width : Nat) (c : Char) : Nat → Folding → Folding
  | 0, f => f
  | fuel + 1, f =>
    let column := nextColumn bytes f.column c
    if width < column && !f.line.isEmpty then
      let rest := f.line.takeWhile (!isBlankChar ·)
      if spaces && rest.length < f.line.length then
        let kept := f.line.drop rest.length
        let column := rest.reverse.foldl (nextColumn bytes) 0
        take bytes spaces width c fuel
          { written := '\n' :: (kept ++ f.written), line := rest, column }
      else
        take bytes spaces width c fuel { written := '\n' :: (f.line ++ f.written) }
    else { f with line := c :: f.line, column }

/-- A line without its ending, broken into lines of a limited width. -/
def foldLine (bytes spaces : Bool) (width : Nat) (line : List Char) : List Char :=
  let f := line.foldl (fun f c => Folding.take bytes spaces width c 3 f) ({} : Folding)
  (f.line ++ f.written).reverse

/-- The width of an argument that is a number after a hyphen, as an option. -/
def withWidthOption (arg : String) : String :=
  match arg.toList with
  | '-' :: d :: ds => if d.isDigit then "-w" ++ String.ofList (d :: ds) else arg
  | _ => arg

def fold (c : Call) : Effect :=
  (c.withArgs (c.args.map withWidthOption)).withOptions
    { flags := "bs".toList, valued := ['w']
      long := [("width", 'w'), ("bytes", 'b'), ("spaces", 's')] } fun o =>
    let text := (o.value? 'w').getD "80"
    match Text.natural? text.toList with
    | none => c.fails 1 ("invalid number of columns: " ++ quotedName text)
    | some 0 => c.fails 1 ("invalid number of columns: " ++ quotedName text)
    | some width =>
      c.each o.operands 1 plainName fun _ p =>
        .ofAll p fun text => (lines text).flatMap fun line =>
          foldLine (o.has 'b') (o.has 's') width (chomp line) ++
            (if line.getLast? = some '\n' then ['\n'] else [])

/-- Passes the input on and writes it to files. -/
def tee (c : Call) : Effect :=
  c.withOptions { flags := "ai".toList, long := [("append", 'a')] } fun o =>
    match c.input.all? with
    | none => { Effect.stuck with output := c.input }
    | some text =>
      let (fs, errors) := o.operands.foldl (fun (fs, errors) path =>
        let old := if o.has 'a' then ((FileSystem.read fs path).toOption.getD []) else []
        match FileSystem.write fs path (old ++ Text.octetBytes text) with
        | .ok fs => (fs, errors)
        | .error e => (fs, errors ++ (c.name ++ ": " ++ path ++ ": " ++ e.reason ++ "\n").toList))
        (c.files, ([] : List Char))
      { output := .of text, errors, files := some fs, waited := true
        status := if errors.isEmpty then .success else .failure }

/-- How many lines, words, characters and bytes a text has, and its longest line. -/
structure Counts where
  lines : Nat
  words : Nat
  chars : Nat
  bytes : Nat
  longest : Nat

def Counts.of (text : List Char) : Counts :=
  let n := text.length
  { lines := text.foldl (fun n c => if c = '\n' then n + 1 else n) 0
    words := (Text.wordsWhere (fun c => c = ' ' || ('\t' ≤ c && c ≤ '\r')) text).length
    chars := n
    bytes := n
    longest := (Text.lines text).foldl (fun m l => max m (shownWidth (chomp l))) 0 }
where
  shownWidth (line : List Char) : Nat :=
    line.foldl (fun n c =>
      if c = '\t' then n + 8 - n % 8 else if 32 ≤ c.toNat && c.toNat < 127 then n + 1 else n) 0

def Counts.add (a b : Counts) : Counts :=
  ⟨a.lines + b.lines, a.words + b.words, a.chars + b.chars, a.bytes + b.bytes,
    max a.longest b.longest⟩

/-- The chosen counts, each in so many places. -/
def Counts.row (k : Counts) (o : Options) (width : Nat) : List Char :=
  let all := !(o.has 'l' || o.has 'w' || o.has 'm' || o.has 'c' || o.has 'L')
  let chosen :=
    (if o.has 'l' || all then [k.lines] else []) ++ (if o.has 'w' || all then [k.words] else []) ++
    (if o.has 'm' then [k.chars] else []) ++ (if o.has 'c' || all then [k.bytes] else []) ++
    (if o.has 'L' then [k.longest] else [])
  " ".intercalate (chosen.map fun n => String.ofList (padLeft width (Nat.toDigits 10 n)))
    |>.toList

def wc (c : Call) : Effect :=
  let table : OptionTable :=
    { flags := "lwcmL".toList
      long := [("lines", 'l'), ("words", 'w'), ("bytes", 'c'), ("chars", 'm'),
        ("max-line-length", 'L')] }
  c.withOptions table fun o =>
    let operands := inputsOr o.operands
    let sources := operands.map fun n => (n, c.source n)
    let single := (o.given.map (·.1)).eraseDups.length == 1 && operands.length == 1
    let sizes := sources.filterMap fun (_, r) => match r with
      | .ok p => some (p.text.length, p.sized)
      | .error _ => none
    let total := sizes.foldl (fun n s => n + s.1) 0
    let width :=
      if single then 1
      else if sizes.all (·.2) then (Nat.toDigits 10 total).length
      else 7
    let stuck := sources.any fun (_, r) => match r with
      | .ok p => p.endless
      | .error _ => false
    if stuck then .stuck
    else
      let row (k : Counts) (name : String) : List Char :=
        k.row o width ++ (if name = "-" ∧ o.operands.isEmpty then [] else ' ' :: name.toList) ++
          ['\n']
      let (all, e) := sources.foldl (fun (all, e) (name, r) =>
        match r with
        | .ok p =>
          let k := Counts.of p.text
          (Counts.add all k, Effect.followed e (.writing (row k name)))
        | .error err => (all, Effect.followed e (c.fails 1 (name ++ ": " ++ err.reason))))
        ((⟨0, 0, 0, 0, 0⟩ : Counts), ({} : Effect))
      let e := if 1 < operands.length then e.followed (.writing (row all "total")) else e
      { e with waited := c.waits o.operands }

end Flowboard.Utility
