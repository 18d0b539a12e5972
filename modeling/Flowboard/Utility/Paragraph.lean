import Flowboard.Utility.Basic
import Flowboard.Utility.Place

/-! Paragraphs that are broken into lines of about the same length. Every way to break a paragraph
has a cost, and the cheapest one is taken. -/
namespace Flowboard.Utility

namespace Paragraph

/-- A word and what follows it. -/
structure Word where
  text : List Char
  /-- the blanks after it if it does not end a line -/
  space : Nat
  /-- it starts with an opening bracket or a quote -/
  opening : Bool
  /-- it ends with a mark -/
  mark : Bool
  /-- it ends like a sentence -/
  period : Bool
  /-- it ends a sentence -/
  last : Bool

def Word.length (w : Word) : Nat :=
  w.text.length

/-- How a paragraph is written. -/
structure Style where
  width : Nat
  goal : Nat
  crown : Bool := false
  tagged : Bool := false
  split : Bool := false
  uniform : Bool := false

/-- A line: where its first word stands, and its words. -/
structure Line where
  indent : Nat
  words : List Word

/-- The column after blanks, and the rest. -/
def skipSpace : Nat → List Char → Nat × List Char
  | column, ' ' :: s => skipSpace (column + 1) s
  | column, '\t' :: s => skipSpace ((column / 8 + 1) * 8) s
  | column, s => (column, s)

def isGap (c : Char) : Bool :=
  c == ' ' || (9 ≤ c.toNat && c.toNat ≤ 13)

/-- The words of a line from a column on. `ended` tells that a line feed follows. -/
def readWords (uniform ended : Bool) : Nat → Nat → List Char → List Word
  | 0, _, _ => []
  | fuel + 1, column, s =>
    match s with
    | [] => []
    | c :: rest =>
      let text := c :: rest.takeWhile (fun c => !isGap c)
      let after := s.drop text.length
      let start := column + text.length
      let (column, rest) := skipSpace start after
      let core := text.reverse.dropWhile (fun c => ")]'\"".toList.contains c)
      let core := if core.isEmpty then text.head?.toList else core
      let period := core.head?.any (fun c => ".?!".toList.contains c)
      let atEnd := rest.isEmpty
      let last := (atEnd && !ended) || (period && (atEnd || 1 < column - start))
      let space := if atEnd || uniform then (if last then 2 else 1) else column - start
      { text, space, period, last
        opening := text.head?.any (fun c => "(['`\"".toList.contains c)
        mark := text.getLast?.any (inPunctuation ·) } ::
        readWords uniform ended fuel column rest
where
  inPunctuation (c : Char) : Bool :=
    33 ≤ c.toNat && c.toNat ≤ 126 && !c.isAlphanum

def Line.ofText (uniform : Bool) (line : List Char) : Line :=
  let ended := line.getLast? == some '\n'
  let line := if ended then line.dropLast else line
  let (indent, s) := skipSpace 0 line
  ⟨indent, readWords uniform ended (s.length + 1) indent s⟩

def square (n : Int) : Int := n * n

/-- The cost of a line that misses its goal. -/
def shortCost (n : Int) : Int := square (10 * n)

/-- The cost of two lines of different lengths. -/
def raggedCost (n : Int) : Int := shortCost n / 2

def startCost (words : Array Word) (i : Nat) : Int :=
  let before (n : Nat) : Option Word := if n ≤ i then words[i - n]? else none
  let one := if 1 ≤ i then before 1 else none
  let two := if 2 ≤ i then before 2 else none
  let first : Int := match one with
    | none => 0
    | some w =>
      if w.period then (if w.last then -square 50 else square 600)
      else if w.mark then -square 40
      else if two.any (·.last) then square 200 / (w.length + 2)
      else 0
  let own : Int := match words[i]? with
    | none => 0
    | some w =>
      if w.opening then -square 40
      else if w.last then square 150 / (w.length + 2)
      else 0
  square 70 + first + own

/-- The best way to write the words from one on. -/
structure Break where
  cost : Int
  /-- the first word of the next line -/
  next : Nat
  length : Nat
  deriving Inhabited

/-- The best end of a line that has got a length before word `w`, given the breaks of later words. -/
def bestEnd (style : Style) (words : Array Word) (later : Nat → Break) :
    Nat → Nat → Nat → Option Break → Option Break
  | 0, _, _, best => best
  | fuel + 1, w, length, best =>
    let n := words.size
    let line : Int :=
      if w = n then 0
      else
        let next := later w
        shortCost ((style.goal : Int) - length) +
          (if next.next = n then 0 else raggedCost ((length : Int) - next.length))
    let cost := line + (later w).cost
    let best := if best.all fun b => cost < b.cost then some ⟨cost, w, length⟩ else best
    if w = n then best
    else
      let length := length + (words[w - 1]?.map (·.space)).getD 0 +
        (words[w]?.map (·.length)).getD 0
      if length < style.width then
        bestEnd style words later fuel (w + 1) length best
      else best

/-- The breaks of all words, from the last one back to the first. -/
def breaks (style : Style) (first other : Nat) (words : Array Word) : Array Break :=
  let n := words.size
  let start : Array Break := Array.replicate (n + 1) ⟨0, n, 0⟩
  (List.range n).foldl (fun done k =>
    let i := n - 1 - k
    let indent := if i = 0 then first else other
    let length := indent + (words[i]?.map (·.length)).getD 0
    match bestEnd style words (fun w => done.getD w ⟨0, n, 0⟩) (n + 1) (i + 1) length none with
    | some b => done.setIfInBounds i { b with cost := b.cost + startCost words i }
    | none => done) start

/-- Blanks from a column on, as tabs as far as possible if `tabs`. -/
def spaces (tabs : Bool) (column count : Nat) : List Char :=
  let target := column + count
  let stop := target / 8 * 8
  if tabs && column + 1 < stop then
    List.replicate (stop / 8 - column / 8) '\t' ++ List.replicate (target - stop) ' '
  else List.replicate count ' '

def lineText (tabs : Bool) (indent : Nat) (words : List Word) : List Char :=
  let (text, _) := words.foldl (fun ((text : List (List Char)), column, gap) w =>
    (w.text :: spaces tabs column gap :: text, column + gap + w.length, w.space))
    (([] : List (List Char)), 0, indent)
  text.reverse.flatten ++ ['\n']

/-- The lines from a word on. Each line uses up one of the fuel. -/
def linesFrom (tabs : Bool) (words : Array Word) (bs : Array Break) (other : Nat) :
    Nat → Nat → Nat → List Char
  | 0, _, _ => []
  | fuel + 1, i, indent =>
    if words.size ≤ i then []
    else
      let next := max ((bs.getD i default).next) (i + 1)
      lineText tabs indent (words.extract i next).toList ++
        linesFrom tabs words bs other fuel next other

/-- A paragraph with its first line and its other lines at certain columns. -/
def text (style : Style) (tabs : Bool) (first other : Nat) (words : List Word) : List Char :=
  let words := words.toArray
  let words := words.modify (words.size - 1) fun w => { w with period := true, last := true }
  linesFrom tabs words (breaks style first other words) other (words.size + 1) 0 first

/-- The columns of the other lines, given the first line, the next one and the column of the
paragraph before. -/
def otherIndent (style : Style) (first : Line) (next : Option Line) (before : Nat) : Nat :=
  if style.split then first.indent
  else if style.crown then (next.map (·.indent)).getD first.indent
  else if style.tagged then
    match next with
    | some l => if l.indent != first.indent then l.indent else guessed
    | none => guessed
  else first.indent
where
  guessed : Nat := if before = first.indent then (if first.indent = 0 then 3 else 0) else before

/-- How many of the lines after the first one belong to its paragraph. -/
def more (style : Style) (first : Line) (other : Nat) (rest : List Line) : Nat :=
  let same := rest.takeWhile fun l => !l.words.isEmpty
  let level := same.takeWhile fun l => l.indent == other
  if style.split then 0
  else if style.crown then
    match same with
    | _ :: tail => 1 + (tail.takeWhile fun l => l.indent == other).length
    | [] => 0
  else if style.tagged then
    match same with
    | l :: tail =>
      if l.indent == first.indent then 0
      else 1 + (tail.takeWhile fun l => l.indent == other).length
    | [] => 0
  else level.length

/-- All paragraphs of a text. Each one uses up one of the fuel. -/
def all (style : Style) (tabs : Bool) : Nat → Nat → List Line → List Char
  | 0, _, _ => []
  | _, _, [] => []
  | fuel + 1, before, first :: rest =>
    if first.words.isEmpty then '\n' :: all style tabs fuel before rest
    else
      let next := match rest with
        | l :: _ => if l.words.isEmpty then none else some l
        | [] => none
      let other := otherIndent style first next before
      let count := more style first other rest
      let words := first.words ++ (rest.take count).flatMap (·.words)
      text style tabs first.indent other words ++ all style tabs fuel other (rest.drop count)

end Paragraph

/-- Breaks paragraphs into lines. -/
def fmt (c : Call) : Effect :=
  let table : OptionTable :=
    { flags := "cstu".toList, valued := "wg".toList
      long := [("crown-margin", 'c'), ("split-only", 's'), ("tagged-paragraph", 't'),
        ("uniform-spacing", 'u'), ("width", 'w'), ("goal", 'g')] }
  let args := match c.args with
    | a :: rest => match a.toList with
      | '-' :: d :: ds => if d.isDigit then ("-w" ++ String.ofList (d :: ds)) :: rest else c.args
      | _ => c.args
    | [] => []
  (c.withArgs args).withOptions table fun o =>
    let number (letter : Char) : Except String (Option Nat) := match o.value? letter with
      | none => .ok none
      | some s => match Text.natural? s.toList with
        | some n => if n ≤ 2500 then .ok (some n) else
            .error ("invalid width: " ++ quotedName s ++ ": Numerical result out of range")
        | none => .error ("invalid width: " ++ quotedName s)
    match number 'w', number 'g' with
    | .error e, _ | _, .error e => c.fails 1 e
    | .ok w, .ok g =>
      let width := w.getD ((g.map (· + 10)).getD 75)
      let style : Paragraph.Style :=
        { width, goal := g.getD (width * 187 / 200), crown := o.has 'c'
          tagged := o.has 't', split := o.has 's', uniform := o.has 'u' }
      let describe (s : String) := "cannot open " ++ quotedName s ++ " for reading"
      c.each o.operands 1 describe fun _ p => .ofAll p fun text =>
        let ls := (Text.lines text).map (Paragraph.Line.ofText (o.has 'u'))
        Paragraph.all style (text.contains '\t') (ls.length + 1) 0 ls

end Flowboard.Utility
