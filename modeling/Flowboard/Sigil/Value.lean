import Flowboard.Script.Number
import Flowboard.Text.Integer
import Flowboard.Text.Quoted
import Flowboard.Utility.Format

/-! What programs whose variables have sigils consist of, and values of scalars: numbers, texts, and
how they turn into each other. -/
namespace Flowboard.Sigil

/-- What a reference leads to, by its place among things of its kind. -/
inductive Target where
  | scalar (cell : Nat)
  | array (id : Nat)
  | hash (id : Nat)
  | code (id : Nat)
  /-- a handle under its name -/
  | handle (id : Nat)
  deriving BEq, Hashable, Repr, Inhabited

/-- What one scalar holds. -/
inductive Value where
  | absent
  | text (s : String)
  | int (n : Int)
  | float (x : Float)
  /-- a number that is written in its own way -/
  | dual (n : Int) (s : String)
  | ref (t : Target)
  deriving Inhabited

/-- What a name stands for, by its sigil. -/
inductive Shape where
  | scalar
  | array
  | hash
  | code
  deriving DecidableEq, Repr, Inhabited

/-- How a variable is found: by the number of its declaration, or by its full name. -/
inductive Name where
  | own (id : Nat)
  | shared (name : String)
  deriving DecidableEq, Repr, Inhabited

inductive Binary where
  | add | sub | mul | div | mod | pow
  | concat | repeated
  | shiftLeft | shiftRight
  | bitAnd | bitOr | bitXor
  | numLt | numLe | numGt | numGe | numEq | numNe | numCompare
  | textLt | textLe | textGt | textGe | textEq | textNe | textCompare
  deriving DecidableEq, Repr

/-- Operations of which the second operand may not count. -/
inductive Lazy where
  | and
  | or
  | otherwise
  deriving DecidableEq, Repr

inductive Unary where
  | negate
  | not
  | complement
  deriving DecidableEq, Repr

/-- How a variable is declared. -/
inductive Declaration where
  | my
  | state
  deriving DecidableEq, Repr

/-- Ways out of a loop. -/
inductive Leap where
  | next
  | last
  | redo
  deriving DecidableEq, Repr

/-- The names that are visible at a place, the latest first. -/
abbrev Visible := List (String × Name)

mutual

inductive Expr where
  | constant (v : Value)
  /-- pieces of a text, one after the other -/
  | pieces (es : List Expr)
  /-- a list as a piece of a text -/
  | woven (e : Expr)
  | var (kind : Shape) (name : Name)
  /-- what a reference leads to -/
  | deref (kind : Shape) (e : Expr)
  | item (array index : Expr)
  | entry (hash key : Expr)
  | items (array indices : Expr)
  | entries (hash keys : Expr)
  | lastIndex (array : Expr)
  | declare (how : Declaration) (kind : Shape) (id : Nat)
  | localized (e : Expr)
  | list (es : List Expr)
  /-- some of the values of a list -/
  | picked (e indices : Expr)
  | assign (target value : Expr)
  | assignList (target value : Expr)
  | update (op : Binary) (target value : Expr)
  | updateLazy (op : Lazy) (target value : Expr)
  | binary (op : Binary) (a b : Expr)
  | lazy (op : Lazy) (a b : Expr)
  | xor (a b : Expr)
  | unary (op : Unary) (e : Expr)
  | choice (c a b : Expr)
  /-- the number tells it from others, for a range that opens and closes -/
  | range (id : Nat) (a b : Expr)
  | repeatList (e count : Expr)
  | step (before up : Bool) (e : Expr)
  | match_ (target : Option Expr) (pattern : Expr) (flags : List Char)
  | substitute (target : Option Expr) (pattern put : Expr) (flags : List Char)
  | transliterate (target : Option Expr) (old new : List Char) (flags : List Char)
  | readLine (handle : Expr)
  | call (name : String) (args : List Expr) (plain : Bool)
  | callRef (f : Expr) (args : List Expr)
  | method (object : Expr) (name : String) (args : List Expr)
  | builtin (name : String) (args : List Expr)
  | sorted (by_ : Option Expr) (e : Expr)
  | mapped (f e : Expr)
  | filtered (f e : Expr)
  | write (how : String) (handle : Option Expr) (args : List Expr)
  | newArray (es : List Expr)
  | newHash (es : List Expr)
  | closure (name : String) (body : List Statement)
  | refer (e : Expr)
  | handleNamed (name : String)
  | do_ (body : List Statement)
  /-- a text that is read as a program where these names are visible -/
  | tryText (e : Expr) (visible : Visible) (package : String)
  | return_ (e : Option Expr)

inductive Statement where
  | expr (line : Nat) (e : Expr)
  | while_ (line : Nat) (label : Option String) (negated : Bool) (test : Option Expr)
      (body continue_ : List Statement)
  | each (line : Nat) (label : Option String) (var : Expr) (es : Expr)
      (body : List Statement)
  | block (label : Option String) (body : List Statement)
  /-- repeats a body before the test -/
  | doWhile (line : Nat) (negated : Bool) (body : List Statement) (test : Expr)
  | package (name : String)
  | nothing

end

/-- A named piece of a program. -/
structure Routine where
  name : String
  package : String
  body : List Statement
  deriving Inhabited

/-- A program: routines by their names, what is done before anything else, the statements, what is
done at the end, and the text after all of it. -/
structure Program where
  routines : List Routine
  first : List (String × List Statement)
  body : List Statement
  last : List (List Statement)
  data : Option (List Char)
  /-- the number of declarations -/
  declared : Nat
  /-- its letters are not bytes -/
  wide : Bool

/-- A value as arithmetic takes it. -/
inductive Number where
  | int (n : Int)
  | float (x : Float)
  deriving Inhabited

def fitsWord (n : Int) : Bool :=
  -(twoTo 63 : Nat) ≤ n && n < (twoTo 64 : Nat)

def Number.ofInt (n : Int) : Number :=
  if fitsWord n then .int n
  else .float ((Script.floatOfInt? n).getD (if n < 0 then -1.0 / 0.0 else 1.0 / 0.0))

def Number.toFloat : Number → Float
  | .int n => (Script.floatOfInt? n).getD 0.0
  | .float x => x

/-- The integer that a number is, if doubles tell it from its neighbours. -/
def Number.whole? : Number → Option Int
  | .int n => some n
  | .float x =>
    if x.abs < 9007199254740992.0 then Script.integral? x else none

def Number.toInt : Number → Int
  | .int n => n
  | .float x =>
    match Script.truncated? x with
    | some n => if n < -(twoTo 63 : Nat) then -(twoTo 63 : Nat)
        else if (twoTo 64 : Nat) ≤ n then (twoTo 64 : Nat) - 1 else n
    | none => if Script.isNegative x then -(twoTo 63 : Nat) else if x.isNaN then 0
        else (twoTo 64 : Nat) - 1

def Number.toValue : Number → Value
  | .int n => .int n
  | .float x => .float x

/-- A number with fifteen digits at most. -/
def floatText (x : Float) : String :=
  match Script.fraction? x with
  | some (n, den) =>
    if n == 0 then (if Script.isNegative x then "-0" else "0")
    else
      let d : Utility.Directive := ⟨[], none, some 15, 'g'⟩
      String.ofList (d.quotient (Script.isNegative x) n.natAbs den)
  | none => if x.isNaN then "NaN" else if Script.isNegative x then "-Inf" else "Inf"

def isGap (c : Char) : Bool :=
  c == ' ' || (9 ≤ c.toNat && c.toNat ≤ 13)

/-- The number at the start of a text, and how much of the text it takes. -/
def leadingNumber (s : List Char) : Number × Nat :=
  let gap := s.takeWhile isGap
  let s := s.drop gap.length
  let (negative, sign, t) := match s with
    | '-' :: t => (true, 1, t)
    | '+' :: t => (false, 1, t)
    | t => (false, 0, t)
  let signed (x : Float) : Float := if negative then -x else x
  let word := (t.take 3).map Char.toLower
  if word == "inf".toList then
    let long := (t.take 8).map Char.toLower == "infinity".toList
    (.float (signed (1.0 / 0.0)), gap.length + sign + if long then 8 else 3)
  else if word == "nan".toList then (.float (0.0 / 0.0), gap.length + sign + 3)
  else
    let whole := t.takeWhile Char.isDigit
    let rest := t.drop whole.length
    let (part, dot, rest) := match rest with
      | '.' :: r =>
        let ds := r.takeWhile Char.isDigit
        if whole.isEmpty && ds.isEmpty then ([], 0, rest) else (ds, 1, r.drop ds.length)
      | r => ([], 0, r)
    if whole.isEmpty && part.isEmpty then (.int 0, 0)
    else
      let power := match rest with
        | e :: r =>
          if e == 'e' || e == 'E' then
            let (mark, ds) := match r with
              | '-' :: ds => (['-'], ds)
              | '+' :: ds => (['+'], ds)
              | ds => ([], ds)
            let ds := ds.takeWhile Char.isDigit
            if ds.isEmpty then [] else e :: mark ++ ds
          else []
        | [] => []
      let used := gap.length + sign + whole.length + dot + part.length + power.length
      if dot == 0 && power.isEmpty then
        let n : Int := (Text.natural? whole).getD 0
        (.ofInt (if negative then -n else n), used)
      else
        let text := (if whole.isEmpty then ['0'] else whole) ++
          (if part.isEmpty then [] else '.' :: part) ++ power
        (.float (signed ((Script.floatOf? text).getD 0.0)), used)

def textNumber (s : String) : Number :=
  (leadingNumber s.toList).1

/-- An operation on integers where both numbers are some, on doubles otherwise. -/
def exactly (ints : Int → Int → Int) (floats : Float → Float → Float) (a b : Number) : Number :=
  match a.whole?, b.whole? with
  | some m, some n =>
    let r := ints m n
    if fitsWord r then .int r else .float (floats a.toFloat b.toFloat)
  | _, _ => .float (floats a.toFloat b.toFloat)

/-- A power: exact where the result is sure to fit into a word. -/
def power (a b : Number) : Number :=
  let plain : Number :=
    let r := Float.pow a.toFloat b.toFloat
    .float r
  plain

def Number.toWord (a : Number) : Nat :=
  (a.toInt % (twoTo 64 : Nat)).toNat

def compareFloats (x y : Float) : Option Ordering :=
  if x < y then some .lt else if y < x then some .gt else if x == y then some .eq else none

def Number.compare (a b : Number) : Option Ordering :=
  match a, b with
  | .int m, .int n => some (Ord.compare m n)
  | a, b => compareFloats a.toFloat b.toFloat

def compareTexts (a b : String) : Ordering :=
  if a < b then .lt else if a == b then .eq else .gt

def repeatText (s : String) (n : Int) : String :=
  let rec go : Nat → String → String
    | 0, done => done
    | k + 1, done => go k (done ++ s)
  go n.toNat ""

/-- Upper and lower letters; those outside of ASCII count if `wide`. -/
def upperText (wide : Bool) (s : String) : String :=
  String.ofList (s.toList.flatMap fun c =>
    if c.toNat < 128 then [c.toUpper] else if wide || 255 < c.toNat then Text.upperOf c else [c])

def lowerText (wide : Bool) (s : String) : String :=
  String.ofList (s.toList.flatMap fun c =>
    if c.toNat < 128 then [c.toLower] else if wide || 255 < c.toNat then Text.lowerOf c else [c])

def onFirst (f : String → String) (s : String) : String :=
  match s.toList with
  | c :: rest => f c.toString ++ String.ofList rest
  | [] => ""

/-- Letters for other letters, and how many there were. -/
def transliterate (old new flags : List Char) (s : List Char) : List Char × Nat :=
  let outside := flags.contains 'c'
  let erase := flags.contains 'd'
  let squeeze := flags.contains 's'
  let new := if new.isEmpty && !erase then (if outside then [] else old) else new
  let place? (c : Char) : Option Nat :=
    if outside then (if old.contains c then none else some new.length) else old.idxOf? c
  let rec go : List Char → Option Char → List Char → Nat → List Char × Nat
    | [], _, done, n => (done.reverse, n)
    | c :: rest, last, done, n =>
      match place? c with
      | none => go rest none (c :: done) n
      | some i =>
        let put : Option Char := match new[i]? with
          | some d => some d
          | none => if erase then none
            else if outside && new.isEmpty then some c
            else new.getLast?
        match put with
        | none => go rest last done (n + 1)
        | some d =>
          if squeeze && last == some d then go rest last done (n + 1)
          else go rest (some d) (d :: done) (n + 1)
  go s none [] 0

def wordDigits (base : Nat) (n : Int) : List Char :=
  Nat.toDigits base (n % (twoTo 64 : Nat)).toNat

def formatText (format : List Char) (args : Array (String × Number)) : List Char :=
  go (format.length + 1) format 0
where
  argument (i : Nat) : String × Number := args.getD i ("", .int 0)
  count (s : List Char) (i : Nat) : Option Int × List Char × Nat :=
    match s with
    | '*' :: rest => (some (argument i).2.toInt, rest, i + 1)
    | s =>
      let ds := s.takeWhile Char.isDigit
      ((Text.natural? ds).map fun n => (n : Int), s.drop ds.length, i)
  go : Nat → List Char → Nat → List Char
    | 0, _, _ => []
    | _, [], _ => []
    | fuel + 1, '%' :: '%' :: rest, i => '%' :: go fuel rest i
    | fuel + 1, '%' :: rest, i =>
      -- an argument may be named by its place
      let ds := rest.takeWhile Char.isDigit
      let (chosen, rest) := match rest.drop ds.length with
        | '$' :: r => ((Text.natural? ds).map (· - 1), r)
        | _ => (none, rest)
      let flags := rest.takeWhile fun c => "-+ #0".toList.contains c
      let rest := rest.drop flags.length
      let (vector, rest) := match rest with
        | 'v' :: r => (true, r)
        | r => (false, r)
      let (width, rest, i) := count rest i
      let (precision, rest, i) := match rest with
        | '.' :: t =>
          let (p, t, i) := count t i
          (some (p.getD 0), t, i)
        | t => (none, t, i)
      let (flags, width) := match width with
        | some w => if w < 0 then ('-' :: flags, some w.natAbs) else (flags, some w.natAbs)
        | none => (flags, none)
      let precision := precision.bind fun p => if p < 0 then none else some p.natAbs
      let rest := rest.dropWhile fun c => "hlqLVzt".toList.contains c
      match rest with
      | [] => '%' :: go fuel rest i
      | kind :: after =>
        let (text, number) := argument (chosen.getD i)
        let i := if chosen.isSome then i else i + 1
        let d : Utility.Directive := ⟨flags, width, precision, kind⟩
        if vector then
          let parts := text.toList.map fun c => Text.naturalText c.toNat
          d.pad (".".intercalate parts).toList ++ go fuel after i
        else
          match piece d text number with
          | some p => p ++ go fuel after i
          | none => '%' :: go fuel (flags ++ (match width with
              | some w => (Text.naturalText w).toList
              | none => []) ++ rest) (i - 1)
    | fuel + 1, c :: rest, i => c :: go fuel rest i
  strange (d : Utility.Directive) (x : Float) : List Char :=
    { d with flags := d.flags.filter (· != '0') }.padNumber false (!x.isNaN && Script.isNegative x)
      (if x.isNaN then "NaN" else "Inf").toList
  piece (d : Utility.Directive) (text : String) (number : Number) : Option (List Char) :=
    match d.kind with
    | 's' => some (zeroPad d (match d.precision with
        | some p => text.toList.take p
        | none => text.toList))
    | 'c' => some (d.pad [Char.ofNat number.toInt.toNat])
    | 'd' | 'i' =>
      match number with
      | .float x =>
        if x.isNaN || x.isInf then some (if x.isNaN then d.pad "-1".toList else strange d x)
        else some ({ d with kind := 'd' }.integer number.toInt)
      | _ => some ({ d with kind := 'd' }.integer number.toInt)
    | 'D' => some ({ d with kind := 'd' }.integer number.toInt)
    | 'u' | 'o' | 'x' | 'X' => some (d.integer number.toInt)
    | 'b' | 'B' =>
      let digits := d.fill (wordDigits 2 number.toInt)
      let digits := if d.flags.contains '#' && number.toInt != 0 then '0' :: d.kind :: digits
        else digits
      some ({ d with flags := d.flags.filter fun c => c != '+' && c != ' ' }.padNumber
        d.precision.isNone false digits)
    | 'e' | 'E' | 'f' | 'F' | 'g' | 'G' =>
      let x := number.toFloat
      match number, Script.fraction? x with
      | .int n, _ => some (d.quotient (n < 0) n.natAbs 1)
      | _, some (n, den) => some (d.quotient (Script.isNegative x) n.natAbs den)
      | _, none => some (strange d x)
    | _ => none
  zeroPad (d : Utility.Directive) (s : List Char) : List Char :=
    if d.flags.contains '0' && !(d.flags.contains '-') then
      List.replicate (d.width.getD 0 - s.length) '0' ++ s
    else d.pad s

end Flowboard.Sigil
