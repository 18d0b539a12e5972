import Std.Data.HashMap
import Flowboard.Rules.Reader
import Flowboard.Utility.Format

/-! The values of programs of rules, and how they turn into each other. -/
namespace Flowboard.Rules

/-- A value. A text that was read may look like a number and is then both. -/
inductive Cell where
  | unset
  | number (x : Float)
  | text (s : List Char)
  | both (s : List Char) (x : Float)
  deriving Inhabited

/-- The number that a text starts with, and the text after it. -/
def leadingNumber (s : List Char) : Float × List Char :=
  let s := s.dropWhile fun c => c == ' ' || (9 ≤ c.toNat && c.toNat ≤ 13)
  let (negative, t) := match s with
    | '-' :: t => (true, t)
    | '+' :: t => (false, t)
    | t => (false, t)
  let signed (x : Float) : Float := if negative then -x else x
  let word := (t.take 3).map Char.toLower
  if word == "inf".toList then
    let long := (t.take 8).map Char.toLower == "infinity".toList
    (signed (1.0 / 0.0), t.drop (if long then 8 else 3))
  else if word == "nan".toList then (0.0 / 0.0, t.drop 3)
  else
    match t with
    | '0' :: x :: rest =>
      let digits := rest.takeWhile fun c => (Text.digitIn? 16 c).isSome
      if (x = 'x' ∨ x = 'X') ∧ !digits.isEmpty then
        (signed ((Script.floatOfInt? ((Text.naturalIn? 16 digits).getD 0)).getD 0.0),
          rest.drop digits.length)
      else decimal signed s t
    | _ => decimal signed s t
where
  decimal (signed : Float → Float) (s t : List Char) : Float × List Char :=
    let span := numberSpan t
    if span.isEmpty then (0.0, s) else (signed (numberOf span), t.drop span.length)

/-- A text that was read, as a number too if all of it is one. -/
def Cell.ofInput (s : List Char) : Cell :=
  let (x, rest) := leadingNumber s
  let blank (c : Char) : Bool := c == ' ' || (9 ≤ c.toNat && c.toNat ≤ 13)
  if rest.all blank && !(s.all blank) && rest.length < s.length then .both s x else .text s

def Cell.toNumber : Cell → Float
  | .unset => 0.0
  | .number x => x
  | .text s => (leadingNumber s).1
  | .both _ x => x

/-- A number in the way of one directive of a format. -/
def floatText (d : Utility.Directive) (x : Float) : List Char :=
  match Script.fraction? x with
  | some (n, den) => d.quotient (Script.isNegative x) n.natAbs den
  | none =>
    -- what is no number has its sign set
    let word := if x.isNaN then "nan" else "inf"
    let word := if d.kind.isUpper then word.toUpper else word
    { d with flags := d.flags.filter (· != '0') }.padNumber false (x.isNaN || Script.isNegative x)
      word.toList

/-- A number as a text: an integer by its digits, another one after a format. -/
def numberText (format : List Char) (x : Float) : List Char :=
  match Script.integral? x with
  | some n =>
    if n.natAbs < twoTo 63 then Text.integerDigits 10 n else viaFormat
  | none => viaFormat
where
  viaFormat : List Char :=
    match format with
    | '%' :: rest =>
      let digits := (rest.dropWhile (· != '.')).drop 1 |>.takeWhile Char.isDigit
      let kind := rest.getLast?.getD 'g'
      floatText ⟨[], none, Text.natural? digits, kind⟩ x
    | _ => floatText ⟨[], none, some 6, 'g'⟩ x

def Cell.toText (format : List Char) : Cell → List Char
  | .unset => []
  | .number x => numberText format x
  | .text s => s
  | .both s _ => s

def Cell.holds : Cell → Bool
  | .unset => false
  | .number x => x != 0.0
  | .text s => !s.isEmpty
  | .both _ x => x != 0.0

def ofBool (b : Bool) : Cell :=
  .number (if b then 1.0 else 0.0)

def ofNat (n : Nat) : Cell :=
  .number n.toFloat

/-- Whether a value is compared as a number. -/
def Cell.isNumeric : Cell → Bool
  | .text _ => false
  | _ => true

def compareChars : List Char → List Char → Ordering
  | [], [] => .eq
  | [], _ => .lt
  | _, [] => .gt
  | a :: s, b :: t => if a < b then .lt else if b < a then .gt else compareChars s t

/-- Compares two values: as numbers if both look like ones, as texts otherwise. -/
def Cell.compare (format : List Char) (op : Comparison) (a b : Cell) : Bool :=
  if a.isNumeric && b.isNumeric then
    let x := a.toNumber
    let y := b.toNumber
    match op with
    | .lt => x < y
    | .le => x ≤ y
    | .eq => x == y
    | .ne => x != y
    | .gt => y < x
    | .ge => y ≤ x
  else
    let o := compareChars (a.toText format) (b.toText format)
    match op with
    | .lt => o == .lt
    | .le => o != .gt
    | .eq => o == .eq
    | .ne => o != .eq
    | .gt => o == .gt
    | .ge => o != .lt

/-- The whole number towards zero, within the bounds of a long word. -/
def wholeOf (x : Float) : Int :=
  match Script.truncated? x with
  | some n => max (-(twoTo 63 : Nat) : Int) (min n ((twoTo 63 : Nat) - 1))
  | none => if x.isNaN then -(twoTo 63 : Nat) else
      if Script.isNegative x then -(twoTo 63 : Nat) else (twoTo 63 : Nat) - 1

def remainder (x y : Float) : Float :=
  match Script.fraction? x, Script.fraction? y with
  | some (a, b), some (c, d) =>
    if c = 0 then 0.0 / 0.0
    else
      let r := (Script.quotient? (Int.tmod (a * d) (c * b)) (b * d)).getD 0.0
      if r == 0.0 && Script.isNegative x then -0.0 else r
  | some _, none => if y.isNaN then y else x
  | none, _ => 0.0 / 0.0

/-- The last 31 numbers of an additive generator, the latest first. -/
structure Generator where
  last : List Nat

/-- The next number; each is the sum of two earlier ones. -/
def Generator.next (g : Generator) : Nat × Generator :=
  let n := (g.last.getD 2 0 + g.last.getD 30 0) % twoTo 32
  (n / 2, ⟨n :: g.last.take 30⟩)

def Generator.ofSeed (seed : Nat) : Generator :=
  let seed := if seed % twoTo 32 = 0 then 1 else seed % twoTo 32
  let rec first : Nat → Nat → List Nat → List Nat
    | 0, _, done => done
    | n + 1, x, done =>
      let y := 16807 * x % 2147483647
      first n y (y :: done)
  let start := first 30 seed [seed]
  -- the three numbers after the first ones repeat those
  let rec warm : Nat → Generator → Generator
    | 0, g => g
    | n + 1, g => warm n g.next.2
  let oldest := start.reverse
  warm 310 ⟨((oldest.take 3).reverse ++ start).take 31⟩

/-- An array: values by their keys, with the time when each was touched last. -/
structure Dictionary where
  entries : Std.HashMap String (Cell × Nat) := {}
  clock : Nat := 0
  deriving Inhabited

end Flowboard.Rules
