import Flowboard.Script.Number
import Flowboard.Text.Case
import Flowboard.Text.Octet

/-! Texts and numbers as they are shown, and formats. -/
namespace Flowboard.Script

def isShown (c : Char) : Bool :=
  if c.toNat < 128 then 31 < c.toNat && c.toNat < 127
  else
    let kind := (Text.category c).front
    kind != 'C' && kind != 'Z'

/-- A character between quotes; only those of ASCII stand for themselves if `ascii`. -/
def shownChar (quote : Char) (ascii : Bool) (c : Char) : List Char :=
  let n := Text.codePoint c
  if c = quote ∨ c = '\\' then ['\\', c]
  else if c = '\n' then ['\\', 'n']
  else if c = '\r' then ['\\', 'r']
  else if c = '\t' then ['\\', 't']
  else if isShown c && !(ascii && 126 < n) then [c]
  else if n < 256 then '\\' :: 'x' :: Text.paddedIn 16 2 n
  else if n < 65536 then '\\' :: 'u' :: Text.paddedIn 16 4 n
  else '\\' :: 'U' :: Text.paddedIn 16 8 n

/-- The quote for a text: double ones if there are only single ones in it. -/
def quoteFor (s : List Char) : Char :=
  if s.contains '\'' && !s.contains '"' then '"' else '\''

/-- A text between quotes. -/
def quoted (ascii : Bool) (s : List Char) : List Char :=
  let q := quoteFor s
  q :: (s.flatMap (shownChar q ascii) ++ [q])

def quotedBytes (b : List UInt8) : List Char :=
  let s := b.map fun b => Char.ofNat b.toNat
  let q := quoteFor s
  'b' :: q :: (s.flatMap (fun c =>
    if 126 < c.toNat then '\\' :: 'x' :: Text.paddedIn 16 2 c.toNat else shownChar q false c) ++ [q])

/-- How a value is written in a field. -/
structure Spec where
  fill : Char := ' '
  align : Option Char := none
  sign : Char := '-'
  alternate : Bool := false
  width : Nat := 0
  grouping : Option Char := none
  precision : Option Nat := none
  kind : Option Char := none
  deriving Repr

namespace Spec

def isAlign (c : Char) : Bool :=
  c == '<' || c == '>' || c == '=' || c == '^'

/-- A natural number at the start of a text, if one stands there. -/
def readWidth (s : List Char) : Option Nat × List Char :=
  (Text.natural? (s.takeWhile Char.isDigit), s.dropWhile Char.isDigit)

def ofText? (s : List Char) : Option Spec :=
  let (spec, s, filled) : Spec × List Char × Bool := match s with
    | f :: a :: rest =>
      if isAlign a then ({ fill := f, align := some a }, rest, true)
      else if isAlign f then ({ align := some f }, a :: rest, false)
      else ({}, s, false)
    | [a] => if isAlign a then ({ align := some a }, [], false) else ({}, s, false)
    | [] => ({}, [], false)
  let (spec, s) := match s with
    | c :: rest => if c = '+' ∨ c = '-' ∨ c = ' ' then ({ spec with sign := c }, rest) else (spec, s)
    | [] => (spec, [])
  let s := if s.head? = some 'z' then s.drop 1 else s
  let (spec, s) := match s with
    | '#' :: rest => ({ spec with alternate := true }, rest)
    | s => (spec, s)
  let (spec, s) := match s with
    | '0' :: rest =>
      let spec := if filled then spec else { spec with fill := '0' }
      (if spec.align.isNone then { spec with align := some '=' } else spec, rest)
    | s => (spec, s)
  let (width, s) := readWidth s
  let spec := { spec with width := width.getD 0 }
  let (spec, s) := match s with
    | c :: rest => if c = ',' ∨ c = '_' then ({ spec with grouping := some c }, rest) else (spec, s)
    | [] => (spec, [])
  match s with
  | '.' :: rest =>
    match readWidth rest with
    | (some p, s) => ending { spec with precision := some p } s
    | (none, _) => none
  | s => ending spec s
where
  ending (spec : Spec) : List Char → Option Spec
    | [] => some spec
    | [c] => some { spec with kind := some c }
    | _ => none

/-- Fills a text up to the width; the sign of a number may come before what fills it. -/
def pad (spec : Spec) (standard : Char) (sign body : List Char) : List Char :=
  let n := spec.width - (sign.length + body.length)
  let filled (k : Nat) : List Char := List.replicate k spec.fill
  match spec.align.getD standard with
  | '<' => sign ++ body ++ filled n
  | '^' => filled (n / 2) ++ sign ++ body ++ filled (n - n / 2)
  | '=' => sign ++ filled n ++ body
  | _ => filled n ++ sign ++ body

/-- Digits with a mark between groups, from the right. -/
def grouped (mark : Char) (size : Nat) (ds : List Char) : List Char :=
  (ds.reverse.foldl (fun (acc, n) c =>
    if n = size then (c :: mark :: acc, 1) else (c :: acc, n + 1)) (([] : List Char), 0)).1

def signText (spec : Spec) (negative : Bool) : List Char :=
  if negative then ['-'] else if spec.sign = '-' then [] else [spec.sign]

/-- A number with its digits before the point in groups, filled up. -/
def padNumber (spec : Spec) (negative : Bool) (mark whole rest : List Char) (size : Nat) :
    List Char :=
  let sign := spec.signText negative ++ mark
  match spec.grouping with
  | none => spec.pad '>' sign (whole ++ rest)
  | some g =>
    if spec.fill = '0' ∧ spec.align = some '=' then
      let room := spec.width - (sign.length + rest.length)
      -- so many digits that with their marks they fill the room
      let digits := max whole.length (room - room / (size + 1))
      let whole := List.replicate (digits - whole.length) '0' ++ whole
      sign ++ grouped g size whole ++ rest
    else spec.pad '>' sign (grouped g size whole ++ rest)

/-- The text of a nonnegative float after a kind of format. -/
def floatBody (kind : Option Char) (precision : Option Nat) (alternate : Bool) (x : Float) :
    List Char :=
  let upper := kind.any fun k => k = 'F' || k = 'E' || k = 'G'
  let case (s : List Char) : List Char := if upper then s.map Char.toUpper else s
  match double? x with
  | none => case (if x.isNaN then "nan".toList else "inf".toList) ++
      (if kind = some '%' then ['%'] else [])
  | some d =>
    let (num, den) := (d.numerator, d.denominator)
    let p := precision.getD 6
    case <| match kind with
      | some 'f' | some 'F' => pointed (Double.fixed p num den)
      | some 'e' | some 'E' => Double.scientificText 'e' p num den
      | some 'g' | some 'G' | some 'n' => Double.general 'e' alternate p num den
      | some '%' =>
        match double? (x * 100.0) with
        | some d => Double.fixed p d.numerator d.denominator ++ ['%']
        | none => "inf%".toList
      | _ =>
        match precision with
        | none => (floatText x).toList
        | some p =>
          let s := Double.general 'e' alternate p num den
          if s.contains '.' || s.contains 'e' then s
          else if s.length < p then s ++ ".0".toList
          else Double.scientificText 'e' (p - 1) num den
where
  pointed (s : List Char) : List Char :=
    if alternate && !s.contains '.' then s ++ ['.'] else s

def float (spec : Spec) (x : Float) : Except String (List Char) :=
  let known := spec.kind.all fun k => "eEfFgGn%".toList.contains k
  if ¬ known then
    .error ("Unknown format code '" ++ String.ofList spec.kind.toList ++
      "' for object of type 'float'")
  else
    let body := floatBody spec.kind spec.precision spec.alternate (if isNegative x then -x else x)
    let whole := body.takeWhile Char.isDigit
    .ok (spec.padNumber (isNegative x && !x.isNaN) [] whole (body.drop whole.length) 3)

/-- An integer after a format. -/
def int (spec : Spec) (n : Int) : Except String (List Char) :=
  let based (base : Nat) (mark : List Char) (upper : Bool) (size : Nat) :
      Except String (List Char) :=
    if spec.precision.isSome then .error "Precision not allowed in integer format specifier"
    else
      let ds := Nat.toDigits base n.natAbs
      .ok (spec.padNumber (n < 0) (if spec.alternate then mark else [])
        (if upper then ds.map Char.toUpper else ds) [] size)
  match spec.kind with
  | none | some 'd' | some 'n' => based 10 [] false 3
  | some 'b' => based 2 ['0', 'b'] false 4
  | some 'o' => based 8 ['0', 'o'] false 4
  | some 'x' => based 16 ['0', 'x'] false 4
  | some 'X' => based 16 ['0', 'X'] true 4
  | some 'c' => .ok (spec.pad '<' [] [Char.ofNat n.toNat])
  | some k =>
    if "eEfFgG%".toList.contains k then
      match floatOfInt? n with
      | some x => spec.float x
      | none => .error "int too large to convert to float"
    else .error ("Unknown format code '" ++ k.toString ++ "' for object of type 'int'")

def text (spec : Spec) (s : List Char) : Except String (List Char) :=
  match spec.kind with
  | none | some 's' =>
    if spec.align = some '=' ∧ spec.fill ≠ '0' then
      .error "'=' alignment not allowed in string format specifier"
    else if spec.sign ≠ '-' then .error "Sign not allowed in string format specifier"
    else
      let spec := if spec.align = some '=' then { spec with align := some '<' } else spec
      .ok (spec.pad '<' [] (match spec.precision with
        | some p => s.take p
        | none => s))
  | some k => .error ("Unknown format code '" ++ k.toString ++ "' for object of type 'str'")

end Spec

end Flowboard.Script
