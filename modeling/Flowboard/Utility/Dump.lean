import Flowboard.Double.Printer
import Flowboard.Utility.Digest
import Flowboard.Utility.Lines
import Flowboard.Utility.Place

/-! The bytes of a text in rows, as numbers or characters. -/
namespace Flowboard.Utility

/-- How the bytes of a row are shown. -/
inductive Cell where
  | named
  | char
  | octal
  | hex
  | signed
  | unsigned
  | real
  deriving DecidableEq, Repr

/-- A kind of cell, how many bytes one cell shows, and whether the characters stand at the end of
the row once more. -/
structure DumpType where
  kind : Cell
  size : Nat
  trailer : Bool := false
  deriving DecidableEq, Repr

namespace DumpType

/-- The most digits that a number of so many bytes has. -/
def digits (base size : Nat) : Nat :=
  (Nat.toDigits base (twoTo (8 * size) - 1)).length

/-- How many characters a cell has, without the blanks between cells. -/
def width (t : DumpType) : Nat :=
  match t.kind with
  | .named | .char => 3
  | .octal => digits 8 t.size
  | .hex => 2 * t.size
  | .signed => (Nat.toDigits 10 (twoTo (8 * t.size - 1))).length + 1
  | .unsigned => digits 10 t.size
  | .real => if t.size = 4 then 15 else 23

end DumpType

/-- The names of the characters that cannot be seen. -/
def controlNames : List String :=
  ["nul", "soh", "stx", "etx", "eot", "enq", "ack", "bel", "bs", "ht", "nl", "vt", "ff", "cr", "so",
   "si", "dle", "dc1", "dc2", "dc3", "dc4", "nak", "syn", "etb", "can", "em", "sub", "esc", "fs",
   "gs", "rs", "us", "sp"]

/-- A byte by its name; the highest bit does not count. -/
def nameCell (c : Char) : List Char :=
  let n := c.toNat % 128
  match controlNames[n]? with
  | some name => name.toList
  | none => if n = 127 then "del".toList else [Char.ofNat n]

def charCell (c : Char) : List Char :=
  let n := c.toNat
  let short := [(0, "\\0"), (7, "\\a"), (8, "\\b"), (9, "\\t"), (10, "\\n"), (11, "\\v"),
    (12, "\\f"), (13, "\\r")]
  match short.lookup n with
  | some s => s.toList
  | none => if 32 ≤ n && n < 127 then [c] else Text.paddedIn 8 3 n

/-- A number with so many significant digits as are needed to read it back, at least a few. -/
def realCell (significand : Nat) (exponentBits : Nat) (bits : Nat) : List Char :=
  let top := twoTo significand
  let negative := bits / twoTo (significand + exponentBits) % 2 = 1
  let e := bits / top % twoTo exponentBits
  let m := bits % top
  let sign := if negative then ['-'] else []
  let last := twoTo exponentBits - 1
  if e = last then sign ++ (if m = 0 then "inf" else "nan").toList
  else if e = 0 ∧ m = 0 then sign ++ ['0']
  else
    let bias : Int := twoTo (exponentBits - 1) - 1 + significand
    let power : Int := (max e 1 : Nat) - bias
    let m := if e = 0 then m else m + top
    let (num, den) := if 0 ≤ power then (m * twoTo power.toNat, 1) else (m, twoTo (-power).toNat)
    let least := if significand = 52 then 15 else 6
    let least := if e = 0 then 1 else least
    -- a text with `p` digits is right if it is closer than half of the distance to a neighbour
    let right (p : Nat) : Bool :=
      let (ds, x) := Double.scientific (p - 1) num den
      let n := (Text.natural? (ds.filter Char.isDigit)).getD 0
      let shift := x - (p - 1 : Nat)
      let (a, b) := if 0 ≤ shift then (n * tenTo shift.toNat, 1) else (n, tenTo (-shift).toNat)
      -- compare |a/b - num/den| with half a unit
      let left := a * den
      let right := num * b
      let apart := if left < right then right - left else left - right
      let unit := if 0 ≤ power then twoTo power.toNat * den * b else b
      2 * apart ≤ (if 0 ≤ power then unit else unit * (den / twoTo (-power).toNat))
    let precision := ((List.range 18).find? fun p => least ≤ p && right p).getD 17
    sign ++ Double.general 'e' false precision num den

/-- The number that bytes stand for, the lowest one first unless `big`. -/
def wordValue (big : Bool) (bytes : List Char) : Nat :=
  let bytes := if big then bytes else bytes.reverse
  bytes.foldl (fun n c => 256 * n + c.toNat) 0

def DumpType.cell (t : DumpType) (big : Bool) (bytes : List Char) : List Char :=
  let n := wordValue big bytes
  match t.kind with
  | .named => nameCell (bytes.headD '\x00')
  | .char => charCell (bytes.headD '\x00')
  | .octal => Text.paddedIn 8 t.width n
  | .hex => Text.paddedIn 16 t.width n
  | .unsigned => Nat.toDigits 10 n
  | .signed =>
    let full := twoTo (8 * t.size)
    Text.integerDigits 10 (if full ≤ 2 * n then (n : Int) - full else n)
  | .real => if t.size = 4 then realCell 23 8 n else realCell 52 11 n

/-- The cells of a row. The cells of all types are as far apart as the widest ones ask for. -/
def DumpType.row (t : DumpType) (big : Bool) (perRow rowWidth : Nat) (bytes : List Char) :
    List Char :=
  let fields := perRow / t.size
  let blank := (perRow - bytes.length) / t.size
  let pad := rowWidth - t.width * fields
  let filled := bytes ++ List.replicate (t.size - bytes.length % t.size) '\x00'
  let cells := (List.range (fields - blank)).map fun k =>
    let i := fields - k
    let width := pad * i / fields - pad * (i - 1) / fields + t.width
    Text.padLeft width (t.cell big ((filled.drop (k * t.size)).take t.size))
  let rest := blank * t.width + pad * blank / fields
  let trailer := if t.trailer then
      List.replicate rest ' ' ++ "  >".toList ++
        bytes.map (fun c => if 32 ≤ c.toNat && c.toNat < 127 then c else '.') ++ ['<']
    else []
  cells.flatten ++ trailer

def readSize (real : Bool) : List Char → Nat × List Char
  | 'C' :: s => (1, s)
  | 'S' :: s => (2, s)
  | 'I' :: s => (4, s)
  | 'F' :: s => (4, s)
  | 'D' :: s => (8, s)
  | 'L' :: s => (8, s)
  | s =>
    let ds := s.takeWhile Char.isDigit
    ((Text.natural? ds).getD (if real then 8 else 4), s.drop ds.length)

def DumpType.readAll : Nat → List Char → Option (List DumpType)
  | 0, _ => none
  | _, [] => some []
  | fuel + 1, c :: s =>
    let sized (kind : Cell) : Option (List DumpType) :=
      let (size, s) := readSize (kind == .real) s
      let trailer := s.head? == some 'z'
      let s := if trailer then s.drop 1 else s
      if size = 0 then none else (readAll fuel s).map (⟨kind, size, trailer⟩ :: ·)
    let plain (kind : Cell) : Option (List DumpType) :=
      let trailer := s.head? == some 'z'
      let s := if trailer then s.drop 1 else s
      (readAll fuel s).map (⟨kind, 1, trailer⟩ :: ·)
    match c with
    | 'a' => plain .named
    | 'c' => plain .char
    | 'd' => sized .signed
    | 'u' => sized .unsigned
    | 'o' => sized .octal
    | 'x' => sized .hex
    | 'f' => sized .real
    | _ => none

def DumpType.ofLetter? : Char → Option DumpType
  | 'a' => some ⟨.named, 1, false⟩
  | 'b' => some ⟨.octal, 1, false⟩
  | 'c' => some ⟨.char, 1, false⟩
  | 'd' => some ⟨.unsigned, 2, false⟩
  | 'f' => some ⟨.real, 4, false⟩
  | 'i' => some ⟨.signed, 4, false⟩
  | 'l' => some ⟨.signed, 8, false⟩
  | 'o' => some ⟨.octal, 2, false⟩
  | 's' => some ⟨.signed, 2, false⟩
  | 'x' => some ⟨.hex, 2, false⟩
  | _ => none

/-- The bytes of its operands in rows, as numbers or characters. Rows like the one before are left
out. -/
def od (c : Call) : Effect :=
  let table : OptionTable :=
    { flags := "abcdfilosxv".toList, valued := "AtNjE".toList, optional := ['w']
      long := [("address-radix", 'A'), ("format", 't'), ("read-bytes", 'N'), ("skip-bytes", 'j'),
        ("output-duplicates", 'v'), ("width", 'w'), ("endian", 'E')] }
  c.withOptions table fun o =>
    let types := o.given.foldl (fun (types : Except String (List DumpType)) (letter, value) =>
      types.bind fun types =>
        match DumpType.ofLetter? letter, letter with
        | some t, _ => .ok (types ++ [t])
        | none, 't' =>
          match DumpType.readAll (value.length + 1) value.toList with
          | some more => .ok (types ++ more)
          | none => .error ("invalid type string " ++ quotedName value)
        | none, _ => .ok types) (.ok [])
    match types with
    | .error e => c.fails 1 e
    | .ok types =>
      let types := if types.isEmpty then [⟨.octal, 2, false⟩] else types
      let number (letter : Char) : Option Nat := (o.value? letter).bind fun s => count? s.toList
      let unit := types.foldl (fun n t => Nat.lcm n t.size) 1
      let perRow := match o.value? 'w' with
        | some "" => 32
        | some s => (Text.natural? s.toList).getD 32
        | none => if unit < 16 then unit * (16 / unit) else unit
      let rowWidth := types.foldl (fun w t => max w ((t.width + 1) * (perRow / t.size))) 0
      let big := o.value? 'E' == some "big"
      let skipped := (number 'j').getD 0
      c.together o.operands 1 plainName fun p =>
        let source := match number 'N' with
          | some n => p.take? (skipped + n)
          | none => p.all?
        match source with
        | none => .stuck
        | some text =>
          if text.length < skipped then c.fails 1 "cannot skip past end of combined input"
          else
            let text := text.drop skipped
            let offset (n : Nat) : List Char := match o.value? 'A' with
              | some "n" => []
              | _ => Text.paddedIn 8 7 n
            let margin := List.replicate (offset 0).length ' '
            let rows := chunks perRow (text.length + 1) text
            let shown (n : Nat) (row : List Char) : List Char :=
              (types.zip (List.range types.length)).flatMap fun (t, i) =>
                (if i = 0 then offset n else margin) ++ t.row big perRow rowWidth row ++ ['\n']
            let (body, _, _) := rows.foldl (fun (body, (last : Option (List Char)), starred) row =>
              let i := body.2 + perRow
              if !o.has 'v' && last == some row && row.length == perRow then
                (((if starred then body.1 else ['*', '\n'] :: body.1), i), last, true)
              else ((shown (skipped + body.2) row :: body.1, i), some row, false))
              ((([] : List (List Char)), 0), none, false)
            let last := offset (skipped + text.length)
            .writing (body.1.reverse.flatten ++ (if last.isEmpty then [] else last ++ ['\n']))

end Flowboard.Utility
