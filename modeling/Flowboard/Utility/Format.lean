import Flowboard.Double.Printer
import Flowboard.Time.Calendar
import Flowboard.Utility.Translate

/-! Programs that write their arguments: as they are, after a format, or counted up. -/
namespace Flowboard.Utility

/-- What escapes a text has. -/
structure EscapeStyle where
  /-- octal digits need a zero in front -/
  zeroFirst : Bool
  /-- hexadecimal digits may stand after `x` -/
  hexadecimal : Bool
  /-- `c` ends all output -/
  stops : Bool

/-- The character with a number. One outside of ASCII is not known, so its escape stands for
itself. -/
def charOctets (n : Nat) : List Char :=
  let digits := (Nat.toDigits 16 n).map Char.toUpper
  let padded (width : Nat) : List Char := List.replicate (width - digits.length) '0' ++ digits
  if n < 128 then [Char.ofNat n]
  else if n < 65536 then '\\' :: 'u' :: padded 4
  else '\\' :: 'U' :: padded 8

/-- The characters of an escape after its backslash, and what follows it; nothing if it ends the
output. -/
def readEscape (style : EscapeStyle) (s : List Char) : Option (List Char × List Char) :=
  let hexadecimal (width : Nat) (t : List Char) (value : Nat → List Char) :
      Option (List Char × List Char) :=
    let ds := (t.take width).takeWhile fun c => (Text.digitIn? 16 c).isSome
    match Text.naturalIn? 16 ds with
    | some n => some (value n, t.drop ds.length)
    | none => some ('\\' :: s.take 1, t)
  match s with
  | [] => some (['\\'], [])
  | 'c' :: t => if style.stops then none else some (['\\', 'c'], t)
  | '0' :: t =>
    let (n, rest) := if style.zeroFirst then readOctal 3 0 t else readOctal 3 0 s
    some ([Char.ofNat (n % 256)], rest)
  | 'x' :: t =>
    if style.hexadecimal then hexadecimal 2 t fun n => [Char.ofNat n] else some (['\\', 'x'], t)
  | 'u' :: t => if style.hexadecimal then hexadecimal 4 t charOctets else some (['\\', 'u'], t)
  | 'U' :: t => if style.hexadecimal then hexadecimal 8 t charOctets else some (['\\', 'U'], t)
  | 'e' :: t => if style.hexadecimal then some (['\x1b'], t) else some (['\\', 'e'], t)
  | c :: t =>
    match letterEscape? c with
    | some d => some ([d], t)
    | none =>
      if '1' ≤ c ∧ c ≤ '7' ∧ ¬ style.zeroFirst then
        let (n, rest) := readOctal 3 0 s
        some ([Char.ofNat (n % 256)], rest)
      else some (['\\', c], t)

/-- A text after its escapes, and whether one of them ended the output. -/
def unescape (style : EscapeStyle) : Nat → List Char → List Char × Bool
  | 0, _ => ([], false)
  | _, [] => ([], false)
  | fuel + 1, '\\' :: s =>
    match readEscape style s with
    | none => ([], true)
    | some (cs, rest) =>
      let (more, stopped) := unescape style fuel rest
      (cs ++ more, stopped)
  | fuel + 1, c :: s =>
    let (more, stopped) := unescape style fuel s
    (c :: more, stopped)

/-- How arguments are written on a line. -/
inductive EchoStyle where
  /-- escapes always count, and `-n` is the only option -/
  | escaping
  /-- escapes count after `-e`, and options may be joined -/
  | optional
  deriving DecidableEq, Repr

/-- Takes options that consist of certain letters off the front. -/
def echoOptions : List String → List Char × List String
  | arg :: rest =>
    match arg.toList with
    | '-' :: c :: cs =>
      if (c :: cs).all "neE".toList.contains then
        let (letters, args) := echoOptions rest
        (c :: cs ++ letters, args)
      else ([], arg :: rest)
    | _ => ([], arg :: rest)
  | [] => ([], [])

def echo (style : EchoStyle) (args : List String) : List Char :=
  let (letters, args) := match style, args with
    | .escaping, "-n" :: args => (['n', 'e'], args)
    | .escaping, args => (['e'], args)
    | .optional, args => echoOptions args
  let line := (" ".intercalate args).toList
  let escapes := (letters.filter fun c => c == 'e' || c == 'E').getLast? == some 'e'
  let (text, stopped) :=
    if escapes then unescape ⟨true, style == .optional, true⟩ (line.length + 1) line
    else (line, false)
  if letters.contains 'n' || stopped then text else text ++ ['\n']

/-- A place in a format where an argument is written. -/
structure Directive where
  flags : List Char
  width : Option Nat
  precision : Option Nat
  kind : Char

def Directive.pad (d : Directive) (s : List Char) : List Char :=
  let width := d.width.getD 0
  if d.flags.contains '-' then Text.padRight width s else Text.padLeft width s

/-- The digits of a number after its sign, in the width of a directive. -/
def Directive.padNumber (d : Directive) (zeros negative : Bool) (digits : List Char) : List Char :=
  let sign :=
    if negative then ['-']
    else if d.flags.contains '+' then ['+']
    else if d.flags.contains ' ' then [' ']
    else []
  if zeros && d.flags.contains '0' && !d.flags.contains '-' then
    sign ++ List.replicate (d.width.getD 0 - sign.length - digits.length) '0' ++ digits
  else d.pad (sign ++ digits)

/-- At least as many digits as the precision asks for. -/
def Directive.fill (d : Directive) (digits : List Char) : List Char :=
  match d.precision with
  | some 0 => if digits = ['0'] then [] else digits
  | some p => List.replicate (p - digits.length) '0' ++ digits
  | none => digits

/-- An integer below `2 ^ 64` in the way of a directive. -/
def Directive.integer (d : Directive) (n : Int) : List Char :=
  let zeros := d.precision.isNone
  let unsigned (base : Nat) : List Char :=
    Nat.toDigits base (n % (twoTo 64 : Nat)).toNat
  let marked (mark digits : List Char) : List Char :=
    if d.flags.contains '#' && n != 0 then mark ++ digits else digits
  let unsignedDirective := { d with flags := d.flags.filter fun c => c != '+' && c != ' ' }
  match d.kind with
  | 'o' => unsignedDirective.padNumber zeros false (marked ['0'] (d.fill (unsigned 8)))
  | 'x' => unsignedDirective.padNumber zeros false (marked ['0', 'x'] (d.fill (unsigned 16)))
  | 'X' =>
    unsignedDirective.padNumber zeros false
      (marked ['0', 'X'] (d.fill ((unsigned 16).map Char.toUpper)))
  | 'u' => unsignedDirective.padNumber zeros false (d.fill (unsigned 10))
  | _ => d.padNumber zeros (n < 0) (d.fill (Nat.toDigits 10 n.natAbs))

def Directive.quotient (d : Directive) (negative : Bool) (num den : Nat) : List Char :=
  let precision := d.precision.getD 6
  let keep := d.flags.contains '#'
  let digits := match d.kind with
    | 'e' => Double.scientificText 'e' precision num den
    | 'E' => Double.scientificText 'E' precision num den
    | 'g' => Double.general 'e' keep precision num den
    | 'G' => Double.general 'E' keep precision num den
    | _ => Double.fixed precision num den
  d.padNumber true negative digits

/-- A decimal with an optional sign, point and power of ten, as a quotient. -/
def decimal? (s : List Char) : Option (Bool × Nat × Nat) :=
  let (negative, s) := match s with
    | '-' :: s => (true, s)
    | '+' :: s => (false, s)
    | s => (false, s)
  let whole := s.takeWhile Char.isDigit
  let (fraction, s) := match s.drop whole.length with
    | '.' :: s => (s.takeWhile Char.isDigit, s.dropWhile Char.isDigit)
    | s => ([], s)
  let power? : Option Int := match s with
    | [] => some 0
    | 'e' :: t => Text.integer? t
    | 'E' :: t => Text.integer? t
    | _ => none
  match Text.natural? (whole ++ fraction), power? with
  | some n, some e =>
    let e := e - fraction.length
    if e.natAbs < 5000 then some (negative, n * tenTo e.toNat, tenTo (-e).toNat) else none
  | _, _ => none

/-- The integer of an argument: in base eight after a zero, in base sixteen after `0x`, or the
number of the character after a quote. Nothing if something else follows. -/
def argumentInteger? (s : List Char) : Option Int :=
  let natural (t : List Char) : Option Nat := match t with
    | '0' :: 'x' :: ds => Text.naturalIn? 16 ds
    | '0' :: 'X' :: ds => Text.naturalIn? 16 ds
    | '0' :: d :: ds => Text.naturalIn? 8 (d :: ds)
    | ds => Text.natural? ds
  match s with
  | '\'' :: c :: _ => some c.toNat
  | '"' :: c :: _ => some c.toNat
  | '-' :: t => (natural t).map fun n => -(n : Int)
  | '+' :: t => (natural t).map fun n => (n : Int)
  | t => (natural t).map fun n => (n : Int)

def leadingInteger (s : List Char) : Int :=
  let (sign, t) := match s with
    | '-' :: t => (['-'], t)
    | t => ([], t)
  (argumentInteger? (sign ++ t.takeWhile Char.isDigit)).getD 0

def quotedWord (s : List Char) : List Char :=
  if s.isEmpty then ['\'', '\'']
  else
    let plain (c : Char) : Bool := c.isAlphanum || "_@%+=:,./-".toList.contains c
    s.flatMap fun c => if plain c then [c] else ['\\', c]

/-- What a format has written so far, the arguments that are left, and what went wrong. -/
structure Formatting where
  written : List (List Char) := []
  args : List String
  faults : List String := []
  stopped : Bool := false

def Formatting.write (f : Formatting) (s : List Char) : Formatting :=
  { f with written := s :: f.written }

def Formatting.next (f : Formatting) : List Char × Formatting :=
  match f.args with
  | a :: rest => (a.toList, { f with args := rest })
  | [] => ([], f)

/-- A number in a directive, which a star takes from the arguments. -/
def readCount (f : Formatting) : List Char → Option Int × Formatting × List Char
  | '*' :: s =>
    let (arg, f) := f.next
    (some (leadingInteger arg), f, s)
  | s =>
    let ds := s.takeWhile Char.isDigit
    ((Text.natural? ds).map fun n => (n : Int), f, s.drop ds.length)

def Formatting.directive (f : Formatting) (extended : Bool) (d : Directive) : Formatting :=
  let (arg, g) := f.next
  let number (message : String) : Int × Formatting :=
    if arg.isEmpty then (0, g)
    else
      match argumentInteger? arg with
      | some n => (n, g)
      | none =>
        (leadingInteger arg, { g with faults := g.faults ++ [String.ofList arg ++ message] })
  let message := if extended then ": invalid number" else ": expected numeric value"
  match d.kind with
  | '%' => f.write ['%']
  | 's' =>
    g.write (d.pad (match d.precision with
      | some p => arg.take p
      | none => arg))
  | 'c' => g.write (d.pad (arg.take 1))
  | 'b' =>
    let (text, stopped) := unescape ⟨true, extended, true⟩ (arg.length + 1) arg
    { g.write (d.pad text) with stopped }
  | 'q' => g.write (d.pad (quotedWord arg))
  | 'd' | 'i' | 'u' | 'o' | 'x' | 'X' =>
    let (n, g) := number message
    g.write (d.integer n)
  | 'e' | 'E' | 'f' | 'F' | 'g' | 'G' =>
    match decimal? arg with
    | some (negative, num, den) => g.write (d.quotient negative num den)
    | none =>
      let (n, g) := number message
      g.write (d.quotient (n < 0) n.natAbs 1)
  | c =>
    { f with
      stopped := true
      faults := f.faults ++
        [if extended then "\x60" ++ c.toString ++ "': invalid format character"
         else "%" ++ c.toString ++ ": invalid directive"] }

def formatOnce (extended : Bool) : Nat → List Char → Formatting → Formatting
  | 0, _, f => f
  | _, [], f => f
  | fuel + 1, '\\' :: s, f =>
    match readEscape ⟨false, extended, false⟩ s with
    | some (cs, rest) => formatOnce extended fuel rest (f.write cs)
    | none => f
  | fuel + 1, '%' :: s, f =>
    let flags := s.takeWhile "-+ #0'".toList.contains
    let (width, f, s) := readCount f (s.drop flags.length)
    let (precision, f, s) := match s with
      | '.' :: s =>
        let (p, f, s) := readCount f s
        (some (p.getD 0), f, s)
      | s => (none, f, s)
    let flags := if width.any (· < 0) then '-' :: flags else flags
    let precision := precision.bind fun p => if p < 0 then none else some p.toNat
    match s.dropWhile "hlLqjzt".toList.contains, s with
    | '(' :: after, _ =>
      let pattern := after.takeWhile (· != ')')
      match extended, after.drop (pattern.length + 1) with
      | true, 'T' :: rest =>
        let (arg, f) := f.next
        let n := leadingInteger arg
        let moment := Moment.ofSeconds (if arg.isEmpty || n < 0 then startOfRuns else n)
        let text := moment.text (if pattern.isEmpty then "%X".toList else pattern)
        let d : Directive := ⟨flags, width.map Int.natAbs, precision, 's'⟩
        formatOnce extended fuel rest (f.write (d.pad text))
      | _, _ => f.directive extended ⟨flags, width.map Int.natAbs, precision, '('⟩
    | [], 'q' :: _ =>
      f.directive extended ⟨flags, width.map Int.natAbs, precision, 'q'⟩
    | kind :: rest, t =>
      let (kind, rest) := if t.head? = some 'q' && extended then ('q', t.drop 1) else (kind, rest)
      let f := f.directive extended ⟨flags, width.map Int.natAbs, precision, kind⟩
      if f.stopped then f else formatOnce extended fuel rest f
    | [], _ => { f with stopped := true, faults := f.faults ++ ["%: invalid directive"] }
  | fuel + 1, c :: s, f => formatOnce extended fuel s (f.write [c])

/-- Passes over a format as long as one uses up arguments. -/
def formatAll (extended : Bool) (format : List Char) : Nat → Formatting → Formatting
  | 0, f => f
  | fuel + 1, f =>
    let g := formatOnce extended (format.length + 1) format f
    if g.stopped || g.args.isEmpty || g.args.length == f.args.length then g
    else formatAll extended format fuel g

/-- What arguments after a format make of it: the text, and what went wrong. -/
def formatted (extended : Bool) (format : String) (args : List String) :
    List Char × List String :=
  let f := formatAll extended format.toList (args.length + 1) { args }
  (f.written.reverse.flatten, f.faults)

/-- A decimal as an integer and the number of its places after the point. An exponent moves the
point. -/
def scaled? (s : String) : Option (Int × Nat) :=
  let (negative, t) := match s.toList with
    | '-' :: t => (true, t)
    | '+' :: t => (false, t)
    | t => (false, t)
  let whole := t.takeWhile Char.isDigit
  let rest := t.drop whole.length
  let (fraction, rest) := match rest with
    | '.' :: ds => (ds.takeWhile Char.isDigit, ds.dropWhile Char.isDigit)
    | t => ([], t)
  let power? : Option Int := match rest with
    | [] => some 0
    | 'e' :: ds | 'E' :: ds =>
      Text.integer? (if ds.head? = some '+' then ds.drop 1 else ds)
    | _ => none
  match power?, Text.natural? (whole ++ fraction) with
  | some power, some n =>
    let places : Int := fraction.length - power
    let n := if 0 ≤ places then n else n * tenTo (-places).toNat
    some (if negative then -(n : Int) else n, places.toNat)
  | _, _ => none

/-- The numbers from a first to a last one. -/
def seq (c : Call) : Effect :=
  let isNumber (a : String) : Bool := (scaled? a).isSome
  -- a hyphen before a digit starts a number
  let rec part : Nat → List String → List String × List String
    | 0, args => ([], args)
    | fuel + 1, a :: rest =>
      if a = "-s" ∨ a = "-f" ∨ a = "--separator" ∨ a = "--format" then
        let (options, operands) := part fuel (rest.drop 1)
        (a :: (rest.take 1 ++ options), operands)
      else if a.startsWith "-" && !isNumber a then
        let (options, operands) := part fuel rest
        (a :: options, operands)
      else ([], a :: rest)
    | _, [] => ([], [])
  let (options, operands) := part (c.args.length + 1) c.args
  let table : OptionTable :=
    { flags := ['w'], valued := "sf".toList
      long := [("separator", 's'), ("equal-width", 'w'), ("format", 'f')] }
  (c.withArgs options).withOptions table fun o =>
    let between := ((o.value? 's').getD "\n").toList
    let operands := (o.operands ++ operands).filter (· != "--")
    match operands.mapM scaled? with
    | none => c.misused 1 ("invalid floating point argument: " ++
        quotedName ((operands.find? (!isNumber ·)).getD ""))
    | some numbers =>
      let places := (numbers.take 2).foldl (fun p n => max p n.2) 0
      let places := if numbers.length = 1 then 0 else places
      let all := numbers.foldl (fun p n => max p n.2) places
      let value (n : Int × Nat) : Int := n.1 * (tenTo (all - n.2) : Nat)
      let one : Int := (tenTo all : Nat)
      let bounds? := match numbers with
        | [last] => some (one, one, value last)
        | [first, last] => some (value first, one, value last)
        | [first, step, last] => some (value first, value step, value last)
        | _ => none
      match bounds? with
      | none => c.misused 1 (if numbers.isEmpty then "missing operand" else
          "extra operand " ++ quotedName (operands.getD 3 ""))
      | some (first, step, last) =>
        if step = 0 then
          c.misused 1 ("invalid Zero increment value: " ++ quotedName (operands.getD 1 "0"))
        else
          let span := if 0 < step then last - first else first - last
          let total := if span < 0 then 0 else span.natAbs / step.natAbs + 1
          let text (i : Nat) : List Char :=
            let n := first + step * i
            (if n < 0 then ['-'] else []) ++
              Double.withPoint places (Nat.toDigits 10 (n.natAbs / tenTo (all - places)))
          let texts := (List.range total).map text
          let width := if o.has 'w' then texts.foldl (fun w t => max w t.length) 0 else 0
          let texts := texts.map fun t => match t with
            | '-' :: ds => '-' :: (List.replicate (width - t.length) '0' ++ ds)
            | ds => List.replicate (width - ds.length) '0' ++ ds
          if texts.isEmpty then {} else .writing (between.intercalate texts ++ ['\n'])

end Flowboard.Utility
