import Flowboard.Double.Basic
import Flowboard.Json.Tree
import Flowboard.Text.Integer
import Flowboard.Text.Symbol

/-! The tree of a JSON text. -/
namespace Flowboard.Json.Reader

open Text (Symbol digit? digitIn?)

/-- The symbols that are left, or nothing after a fault. -/
abbrev Rest := Option (List Symbol)

def isSpace : Symbol → Bool
  | .char c => c == ' ' || c == '\n' || c == '\t' || c == '\r'
  | .stray _ => false

def skipSpace (s : List Symbol) : List Symbol :=
  s.dropWhile isSpace

/-- The digits at the start of a text, by value, and what follows them. -/
def digits : List Symbol → List Nat × List Symbol
  | .char c :: rest =>
    match digit? c with
    | some d => let (ds, r) := digits rest; (d :: ds, r)
    | none => ([], .char c :: rest)
  | s => ([], s)

/-- A written number: the digits before the point, those after it if there is one, and the
exponent's sign and digits if there is one. -/
structure Numeral where
  negative : Bool
  whole : List Nat
  fraction : Option (List Nat)
  exponent : Option (Bool × List Nat)

/-- The digits of `ds` that still fit onto `acc` in 64 bits: the value with them, how many there
are, and how many are left out. -/
def takeFitting (acc : Nat) : List Nat → Nat × Nat × Nat
  | [] => (acc, 0, 0)
  | d :: ds =>
    if 10 * acc + d < twoTo 64 then
      let (value, taken, left) := takeFitting (10 * acc + d) ds
      (value, taken + 1, left)
    else (acc, 0, ds.length + 1)

/-- The value of an exponent's digits, if it fits into 31 bits. -/
def exponent? (ds : List Nat) : Option Nat :=
  let n := ds.foldl (fun acc d => 10 * acc + d) 0
  if n < twoTo 31 then some n else none

/-- An integer of 64 bits, or else the nearest double. -/
def integer (negative : Bool) (n : Nat) : Number :=
  if negative then
    if h : 0 < n ∧ n ≤ twoTo 63 then .negative ⟨n - 1, by omega⟩
    else .double (Double.ofNat n).neg
  else if h : n < twoTo 64 then .natural ⟨n, h⟩
  else .double (Double.ofNat n)

/-- The double for a significand and a power of ten, with a sign. -/
def double (negative : Bool) (n : Nat) (e : Int) : Except TextFault Number :=
  match Double.ofScaled? n e with
  | some d => .ok (.double (if negative then d.neg else d))
  | none => .error .numberOutOfRange

/-- The value of a numeral. Without a point and an exponent it is an integer as long as it fits;
otherwise the digits that fit into 64 bits are scaled by a power of ten. -/
def Numeral.value (x : Numeral) : Except TextFault Number :=
  let (n, _, left) := takeFitting 0 x.whole
  let (n, e) : Nat × Int :=
    match x.fraction with
    | none => (n, left)
    | some ds => let (n, taken, _) := takeFitting n ds; (n, (left : Int) - taken)
  match x.exponent with
  | none =>
    if x.fraction.isNone ∧ left = 0 then .ok (integer x.negative n) else double x.negative n e
  | some (down, ds) =>
    match exponent? ds with
    | some k => double x.negative n (if down then e - k else e + k)
    | none => if n ≠ 0 ∧ ¬ down then .error .numberOutOfRange else double x.negative 0 0

/-- What stands in the place of a digit that has to follow: the text ends, which a reader of the
value and somebody who skips it call differently, or something else follows. -/
def missingDigit : List Symbol → TextFault × TextFault
  | [] => (.eofValue, .invalidNumber)
  | _ => (.invalidNumber, .invalidNumber)

/-- The exponent of a numeral, if one follows. -/
def readExponent (x : Numeral) (s : List Symbol) :
    Except (TextFault × TextFault) (Numeral × List Symbol) :=
  let signed (down : Bool) (s : List Symbol) :=
    match digits s with
    | ([], s) => .error (missingDigit s)
    | (ds, s) => .ok ({ x with exponent := some (down, ds) }, s)
  let unsigned (s : List Symbol) :=
    match s with
    | .char '+' :: s => signed false s
    | .char '-' :: s => signed true s
    | s => signed false s
  match s with
  | .char 'e' :: s => unsigned s
  | .char 'E' :: s => unsigned s
  | s => .ok (x, s)

/-- The fraction and the exponent of a numeral, as far as they follow. -/
def readFraction (x : Numeral) :
    List Symbol → Except (TextFault × TextFault) (Numeral × List Symbol)
  | .char '.' :: s =>
    match digits s with
    | ([], s) => .error (missingDigit s)
    | (ds, s) => readExponent { x with fraction := some ds } s
  | s => readExponent x s

/-- A numeral after its sign. Only the number zero starts with a zero. -/
def readNumeral (negative : Bool) (s : List Symbol) :
    Except (TextFault × TextFault) (Numeral × List Symbol) :=
  match digits s with
  | ([], s) => .error (missingDigit s)
  | (0 :: _ :: _, _) => .error (.invalidNumber, .invalidNumber)
  | (ds, s) => readFraction ⟨negative, ds, none, none⟩ s

def number (negative : Bool) (s : List Symbol) : Tree × Rest :=
  match readNumeral negative s with
  | .ok (x, rest) => (.number x.value, some rest)
  | .error (read, skip) => (.broken read skip, none)

/-- Four hexadecimal digits. They are looked for in the next four bytes. -/
def hexEscape (s : List Symbol) : Except TextFault (Nat × List Symbol) :=
  match s with
  | .char a :: .char b :: .char c :: .char d :: rest =>
    match digitIn? 16 a, digitIn? 16 b, digitIn? 16 c, digitIn? 16 d with
    | some a, some b, some c, some d => .ok (((a * 16 + b) * 16 + c) * 16 + d, rest)
    | _, _, _, _ => .error .invalidEscape
  | s => if Symbol.totalWidth s < 4 then .error .eofString else .error .invalidEscape

/-- The character of a one-letter escape. -/
def shortEscape? : Char → Option Char
  | '"' => some '"'
  | '\\' => some '\\'
  | '/' => some '/'
  | 'b' => some '\x08'
  | 'f' => some '\x0c'
  | 'n' => some '\n'
  | 'r' => some '\r'
  | 't' => some '\t'
  | _ => none

/-- The character of a hexadecimal escape; a leading surrogate needs a trailing one. -/
def unicodeEscape (s : List Symbol) : Except TextFault (Char × List Symbol) :=
  match hexEscape s with
  | .error e => .error e
  | .ok (n, s) =>
    if 0xDC00 ≤ n ∧ n ≤ 0xDFFF then .error .loneSurrogate
    else if n < 0xD800 ∨ 0xDBFF < n then .ok (Char.ofNat n, s)
    else
      match s with
      | [] => .error .eofString
      | [.char '\\'] => .error .eofString
      | .char '\\' :: .char 'u' :: s =>
        match hexEscape s with
        | .error e => .error e
        | .ok (m, s) =>
          if m < 0xDC00 ∨ 0xDFFF < m then .error .loneSurrogate
          else .ok (Char.ofNat (0x10000 + (n - 0xD800) * 0x400 + (m - 0xDC00)), s)
      | _ => .error .hexEscapeCut

/-- One step into a string: its end, a character of it (or a stray byte), or a fault. -/
inductive Piece where
  | close (rest : List Symbol)
  | char (c : Char) (rest : List Symbol)
  | stray (rest : List Symbol)
  | fault (e : TextFault)

/-- The next piece of a string, for a reader of its value. -/
def piece : List Symbol → Piece
  | [] => .fault .eofString
  | .stray _ :: s => .stray s
  | .char '"' :: s => .close s
  | .char '\\' :: s =>
    match s with
    | [] => .fault .eofString
    | .char 'u' :: s =>
      match unicodeEscape s with
      | .ok (c, s) => .char c s
      | .error e => .fault e
    | .char c :: s =>
      match shortEscape? c with
      | some c => .char c s
      | none => .fault .invalidEscape
    | .stray _ :: _ => .fault .invalidEscape
  | .char c :: s => if c.toNat < 0x20 then .fault .controlCharacter else .char c s

/-- The value of a string, of which `acc` is known, last character first, and where it ends. Stray
bytes show only at the end. Each piece uses up one of the fuel. -/
def readString : Nat → Bool → List Char → List Symbol → Except TextFault (String × List Symbol)
  | 0, _, _, _ => .error .eofString
  | fuel + 1, clean, acc, s =>
    match piece s with
    | .close rest => if clean then .ok (String.ofList acc.reverse, rest) else .error .invalidUnicode
    | .char c rest => readString fuel clean (c :: acc) rest
    | .stray rest => readString fuel false acc rest
    | .fault e => .error e

/-- Where a string ends, for somebody who does not need its value. -/
def skipString : List Symbol → Except TextFault (List Symbol)
  | [] => .error .eofString
  | .stray _ :: s => skipString s
  | .char '"' :: s => .ok s
  | .char '\\' :: .char 'u' :: a :: b :: c :: d :: s =>
    match hexEscape [a, b, c, d] with
    | .ok _ => skipString s
    | .error e => .error e
  | .char '\\' :: .char 'u' :: s =>
    .error (if Symbol.totalWidth s < 4 then .eofString else .invalidEscape)
  | [.char '\\'] => .error .eofString
  | .char '\\' :: .char c :: s =>
    if (shortEscape? c).isSome then skipString s else .error .invalidEscape
  | .char '\\' :: .stray _ :: _ => .error .invalidEscape
  | .char c :: s => if c.toNat < 0x20 then .error .controlCharacter else skipString s

/-- A string after its opening quote: its value or the fault of its value, and what follows it; or
the faults of a string that does not end. -/
def string (fuel : Nat) (s : List Symbol) :
    Except (TextFault × TextFault) (Except TextFault String × List Symbol) :=
  match readString fuel true [] s with
  | .ok (v, rest) => .ok (.ok v, rest)
  | .error read =>
    match skipString s with
    | .ok rest => .ok (.error read, rest)
    | .error skip => .error (read, skip)

/-- The rest of a word such as `null`. -/
def word (t : Tree) : List Char → List Symbol → Tree × Rest
  | [], s => (t, some s)
  | _ :: _, [] => (.broken .eofValue .eofValue, none)
  | c :: cs, x :: s =>
    if x = .char c then word t cs s else (.broken .expectedIdent .expectedIdent, none)

mutual

/-- The next value. Each call uses up one of the fuel; two for each symbol are enough. -/
def value : Nat → List Symbol → Tree × Rest
  | 0, _ => (.missing, none)
  | fuel + 1, s =>
    match skipSpace s with
    | [] => (.missing, none)
    | .char 'n' :: s => word .null "ull".toList s
    | .char 't' :: s => word (.bool true) "rue".toList s
    | .char 'f' :: s => word (.bool false) "alse".toList s
    | .char '"' :: s =>
      match string fuel s with
      | .ok (v, rest) => (.string v, some rest)
      | .error (read, skip) => (.brokenString read skip, none)
    | .char '[' :: s => let (xs, rest) := items fuel true s; (.array xs, rest)
    | .char '{' :: s => let (xs, rest) := members fuel true s; (.object xs, rest)
    | .char '-' :: s => number true s
    | .char c :: s =>
      if c.isDigit then number false (.char c :: s)
      else (.broken .expectedValue .expectedValue, none)
    | .stray _ :: _ => (.broken .expectedValue .expectedValue, none)

/-- Items up to the closing bracket; the first one has no comma before it. -/
def items : Nat → Bool → List Symbol → Items × Rest
  | 0, _, _ => (.cut .eof, none)
  | fuel + 1, first, s =>
    let item (s : List Symbol) : Items × Rest :=
      match value fuel s with
      | (x, some rest) => let (xs, rest) := items fuel false rest; (.cons x xs, rest)
      | (x, none) => (.cons x (.cut .eof), none)
    match skipSpace s with
    | [] => (.cut .eof, none)
    | .char ']' :: s => (.done, some s)
    | s =>
      if first then item s
      else
        match s with
        | .char ',' :: s =>
          match skipSpace s with
          | [] => (.cut .eofAfterComma, none)
          | .char ']' :: _ => (.cut .trailingComma, none)
          | s => item s
        | _ => (.cut .noSeparator, none)

/-- Members up to the closing brace; the first one has no comma before it. -/
def members : Nat → Bool → List Symbol → Members × Rest
  | 0, _, _ => (.cut .eof, none)
  | fuel + 1, first, s =>
    let member (s : List Symbol) : Members × Rest :=
      match string fuel s with
      | .error (read, skip) => (.cut (.brokenKey read skip), none)
      | .ok (key, s) =>
        match skipSpace s with
        | [] => (.cut (.noColon key true), none)
        | .char ':' :: s =>
          match value fuel s with
          | (x, some rest) => let (xs, rest) := members fuel false rest; (.cons key x xs, rest)
          | (x, none) => (.cons key x (.cut .eof), none)
        | _ => (.cut (.noColon key false), none)
    match skipSpace s with
    | [] => (.cut .eof, none)
    | .char '}' :: s => (.done, some s)
    | s =>
      if first then
        match s with
        | .char '"' :: s => member s
        | _ => (.stranger, none)
      else
        match s with
        | .char ',' :: s =>
          match skipSpace s with
          | [] => (.cut .eofAfterComma, none)
          | .char '}' :: _ => (.cut .trailingComma, none)
          | .char '"' :: s => member s
          | _ => (.stranger, none)
        | _ => (.cut .noSeparator, none)

end

/-- The tree of a text and what follows it. -/
def tree (s : List Symbol) : Tree × Rest :=
  value (2 * s.length + 2) s

end Flowboard.Json.Reader
