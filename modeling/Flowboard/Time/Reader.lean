import Flowboard.Double.Basic
import Flowboard.Text.Blank
import Flowboard.Text.Integer
import Flowboard.Time.Timestamp

/-! Points in time from text. Blanks may stand before numbers and separators, numbers need no
leading zeros, and a zone has to be given. -/
namespace Flowboard

/-- Why a text is no point in time. -/
inductive TimeFault where
  | tooShort
  | invalid
  | outOfRange
  | trailing
  | impossible
  deriving DecidableEq, Repr

def TimeFault.message : TimeFault → String
  | tooShort => "premature end of input"
  | invalid => "input contains invalid characters"
  | outOfRange => "input is out of range"
  | trailing => "trailing input"
  | impossible => "no possible date and time matching input"

namespace Timestamp.Reader

open Text (digit? trimLeft isBlank)

/-- Reads up to `width` more digits onto `acc`, which has to stay within 63 bits. -/
def moreDigits : Nat → Nat → List Char → Except TimeFault (Nat × List Char)
  | 0, acc, s => .ok (acc, s)
  | _, acc, [] => .ok (acc, [])
  | width + 1, acc, c :: s =>
    match digit? c with
    | none => .ok (acc, c :: s)
    | some d =>
      if 10 * acc + d < twoTo 63 then moreDigits width (10 * acc + d) s else .error .outOfRange

/-- A numeral of one to `width` digits. -/
def numeral (width : Nat) (s : List Char) : Except TimeFault (Nat × List Char) :=
  match s with
  | [] => .error .tooShort
  | c :: _ => if c.isDigit then moreDigits width 0 s else .error .invalid

/-- A numeral after blanks, within bounds. -/
def bounded (width least greatest : Nat) (s : List Char) : Except TimeFault (Nat × List Char) := do
  let (n, s) ← numeral width (trimLeft s)
  if least ≤ n ∧ n ≤ greatest then .ok (n, s) else .error .outOfRange

/-- A year has at most four digits, unless it has a sign. -/
def year (s : List Char) : Except TimeFault (Int × List Char) := do
  let (n, s) ← match trimLeft s with
    | '-' :: s => do let (n, s) ← numeral s.length s; .ok (-(n : Int), s)
    | '+' :: s => do let (n, s) ← numeral s.length s; .ok ((n : Int), s)
    | s => do let (n, s) ← numeral 4 s; .ok ((n : Int), s)
  if -(twoTo 31 : Int) ≤ n ∧ n < twoTo 31 then .ok (n, s) else .error .outOfRange

/-- A separator, after blanks. -/
def separator (c : Char) (s : List Char) : Except TimeFault (List Char) :=
  match trimLeft s with
  | [] => .error .tooShort
  | d :: s => if d = c then .ok s else .error .invalid

/-- A fraction of a second in nanoseconds, if there is one. Digits after the ninth are dropped. -/
def fraction : List Char → Except TimeFault (Nat × List Char)
  | '.' :: s => do
    let (n, rest) ← numeral 9 s
    .ok (n * tenTo (9 - (s.length - rest.length)), rest.dropWhile Char.isDigit)
  | s => .ok (0, s)

/-- Two characters, which take at least two bytes. -/
def pair : List Char → Except TimeFault (Char × Char × List Char)
  | [] => .error .tooShort
  | [c] => if c.utf8Size < 2 then .error .tooShort else .error .invalid
  | a :: b :: s => .ok (a, b, s)

/-- The hours and minutes of an offset, in seconds. -/
def offset (s : List Char) : Except TimeFault (Nat × List Char) := do
  let (a, b, s) ← pair s
  let hours ← match digit? a, digit? b with
    | some a, some b => .ok (10 * a + b)
    | _, _ => .error .invalid
  let (a, b, s) ← pair (s.dropWhile fun c => c == ':' || isBlank c)
  let minutes ← match digit? a, digit? b with
    | some a, some b => if a < 6 then .ok (10 * a + b) else .error .outOfRange
    | _, _ => .error .invalid
  .ok (3600 * hours + 60 * minutes, s)

/-- The zone: how many seconds it is ahead of universal time. -/
def zone (s : List Char) : Except TimeFault (Int × List Char) :=
  match s with
  | [] => .error .tooShort
  | '+' :: s => do let (n, s) ← offset s; .ok ((n : Int), s)
  | '-' :: s => do let (n, s) ← offset s; .ok (-(n : Int), s)
  | '−' :: s => do let (n, s) ← offset s; .ok (-(n : Int), s)
  | c :: s =>
    if c = 'Z' ∨ c = 'z' then .ok (0, s)
    else if (c :: s.take 2).map Char.toUpper = ['U', 'T', 'C'] then .ok (0, s.drop 2)
    else .error .invalid

/-- What divides the day from the time. -/
def divider : List Char → Except TimeFault (List Char)
  | [] => .error .tooShort
  | c :: s => if c = 'T' ∨ c = 't' ∨ c = ' ' then .ok s else .error .invalid

/-- What a text says about a point in time, each number within its own bounds. -/
structure Reading where
  year : Int
  month : Nat
  day : Nat
  hour : Nat
  minute : Nat
  second : Nat
  nanos : Nat
  offset : Int

def reading (s : List Char) : Except TimeFault Reading := do
  let (year, s) ← year s
  let s ← separator '-' s
  let (month, s) ← bounded 2 1 12 s
  let s ← separator '-' s
  let (day, s) ← bounded 2 1 31 s
  let s ← divider s
  let (hour, s) ← bounded 2 0 23 s
  let s ← separator ':' s
  let (minute, s) ← bounded 2 0 59 s
  let s ← separator ':' s
  let (second, s) ← bounded 2 0 60 s
  let (nanos, s) ← fraction s
  let (offset, s) ← zone (trimLeft s)
  if (trimLeft s).isEmpty then .ok ⟨year, month, day, hour, minute, second, nanos, offset⟩
  else .error .trailing

/-- The point in time for a reading. The sixtieth second is a leap second. -/
def Reading.timestamp (r : Reading) : Except TimeFault Timestamp :=
  let leap := r.second = 60
  let second := 3600 * r.hour + 60 * r.minute + (if leap then 59 else r.second)
  let nanos := if leap then r.nanos + 1000000000 else r.nanos
  match Date.of? r.year r.month r.day with
  | none => .error .outOfRange
  | some date =>
    if 86400 ≤ r.offset.natAbs then .error .outOfRange
    else
      match ofLocal? date second nanos r.offset with
      | some t => .ok t
      | none => .error .impossible

end Timestamp.Reader

/-- The point in time that a text names. -/
def Timestamp.parse (s : String) : Except TimeFault Timestamp := do
  (← Reader.reading s.toList).timestamp

end Flowboard
