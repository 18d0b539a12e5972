import Flowboard.Text.Integer
import Flowboard.Time.Date

/-! Points in time, to the nanosecond, in universal time, and their texts such as
`2024-02-29T12:30:00.250Z`. -/
namespace Flowboard

namespace Timestamp

/-- Seconds of a day and nanoseconds of a second. The last second of a minute may be followed by a
leap second, which counts as its second thousand million nanoseconds. -/
def ClockValid (second nanos : Nat) : Prop :=
  second < 86400 ∧ (nanos < 1000000000 ∨ (nanos < 2000000000 ∧ second % 60 = 59))

instance (second nanos : Nat) : Decidable (ClockValid second nanos) := by
  unfold ClockValid; infer_instance

theorem clockValid_midnight : ClockValid 0 0 := by decide

theorem clockValid_noon : ClockValid 43200 0 := by decide

end Timestamp

/-- A point in time. -/
structure Timestamp where
  date : Date
  second : Nat
  nanos : Nat
  valid : Timestamp.ClockValid second nanos
  deriving DecidableEq

namespace Timestamp

def of? (date : Date) (second nanos : Nat) : Option Timestamp :=
  if h : ClockValid second nanos then some ⟨date, second, nanos, h⟩ else none

/-- Whether one point in time comes before another. -/
def before (a b : Timestamp) : Bool :=
  a.date.before b.date || (a.date == b.date &&
    (a.second < b.second || (a.second == b.second && a.nanos < b.nanos)))

/-- A clock's reading, moved to universal time from a zone that is `offset` seconds ahead of it.
Offsets are whole minutes and less than a day. -/
def ofLocal? (date : Date) (second nanos : Nat) (offset : Int) : Option Timestamp :=
  let moved : Int := second - offset
  if moved < 0 then date.prev?.bind fun d => of? d (moved + 86400).toNat nanos
  else if moved < 86400 then of? date moved.toNat nanos
  else date.next?.bind fun d => of? d (moved - 86400).toNat nanos

end Timestamp

open Text (padded)

/-- Four digits, or a sign and at least four digits outside the years 0 to 9999. -/
def Date.yearText (year : Int) : List Char :=
  if 0 ≤ year ∧ year ≤ 9999 then padded 4 year.toNat
  else (if year < 0 then '-' else '+') :: padded 4 year.natAbs

def Date.text (d : Date) : List Char :=
  yearText d.year ++ '-' :: padded 2 d.month ++ '-' :: padded 2 d.day

namespace Timestamp

/-- The fraction of a second in as many groups of three digits as it needs. -/
def fractionText (nanos : Nat) : List Char :=
  if nanos = 0 then []
  else if nanos % 1000000 = 0 then '.' :: padded 3 (nanos / 1000000)
  else if nanos % 1000 = 0 then '.' :: padded 6 (nanos / 1000)
  else '.' :: padded 9 nanos

/-- The time of the day. A leap second is the sixtieth one of its minute. -/
def clockText (t : Timestamp) : List Char :=
  padded 2 (t.second / 3600) ++ ':' :: padded 2 (t.second / 60 % 60) ++
    ':' :: padded 2 (t.second % 60 + t.nanos / 1000000000) ++ fractionText (t.nanos % 1000000000)

/-- The text of a point in time, with the given name for universal time. -/
def textWith (zone : List Char) (t : Timestamp) : List Char :=
  t.date.text ++ 'T' :: t.clockText ++ zone

def text (t : Timestamp) : String :=
  String.ofList (t.textWith ['Z'])

/-- The text with universal time as an offset. -/
def offsetText (t : Timestamp) : String :=
  String.ofList (t.textWith "+00:00".toList)

end Timestamp

end Flowboard
