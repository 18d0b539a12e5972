import Flowboard.Text.Integer
import Flowboard.Text.Octet

/-! Seconds since the start of 1970 as days and times, and how formats write them. -/
namespace Flowboard

/-- When runs start, in seconds since the start of 1970. -/
def startOfRuns : Int := 1781524800

/-- How far the clocks of a place are from universal time, in seconds, and what that is called. -/
structure Offset where
  seconds : Int := 0
  name : String := "UTC"
  /-- it is the one of summer -/
  summer : Bool := false
  deriving DecidableEq, Repr

/-- A second of a day of the calendar. -/
structure Moment where
  year : Int
  month : Nat
  day : Nat
  hour : Nat
  minute : Nat
  second : Nat
  /-- days since Sunday -/
  weekday : Nat
  /-- days since the first of January -/
  yearDay : Nat
  /-- seconds since the start of 1970 -/
  seconds : Int
  nanos : Nat := 0
  offset : Offset := {}
  /-- how many digits its year is written with at least -/
  yearDigits : Nat := 1
  deriving Repr

namespace Moment

/-- The year, month and day that lie a number of days after the first of January 1970. Years are
counted from March, so that a leap day is the last day of its year. -/
def dateOf (days : Int) : Int × Nat × Nat :=
  let shifted := days + 719468
  let cycle := Int.fdiv shifted 146097
  let inCycle := (shifted - cycle * 146097).toNat
  let year := (inCycle - inCycle / 1460 + inCycle / 36524 - inCycle / 146096) / 365
  let inYear := inCycle - (365 * year + year / 4 - year / 100)
  let month := (5 * inYear + 2) / 153
  let day := inYear - (153 * month + 2) / 5 + 1
  let late : Bool := 10 ≤ month
  ((year : Int) + cycle * 400 + (if late then 1 else 0), if late then month - 9 else month + 3, day)

/-- The days from the first of January 1970 to a day. -/
def daysTo (year : Int) (month day : Nat) : Int :=
  let early : Bool := month ≤ 2
  let year := if early then year - 1 else year
  let cycle := Int.fdiv year 400
  let inCycle := (year - cycle * 400).toNat
  let inYear := (153 * (if early then month + 9 else month - 3) + 2) / 5 + day - 1
  cycle * 146097 + ((inCycle * 365 + inCycle / 4 - inCycle / 100 + inYear : Nat) : Int) - 719468

def ofSeconds (seconds : Int) : Moment :=
  let days := Int.fdiv seconds 86400
  let inDay := (seconds - days * 86400).toNat
  let (year, month, day) := dateOf days
  { year, month, day
    hour := inDay / 3600
    minute := inDay / 60 % 60
    second := inDay % 60
    weekday := ((days + 4) % 7).toNat
    yearDay := (days - daysTo year 1 1).toNat
    seconds }

def ofParts (year : Int) (month day hour minute second : Nat) : Moment :=
  ofSeconds (daysTo year month day * 86400 + ((hour * 3600 + minute * 60 + second : Nat) : Int))

def weekdayNames : List String :=
  ["Sunday", "Monday", "Tuesday", "Wednesday", "Thursday", "Friday", "Saturday"]

def monthNames : List String :=
  ["January", "February", "March", "April", "May", "June", "July", "August", "September", "October",
   "November", "December"]

/-- The number of the week that a day is in, whose first day is a Thursday's year's: the week of
the standard, and the year it belongs to. -/
def week (m : Moment) : Int × Nat :=
  let days := Int.fdiv (m.seconds + m.offset.seconds) 86400
  let fromMonday := (m.weekday + 6) % 7
  let thursday := days - fromMonday + 3
  let (year, _, _) := dateOf thursday
  (year, (thursday - daysTo year 1 1).toNat / 7 + 1)

/-- The hour on a clock with twelve hours. -/
def clockHour (m : Moment) : Nat :=
  if m.hour % 12 = 0 then 12 else m.hour % 12

/-- The moment as the clocks of a place show it. -/
def within (offset : Offset) (seconds : Int) : Moment :=
  { ofSeconds (seconds + offset.seconds) with seconds, offset }

/-- What stands for a letter: a number in a field of some width, or a text. -/
inductive Field where
  | number (fill : Char) (width : Nat) (n : Int)
  | text (t : String)
  deriving Repr

/-- What a letter after a percent sign stands for. -/
def field? (m : Moment) (letter : Char) : Option Field :=
  let weekday := weekdayNames.getD m.weekday ""
  let month := monthNames.getD (m.month - 1) ""
  let start (s : String) : Field := .text (String.ofList (s.toList.take 3))
  let zeros (width n : Nat) : Field := .number '0' width n
  match letter with
  | 'Y' => some (.number '0' m.yearDigits m.year)
  | 'G' => some (.number '0' m.yearDigits m.week.1)
  | 'C' => some (.number '0' (min 2 m.yearDigits) (Int.fdiv m.year 100))
  | 'y' => some (zeros 2 (Int.fmod m.year 100).toNat)
  | 'g' => some (zeros 2 (Int.fmod m.week.1 100).toNat)
  | 'm' => some (zeros 2 m.month)
  | 'd' => some (zeros 2 m.day)
  | 'e' => some (.number ' ' 2 m.day)
  | 'H' => some (zeros 2 m.hour)
  | 'I' => some (zeros 2 m.clockHour)
  | 'k' => some (.number ' ' 2 m.hour)
  | 'l' => some (.number ' ' 2 m.clockHour)
  | 'M' => some (zeros 2 m.minute)
  | 'S' => some (zeros 2 m.second)
  | 'q' => some (zeros 1 ((m.month + 2) / 3))
  | 'p' => some (.text (if m.hour < 12 then "AM" else "PM"))
  | 'P' => some (.text (if m.hour < 12 then "am" else "pm"))
  | 'j' => some (zeros 3 (m.yearDay + 1))
  | 'a' => some (start weekday)
  | 'A' => some (.text weekday)
  | 'b' | 'h' => some (start month)
  | 'B' => some (.text month)
  | 'u' => some (zeros 1 (if m.weekday = 0 then 7 else m.weekday))
  | 'w' => some (zeros 1 m.weekday)
  | 'U' => some (zeros 2 ((m.yearDay + 7 - m.weekday) / 7))
  | 'W' => some (zeros 2 ((m.yearDay + 7 - (m.weekday + 6) % 7) / 7))
  | 'V' => some (zeros 2 m.week.2)
  | 's' => some (.number '0' 1 m.seconds)
  | 'Z' => some (.text m.offset.name)
  | 'n' => some (.text "\n")
  | 't' => some (.text "\t")
  | '%' => some (.text "%")
  | _ => none

/-- The distance from universal time, with as many colons as are asked for. -/
def offsetText (m : Moment) (colons : Nat) : String :=
  let n := m.offset.seconds.natAbs
  let two (n : Nat) : String := String.ofList (Text.padded 2 n)
  let sign := if m.offset.seconds < 0 then "-" else "+"
  let hours := two (n / 3600)
  let minutes := two (n / 60 % 60)
  let seconds := two (n % 60)
  match colons with
  | 0 => sign ++ hours ++ minutes
  | 1 => sign ++ hours ++ ":" ++ minutes
  | 2 => sign ++ hours ++ ":" ++ minutes ++ ":" ++ seconds
  | _ =>
    sign ++ hours ++ (if n % 3600 = 0 then "" else ":" ++ minutes) ++
      (if n % 60 = 0 then "" else ":" ++ seconds)

/-- The letters that stand for several others. -/
def joined (letter : Char) : Option String :=
  match letter with
  | 'F' => some "%Y-%m-%d"
  | 'T' => some "%H:%M:%S"
  | 'X' => some "%H:%M:%S"
  | 'R' => some "%H:%M"
  | 'D' => some "%m/%d/%y"
  | 'x' => some "%m/%d/%y"
  | 'r' => some "%I:%M:%S %p"
  | 'c' => some "%a %b %e %H:%M:%S %Y"
  | _ => none

/-- What stands between a percent sign and its letter. -/
structure Marks where
  flags : List Char
  width : Option Nat
  colons : Nat

/-- A field with its marks: `-` leaves out what fills it up, `_` and `0` tell what fills it up, `^`
makes capital letters and `#` the other ones. -/
def Field.shown (f : Field) (marks : Marks) : List Char :=
  let fills := marks.flags.filter "_-0+".toList.contains
  let fill? := fills.getLast?
  let cased (t : List Char) : List Char :=
    if marks.flags.contains '^' then t.map Char.toUpper
    else if marks.flags.contains '#' then
      if t.all fun c => !c.isLower then t.map Char.toLower else t.map Char.toUpper
    else t
  let padded (c : Char) (width : Nat) (t : List Char) : List Char :=
    List.replicate (width - t.length) c ++ t
  match f with
  | .number fill width n =>
    let digits := Nat.toDigits 10 n.natAbs
    let sign := if n < 0 then ['-'] else []
    match fill? with
    | some '-' => sign ++ digits
    | some '_' => padded ' ' (marks.width.getD width) (sign ++ digits)
    | some _ =>
      sign ++ padded '0' (marks.width.getD width - sign.length) digits
    | none =>
      if fill = '0' then sign ++ padded '0' (marks.width.getD width - sign.length) digits
      else padded fill (marks.width.getD width) (sign ++ digits)
  | .text t =>
    if fill? = some '-' then cased t.toList
    else padded (if fill? = some '0' then '0' else ' ') (marks.width.getD 0) (cased t.toList)

/-- A format whose letters stand for one thing each. -/
def simpleText (m : Moment) : List Char → List Char
  | '%' :: c :: rest =>
    (match m.field? c with
      | some f => f.shown ⟨[], none, 0⟩
      | none => ['%', c]) ++ simpleText m rest
  | c :: rest => c :: simpleText m rest
  | [] => []

/-- Reads the marks after a percent sign. -/
def marksOf (s : List Char) : Marks × List Char :=
  let flags := s.takeWhile "_-0+^#".toList.contains
  let s := s.drop flags.length
  let digits := s.takeWhile Char.isDigit
  let s := s.drop digits.length
  let s := match s with
    | 'E' :: rest => rest
    | 'O' :: rest => rest
    | s => s
  let colons := s.takeWhile (· == ':')
  (⟨flags, Text.natural? digits, colons.length⟩, s.drop colons.length)

/-- What a format makes of a moment. Each character uses up one of the fuel. -/
def textWithin (m : Moment) : Nat → List Char → List Char
  | 0, s => s
  | fuel + 1, '%' :: s =>
    let (marks, rest) := marksOf s
    match rest with
    | 'z' :: rest =>
      Field.shown (.text (m.offsetText marks.colons)) marks ++ m.textWithin fuel rest
    | 'N' :: rest =>
      -- the first digits of billionths
      let width := marks.width.getD 9
      (Text.padded 9 m.nanos ++ List.replicate (width - 9) '0').take width ++ m.textWithin fuel rest
    | c :: rest =>
      let same := Field.text ("%" ++ String.ofList (s.take (s.length - rest.length)))
      let own := match joined c, m.field? c with
        | some format, _ =>
          Field.shown (.text (String.ofList (m.simpleText format.toList))) marks
        | none, some f => if marks.colons = 0 then f.shown marks else same.shown marks
        | none, none => same.shown marks
      own ++ m.textWithin fuel rest
    | [] => Field.shown (.text ("%" ++ String.ofList s)) marks
  | fuel + 1, c :: rest => c :: m.textWithin fuel rest
  | _, [] => []

/-- What a format makes of a moment. -/
def text (m : Moment) (format : List Char) : List Char :=
  m.textWithin (format.length + 1) format

end Moment

end Flowboard
