import Flowboard.Time.Zone

/-! Moments as people write them: days, times, zones and distances, one after the other in nearly
any order. -/
namespace Flowboard.Phrase

/-- A unit of distances. -/
inductive Unit where
  | year
  | month
  | day
  | hour
  | minute
  | second
  deriving DecidableEq, Repr

/-- A part of a phrase. -/
inductive Token where
  | number (n : Nat) (digits : Nat)
  | signed (n : Int) (digits : Nat)
  /-- seconds with so many billionths -/
  | fraction (seconds : Int) (nanos : Nat) (isSigned : Bool)
  | month (n : Nat)
  | weekday (n : Nat)
  | ordinal (n : Int)
  | unit (u : Unit) (factor : Int)
  /-- so many days from the present one -/
  | shift (n : Int)
  /-- turns a distance around, or leaves it as it is -/
  | ago (n : Int)
  | zone (minutes : Int) (summer : Bool)
  | mark (c : Char)
  | unknown
  deriving DecidableEq, Repr

def monthWords : List (String × Nat) :=
  ["JANUARY", "FEBRUARY", "MARCH", "APRIL", "MAY", "JUNE", "JULY", "AUGUST", "SEPTEMBER",
   "OCTOBER", "NOVEMBER", "DECEMBER"].zip ((List.range 12).map (· + 1)) ++ [("SEPT", 9)]

def weekdayWords : List (String × Nat) :=
  [("SUNDAY", 0), ("MONDAY", 1), ("TUESDAY", 2), ("TUES", 2), ("WEDNESDAY", 3), ("WEDNES", 3),
   ("THURSDAY", 4), ("THUR", 4), ("THURS", 4), ("FRIDAY", 5), ("SATURDAY", 6)]

def unitWords : List (String × Unit × Int) :=
  [("YEAR", .year, 1), ("MONTH", .month, 1), ("FORTNIGHT", .day, 14), ("WEEK", .day, 7),
   ("DAY", .day, 1), ("HOUR", .hour, 1), ("MINUTE", .minute, 1), ("MIN", .minute, 1),
   ("SECOND", .second, 1), ("SEC", .second, 1)]

def otherWords : List (String × Token) :=
  [("TOMORROW", .shift 1), ("YESTERDAY", .shift (-1)), ("TODAY", .shift 0), ("NOW", .shift 0),
   ("LAST", .ordinal (-1)), ("THIS", .ordinal 0), ("NEXT", .ordinal 1), ("FIRST", .ordinal 1),
   ("THIRD", .ordinal 3), ("FOURTH", .ordinal 4), ("FIFTH", .ordinal 5), ("SIXTH", .ordinal 6),
   ("SEVENTH", .ordinal 7), ("EIGHTH", .ordinal 8), ("NINTH", .ordinal 9), ("TENTH", .ordinal 10),
   ("ELEVENTH", .ordinal 11), ("TWELFTH", .ordinal 12), ("AGO", .ago (-1)), ("HENCE", .ago 1)]

/-- The names of zones with their distances from universal time in minutes. -/
def zoneWords : List (String × Int) :=
  [("GMT", 0), ("UT", 0), ("UTC", 0), ("WET", 0), ("ART", -180), ("BRT", -180), ("NST", -210),
   ("AST", -240), ("CLT", -240), ("EST", -300), ("CST", -360), ("MST", -420), ("PST", -480),
   ("AKST", -540), ("HST", -600), ("HAST", -600), ("SST", -720), ("WAT", 60), ("CET", 60),
   ("MET", 60), ("MEZ", 60), ("EET", 120), ("CAT", 120), ("SAST", 120), ("EAT", 180),
   ("MSK", 180), ("IST", 330), ("SGT", 480), ("KST", 540), ("JST", 540), ("GST", 600),
   ("NZST", 720)]

/-- The same for names of summer times, with the distances that hold in winter. -/
def summerWords : List (String × Int) :=
  [("WEST", 0), ("BST", 0), ("BRST", -180), ("NDT", -210), ("ADT", -240), ("CLST", -240),
   ("EDT", -300), ("CDT", -360), ("MDT", -420), ("PDT", -480), ("AKDT", -540), ("HADT", -600),
   ("CEST", 60), ("MEST", 60), ("MESZ", 60), ("EEST", 120), ("MSD", 180), ("NZDT", 720)]

def zoneToken? (w : String) : Option Token :=
  ((zoneWords.lookup w).map fun m => Token.zone m false).or
    ((summerWords.lookup w).map fun m => Token.zone m true)

/-- The token of a word in capital letters. -/
def wordToken (w : String) : Token :=
  let cs := w.toList
  let short : Option String := match cs with
    | [a, b, c] => some (String.ofList [a, b, c])
    | _ => none
  let named {α : Type} (table : List (String × α)) : Option α :=
    match short with
    | some s => (table.find? fun e => String.ofList (e.1.toList.take 3) == s).map (·.2)
    | none => table.lookup w
  let unitOf (w : String) : Option Token :=
    (unitWords.lookup w).map fun (u, n) => .unit u n
  let bare := w.replace "." ""
  let found : List (Option Token) :=
    [(named monthWords).map .month, (named weekdayWords).map .weekday, zoneToken? w, unitOf w,
     if cs.getLast? == some 'S' then unitOf (String.ofList cs.dropLast) else none,
     otherWords.lookup w,
     none,
     zoneToken? bare]
  (found.findSome? id).getD .unknown

/-- Reads digits, with a fraction after them. The sign is already known. -/
def numberToken (sign : Option Bool) (s : List Char) : Token × List Char :=
  let digits := s.takeWhile Char.isDigit
  let rest := s.drop digits.length
  let n := (Text.natural? digits).getD 0
  let whole : Token := match sign with
    | none => .number n digits.length
    | some minus => .signed (if minus then -(n : Int) else n) digits.length
  let fraction (parts rest : List Char) : Token × List Char :=
    let nanos := (Text.natural? ((parts ++ List.replicate 9 '0').take 9)).getD 0
    let (seconds, nanos) : Int × Nat :=
      if sign = some true then
        if nanos = 0 then (-(n : Int), 0) else (-(n : Int) - 1, 1000000000 - nanos)
      else (n, nanos)
    (.fraction seconds nanos sign.isSome, rest)
  match rest with
  | c :: d :: more =>
    if (c = '.' || c = ',') && d.isDigit then
      let parts := (d :: more).takeWhile Char.isDigit
      fraction parts ((d :: more).drop parts.length)
    else (whole, rest)
  | _ => (whole, rest)

/-- What follows a bracket, which can hold others. -/
def afterBracket : Nat → List Char → List Char
  | _, [] => []
  | 0, s => s
  | n + 1, '(' :: s => afterBracket (n + 2) s
  | n + 1, ')' :: s => afterBracket n s
  | n + 1, _ :: s => afterBracket (n + 1) s

/-- The tokens of a phrase. Each character uses up one of the fuel. -/
def tokens : Nat → List Char → List Token
  | 0, _ => []
  | _, [] => []
  | fuel + 1, c :: rest =>
    if c.isWhitespace || c = '\x0b' || c = '\x0c' then tokens fuel rest
    else if c = '-' || c = '+' then
      let rest := rest.dropWhile Char.isWhitespace
      match rest with
      | d :: _ =>
        if d.isDigit then
          let (t, rest) := numberToken (some (c == '-')) rest
          t :: tokens fuel rest
        else tokens fuel rest
      | [] => []
    else if c.isDigit then
      let (t, rest) := numberToken none (c :: rest)
      t :: tokens fuel rest
    else if c.isAlpha then
      let word := (c :: rest).takeWhile fun d => d.isAlpha || d == '.'
      wordToken (String.ofList (word.map Char.toUpper)) :: tokens fuel (rest.drop (word.length - 1))
    else if c = '(' then tokens fuel (afterBracket 1 rest)
    else .mark c :: tokens fuel rest

/-- A year as it is written: one with two digits lies between 1969 and 2068. -/
structure Year where
  value : Int
  digits : Nat := 4
  deriving DecidableEq, Repr

def Year.full (y : Year) : Int :=
  if y.digits = 2 && 0 ≤ y.value then y.value + (if y.value < 69 then 2000 else 1900) else y.value

/-- A distance. -/
structure Distance where
  year : Int := 0
  month : Int := 0
  day : Int := 0
  hour : Int := 0
  minute : Int := 0
  second : Int := 0
  nanos : Int := 0
  deriving DecidableEq, Repr

def Distance.add (d : Distance) (u : Unit) (n : Int) : Distance :=
  match u with
  | .year => { d with year := d.year + n }
  | .month => { d with month := d.month + n }
  | .day => { d with day := d.day + n }
  | .hour => { d with hour := d.hour + n }
  | .minute => { d with minute := d.minute + n }
  | .second => { d with second := d.second + n }

/-- What has been said so far. -/
structure Said where
  date : Option (Year × Nat × Nat) := none
  dates : Nat := 0
  time : Option (Nat × Nat × Nat × Nat) := none
  meridian : Option Bool := none
  times : Nat := 0
  /-- the day of the week, and which one of those to come -/
  weekday : Option (Int × Nat) := none
  weekdays : Nat := 0
  /-- seconds from universal time -/
  zone : Option Int := none
  zones : Nat := 0
  distance : Distance := {}
  distances : Nat := 0

namespace Said

def withDate (s : Said) (y : Option Year) (m d : Nat) (present : Year) : Said :=
  { s with date := some (y.getD present, m, d), dates := s.dates + 1 }

def withTime (s : Said) (h m sec nanos : Nat) (meridian : Option Bool) : Said :=
  { s with time := some (h, m, sec, nanos), meridian, times := s.times + 1 }

def withZone (s : Said) (seconds : Int) : Said :=
  { s with zone := some seconds, zones := s.zones + 1 }

def withDistance (s : Said) (u : Unit) (n : Int) : Said :=
  { s with distance := s.distance.add u n, distances := s.distances + 1 }

end Said

/-- The distance of a zone in seconds, written as hours, or as hours and minutes. -/
def zoneOf? (n : Int) (digits : Nat) (minutes : Option Nat) : Option Int :=
  let total : Int := match minutes with
    | some m => n * 60 + (if n < 0 then -(m : Int) else m)
    | none => if digits ≤ 2 then n * 60 else Int.tdiv n 100 * 60 + Int.tmod n 100
  if total.natAbs ≤ 1440 then some (total * 60) else none

/-- Reads what may follow a time: a zone. -/
def readZoneAfter (s : Said) : List Token → Option (Said × List Token)
  | .signed n digits :: .mark ':' :: .number m _ :: rest =>
    (zoneOf? n digits (some m)).map fun z => (s.withZone z, rest)
  | .signed n digits :: rest => (zoneOf? n digits none).map fun z => (s.withZone z, rest)
  | rest => some (s, rest)

/-- Reads a time after its hour. -/
def readTime (s : Said) (h : Nat) (rest : List Token) : Option (Said × List Token) :=
  match rest with
  | .number m _ :: .mark ':' :: .number sec _ :: rest =>
    readZoneAfter (s.withTime h m sec 0 none) rest
  | .number m _ :: .mark ':' :: .fraction sec nanos false :: rest =>
    readZoneAfter (s.withTime h m sec.toNat nanos none) rest
  | .number _ _ :: .mark ':' :: _ => none
  | .number m _ :: rest => readZoneAfter (s.withTime h m 0 0 none) rest
  | _ => none

/-- Takes a distance, which a word after it may turn around. -/
def readDistance (s : Said) (u : Unit) (n : Int) : List Token → Said × List Token
  | .ago f :: rest => (s.withDistance u (n * f), rest)
  | rest => (s.withDistance u n, rest)

/-- Reads one thing that a phrase says. The year that is not said is the present one, and it is
still open while `yearIsOpen` holds. -/
def readOne (present : Year) (yearIsOpen : Bool) (s : Said) (ts : List Token) :
    Option (Said × List Token × Bool) :=
  let closed (r : Option (Said × List Token)) : Option (Said × List Token × Bool) :=
    r.map fun (s, rest) => (s, rest, yearIsOpen)
  let distance (u : Unit) (n : Int) (rest : List Token) : Option (Said × List Token × Bool) :=
    closed (some (readDistance s u n rest))
  match ts with
  -- days
  | .number y k :: .signed m _ :: .signed d _ :: rest =>
    some (s.withDate (some ⟨y, k⟩) m.natAbs d.natAbs present, rest, false)
  | .number d _ :: .month m :: .number y k :: rest =>
    some (s.withDate (some ⟨y, k⟩) m d present, rest, false)
  | .number h _ :: .mark ':' :: rest => closed (readTime s h rest)
  | .unit u f :: rest => distance u f rest
  | _ => none

/-- Reads everything that a phrase says. Each token uses up one of the fuel. -/
def readAll (present : Year) : Nat → Bool → Said → List Token → Option Said
  | _, _, s, [] => some s
  | 0, _, _, _ => none
  | fuel + 1, yearIsOpen, s, ts =>
    (readOne present yearIsOpen s ts).bind fun (s, rest, yearIsOpen) =>
      readAll present fuel yearIsOpen s rest

/-- The hour of a clock with a mark for its half of the day. -/
def hourOf? (hour : Nat) : Option Bool → Option Nat
  | none => if hour < 24 then some hour else none
  | some late =>
    if 0 < hour && hour < 12 then some (if late then hour + 12 else hour)
    else if hour = 12 then some (if late then 12 else 0)
    else none

/-- The seconds that the clocks show at the start of a day, whose month can be any number. -/
def shownAt (year month day : Int) : Int :=
  let year' := year + Int.fdiv (month - 1) 12
  let month' := (Int.fmod (month - 1) 12).toNat + 1
  (Moment.daysTo year' month' 1 + day - 1) * 86400

/-- The moment that is said, in seconds and billionths, if there is one. -/
def Said.moment? (s : Said) (zone : Zone) (now : Moment) : Option (Int × Nat) := do
  if 1 < s.times || 1 < s.dates || 1 < s.weekdays || 1 < s.zones then none
  let keepsTime : Bool := s.times = 0 && s.distances ≠ 0 && s.dates = 0 && s.weekdays = 0
  let (year, month, day) := match s.date with
    | some (y, m, d) => (y.full, m, d)
    | none => (now.year, now.month, now.day)
  let (h, m, sec, nanos) := match s.time with
    | some t => t
    | none => if keepsTime then (now.hour, now.minute, now.second, now.nanos) else (0, 0, 0, 0)
  let h ← hourOf? h (if s.time.isSome then s.meridian else none)
  if 59 < m || 59 < sec then none
  let start := Moment.ofParts year month day 0 0 0
  if month = 0 || 12 < month || start.month ≠ month || start.day ≠ day then none
  let inDay : Int := ((h * 3600 + m * 60 + sec : Nat) : Int)
  if s.zone.isNone then
    let shown := shownAt year month day + inDay
    let seconds := zone.secondsOf shown false
    if seconds + (zone.offsetAt seconds).seconds ≠ shown then none
  -- the day of the week, if no day is said
  let day : Int := match s.weekday with
    | some (n, w) =>
      if s.dates ≠ 0 then day
      else
        let n := if 0 < n && start.weekday ≠ w then n - 1 else n
        (day : Int) + ((w + 7 - start.weekday) % 7 : Nat) + n * 7
    | none => day
  let d := s.distance
  let shown := shownAt (year + d.year) (month + d.month) (day + d.day) + inDay
  let seconds := match s.zone with
    | some z => shown - z
    | none => zone.secondsOf shown false
  let nanos := (nanos : Int) + d.nanos
  let seconds := seconds + d.hour * 3600 + d.minute * 60 + d.second + Int.fdiv nanos 1000000000
  return (seconds, (Int.fmod nanos 1000000000).toNat)

/-- The moment that a phrase stands for where the clocks show a moment, in seconds and billionths. A
number after an at sign counts seconds. -/
def parse? (zone : Zone) (now : Moment) (phrase : List Char) : Option (Int × Nat) :=
  let phrase := phrase.dropWhile Char.isWhitespace
  match phrase with
  | '@' :: rest =>
    match tokens (rest.length + 1) rest with
    | [.number n _] => some (n, 0)
    | [.signed n _] => some (n, 0)
    | [.fraction n nanos _] => some (n, nanos)
    | _ => none
  | _ =>
    let ts := tokens (phrase.length + 1) phrase
    (readAll ⟨now.year, 4⟩ (ts.length + 1) false {} ts).bind fun s => s.moment? zone now

end Flowboard.Phrase
