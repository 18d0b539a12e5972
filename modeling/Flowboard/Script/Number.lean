import Flowboard.Double.Printer
import Flowboard.Text.Case
import Flowboard.Text.Integer
import Flowboard.Text.Traits

/-! Numbers of scripts: integers without bounds and binary64 numbers. -/
namespace Flowboard.Script

/-- Blanks between words. -/
def isSpace (c : Char) : Bool :=
  c == ' ' || ('\t' ≤ c && c ≤ '\r') || ('\x1c' ≤ c && c ≤ '\x1f') || c == '\u0085' ||
    c == '\u00a0' || c == '\u1680' || ('\u2000' ≤ c && c ≤ '\u200a') || c == '\u2028' ||
    c == '\u2029' || c == '\u202f' || c == '\u205f' || c == '\u3000'

def isLetter (c : Char) : Bool :=
  if c.toNat < 128 then c.isAlpha else Text.isOfClass 'L' c

def isLetterOrDigit (c : Char) : Bool :=
  isLetter c || c.isDigit || (127 < c.toNat && Text.isNumeral c)

def startsName (c : Char) : Bool :=
  c == '_' || isLetter c || (127 < c.toNat && Text.category c == "Nl")

def continuesName (c : Char) : Bool :=
  startsName c || c.isDigit ||
    (127 < c.toNat && ["Mn", "Mc", "Nd", "Pc"].contains (Text.category c))

def upper (s : List Char) : List Char :=
  s.flatMap Text.upperOf

/-- Whether upper and lower letters are told apart in a character, as far as endings of words
ask. -/
def isCased (c : Char) : Bool :=
  Text.isUpperCase c || Text.isLowerCase c || Text.category c == "Lt"

/-- Characters that do not count where the end of a word is looked for. -/
def isCaseless (c : Char) : Bool :=
  ['\'', '.', ':', '^', '`', '\u00a8', '\u00ad', '\u00af', '\u00b4', '\u00b7', '\u00b8', '\u2019',
    '\u2018', '\u2024', '\u2027'].contains c ||
    (127 < c.toNat && ["Mn", "Me", "Cf", "Lm", "Sk"].contains (Text.category c))

/-- Lower letters. A sigma that ends a word has a form of its own; `before` are the characters
before, backwards. -/
def lowerFrom (before : List Char) : List Char → List Char
  | [] => []
  | c :: s =>
    let one :=
      if c.toNat = 0x3A3 then
        let after := (s.dropWhile isCaseless).head?
        let ahead := (before.dropWhile isCaseless).head?
        if ahead.any isCased && !after.any isCased then ['\u03c2'] else ['\u03c3']
      else Text.lowerOf c
    one ++ lowerFrom (c :: before) s

def lower (s : List Char) : List Char :=
  if s.all fun c => c.toNat < 128 then s.map Char.toLower
  else if s.any fun c => c.toNat = 0x3A3 then lowerFrom [] s
  else s.flatMap Text.lowerOf

/-- The form of texts in comparisons that do not tell upper from lower letters. -/
def folded (s : List Char) : List Char :=
  s.flatMap Text.foldOf

/-- The first letter of each word upper, the others lower. -/
def titled (s : List Char) : List Char :=
  (s.foldl (fun (acc, before, inside) c =>
    let one := if inside then
        (if c.toNat = 0x3A3 then (lowerFrom before [c]) else Text.lowerOf c)
      else Text.titleOf c
    (one.reverse ++ acc, c :: before, isCased c)) (([] : List Char), ([] : List Char), false)).1.reverse

/-- Upper letters for lower ones, and lower ones for upper ones. -/
def swapped (s : List Char) : List Char :=
  s.flatMap fun c =>
    if Text.isUpperCase c then Text.lowerOf c
    else if Text.isLowerCase c then Text.upperOf c
    else [c]

/-- Whether words start with upper letters and go on with lower ones. -/
def isTitled (s : List Char) : Bool :=
  let (ok, _, seen) := s.foldl (fun (ok, inside, seen) c =>
    if Text.isUpperCase c || Text.category c == "Lt" then (ok && !inside, true, true)
    else if Text.isLowerCase c then (ok && inside, true, true)
    else (ok, false, seen)) (true, false, false)
  ok && seen

/-- The place of the first occurrence of a text, counted from `n`. -/
def positionFrom (what : List Char) : Nat → List Char → Option Nat
  | n, [] => if what.isEmpty then some n else none
  | n, c :: s => if what.isPrefixOf (c :: s) then some n else positionFrom what (n + 1) s

def position? (what s : List Char) : Option Nat :=
  positionFrom what 0 s

def lastPosition? (what s : List Char) : Option Nat :=
  (position? what.reverse s.reverse).map fun n => s.length - n - what.length

/-- Cuts a text at another one, at most `limit` times. -/
def cutAt (mark : List Char) : Nat → Option Nat → List Char → List Char → List (List Char)
  | 0, _, piece, s => [piece.reverse ++ s]
  | _, some 0, piece, s => [piece.reverse ++ s]
  | _, _, piece, [] => [piece.reverse]
  | fuel + 1, limit, piece, c :: s =>
    if mark.isPrefixOf (c :: s) then
      piece.reverse :: cutAt mark fuel (limit.map (· - 1)) [] ((c :: s).drop mark.length)
    else cutAt mark fuel limit (c :: piece) s

/-- Cuts a text at another one. -/
def pieces (mark : List Char) (limit : Option Nat) (s : List Char) : List (List Char) :=
  cutAt mark (s.length + 1) limit [] s

/-- The words between blanks, at most `limit` and the rest. -/
def wordsOf : Nat → Option Nat → List Char → List (List Char)
  | 0, _, _ => []
  | fuel + 1, limit, s =>
    match s.dropWhile isSpace with
    | [] => []
    | s =>
      if limit = some 0 then [s]
      else
        s.takeWhile (fun c => !isSpace c) ::
          wordsOf fuel (limit.map (· - 1)) (s.dropWhile fun c => !isSpace c)

/-- The words between blanks. -/
def words (limit : Option Nat) (s : List Char) : List (List Char) :=
  wordsOf (s.length + 1) limit s

/-- Puts another text for each occurrence of a text, at most `limit` times. -/
def replaced (old new : List Char) (limit : Option Nat) (s : List Char) : List Char :=
  if old.isEmpty then
    let n := limit.getD (s.length + 1)
    let (acc, _) := s.foldl (fun (acc, i) c =>
      (c :: (if i < n then new.reverse ++ acc else acc), i + 1)) (([] : List Char), 0)
    let acc := if s.length < n then new.reverse ++ acc else acc
    acc.reverse
  else new.intercalate (pieces old limit s)

def occurrences (what s : List Char) : Nat :=
  if what.isEmpty then s.length + 1 else (pieces what none s).length - 1

def linesOf (keep : Bool) : Nat → List Char → List Char → List (List Char)
  | 0, piece, _ => [piece.reverse]
  | _, [], [] => []
  | _, piece, [] => [piece.reverse]
  | fuel + 1, piece, '\r' :: '\n' :: s =>
    (if keep then ('\n' :: '\r' :: piece).reverse else piece.reverse) :: linesOf keep fuel [] s
  | fuel + 1, piece, c :: s =>
    if c == '\n' || c == '\r' || c == '\x0b' || c == '\x0c' || ('\x1c' ≤ c && c ≤ '\x1e') ||
        c == '\u0085' || c == '\u2028' || c == '\u2029' then
      (if keep then (c :: piece).reverse else piece.reverse) :: linesOf keep fuel [] s
    else linesOf keep fuel (c :: piece) s

/-- A text without some characters at its start. -/
def stripLeft (p : Char → Bool) (s : List Char) : List Char :=
  s.dropWhile p

def stripRight (p : Char → Bool) (s : List Char) : List Char :=
  (s.reverse.dropWhile p).reverse

def double? (x : Float) : Option Double :=
  let bits := x.toBits.toNat
  let magnitude := bits % twoTo 63
  if h : magnitude < Double.limit then some ⟨twoTo 63 ≤ bits, ⟨magnitude, h⟩⟩ else none

def ofDouble (d : Double) : Float :=
  Float.ofBits (UInt64.ofNat ((if d.negative then twoTo 63 else 0) + d.magnitude.val))

def quotient? (num den : Int) : Option Float :=
  (Double.ofQuotient? num.natAbs den.natAbs).map fun d =>
    ofDouble (if (num < 0) != (den < 0) then d.neg else d)

def floatOfInt? (n : Int) : Option Float :=
  quotient? n 1

/-- Whether the sign bit of a float is set. -/
def isNegative (x : Float) : Bool :=
  twoTo 63 ≤ x.toBits.toNat

/-- A float between integers, as a quotient. -/
def fraction? (x : Float) : Option (Int × Nat) :=
  (double? x).map fun d =>
    (if d.negative then -(d.numerator : Int) else d.numerator, d.denominator)

/-- The integer of a float after its fraction is cut off. -/
def truncated? (x : Float) : Option Int :=
  (fraction? x).map fun (n, d) => Int.tdiv n d

/-- The nearest integer, a half going to the even one. -/
def rounded? (x : Float) : Option Int :=
  (double? x).map fun d =>
    let n := Double.roundDiv d.numerator d.denominator
    if d.negative then -(n : Int) else n

def integral? (x : Float) : Option Int :=
  (fraction? x).bind fun (n, d) => if n % d = 0 then some (n / d) else none

/-- The remainder of finite floats that has the sign of the second one, which is not zero. -/
def floatRemainder (x y : Float) : Float :=
  match fraction? x, fraction? y with
  | some (a, b), some (c, d) =>
    let r := (quotient? (Int.tmod (a * d) (c * b)) (b * d)).getD 0.0
    if r == 0.0 then (if isNegative y then -0.0 else 0.0)
    else if (y < 0.0) != (r < 0.0) then r + y
    else r
  | some _, none =>
    if y.isNaN then y
    else if x == 0.0 then (if isNegative y then -0.0 else 0.0)
    else if (y < 0.0) != (x < 0.0) then y
    else x
  | none, _ => 0.0 / 0.0

/-- The text of a float: the fewest digits that read back, written out for powers of ten from -4 up
to 15. -/
def floatText (x : Float) : String :=
  if x.isNaN then "nan"
  else
    let sign := if isNegative x then ['-'] else []
    match double? x with
    | none => .ofList (sign ++ "inf".toList)
    | some d =>
      if d.isZero then .ofList (sign ++ "0.0".toList)
      else
        let (ds, e) := d.shortest.normal
        if -4 ≤ e ∧ e ≤ 15 then .ofList (sign ++ Double.writeOut ds e)
        else
          let mantissa := match ds with
            | c :: d :: rest => c :: '.' :: d :: rest
            | ds => ds
          .ofList (sign ++ mantissa ++ Double.exponentText 'e' e)

def intPower (a : Int) (n : Nat) : Int :=
  let p := Nat.pow a.natAbs n
  if a < 0 ∧ n % 2 = 1 then -(p : Int) else p

/-- The digits of an integer as bits without end: `and`, `or` and `xor` of two. -/
def bitwise (op : String) (a b : Int) : Int :=
  -- a negative number is the complement of a natural one
  let low (n : Int) : Nat := if n < 0 then (-n - 1).toNat else n.toNat
  let (x, y) := (low a, low b)
  let without (m n : Nat) : Nat := Nat.xor m (Nat.land m n)
  let negated (n : Nat) : Int := -(n : Int) - 1
  match op, decide (a < 0), decide (b < 0) with
  | "&", false, false => Nat.land x y
  | "&", true, false => without y x
  | "&", false, true => without x y
  | "&", true, true => negated (Nat.lor x y)
  | "|", false, false => Nat.lor x y
  | "|", true, false => negated (without x y)
  | "|", false, true => negated (without y x)
  | "|", true, true => negated (Nat.land x y)
  | _, true, false => negated (Nat.xor x y)
  | _, false, true => negated (Nat.xor x y)
  | _, _, _ => Nat.xor x y

def bitLength (n : Int) : Nat :=
  if n = 0 then 0 else n.natAbs.log2 + 1

/-- The greatest natural number whose square is not greater, found from above. -/
def squareRoot (n : Nat) : Nat :=
  if n = 0 then 0 else improve (n.log2 + 3) (twoTo (n.log2 / 2 + 1))
where
  improve : Nat → Nat → Nat
    | 0, x => x
    | fuel + 1, x =>
      let y := (x + n / x) / 2
      if y < x then improve fuel y else x

/-- The greatest common divisor of two numbers, and how often the second one of the first pair goes
into it; the numbers that were reached from the start are given with their shares. -/
def bezout (a b : Nat) (s t : Int) : Nat × Int :=
  if _h : b = 0 then (a, s)
  else bezout b (a % b) t (s - (a / b : Nat) * t)
termination_by b
decreasing_by exact Nat.mod_lt _ (Nat.pos_of_ne_zero _h)

/-- Powers after a modulus, by squaring. -/
def powerModulo (m : Nat) : Nat → Nat → Nat → Nat → Nat
  | 0, _, _, acc => acc % m
  | fuel + 1, base, n, acc =>
    if n = 0 then acc % m
    else powerModulo m fuel (base * base % m) (n / 2) (if n % 2 = 1 then acc * base % m else acc)

/-- A text without the blanks around it. -/
def trimmed (s : List Char) : List Char :=
  stripRight isSpace (stripLeft isSpace s)

/-- A text with the digits of all scripts as those of ASCII. -/
def withPlainDigits (s : List Char) : List Char :=
  s.map fun c =>
    if c.toNat < 128 then c
    else
      match Text.decimalValue? c with
      | some d => Char.ofNat ('0'.toNat + d)
      | none => c

/-- Digits of which an underscore may stand between two. -/
def ungrouped? (s : List Char) : Option (List Char) :=
  let rec go : Bool → List Char → Option (List Char)
    | digit, '_' :: c :: rest => if digit && c.isAlphanum then go false (c :: rest) else none
    | _, '_' :: [] => none
    | _, c :: rest => (go c.isAlphanum rest).map (c :: ·)
    | _, [] => some []
  go false s

/-- The integer that a text stands for in a base; zero means that the text tells it. -/
def readInteger? (asked : Nat) (s : List Char) : Option Int :=
  let s := withPlainDigits (trimmed s)
  let (negative, s) := match s with
    | '-' :: s => (true, s)
    | '+' :: s => (false, s)
    | s => (false, s)
  let marked? := match s with
    | '0' :: c :: rest =>
      match c.toLower with
      | 'x' => some (16, rest)
      | 'o' => some (8, rest)
      | 'b' => some (2, rest)
      | _ => none
    | _ => none
  let (base, s) := match marked? with
    | some (b, rest) => if asked = 0 ∨ asked = b then (b, rest) else (asked, s)
    | none => (if asked = 0 then 10 else asked, s)
  let zeros := asked = 0 ∧ marked?.isNone ∧ s.head? = some '0' ∧ s.any fun c => c != '0' && c != '_'
  let s := if marked?.isSome && s.head? = some '_' then s.drop 1 else s
  if zeros then none
  else
    (ungrouped? s).bind fun ds =>
      (Text.naturalIn? base ds).map fun n => if negative then -(n : Int) else n

/-- The number that a decimal with a point or an exponent stands for. -/
def floatOf? (s : List Char) : Option Float :=
  let whole := s.takeWhile Char.isDigit
  let rest := s.drop whole.length
  let (fraction, rest) := match rest with
    | '.' :: r => (r.takeWhile Char.isDigit, r.dropWhile Char.isDigit)
    | r => ([], r)
  let exponent? := match rest with
    | [] => some 0
    | e :: r => if e = 'e' ∨ e = 'E' then Text.integer? r else none
  if whole.isEmpty && fraction.isEmpty then none
  else
    match Text.natural? (whole ++ fraction), exponent? with
    | some n, some e =>
      let e := e - fraction.length
      let large := (whole.length : Int) + e
      if n = 0 then some 0.0
      else if 400 < large + fraction.length then some (1.0 / 0.0)
      else if large + fraction.length < -400 then some 0.0
      else if e < 0 then some ((quotient? n (tenTo e.natAbs)).getD (1.0 / 0.0))
      else some ((floatOfInt? (n * tenTo e.natAbs)).getD (1.0 / 0.0))
    | _, _ => none

def readFloat? (s : List Char) : Option Float :=
  let s := withPlainDigits (trimmed s)
  let (negative, s) := match s with
    | '-' :: s => (true, s)
    | '+' :: s => (false, s)
    | s => (false, s)
  let lower := String.ofList (s.map Char.toLower)
  let x? :=
    if lower = "inf" ∨ lower = "infinity" then some (1.0 / 0.0)
    else if lower = "nan" then some (0.0 / 0.0)
    else (ungrouped? s).bind floatOf?
  x?.map fun x => if negative then -x else x

/-- A float in base sixteen: one digit before the point, thirteen behind it, and a power of two. -/
def floatHex (x : Float) : String :=
  if x.isNaN then "nan"
  else
    let sign := if isNegative x then "-" else ""
    match double? x with
    | none => sign ++ "inf"
    | some d =>
      if d.isZero then sign ++ "0x0.0p+0"
      else
        let bits := d.magnitude.val
        let fraction := bits % twoTo 52
        let exponent := bits / twoTo 52
        let digits := Nat.toDigits 16 fraction
        let digits := List.replicate (13 - digits.length) '0' ++ digits
        let power : Int := if exponent = 0 then -1022 else (exponent : Int) - 1023
        sign ++ "0x" ++ (if exponent = 0 then "0" else "1") ++ "." ++ String.ofList digits ++ "p" ++
          (if power < 0 then "-" else "+") ++ Text.naturalText power.natAbs

/-- The float that a text in base sixteen stands for; nothing if the text is none, and no float if
it is too great. -/
def readHexFloat? (s : List Char) : Option (Option Float) :=
  let s := trimmed s
  let (negative, s) := match s with
    | '-' :: s => (true, s)
    | '+' :: s => (false, s)
    | s => (false, s)
  let signed (x : Float) : Float := if negative then -x else x
  let name := String.ofList (s.map Char.toLower)
  if name = "inf" ∨ name = "infinity" then some (some (signed (1.0 / 0.0)))
  else if name = "nan" then some (some (0.0 / 0.0))
  else
    let s := match s with
      | '0' :: 'x' :: rest => rest
      | '0' :: 'X' :: rest => rest
      | s => s
    let isHex (c : Char) : Bool := (Text.digitIn? 16 c).isSome
    let whole := s.takeWhile isHex
    let s := s.drop whole.length
    let (fraction, s) := match s with
      | '.' :: rest => (rest.takeWhile isHex, rest.dropWhile isHex)
      | s => ([], s)
    let power? : Option Int := match s with
      | [] => some 0
      | p :: rest => if p = 'p' ∨ p = 'P' then Text.integer? rest else none
    if whole.isEmpty && fraction.isEmpty then none
    else
      match Text.naturalIn? 16 (whole ++ fraction), power? with
      | some n, some power =>
        let power := power - 4 * fraction.length
        if n = 0 then some (some (signed 0.0))
        else if 20000 < power then some none
        else if power < -20000 then some (some (signed 0.0))
        else
          let x := if power < 0 then quotient? n (twoTo power.natAbs)
            else floatOfInt? (n * twoTo power.natAbs)
          some (x.map signed)
      | _, _ => none

/-- What remains of an integer after division by the prime by which numbers are told apart. -/
def integerHash (n : Int) : Int :=
  let m : Int := twoTo 61 - 1
  let r := if n < 0 then -((-n) % m) else n % m
  if r = -1 then -2 else r

/-- The same of a float: the remainder of its numerator over that of its denominator. -/
def floatHash (x : Float) : Int :=
  match fraction? x with
  | none => if x.isNaN then 0 else if x < 0.0 then -314159 else 314159
  | some (n, d) =>
    let m := twoTo 61 - 1
    let inverse := powerModulo m 64 (d % m) (m - 2) 1
    let r : Int := (n.natAbs % m) * inverse % m
    let r := if n < 0 then -r else r
    if r = -1 then -2 else r

end Flowboard.Script
