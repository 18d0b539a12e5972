/-! Integers in writing. -/
namespace Flowboard.Text

/-- The value of a decimal digit. -/
def digit? (c : Char) : Option Nat :=
  if c.isDigit then some (c.toNat - '0'.toNat) else none

/-- The digits of a number in a base, padded with zeros to at least `width` of them. -/
def paddedIn (base width n : Nat) : List Char :=
  let ds := Nat.toDigits base n
  List.replicate (width - ds.length) '0' ++ ds

/-- Decimal numerals padded with zeros to at least `width` digits. -/
def padded (width n : Nat) : List Char :=
  paddedIn 10 width n

/-- Why a text is no unsigned numeral below a bound. -/
inductive NumeralError where
  | empty
  | strangeDigit
  | tooLarge
  deriving DecidableEq, Repr

def NumeralError.message : NumeralError → String
  | .empty => "cannot parse integer from empty string"
  | .strangeDigit => "invalid digit found in string"
  | .tooLarge => "number too large to fit in target type"

/-- Reads digits onto `acc`, refusing the first character that is no digit and the first digit
that takes the value to `bound` or beyond. -/
def readDigits (bound : Nat) : List Char → Nat → Except NumeralError Nat
  | [], acc => .ok acc
  | c :: rest, acc =>
    match digit? c with
    | none => .error .strangeDigit
    | some d =>
      if 10 * acc + d < bound then readDigits bound rest (10 * acc + d) else .error .tooLarge

/-- An unsigned numeral below `bound`: at least one digit, after an optional plus sign. -/
def readUnsigned (bound : Nat) : List Char → Except NumeralError Nat
  | [] => .error .empty
  | ['+'] => .error .strangeDigit
  | '+' :: rest => readDigits bound rest 0
  | s => readDigits bound s 0

/-- The value of a digit in a base up to 36. -/
def digitIn? (base : Nat) (c : Char) : Option Nat :=
  let d? :=
    if c.isDigit then some (c.toNat - '0'.toNat)
    else if 'a' ≤ c ∧ c ≤ 'z' then some (c.toNat - 'a'.toNat + 10)
    else if 'A' ≤ c ∧ c ≤ 'Z' then some (c.toNat - 'A'.toNat + 10)
    else none
  d?.bind fun d => if d < base then some d else none

/-- The value of digits in a base, of which there is at least one. -/
def naturalIn? (base : Nat) : List Char → Option Nat
  | [] => none
  | ds => ds.foldl (fun n c => do return base * (← n) + (← digitIn? base c)) (some 0)

/-- The value of decimal digits. -/
def natural? (s : List Char) : Option Nat :=
  naturalIn? 10 s

/-- The value of decimal digits after an optional sign. -/
def integer? : List Char → Option Int
  | '-' :: ds => (natural? ds).map fun n => -(n : Int)
  | '+' :: ds => (natural? ds).map fun n => (n : Int)
  | ds => (natural? ds).map fun n => (n : Int)

/-- The digits of an integer after the sign of a negative one. -/
def integerDigits (base : Nat) (n : Int) : List Char :=
  (if n < 0 then ['-'] else []) ++ Nat.toDigits base n.natAbs

def integerText (n : Int) : String :=
  String.ofList (integerDigits 10 n)

def naturalText (n : Nat) : String :=
  String.ofList (Nat.toDigits 10 n)

end Flowboard.Text
