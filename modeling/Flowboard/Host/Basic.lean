/-! The machine that programs run on: how it starts them, what they do, how long that takes and how
they end. -/
namespace Flowboard

/-- A length of time in milliseconds. -/
structure Span where
  millis : Nat
  deriving DecidableEq, Repr

namespace Span

def ofSeconds (n : Nat) : Span :=
  ⟨1000 * n⟩

/-- Three digits without the zeros at their end. -/
def thousandths (n : Nat) : List Char :=
  let digits := [n / 100, n / 10 % 10, n % 10].map Nat.digitChar
  (digits.reverse.dropWhile (· == '0')).reverse

/-- Seconds from one second on, below that milliseconds. -/
def text (s : Span) : String :=
  let decimal (n : Nat) := String.ofList (Nat.toDigits 10 n)
  if 1000 ≤ s.millis then
    let fraction := thousandths (s.millis % 1000)
    let tail := if fraction.isEmpty then "" else "." ++ String.ofList fraction
    decimal (s.millis / 1000) ++ tail ++ "s"
  else if s.millis = 0 then "0ns"
  else decimal s.millis ++ "ms"

end Span

/-- The number that a program ends with. -/
abbrev Status := Fin 256

def Status.success : Status :=
  ⟨0, by decide⟩

def Status.failure : Status :=
  ⟨1, by decide⟩

/-- The status for an integer, of which the lowest eight bits count. -/
def Status.ofInt (n : Int) : Status :=
  ⟨(n % 256).toNat, by omega⟩

/-- How a program that was started ends. -/
inductive Ending where
  | exit (status : Status)
  /-- a signal ends it -/
  | killed
  /-- it goes on forever -/
  | never
  deriving DecidableEq, Repr

/-- What a program does: the bytes it writes, how long it takes and how it ends. -/
structure Activity where
  output : List UInt8
  errors : List UInt8
  span : Span
  ending : Ending
  deriving DecidableEq, Repr

/-- Why a program is not started. -/
inductive LaunchError where
  | notFound
  | denied
  | notDirectory
  | nameTooLong
  | nulByte
  deriving DecidableEq, Repr

def LaunchError.message : LaunchError → String
  | notFound => "No such file or directory (os error 2)"
  | denied => "Permission denied (os error 13)"
  | notDirectory => "Not a directory (os error 20)"
  | nameTooLong => "File name too long (os error 36)"
  | nulByte => "nul byte found in provided data"

/-- A machine starts a program, given by its name, on a script. -/
structure Host where
  launch : (interpreter script : String) → Except LaunchError Activity

/-- Counts one of the steps that a program may still take, and is stuck if there is none. -/
@[inline]
def countStep {ε σ : Type} (stuck : ε) (left : σ → Nat) (leave : σ → Nat → σ) :
    ExceptT ε (StateM σ) Unit := fun w =>
  match left w with
  | 0 => (.error stuck, w)
  | n + 1 => (.ok (), leave w n)

/-- Does something again and again as long as it says so, at most a number of times. -/
@[specialize]
def repeatWhile {ε σ : Type} (stuck : ε) :
    Nat → ExceptT ε (StateM σ) Bool → ExceptT ε (StateM σ) Unit
  | 0, _ => throw stuck
  | n + 1, step => fun w =>
    match step w with
    | (.ok true, w) => repeatWhile stuck n step w
    | (.ok false, w) => (.ok (), w)
    | (.error e, w) => (.error e, w)

/-- How often something is done again at most. -/
def repetitions : Nat := 1000000000

end Flowboard
