import Flowboard.Prototype.Textual
import Flowboard.Script.Special

/-! What numbers and dates can do. -/
namespace Flowboard.Prototype

/-- The digits of a fraction in a base, up to where the number is told apart from others. The last
digit comes first; the flag says that the whole part goes up by one. -/
def fractionDigits (base : Float) : Nat → Float → Float → List Nat → List Nat × Bool
  | 0, _, _, done => (done, false)
  | fuel + 1, fraction, delta, done =>
    let fraction := fraction * base
    let delta := delta * base
    let digit := fraction.floor
    let fraction := fraction - digit
    let n := digit.toUInt64.toNat
    let done := n :: done
    if (0.5 < fraction || (fraction == 0.5 && n % 2 == 1)) && 1.0 < fraction + delta then
      -- the last digit goes up, and those before it that are full
      let full := base.toUInt64.toNat - 1
      match done.dropWhile (· == full) with
      | d :: rest => ((d + 1) :: rest, false)
      | [] => ([], true)
    else if delta ≤ fraction then fractionDigits base fuel fraction delta done
    else (done, false)

/-- The digits of a number in a base up to thirty-six. Each one uses up one of the fuel. -/
def digitsIn (base n : Nat) : List Char :=
  go (n.log2 + 2) n []
where
  go : Nat → Nat → List Char → List Char
    | 0, _, done => done
    | fuel + 1, n, done =>
      let d := n % base
      let c := if d < 10 then Char.ofNat (48 + d) else Char.ofNat (87 + d)
      if n / base = 0 then c :: done else go fuel (n / base) (c :: done)

def textInBase (x : Float) (base : Nat) : String :=
  if base = 10 || x.isNaN || x.isInf then numberText x
  else
    let y := x.abs
    let whole := y.floor
    let fraction := y - whole
    let next := Float.ofBits (y.toBits + 1)
    let delta := max (0.5 * (next - y)) (Float.ofBits 1)
    let (ds, carry) := if delta ≤ fraction then
        fractionDigits (Float.ofNat base) 1100 fraction delta []
      else ([], false)
    let n := (Script.truncated? whole).getD 0
    let n := if carry then n + 1 else n
    let digit (d : Nat) : Char := if d < 10 then Char.ofNat (48 + d) else Char.ofNat (87 + d)
    let body := digitsIn base n.toNat ++
      (if ds.isEmpty then [] else '.' :: ds.reverse.map digit)
    String.ofList ((if x < 0.0 then ['-'] else []) ++ body)

def leadingInteger (s : String) (base : Nat) : Float :=
  let s := trimStart s.toList
  let (sign, rest) := match s with
    | '-' :: r => (-1.0, r)
    | '+' :: r => (1.0, r)
    | r => (1.0, r)
  let (base, rest) := match rest with
    | '0' :: 'x' :: r | '0' :: 'X' :: r => if base = 0 || base = 16 then (16, r) else (base, rest)
    | r => (if base = 0 then 10 else base, r)
  if base < 2 || 36 < base then notANumber
  else
    let ds := rest.takeWhile fun c => (Text.digitIn? base c).isSome
    match if ds.isEmpty then none else Text.naturalIn? base ds with
    | some n => sign * ((Script.floatOfInt? n).getD infinity)
    | none => notANumber

def ownNumber (this : Value) : Action Float := do
  match this with
  | .number x => return x
  | .object r =>
    match ← kindAt r with
    | .boxed (.number x) => return x
    | _ => throwType "Number.prototype.valueOf requires that 'this' be a Number"
  | _ => throwType "Number.prototype.valueOf requires that 'this' be a Number"

def numberCall (name : String) (this : Value) (args : List Value) : Action Value := do
  let a := arg args 0
  match name with
  | "toString" =>
    let x ← ownNumber this
    let base ← toInteger a
    if base < 2.0 || 36.0 < base then
      throwNew "RangeError" "toString() radix must be between 2 and 36"
    return .text (textInBase x base.toUInt64.toNat)
  | _ => return .undefined

/-- A time from its parts, which may lie beyond their bounds. -/
def timeOf (parts : List Float) : Float :=
  if parts.any fun x => x.isNaN || x.isInf then notANumber
  else
    let at_ (i : Nat) (usual : Int) : Int :=
      match parts[i]? with
      | some x => (Script.truncated? x).getD 0
      | none => usual
    let year := at_ 0 1970
    let month := at_ 1 0
    let y := year + Int.fdiv month 12
    let m := (Int.fmod month 12).toNat + 1
    let days := Moment.daysTo y m 1 + (at_ 2 1 - 1)
    let seconds := ((days * 24 + at_ 3 0) * 60 + at_ 4 0) * 60 + at_ 5 0
    let t := seconds * 1000 + at_ 6 0
    if 8640000000000000 < t.natAbs then notANumber else (Script.floatOfInt? t).getD notANumber

def dateCall (name : String) (this : Value) (args : List Value) : Action Value := do
  let ref ← match this with
    | .object r => pure r
    | _ => throwType "this is not a Date object."
  let t ← match ← kindAt ref with
    | .date t => pure t
    | _ => throwType "this is not a Date object."
  if name.startsWith "set" then
    let xs ← args.mapM toNumber
    let field := (name.drop 3).toString.replace "UTC" ""
    if field == "Time" then
      setKind ref (.date (xs.getD 0 notANumber))
      return .number (xs.getD 0 notANumber)
    let t := if t.isNaN then 0.0 else t
    let (m, ms) := momentOf t
    let parts : List Float :=
      [(Script.floatOfInt? m.year).getD 0.0, Float.ofNat (m.month - 1), Float.ofNat m.day,
        Float.ofNat m.hour, Float.ofNat m.minute, Float.ofNat m.second, Float.ofNat ms]
    let first := 6
    let parts := parts.zipIdx.map fun (x, i) =>
      if first ≤ i then (xs[i - first]?).getD x else x
    let t := timeOf parts
    setKind ref (.date t)
    return .number t
  if t.isNaN then
    if name.startsWith "to" then return .text "Invalid Date" else return .number notANumber
  match name with
  | "toISOString" | "toJSON" => return .text (isoText t)
  | _ => return .undefined

def buildDate (args : List Value) (newTarget : Value) : Action Value := do
  let proto ← protoFor newTarget (protoRef "Date")
  let t ← match args with
    | [v] => do
      let x ← toNumber v
      pure (if 8640000000000000.0 < x.abs || x.isNaN then notANumber
        else if x < 0.0 then x.ceil + 0.0 else x.floor)
    | args => do
      let xs ← args.mapM toNumber
      let xs := match xs with
        | y :: rest => (if 0.0 ≤ y && y ≤ 99.0 then y + 1900.0 else y) :: rest
        | [] => []
      pure (timeOf xs)
  allocValue { kind := .date t, proto }

end Flowboard.Prototype
