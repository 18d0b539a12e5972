import Flowboard.Double.Printer
import Flowboard.Utility.Basic
import Flowboard.Utility.Fields
import Flowboard.Utility.Place

/-! Numbers with units, as people write them. -/
namespace Flowboard.Utility

namespace Scale

/-- What a letter behind a number multiplies it with. -/
inductive System where
  | none
  /-- powers of 1000 -/
  | decimal
  /-- powers of 1024 -/
  | binary
  /-- powers of 1024 with an `i` behind the letter -/
  | marked
  /-- powers of 1024 with an `i`, powers of 1000 without -/
  | either
  deriving DecidableEq, Repr

def System.ofText? : String → Option System
  | "none" => some .none
  | "si" => some .decimal
  | "iec" => some .binary
  | "iec-i" => some .marked
  | "auto" => some .either
  | _ => Option.none

def System.base : System → Nat
  | .binary | .marked => 1024
  | _ => 1000

/-- How numbers lose digits. -/
inductive Rounding where
  | up
  | down
  | fromZero
  | towardsZero
  | nearest
  deriving DecidableEq, Repr

def Rounding.ofText? : String → Option Rounding
  | "up" => some .up
  | "down" => some .down
  | "from-zero" => some .fromZero
  | "towards-zero" => some .towardsZero
  | "nearest" => some .nearest
  | _ => none

/-- A number as a quotient. -/
structure Quantity where
  negative : Bool
  num : Nat
  den : Nat := 1
  deriving DecidableEq, Repr

/-- The magnitude of a number without a fraction. -/
def Rounding.apply (r : Rounding) (q : Quantity) : Nat :=
  let low := q.num / q.den
  let high := if q.num % q.den = 0 then low else low + 1
  match r with
  | .fromZero => high
  | .towardsZero => low
  | .up => if q.negative then low else high
  | .down => if q.negative then high else low
  | .nearest => (2 * q.num + q.den) / (2 * q.den)

def letters : List Char := "KMGTPEZYRQ".toList

/-- Divides by a base as long as the number is not smaller than it. -/
def reduce (base : Nat) : Nat → Quantity → Nat → Quantity × Nat
  | 0, q, power => (q, power)
  | fuel + 1, q, power =>
    if base * q.den ≤ q.num then reduce base fuel { q with den := q.den * base } (power + 1)
    else (q, power)

def signed (q : Quantity) (s : List Char) : List Char :=
  if q.negative && q.num != 0 then '-' :: s else s

/-- A number with so many places. -/
def places (n num den : Nat) : List Char :=
  Double.fixed n num den

/-- A number with a letter, or with so many places if there are no letters. -/
def System.text (s : System) (r : Rounding) (precision : Option Nat) (own : Nat) (q : Quantity) :
    List Char :=
  if s = .none then
    let p := precision.getD own
    let n := r.apply { q with num := q.num * tenTo p }
    signed { q with num := n } (places p n (tenTo p))
  else
    let base := s.base
    let (v, power) := reduce base 12 q 0
    let shift := match precision with
      | some p => min (power * 3) p
      | Option.none => if v.num < 10 * v.den then 1 else 0
    let n := r.apply { v with num := v.num * tenTo shift }
    let v : Quantity := { v with num := n, den := tenTo shift }
    let (v, power) := if base * v.den ≤ v.num then ({ v with den := v.den * base }, power + 1)
      else (v, power)
    let shown := precision.getD (if v.num != 0 && v.num < 10 * v.den && 0 < power then 1 else 0)
    let letter := if power = 0 then [] else (letters[power - 1]?).toList
    signed v (places shown v.num v.den) ++ letter ++
      (if s = .marked && 0 < power then ['i'] else [])

/-- Reads a number with a letter behind it; also how many places it has. -/
def System.read (s : System) (suffix : List Char) (text : List Char) :
    Except String (Quantity × Nat) :=
  let shown := "'" ++ String.ofList text ++ "'"
  let (negative, body) := match text with
    | '-' :: t => (true, t)
    | t => (false, t)
  let whole := body.takeWhile Char.isDigit
  let rest := body.drop whole.length
  let (part, rest) := match rest with
    | '.' :: t => (t.takeWhile Char.isDigit, t.drop (t.takeWhile Char.isDigit).length)
    | t => ([], t)
  if whole.isEmpty && part.isEmpty then .error ("invalid number: " ++ shown)
  else
    let number : Quantity :=
      { negative, num := (Text.natural? (whole ++ part)).getD 0, den := tenTo part.length }
    let scaled (base power : Nat) : Except String (Quantity × Nat) :=
      .ok ({ number with num := number.num * Nat.pow base power }, 0)
    let rest := if !suffix.isEmpty && suffix.isSuffixOf rest then
      rest.take (rest.length - suffix.length) else rest
    match rest with
    | [] => .ok (number, part.length)
    | c :: more =>
      match (letters.findIdx? (· == (if c == 'k' then 'K' else c))) with
      | Option.none => .error ("invalid suffix in input: " ++ shown)
      | some i =>
        match s, more with
        | .none, _ => .error ("rejecting suffix in input: " ++ shown ++ " (consider using --from)")
        | .decimal, [] => scaled 1000 (i + 1)
        | .binary, [] => scaled 1024 (i + 1)
        | .either, [] => scaled 1000 (i + 1)
        | .either, ['i'] => scaled 1024 (i + 1)
        | .marked, ['i'] => scaled 1024 (i + 1)
        | .marked, [] => .error ("missing 'i' suffix in input: " ++ shown ++ " (e.g Ki/Mi/Gi)")
        | _, _ => .error ("invalid suffix in input " ++ shown ++ ": '" ++
            String.ofList more ++ "'")

end Scale

/-- Writes numbers with units, or reads them. -/
def numfmt (c : Call) : Effect :=
  let table : OptionTable :=
    { flags := "zGD".toList, valued := "dftFTsrpuUSi".toList, optional := ['H']
      long := [("from", 'f'), ("to", 't'), ("from-unit", 'u'), ("to-unit", 'U'), ("padding", 'p'),
        ("round", 'r'), ("suffix", 's'), ("format", 'F'), ("field", 'T'), ("delimiter", 'd'),
        ("grouping", 'G'), ("header", 'H'), ("invalid", 'i'), ("debug", 'D')] }
  c.withOptions table fun o =>
    let system (letter : Char) (name : String) : Except String Scale.System :=
      match o.value? letter with
      | none => .ok .none
      | some s => match Scale.System.ofText? s with
        | some x => .ok x
        | none => .error ("invalid argument '" ++ s ++ "' for '--" ++ name ++
            "'\nValid arguments are:\n  - 'none'\n  - 'si'\n  - 'iec'\n  - 'iec-i'" ++
            (if name = "from" then "\n  - 'auto'" else ""))
    let unit (letter : Char) : Nat := ((o.value? letter).bind fun s =>
      match Scale.System.read .either [] s.toList with
        | .ok (q, _) => some (q.num / q.den)
        | .error _ => none).getD 1
    let rounding := ((o.value? 'r').bind Scale.Rounding.ofText?).getD .fromZero
    let suffix := ((o.value? 's').getD "").toList
    let padding : Int := ((o.value? 'p').bind fun s => Text.integer? s.toList).getD 0
    match system 'f' "from", system 't' "to" with
    | .error e, _ | _, .error e => c.misused 1 e
    | .ok source, .ok target =>
      let converted (auto : Nat) (text : List Char) : Except String (List Char) := do
        let (q, own) ← source.read suffix text
        let q := { q with num := q.num * unit 'u', den := q.den * max (unit 'U') 1 }
        let body := target.text rounding none own q ++ suffix
        let width := if o.has 'p' then padding else auto
        return if 0 ≤ width then Text.padLeft width.toNat body
          else Text.padRight (-width).toNat body
      let chosen := ((o.value? 'T').bind fun s =>
        if s = "-" then some [⟨1, none⟩] else positions? s).getD [⟨1, some 1⟩]
      let wanted (i : Nat) : Bool := chosen.any fun r => r.contains (i + 1)
      let line (text : List Char) : Except String (List Char) :=
        match o.value? 'd' with
        | some d =>
          let mark := d.toList.headD '\n'
          let fields := Text.splitWhere (· == mark) text
          let out := (fields.zip (List.range fields.length)).mapM fun (f, i) =>
            if wanted i then converted 0 f else .ok f
          out.map fun fs => [mark].intercalate fs
        | none =>
          let rec go : Nat → Nat → List Char → Except String (List Char)
            | 0, _, s => .ok s
            | fuel + 1, i, s =>
              let blank := s.takeWhile fun c => c == ' ' || c == '\t'
              let rest := s.drop blank.length
              let field := rest.takeWhile fun c => c != ' ' && c != '\t'
              if field.isEmpty then .ok blank
              else do
                let after ← go fuel (i + 1) (rest.drop field.length)
                if wanted i then
                  let gap := if i = 0 then [] else blank.take 1
                  let width := if blank.length ≤ gap.length then 0
                    else blank.length - gap.length + field.length
                  return gap ++ (← converted width field) ++ after
                else return blank ++ field ++ after
          go (text.length + 1) 0 text
      let work (ls : List (List Char)) : Effect :=
        let kept := if o.has 'H' then (((o.value? 'H').bind fun s => Text.natural? s.toList).getD 1)
          else 0
        let failing := (o.value? 'i').getD "abort"
        let rec each : List (List Char) → Effect
          | [] => {}
          | l :: rest =>
            match line l with
            | .ok t => (Effect.writing (t ++ ['\n'])).followed (each rest)
            | .error e =>
              if failing = "abort" then c.fails 2 e
              else
                let shown := Effect.writing (l ++ ['\n'])
                let told := if failing = "ignore" then shown
                  else { shown with errors := ("numfmt: " ++ e ++ "\n").toList }
                let told := if failing = "fail" then { told with status := .ofInt 2 } else told
                told.followed (each rest)
        (Effect.writing ((ls.take kept).flatMap (· ++ ['\n']))).followed (each (ls.drop kept))
      if o.operands.isEmpty then
        match c.input.all? with
        | some text => { work ((Text.lines text).map Text.chomp) with waited := true }
        | none => .stuck
      else work (o.operands.map String.toList)

/-- Writes its lines in another order. No order is more right than another one. -/
def shuf (c : Call) : Effect :=
  let table : OptionTable :=
    { flags := "erz".toList, valued := "niR".toList, optional := ['o']
      long := [("echo", 'e'), ("repeat", 'r'), ("head-count", 'n'), ("input-range", 'i'),
        ("random-source", 'R')] }
  c.withOptions table fun o =>
    let count := (o.value? 'n').bind fun s => Text.natural? s.toList
    let shuffled (ls : List (List Char)) : Effect :=
      let mixed := (ls.drop (ls.length / 2)).reverse ++ ls.take (ls.length / 2)
      let mixed := if o.has 'r' then
          (List.range (count.getD 0)).filterMap fun i => mixed[i % max mixed.length 1]?
        else (count.map mixed.take).getD mixed
      .writing (mixed.flatMap (· ++ ['\n']))
    match o.value? 'i' with
    | some range =>
      c.fails 1 ("invalid input range: " ++ quotedName range)
    | none =>
      if o.has 'e' then shuffled (o.operands.map String.toList)
      else
        c.each o.operands 1 plainName fun _ p =>
          match p.all? with
          | some text => shuffled ((Text.lines text).map Text.chomp)
          | none => .stuck

end Flowboard.Utility
