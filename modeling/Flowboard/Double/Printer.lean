import Flowboard.Double.Basic

/-! Numbers in writing: the shortest decimal that reads back as a number, written out near one and
with an exponent far from it, and quotients with a given number of decimals. -/
namespace Flowboard.Double

/-- The decimal `digits * 10 ^ exponent`. -/
structure Decimal where
  digits : Nat
  exponent : Int
  deriving DecidableEq, Repr

/-- The number of decimal digits of the positive integer `n`. -/
def digitCount (n : Nat) : Nat :=
  (Nat.toDigits 10 n).length

/-- The exponent `p` with `10 ^ (p - 1) ≤ num / den < 10 ^ p`. -/
def decimalExponent (num den : Nat) : Int :=
  if den ≤ num then digitCount (num / den)
  else
    let d := digitCount (den / num)
    if num * tenTo (d - 1) < den then 1 - d else 2 - d

/-- The reals that round to a number, in quarters of its last binary place: the neighbours'
midpoints, of which the lower one is closer when the number is a power of two. -/
structure Interval where
  lower : Nat
  value : Nat
  upper : Nat
  closed : Bool

def interval (d : Double) : Interval :=
  let m := d.mantissa
  let step := if d.magnitude.val % twoTo 52 = 0 ∧ twoTo 53 ≤ d.magnitude.val then 1 else 2
  ⟨4 * m - step, 4 * m, 4 * m + 2, m % 2 = 0⟩

/-- Whether a point lies in the interval, both scaled alike. -/
def Interval.holds (i : Interval) (scale point : Nat) : Bool :=
  if i.closed then i.lower * scale ≤ point && point ≤ i.upper * scale
  else i.lower * scale < point && point < i.upper * scale

/-- The decimal with `n` digits nearest to a positive number, if one reads back as it. -/
def withDigits? (d : Double) (n : Nat) : Option Decimal :=
  let i := d.interval
  let q := d.exponent - 2
  let k := decimalExponent d.numerator d.denominator - n
  -- points of the grid are multiples of `grid`, points of the interval multiples of `unit`
  let grid := tenTo k.toNat * twoTo (-q).toNat
  let unit := twoTo q.toNat * tenTo (-k).toNat
  let below := i.value * unit / grid
  let above := below + 1
  let gapBelow := i.value * unit - below * grid
  let gapAbove := above * grid - i.value * unit
  let fits (x : Nat) : Bool := 0 < x && i.holds unit (x * grid)
  match fits below, fits above with
  | false, false => none
  | true, false => some ⟨below, k⟩
  | false, true => some ⟨above, k⟩
  | true, true =>
    if gapBelow < gapAbove then some ⟨below, k⟩
    else if gapAbove < gapBelow then some ⟨above, k⟩
    else some ⟨if below % 2 = 0 then below else above, k⟩

/-- The first of the lengths `n`, `n + 1`, … that works, out of `fuel` many. -/
def searchFrom (d : Double) : Nat → Nat → Decimal
  | 0, _ => ⟨0, 0⟩
  | fuel + 1, n => (withDigits? d n).getD (searchFrom d fuel (n + 1))

/-- The decimal with the fewest digits that reads back as the absolute value, and among those the
nearest to it. Seventeen digits always suffice. -/
def shortest (d : Double) : Decimal :=
  if d.isZero then ⟨0, 0⟩ else searchFrom d 17 1

/-- When digits are written out and how exponents are marked. -/
structure Style where
  /-- the least power of ten of a first digit that is written out -/
  least : Int
  /-- the greatest one -/
  greatest : Int
  /-- what stands before the digits of a positive exponent -/
  plus : List Char

/-- Numbers from 0.00001 up to ten quadrillion are written out, and positive exponents have a
plus sign. -/
def Style.json : Style :=
  ⟨-5, 15, ['+']⟩

/-- The digits of a decimal without trailing zeros, and the power of ten of the first one. -/
def Decimal.normal (d : Decimal) : List Char × Int :=
  let all := Nat.toDigits 10 d.digits
  ((all.reverse.dropWhile (· == '0')).reverse, d.exponent + all.length - 1)

/-- Digits whose first one counts `10 ^ e`, written out with a point and at least one digit on
either side of it. -/
def writeOut (ds : List Char) (e : Int) : List Char :=
  if e < 0 then '0' :: '.' :: List.replicate (-e - 1).toNat '0' ++ ds
  else
    let whole := e.toNat + 1
    let before := ds.take whole ++ List.replicate (whole - ds.length) '0'
    let after := ds.drop whole
    before ++ '.' :: (if after.isEmpty then ['0'] else after)

/-- Digits with a point after the first one, if more follow, and the exponent. -/
def withExponent (style : Style) (ds : List Char) (e : Int) : List Char :=
  let mantissa := match ds with
    | c :: d :: rest => c :: '.' :: d :: rest
    | ds => ds
  let mark := if e < 0 then ['-'] else style.plus
  mantissa ++ 'e' :: mark ++ Nat.toDigits 10 e.natAbs

/-- The text of a number in a style. -/
def text (style : Style) (d : Double) : List Char :=
  let sign := if d.negative then ['-'] else []
  if d.isZero then sign ++ ['0', '.', '0']
  else
    let (ds, e) := d.shortest.normal
    sign ++ if style.least ≤ e ∧ e ≤ style.greatest then writeOut ds e else withExponent style ds e

/-- Digits with a point before the last `places` of them; there is at least one before it. -/
def withPoint (places : Nat) (ds : List Char) : List Char :=
  let ds := List.replicate (places + 1 - ds.length) '0' ++ ds
  let whole := ds.take (ds.length - places)
  if places = 0 then whole else whole ++ '.' :: ds.drop (ds.length - places)

/-- `num / den` with `places` digits after the point. -/
def fixed (places num den : Nat) : List Char :=
  withPoint places (Nat.toDigits 10 (roundDiv (num * tenTo places) den))

/-- `num / den` as one digit before the point and `places` after it, and a power of ten. -/
def scientific (places num den : Nat) : List Char × Int :=
  if num = 0 then (List.replicate (places + 1) '0', 0)
  else
    let e := decimalExponent num den - 1
    let up := (places : Int) - e
    let n := roundDiv (num * tenTo up.toNat) (den * tenTo (-up).toNat)
    if n < tenTo (places + 1) then (Nat.toDigits 10 n, e) else (Nat.toDigits 10 (n / 10), e + 1)

/-- A power of ten after its mark, with a sign and at least two digits. -/
def exponentText (mark : Char) (e : Int) : List Char :=
  let ds := Nat.toDigits 10 e.natAbs
  mark :: (if e < 0 then '-' else '+') :: (List.replicate (2 - ds.length) '0' ++ ds)

/-- `num / den` with one digit before the point and a power of ten after the others. -/
def scientificText (mark : Char) (places num den : Nat) : List Char :=
  let (ds, e) := scientific places num den
  withPoint places ds ++ exponentText mark e

/-- A decimal without the zeros at its end, and without a point there. -/
def withoutZeros (s : List Char) : List Char :=
  if s.contains '.' then
    ((s.reverse.dropWhile (· == '0')).dropWhile (· == '.')).reverse
  else s

/-- `num / den` with so many digits that count, written out unless its power of ten is far from
zero; the zeros at the end stay if `keep`. -/
def general (mark : Char) (keep : Bool) (precision num den : Nat) : List Char :=
  let p := max precision 1
  let (ds, e) := scientific (p - 1) num den
  let trim (s : List Char) : List Char := if keep then s else withoutZeros s
  if -4 ≤ e ∧ e < p then trim (fixed ((p : Int) - 1 - e).toNat num den)
  else trim (withPoint (p - 1) ds) ++ exponentText mark e

end Flowboard.Double
