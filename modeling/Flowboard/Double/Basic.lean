/-! Binary64 numbers: the finite ones, as a sign and the 63 bits below it, with the rounding of exact
quotients to nearest and ties to even, and all of them as bit patterns. -/
namespace Flowboard

def twoTo (n : Nat) : Nat :=
  Nat.pow 2 n

def tenTo (n : Nat) : Nat :=
  Nat.pow 10 n

/-- The magnitudes of finite numbers lie below this one, which is infinity's. -/
def Double.limit : Nat := 2047 * twoTo 52

/-- A finite binary64 number. The magnitude is the bit pattern without its sign, so magnitudes
are ordered as the absolute values are. -/
structure Double where
  negative : Bool
  magnitude : Fin Double.limit
  deriving DecidableEq

namespace Double

/-- The number zero with a positive sign. -/
def zero : Double :=
  ⟨false, ⟨0, by decide⟩⟩

instance : Inhabited Double := ⟨zero⟩

def isZero (d : Double) : Bool :=
  d.magnitude.val == 0

def neg (d : Double) : Double :=
  { d with negative := !d.negative }

/-- The integer `m` of the absolute value `m * 2 ^ q`. -/
def mantissa (d : Double) : Nat :=
  let m := d.magnitude.val
  if m < twoTo 52 then m else m % twoTo 52 + twoTo 52

/-- The exponent `q` of the absolute value `m * 2 ^ q`. -/
def exponent (d : Double) : Int :=
  (max (d.magnitude.val / twoTo 52) 1 : Nat) - 1075

/-- The numerator of the absolute value as a quotient. -/
def numerator (d : Double) : Nat :=
  d.mantissa * twoTo d.exponent.toNat

/-- The denominator of the absolute value as a quotient, a power of two. -/
def denominator (d : Double) : Nat :=
  twoTo (-d.exponent).toNat

/-- The nearest integer to `num / den`, a tie going to the even one. -/
def roundDiv (num den : Nat) : Nat :=
  let q := num / den
  let r := num % den
  if 2 * r < den then q
  else if den < 2 * r then q + 1
  else if q % 2 = 0 then q else q + 1

/-- The exponent `e` with `2 ^ e ≤ num / den < 2 ^ (e + 1)`, for positive `num` and `den`. -/
def binaryExponent (num den : Nat) : Int :=
  let e : Int := (num.log2 : Int) - den.log2
  if num * twoTo (-e).toNat < den * twoTo e.toNat then e - 1 else e

/-- The magnitude nearest to `num / den`; it may reach beyond the finite ones. -/
def roundedMagnitude (num den : Nat) : Nat :=
  if num = 0 then 0
  else
    let q : Int := max (binaryExponent num den - 52) (-1074)
    (q + 1074).toNat * twoTo 52 + roundDiv (num * twoTo (-q).toNat) (den * twoTo q.toNat)

/-- The nonnegative number nearest to `num / den`, unless that is infinity. -/
def ofQuotient? (num den : Nat) : Option Double :=
  let m := roundedMagnitude num den
  if h : m < limit then some ⟨false, ⟨m, h⟩⟩ else none

/-- The number nearest to a natural number below `2 ^ 64`. -/
def ofNat (n : Nat) : Double :=
  (ofQuotient? n 1).getD zero

/-- The rounded product of two nonnegative numbers. -/
def mul? (a b : Double) : Option Double :=
  ofQuotient? (a.numerator * b.numerator) (a.denominator * b.denominator)

/-- The rounded quotient of two nonnegative numbers, the second one not zero. -/
def div? (a b : Double) : Option Double :=
  ofQuotient? (a.numerator * b.denominator) (a.denominator * b.numerator)

/-- The number nearest to `10 ^ n`, for `n` up to 308. -/
def powerOfTen (n : Nat) : Double :=
  (ofQuotient? (tenTo n) 1).getD zero

/-- `f / 10 ^ n`, rounded at each of the steps of at most 308 powers. -/
def scaleDown (f : Double) (n : Nat) : Double :=
  if h : n ≤ 308 then (div? f (powerOfTen n)).getD zero
  else if f.isZero then f
  else scaleDown ((div? f (powerOfTen 308)).getD zero) (n - 308)
termination_by n

/-- `n * 10 ^ e` in two roundings: the integer is rounded first, then its product or quotient with
a rounded power of ten. Nothing results beyond the finite numbers. -/
def ofScaled? (n : Nat) (e : Int) : Option Double :=
  let f := ofNat n
  match e with
  | .negSucc k => some (scaleDown f (k + 1))
  | .ofNat k =>
    if k ≤ 308 then mul? f (powerOfTen k)
    else if f.isZero then some f
    else none

end Double

/-- A binary64 number of any kind, as its bit pattern. Next to the finite numbers there are the
infinities, and the NaNs beyond them. -/
structure Binary64 where
  bits : BitVec 64
  deriving DecidableEq

namespace Binary64

/-- The bit pattern without its sign. -/
def magnitude (b : Binary64) : Nat :=
  (b.bits.setWidth 63).toNat

/-- The place of a number in the IEEE total order, where -0 comes before 0, and infinities and NaNs
stand on the outside of the finite numbers with their sign. -/
def rank (b : Binary64) : Int :=
  if b.bits.msb then -1 - (b.magnitude : Int) else b.magnitude

/-- The bit pattern of a finite number. -/
def ofDouble (d : Double) : Binary64 :=
  ⟨.cons d.negative (.ofNat 63 d.magnitude)⟩

/-- The number zero with a positive sign. -/
def zero : Binary64 :=
  ofDouble .zero

/-- The number with a bit pattern if it is finite. -/
def double? (b : Binary64) : Option Double :=
  if h : b.magnitude < Double.limit then some ⟨b.bits.msb, b.magnitude, h⟩ else none

theorem double?_ofDouble (d : Double) : (ofDouble d).double? = some d := by
  have hlt : d.magnitude.val < 2 ^ 63 := Nat.lt_trans d.magnitude.isLt (by decide)
  have hmagnitude : (ofDouble d).magnitude = d.magnitude := by
    simp only [magnitude, ofDouble, BitVec.setWidth_cons, BitVec.toNat_ofNat]
    exact Nat.mod_eq_of_lt hlt
  have hsign : (ofDouble d).bits.msb = d.negative := BitVec.msb_cons
  rw [double?, dif_pos (by rw [hmagnitude]; exact d.magnitude.isLt)]
  simp only [hsign, hmagnitude]

end Binary64

end Flowboard
