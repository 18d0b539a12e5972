import Flowboard.Script.Number

/-! Functions on floats that are sums of many terms: exponentials and logarithms near their zeros, the
integral of the bell curve and the factorial of all numbers. -/
namespace Flowboard.Script.Special

/-- The value of a polynomial whose coefficients are given from the constant one on. -/
def polynomial (coefficients : List Float) (x : Float) : Float :=
  coefficients.foldr (fun c sum => c + x * sum) 0.0

/-- The upper half of the digits of a float, the sign apart. -/
def upperHalf (x : Float) : Nat :=
  x.abs.toBits.toNat / twoTo 32

def powerOfTwo (k : Int) : Float :=
  Float.ofBits (UInt64.ofNat ((1023 + k).toNat * twoTo 52))

def logTwoUpper : Float := 6.93147180369123816490e-01
def logTwoLower : Float := 1.90821492927058770002e-10

def ofSmall (n : Int) : Float :=
  if n < 0 then -(Float.ofNat n.natAbs) else Float.ofNat n.natAbs

/-- The exponential without one of the rest `x` of a number after `k` logarithms of two were taken
from it, where `c` is what rounding cut off from the rest. -/
def restExponential (k : Int) (x c : Float) : Float :=
  let half := 0.5 * x
  let s := x * half
  let (q1, q2, q3, q4, q5) := (-3.33333333333331316428e-02, 1.58730158725481460165e-03,
    -7.93650757867487942473e-05, 4.00821782732936239552e-06, -2.01099218183624371326e-07)
  -- two neighbours are added first, which the last digit can show
  let r := (1.0 + s * q1) + s * s * (q2 + s * q3) + (s * s) * (s * s) * (q4 + s * q5)
  let t := 3.0 - r * half
  let e := s * ((r - t) / (6.0 - x * t))
  if k = 0 then x - (x * e - s)
  else
    let e := x * (e - c) - c - s
    if k = -1 then 0.5 * (x - e) - 0.5
    else if k = 1 then (if x < -0.25 then -2.0 * (e - (x + 0.5)) else 1.0 + 2.0 * (x - e))
    else if k < -1 || 56 < k then
      let y := 1.0 - (e - x)
      (if k = 1024 then y * 2.0 * powerOfTwo 1023 else y * powerOfTwo k) - 1.0
    else if k < 20 then (1.0 - powerOfTwo (-k) - (e - x)) * powerOfTwo k
    else (x - (e + powerOfTwo (-k)) + 1.0) * powerOfTwo k

/-- The exponential of a float without one. -/
def expm1 (x : Float) : Float :=
  let upper := upperHalf x
  if x.isNaN then x
  else if 0x4043687A ≤ upper && x < 0.0 then -1.0
  else if 7.09782712893383973096e+02 < x then 1.0 / 0.0
  else if upper < 0x3c900000 then x
  else if upper ≤ 0x3fd62e42 then restExponential 0 x 0.0
  else
    let k : Int :=
      if upper < 0x3FF0A2B2 then (if x < 0.0 then -1 else 1)
      else (truncated? (1.44269504088896338700 * x + (if x < 0.0 then -0.5 else 0.5))).getD 0
    let upperRest := x - ofSmall k * logTwoUpper
    let lowerRest := ofSmall k * logTwoLower
    let rest := upperRest - lowerRest
    restExponential k rest ((upperRest - rest) - lowerRest)

/-- The natural logarithm of one more than `f`, and `k` logarithms of two and a small number `c` more.
It is told apart whether `f` is nearly zero. -/
def restLogarithm (small : Bool) (k : Int) (f c : Float) : Float :=
  let halfSquare := 0.5 * f * f
  let many := ofSmall k
  if small && f == 0.0 then
    if k = 0 then 0.0 else many * logTwoUpper + (c + many * logTwoLower)
  else if small then
    let r := halfSquare * (1.0 - 0.66666666666666666 * f)
    if k = 0 then f - r else many * logTwoUpper - ((r - (many * logTwoLower + c)) - f)
  else
    let s := f / (2.0 + f)
    let z := s * s
    let (p1, p2, p3, p4) := (6.666666666666735130e-01, 3.999999999940941908e-01,
      2.857142874366239149e-01, 2.222219843214978396e-01)
    let (p5, p6, p7) := (1.818357216161805012e-01, 1.531383769920937332e-01,
      1.479819860511658591e-01)
    let z2 := z * z
    let z4 := z2 * z2
    let r := z * p1 + z2 * (p2 + z * p3) + z4 * (p4 + z * p5) + z4 * z2 * (p6 + z * p7)
    if k = 0 then f - (halfSquare - s * (halfSquare + r))
    else
      many * logTwoUpper -
        ((halfSquare - (s * (halfSquare + r) + (many * logTwoLower + c))) - f)

/-- The natural logarithm of one more than a float. -/
def log1p (x : Float) : Float :=
  let upper := upperHalf x
  if x.isNaN || x == 0.0 then x
  else if x < -1.0 then 0.0 / 0.0
  else if x == -1.0 then -1.0 / 0.0
  else if x.isInf then x
  else if upper < 0x3c900000 then x
  else if upper < 0x3e200000 then x - x * x * 0.5
  else if (if x < 0.0 then upper ≤ 0x3fd2bec3 else upper < 0x3FDA827A) then
    restLogarithm false 0 x 0.0
  else
    let u := if upper < 0x43400000 then 1.0 + x else x
    let k := (upperHalf u / twoTo 20 : Int) - 1023
    let c := if upper < 0x43400000 then (if 0 < k then 1.0 - (u - x) else x - (u - 1.0)) / u else 0.0
    let digits := u.toBits.toNat % twoTo 52
    let first := digits / twoTo 32
    let (k, exponent, rest) :=
      if first < 0x6a09e then (k, 1023, first) else (k + 1, 1022, (0x00100000 - first) / 4)
    let f := Float.ofBits (UInt64.ofNat (exponent * twoTo 52 + digits)) - 1.0
    restLogarithm (rest = 0) k f c

/-- The square root of the sum of the squares of floats, rounded once. -/
def length (xs : List Float) : Float :=
  if xs.any Float.isInf then 1.0 / 0.0
  else
    match xs.mapM fraction? with
    | none => 0.0 / 0.0
    | some fs =>
      let den := fs.foldl (fun d f => max d f.2) 1
      let sum := fs.foldl (fun s f =>
        let n := f.1.natAbs * (den / f.2)
        s + n * n) 0
      if sum = 0 then 0.0
      else
        let more := 130 - min 130 (sum.log2 / 2)
        let root := squareRoot (sum * twoTo (2 * more))
        -- a root that is cut off is told from an exact one by its last digit
        let root := 2 * root + (if root * root = sum * twoTo (2 * more) then 0 else 1)
        (quotient? root (2 * den * twoTo more)).getD (1.0 / 0.0)

/-- A float with the lower half of its digits cleared. -/
def roughly (x : Float) : Float :=
  Float.ofBits (UInt64.ofNat (x.toBits.toNat / twoTo 32 * twoTo 32))

/-- One less the integral for a number from 1.25 on, without the sign. -/
def tail (x : Float) : Float :=
  let s := 1.0 / (x * x)
  let (r, q) :=
    if x < 1.0 / 0.35 then
      (polynomial [-9.86494403484714822705e-03, -6.93858572707181764372e-01,
        -1.05586262253232909814e+01, -6.23753324503260060396e+01, -1.62396669462573470355e+02,
        -1.84605092906711035994e+02, -8.12874355063065934246e+01, -9.81432934416914548592e+00] s,
       polynomial [1.0, 1.96512716674392571292e+01, 1.37657754143519042600e+02,
        4.34565877475229228821e+02, 6.45387271733267880336e+02, 4.29008140027567833386e+02,
        1.08635005541779435134e+02, 6.57024977031928170135e+00, -6.04244152148580987438e-02] s)
    else
      (polynomial [-9.86494292470009928597e-03, -7.99283237680523006574e-01,
        -1.77579549177547519889e+01, -1.60636384855821916062e+02, -6.37566443368389627722e+02,
        -1.02509513161107724954e+03, -4.83519191608651397019e+02] s,
       polynomial [1.0, 3.03380607434824582924e+01, 3.25792512996573918826e+02,
        1.53672958608443695994e+03, 3.19985821950859553908e+03, 2.55305040643316442583e+03,
        4.74528541206955367215e+02, -2.24409524465858183362e+01] s)
  let z := roughly x
  Float.exp (-z * z - 0.5625) * Float.exp ((z - x) * (z + x) + r / q) / x

/-- What the integral has near zero beside a multiple of its argument. -/
def nearZero (z : Float) : Float :=
  polynomial [1.28379167095512558561e-01, -3.25042107247001499370e-01,
    -2.84817495755985104766e-02, -5.77027029648944159157e-03, -2.37630166566501626084e-05] z /
  polynomial [1.0, 3.97917223959155352819e-01, 6.50222499887672944485e-02,
    5.08130628187576562776e-03, 1.32494738004321644526e-04, -3.96022827877536812320e-06] z

/-- What the integral has near one beside its value there. -/
def nearOne (s : Float) : Float :=
  polynomial [-2.36211856075265944077e-03, 4.14856118683748331666e-01,
    -3.72207876035701323847e-01, 3.18346619901161753674e-01, -1.10894694282396677476e-01,
    3.54783043256182359371e-02, -2.16637559486879084300e-03] s /
  polynomial [1.0, 1.06420880400844228286e-01, 5.40397917702171048937e-01,
    7.18286544141962662868e-02, 1.26171219808761642112e-01, 1.36370839120290507362e-02,
    1.19844998467991074170e-02] s

/-- The integral near one. -/
def valueAtOne : Float := 8.45062911510467529297e-01

/-- The integral of the bell curve, twice as great as from zero on. -/
def erf (x : Float) : Float :=
  if x.isNaN then x
  else
    let a := x.abs
    let sign (y : Float) : Float := if isNegative x then -y else y
    if a < 0.84375 then
      if a < 3.7252902984e-09 then
        if a < 2.848094538889218e-306 then
          0.0625 * (16.0 * x + 16.0 * 1.28379167095512586316e-01 * x)
        else x + 1.28379167095512586316e-01 * x
      else x + x * nearZero (x * x)
    else if a < 1.25 then
      let y := nearOne (a - 1.0)
      if isNegative x then -valueAtOne - y else valueAtOne + y
    else if 6.0 ≤ a then sign 1.0
    else sign (1.0 - tail a)

/-- What the integral lacks of one. -/
def erfc (x : Float) : Float :=
  if x.isNaN then x
  else
    let a := x.abs
    if a < 0.84375 then
      if a < 1.3877787807814457e-17 then 1.0 - x
      else
        let y := nearZero (x * x)
        if x < 0.25 then 1.0 - (x + x * y) else 0.5 - (x - 0.5 + x * y)
    else if a < 1.25 then
      let y := nearOne (a - 1.0)
      if isNegative x then 1.0 + (valueAtOne + y) else 1.0 - valueAtOne - y
    else if a < 28.0 then
      if isNegative x && 6.0 < a then 2.0
      else if isNegative x then 2.0 - tail a
      else tail a
    else if isNegative x then 2.0
    else 0.0

def pi : Float := 3.141592653589793

/-- The sine of a multiple of a half turn. -/
def sineOfTurns (x : Float) : Float :=
  let y := (match fraction? x.abs with
    | some (n, d) => (quotient? (n % (2 * (d : Int))) d).getD 0.0
    | none => 0.0)
  let r := match rounded? (2.0 * y) with
    | some 0 => Float.sin (pi * y)
    | some 1 => Float.cos (pi * (y - 0.5))
    | some 2 => Float.sin (pi * (1.0 - y))
    | some 3 => -Float.cos (pi * (y - 1.5))
    | _ => Float.sin (pi * (y - 2.0))
  if isNegative x then -r else r

def seriesAbove : List Float :=
  [23531376880.410759688572007674451636754734846804940,
   42919803642.649098768957899047001988850926355848959,
   35711959237.355668049440185451547166705960488635843,
   17921034426.037209699919755754458931112671403265390,
   6039542586.3520280050642916443072979210699388420708,
   1439720407.3117216736632230727949123939715485786372,
   248874557.86205415651146038641322942321632125127801,
   31426415.585400194380614231628318205362874684987640,
   2876370.6289353724412254090516208496135991145378768,
   186056.26539522349504029498971604569928220784236328,
   8071.6720023658162106380029022722506138218516325024,
   210.82427775157934587250973392071336271166969580291,
   2.5066282746310002701649081771338373386264310793408]

def seriesBelow : List Float :=
  [0.0, 39916800.0, 120543840.0, 150917976.0, 105258076.0, 45995730.0, 13339535.0, 2637558.0,
   357423.0, 32670.0, 1925.0, 66.0, 1.0]

/-- The quotient of two polynomials that stands for the series. -/
def series (x : Float) : Float :=
  if x < 5.0 then polynomial seriesAbove x / polynomial seriesBelow x
  else
    let through (cs : List Float) : Float := cs.foldl (fun sum c => sum / x + c) 0.0
    through seriesAbove / through seriesBelow

def shift : Float := 6.024680040776729583740234375
def lowerShift : Float := 5.524680040776729583740234375

/-- Why a function has no value. -/
inductive Refusal where
  /-- it is not defined there -/
  | domain
  /-- the value is too great -/
  | range

/-- The factorial of the number before one. -/
def gamma (x : Float) : Except Refusal Float :=
  if !x.isFinite then
    if x.isNaN || 0.0 < x then .ok x else .error .domain
  else if x == 0.0 then .error .domain
  else
    let whole := x == x.floor
    if whole && x < 0.0 then .error .domain
    else if whole && x ≤ 23.0 then
      let n := ((truncated? x).getD 1).toNat
      let product := (List.range n).foldl (fun (f i : Nat) => f * max i 1) 1
      .ok ((floatOfInt? product).getD 1.0)
    else
      let a := x.abs
      if a < 1e-20 then
        let r := 1.0 / x
        if r.isInf then .error .range else .ok r
      else if 200.0 < a then
        if x < 0.0 then .ok (0.0 / sineOfTurns x) else .error .range
      else
        let y := a + lowerShift
        let z := if lowerShift < a then y - a - lowerShift else y - lowerShift - a
        let z := z * shift / y
        let r :=
          if x < 0.0 then
            let r := -pi / sineOfTurns a / a * Float.exp y / series a
            let r := r - z * r
            if a < 140.0 then r / Float.pow y (a - 0.5)
            else
              let p := Float.pow y (a / 2.0 - 0.25)
              r / p / p
          else
            let r := series a / Float.exp y
            let r := r + z * r
            if a < 140.0 then r * Float.pow y (a - 0.5)
            else
              let p := Float.pow y (a / 2.0 - 0.25)
              r * p * p
        if r.isInf then .error .range else .ok r

/-- The float next to another one in the direction of a third one. -/
def nextAfter (x y : Float) : Float :=
  if x.isNaN || y.isNaN then x + y
  else if x == y then y
  else if x == 0.0 then
    let least := Float.ofBits 1
    if y < 0.0 then -least else least
  else
    let bits := x.toBits
    Float.ofBits (if (x < y) == (0.0 < x) then bits + 1 else bits - 1)

/-- The distance between a float and the next one from zero. -/
def unit (x : Float) : Float :=
  if x.isNaN then x
  else if x.isInf then 1.0 / 0.0
  else
    let a := x.abs
    let next := nextAfter a (1.0 / 0.0)
    if next.isInf then a - nextAfter a 0.0 else next - a

/-- A float as a part between a half and one, and a power of two. -/
def parts (x : Float) : Float × Int :=
  match fraction? x with
  | some (num, den) =>
    if num = 0 then (x, 0)
    else
      let e := Double.binaryExponent num.natAbs den + 1
      ((quotient? (num * twoTo (-e).toNat) (den * twoTo e.toNat)).getD x, e)
  | none => (x, 0)

/-- A float times a power of two, if it is finite. -/
def scaled? (x : Float) (e : Int) : Option Float :=
  match fraction? x with
  | some (num, den) =>
    if num = 0 then some x
    else if 2200 < e then none
    else if e < -2400 then some (if isNegative x then -0.0 else 0.0)
    else
      (quotient? (num * twoTo e.toNat) (den * twoTo (-e).toNat)).map fun r =>
        if r == 0.0 && isNegative x then -0.0 else r
  | none => some x

/-- What is left of a float after the multiple of another one that is nearest to it. -/
def nearestRemainder (x y : Float) : Float :=
  match fraction? x, fraction? y with
  | some (a, b), some (c, d) =>
    let (num, den) := (a * d, (c * b).natAbs)
    let n := Double.roundDiv num.natAbs den
    let n : Int := if num < 0 then -(n : Int) else n
    let r := (quotient? (num - n * den) (b * d)).getD 0.0
    if r == 0.0 && isNegative x then -0.0 else r
  | _, _ => x

/-- Floats of another size: how many bits the exponent has, and how many digits stand after the
first one. -/
structure FloatShape where
  exponent : Nat
  digits : Nat

def FloatShape.ofWidth : Nat → FloatShape
  | 2 => ⟨5, 10⟩
  | 4 => ⟨8, 23⟩
  | _ => ⟨11, 52⟩

namespace FloatShape

/-- What is added to exponents. -/
def bias (s : FloatShape) : Nat :=
  twoTo (s.exponent - 1) - 1

/-- The bits of a float, rounded to the nearest one of the shape, unless it is too great. -/
def encode? (s : FloatShape) (x : Float) : Option Nat :=
  let top := twoTo s.exponent - 1
  let sign := if isNegative x then twoTo (s.exponent + s.digits) else 0
  match fraction? x with
  | none =>
    let rest := if x.isNaN then twoTo (s.digits - 1) else 0
    some (sign + top * twoTo s.digits + rest)
  | some (num, den) =>
    let n := num.natAbs
    if n = 0 then some sign
    else
      -- the last digit stands for two to this power, which the least exponent bounds from below
      let e : Int := Double.binaryExponent n den - s.digits
      let e := max e (1 - (s.bias : Int) - s.digits)
      let m := Double.roundDiv (n * twoTo (-e).toNat) (den * twoTo e.toNat)
      let field := (e + s.digits + s.bias - 1).toNat
      -- a first digit adds one to the field of the exponent, and so does a carry
      let bits := field * twoTo s.digits + m
      if top * twoTo s.digits ≤ bits then none else some (sign + bits)

def decode (s : FloatShape) (bits : Nat) : Float :=
  let digits := bits % twoTo s.digits
  let field := bits / twoTo s.digits % twoTo s.exponent
  let negative := bits / twoTo (s.digits + s.exponent) % 2 = 1
  let x :=
    if field = twoTo s.exponent - 1 then (if digits = 0 then 1.0 / 0.0 else 0.0 / 0.0)
    else
      let m := if field = 0 then digits else digits + twoTo s.digits
      let e : Int := (max field 1 : Nat) - (s.bias : Int) - s.digits
      (quotient? (m * twoTo e.toNat) (twoTo (-e).toNat)).getD 0.0
  if negative then -x else x

end FloatShape

end Flowboard.Script.Special
