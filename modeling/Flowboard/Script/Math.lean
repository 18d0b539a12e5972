import Flowboard.Script.Builtin

/-! Functions on numbers. -/
namespace Flowboard.Script

def floatOf (k : Calls) (v : Value) : Action Float := do
  match ← operand k v with
  | .float x => return x
  | p =>
    match p.int? with
    | some n => toFloat n
    | none =>
      match ← special? v "__float__" with
      | some f =>
        match ← plain (← k.call f [] []) with
        | .float x => return x
        | r =>
          Action.typeError ((← typeName v) ++ ".__float__ returned non-float (type " ++
            (← typeName r) ++ ")")
      | none =>
        match ← indexOf? k v with
        | some n => toFloat n
        | none => Action.typeError ("must be real number, not " ++ (← typeName v))

def intOf (k : Calls) (v : Value) : Action Int := do
  match ← indexOf? k v with
  | some n => return n
  | none =>
    Action.typeError ("'" ++ (← typeName v) ++ "' object cannot be interpreted as an integer")

def domainError {α : Type} : Action α :=
  Action.valueError "math domain error"

def rangeError {α : Type} : Action α :=
  Action.raise "OverflowError" "math range error"

/-- The value of a function at a number: it is defined there if it is one, and if it is infinite it
was too great or it was not defined, as the function may grow beyond all bounds or not. -/
def checkedValue (grows : Bool) (x y : Float) : Action Value :=
  if y.isNaN && !x.isNaN then domainError
  else if y.isInf && x.isFinite then (if grows then rangeError else domainError)
  else return .float y

/-- The value of a function that says itself where it has none. -/
def valueOrRefusal : Except Special.Refusal Float → Action Value
  | .ok y => return .float y
  | .error .domain => domainError
  | .error .range => rangeError

def exactSum (fs : List (Int × Nat)) : Option Float :=
  let den := fs.foldl (fun d f => max d f.2) 1
  -- denominators are powers of two, so the greatest one is a multiple of all
  let num := fs.foldl (fun n f => n + f.1 * ((den / f.2 : Nat) : Int)) 0
  quotient? num den

/-- A logarithm of a number, also of an integer that is no float. -/
def logarithmOf (k : Calls) (f : Float → Float) (v : Value) : Action Float := do
  match v.int? with
  | some n =>
    if n ≤ 0 then domainError
    else
      match floatOfInt? n with
      | some x => return f x
      | none =>
        let e := n.toNat.log2 + 1
        return f ((quotient? n (twoTo e)).getD 1.0) + f 2.0 * (floatOfInt? e).getD 0.0
  | none =>
    let x ← floatOf k v
    if x ≤ 0.0 then domainError else return f x

/-- Functions of one float, and whether they grow beyond all bounds. -/
def functionsOfOne : List (String × Bool × (Float → Float)) :=
  [("sqrt", false, Float.sqrt), ("cbrt", false, Float.cbrt), ("exp", true, Float.exp),
   ("exp2", true, Float.exp2), ("expm1", true, Special.expm1), ("log1p", false, Special.log1p),
   ("sin", false, Float.sin), ("cos", false, Float.cos), ("tan", false, Float.tan),
   ("asin", false, Float.asin), ("acos", false, Float.acos), ("atan", false, Float.atan),
   ("sinh", true, Float.sinh), ("cosh", true, Float.cosh), ("tanh", false, Float.tanh),
   ("asinh", false, Float.asinh), ("acosh", false, Float.acosh), ("atanh", false, Float.atanh),
   ("fabs", false, Float.abs), ("erf", false, Special.erf), ("erfc", false, Special.erfc)]

/-- Functions of one argument that are no functions of a float alone. -/
def othersOfOne : List String :=
  ["gamma", "lgamma", "floor", "ceil", "trunc", "log2", "log10", "degrees", "radians", "isnan",
   "isinf", "isfinite", "factorial", "isqrt", "fsum", "modf", "frexp", "ulp"]

def functionsOfTwo : List String :=
  ["atan2", "pow", "fmod", "copysign", "dist", "comb", "nextafter", "ldexp", "remainder"]

/-- Refuses a wrong number of arguments. -/
def checkCount (name : String) (args : List Value) : Action Unit := do
  let n := args.length
  if n ≠ 1 && ((functionsOfOne.lookup name).isSome || othersOfOne.contains name) then
    Action.typeError ("math." ++ name ++ "() takes exactly one argument (" ++
      Text.naturalText n ++ " given)")
  else if n ≠ 2 && functionsOfTwo.contains name then
    Action.typeError (name ++ " expected 2 arguments, got " ++ Text.naturalText n)
  else if (n = 0 || 2 < n) && name = "log" then
    Action.typeError "math.log requires 1 to 2 arguments"

def mathFunction (k : Calls) (name : String) (args : List Value) : Action Value := do
  checkCount name args
  let first := args.headD .none
  let second := args[1]?.getD .none
  match functionsOfOne.lookup name with
  | some (grows, f) =>
    let x ← floatOf k first
    checkedValue grows x (f x)
  | none =>
  match name with
  | "gamma" => valueOrRefusal (Special.gamma (← floatOf k first))
  | "log" =>
    let x ← logarithmOf k Float.log first
    match args[1]? with
    | some b =>
      let y ← logarithmOf k Float.log b
      if y == 0.0 then zeroDivision "float division by zero" else return .float (x / y)
    | none => return .float x
  | "atan2" => return .float (Float.atan2 (← floatOf k first) (← floatOf k second))
  | "remainder" =>
    let (x, y) := (← floatOf k first, ← floatOf k second)
    if x.isNaN || y.isNaN then return .float (x + y)
    else if y == 0.0 || x.isInf then domainError
    else return .float (Special.nearestRemainder x y)
  | "copysign" =>
    let (x, y) := (← floatOf k first, ← floatOf k second)
    return .float (if isNegative y then -x.abs else x.abs)
  | "nextafter" => return .float (Special.nextAfter (← floatOf k first) (← floatOf k second))
  | "ulp" => return .float (Special.unit (← floatOf k first))
  | "frexp" =>
    let (m, e) := Special.parts (← floatOf k first)
    return .tuple [.float m, .int e]
  | "ldexp" =>
    let x ← floatOf k first
    match second.int? with
    | some e =>
      match Special.scaled? x e with
      | some y => return .float y
      | none => rangeError
    | none => Action.typeError "Expected an int as second argument to ldexp."
  | "isfinite" => return .bool (← floatOf k first).isFinite
  | "gcd" =>
    let ns ← args.mapM (intOf k)
    return .int (ns.foldl (fun (g : Nat) n => Nat.gcd g n.natAbs) 0 : Nat)
  | "isqrt" =>
    let n ← intOf k first
    if n < 0 then Action.valueError "isqrt() argument must be nonnegative"
    else return .int (squareRoot n.toNat)
  | "fsum" =>
    let xs ← (← itemsOf k first).mapM (floatOf k)
    match xs.mapM fraction? with
    | some fs =>
      match exactSum fs with
      | some x => return .float x
      | none => Action.raise "OverflowError" "intermediate overflow in fsum"
    | none =>
      let sum := xs.foldl (· + ·) 0.0
      if sum.isNaN && !xs.any Float.isNaN then Action.valueError "-inf + inf in fsum"
      else return .float sum
  | name => noMember (.module "math") name

end Flowboard.Script
