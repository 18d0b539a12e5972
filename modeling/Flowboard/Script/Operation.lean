import Flowboard.Script.Sequence
import Flowboard.Script.Special

/-! Operators. -/
namespace Flowboard.Script

/-- The name of the function for an operator, without what stands around it. -/
def operatorName (op : String) : String :=
  match op with
  | "+" => "add"
  | "-" => "sub"
  | "*" => "mul"
  | "/" => "truediv"
  | "//" => "floordiv"
  | "%" => "mod"
  | "**" => "pow"
  | "divmod" => "divmod"
  | "@" => "matmul"
  | "&" => "and"
  | "|" => "or"
  | "^" => "xor"
  | "<<" => "lshift"
  | _ => "rshift"

def zeroDivision {α : Type} (message : String) : Action α :=
  Action.raise "ZeroDivisionError" message

/-- The greatest number of bits of an integer that is computed. -/
def bitLimit : Nat := 8000000

def toFloat (n : Int) : Action Float :=
  match floatOfInt? n with
  | some x => return x
  | none => Action.raise "OverflowError" "int too large to convert to float"

def floatOperation (op : String) (x y : Float) : Action (Option Value) := do
  match op with
  | "+" => return some (.float (x + y))
  | "-" => return some (.float (x - y))
  | "*" => return some (.float (x * y))
  | "/" => if y == 0.0 then zeroDivision "float division by zero" else return some (.float (x / y))
  | "%" => if y == 0.0 then zeroDivision "float modulo" else return some (.float (floatRemainder x y))
  | "**" =>
    if x == 0.0 && y < 0.0 then zeroDivision "0.0 cannot be raised to a negative power"
    else if x < 0.0 && !x.isInf && !y.isInf && (integral? y).isNone && !y.isNaN then
      let length := Float.pow (-x) y
      let turn := y * 3.141592653589793
      return some (.complex (length * Float.cos turn) (length * Float.sin turn))
    else
      let z := Float.pow x y
      if z.isInf && !x.isInf && !y.isInf then
        Action.raiseWith "OverflowError" [.int 34, .str "Numerical result out of range"]
      else return some (.float z)
  | _ => return none

def intOperation (op : String) (a b : Int) : Action (Option Value) := do
  match op with
  | "+" => return some (.int (a + b))
  | "-" => return some (.int (a - b))
  | "*" =>
    let size := bitLength a + bitLength b
    if bitLimit < size then throw .never
    if 20000 < size then Action.work (size / 2000)
    return some (.int (a * b))
  | "/" =>
    if b = 0 then zeroDivision "division by zero"
    else
      match quotient? a b with
      | some x => return some (.float x)
      | none => Action.raise "OverflowError" "integer division result too large for a float"
  | "//" =>
    if b = 0 then zeroDivision "integer division or modulo by zero"
    else return some (.int (Int.fdiv a b))
  | "%" =>
    if b = 0 then zeroDivision "integer modulo by zero" else return some (.int (Int.fmod a b))
  | "**" =>
    if b < 0 then floatOperation "**" (← toFloat a) (← toFloat b)
    else
      let size := bitLength a * b.toNat
      if bitLimit < size ∧ 1 < a.natAbs then throw .never
      if 20000 < size then Action.work (size / 2000)
      return some (.int (if a = 0 ∨ a = 1 then (if b = 0 then 1 else a)
        else if a = -1 then (if b % 2 = 0 then 1 else -1)
        else intPower a b.toNat))
  | "<<" =>
    if b < 0 then Action.valueError "negative shift count"
    else if (bitLimit : Int) < b then throw .never
    else return some (.int (a * (twoTo b.toNat : Int)))
  | ">>" =>
    if b < 0 then Action.valueError "negative shift count"
    else if (bitLimit : Int) < b then return some (.int (if a < 0 then -1 else 0))
    else return some (.int (Int.fdiv a (twoTo b.toNat : Int)))
  | "&" | "|" | "^" => return some (.int (bitwise op a b))
  | _ => return none

/-- The quotient of numbers with imaginary parts, the greater part of the second one first. -/
def complexQuotient (a b c d : Float) : Float × Float :=
  if d.abs ≤ c.abs then
    let r := d / c
    let t := c + d * r
    ((a + b * r) / t, (b - a * r) / t)
  else
    let r := c / d
    let t := c * r + d
    ((a * r + b) / t, (b * r - a) / t)

/-- A number with an imaginary part to the power of a natural number: the product of those of its
repeated squares that the binary digits of the exponent ask for. -/
def complexPower (p r : Float × Float) : Nat → Nat → Float × Float
  | 0, _ => r
  | fuel + 1, n =>
    if n = 0 then r
    else
      let product (a b : Float × Float) : Float × Float :=
        (a.1 * b.1 - a.2 * b.2, a.1 * b.2 + a.2 * b.1)
      complexPower (product p p) (if n % 2 = 1 then product r p else r) fuel (n / 2)

def complexOperation (op : String) (a b c d : Float) : Action (Option Value) := do
  let made (x y : Float) : Action (Option Value) := return some (.complex x y)
  match op with
  | "+" => made (a + c) (b + d)
  | "-" => made (a - c) (b - d)
  | "*" => made (a * c - b * d) (a * d + b * c)
  | "/" =>
    if c == 0.0 && d == 0.0 then zeroDivision "complex division by zero"
    else
      let (x, y) := complexQuotient a b c d
      made x y
  | "**" =>
    match if d == 0.0 then integral? c else none with
    | some n =>
      if 100 < n.natAbs then polar
      else
        let (x, y) := complexPower (a, b) (1.0, 0.0) 8 n.natAbs
        if 0 < n then finite x y
        else if x == 0.0 && y == 0.0 then zeroDivision "0.0 to a negative or complex power"
        else
          let (x, y) := complexQuotient 1.0 0.0 x y
          finite x y
    | none => polar
  | _ => return none
where
  finite (x y : Float) : Action (Option Value) := do
    if x.isInf || y.isInf then Action.raise "OverflowError" "complex exponentiation"
    else return some (.complex x y)
  polar : Action (Option Value) := do
    if c == 0.0 && d == 0.0 then return some (.complex 1.0 0.0)
    else if a == 0.0 && b == 0.0 then
      if c < 0.0 || !(d == 0.0) then
        zeroDivision "0.0 to a negative or complex power"
      else return some (.complex 0.0 0.0)
    else
      let size := Special.length [a, b]
      let angle := Float.atan2 b a
      let length := Float.pow size c
      let length := if d == 0.0 then length else length / Float.exp (angle * d)
      let turn := angle * c
      let turn := if d == 0.0 then turn else turn + d * Float.log size
      finite (length * Float.cos turn) (length * Float.sin turn)

def numberOperation (op : String) (a b : Value) : Action (Option Value) := do
  match a, b with
  | .complex x y, b =>
    match complexOf? b with
    | some (z, w) => complexOperation op x y z w
    | none => return none
  | a, .complex z w =>
    match complexOf? a with
    | some (x, y) => complexOperation op x y z w
    | none => return none
  | .bool p, .bool q =>
    match op with
    | "&" => return some (.bool (p && q))
    | "|" => return some (.bool (p || q))
    | "^" => return some (.bool (p != q))
    | _ => intOperation op (if p then 1 else 0) (if q then 1 else 0)
  | .int m, .int n => intOperation op m n
  | .float x, .float y => floatOperation op x y
  | .float x, b =>
    match b.int? with
    | some n => floatOperation op x (← toFloat n)
    | none => return none
  | a, .float y =>
    match a.int? with
    | some n => floatOperation op (← toFloat n) y
    | none => return none
  | a, b =>
    match a.int?, b.int? with
    | some m, some n => intOperation op m n
    | _, _ => return none

/-- A field of a text that starts with a percent sign, after that sign. -/
structure Field where
  key : Option String := none
  left : Bool := false
  zero : Bool := false
  sign : Char := '-'
  alternate : Bool := false
  /-- the width comes from the values -/
  widthAsked : Bool := false
  width : Nat := 0
  precisionAsked : Bool := false
  precision : Option Nat := none
  kind : Char

def readField (s : List Char) : Option (Field × List Char) :=
  let (key, s) := match s with
    | '(' :: rest =>
      (some (String.ofList (rest.takeWhile (· != ')'))), (rest.dropWhile (· != ')')).drop 1)
    | s => (none, s)
  let flags := s.takeWhile fun c => "-+ #0".toList.contains c
  let s := s.drop flags.length
  let (widthAsked, width, s) := match s with
    | '*' :: rest => (true, none, rest)
    | s => let (w, s) := Spec.readWidth s; (false, w, s)
  let (precisionAsked, precision, s) := match s with
    | '.' :: '*' :: rest => (true, none, rest)
    | '.' :: rest => let (p, s) := Spec.readWidth rest; (false, some (p.getD 0), s)
    | s => (false, none, s)
  let s := s.dropWhile fun c => c == 'l' || c == 'h' || c == 'L'
  match s with
  | kind :: rest =>
    some ({ key, left := flags.contains '-', zero := flags.contains '0'
            sign := if flags.contains '+' then '+' else if flags.contains ' ' then ' ' else '-'
            alternate := flags.contains '#', widthAsked, width := width.getD 0
            precisionAsked, precision, kind }, rest)
  | [] => none

def Field.spec (f : Field) : Spec :=
  { fill := if f.zero && !f.left then '0' else ' '
    align := some (if f.left then '<' else if f.zero then '=' else '>')
    sign := f.sign, alternate := f.alternate, width := f.width }

def Field.written (k : Calls) (f : Field) (v : Value) : Action (List Char) := do
  let spec := f.spec
  let texts (s : List Char) : List Char :=
    { spec with fill := ' ', align := some (if f.left then '<' else '>') }.pad '>' []
      (match f.precision with
        | some p => s.take p
        | none => s)
  let number (base : Nat) (mark : List Char) (upper : Bool) : Action (List Char) := do
    let n ← match v with
      | .float x =>
        if f.kind = 'd' ∨ f.kind = 'i' ∨ f.kind = 'u' then pure ((truncated? x).getD 0)
        else
          Action.typeError ("%" ++ f.kind.toString ++ " format: an integer is required, not float")
      | v =>
        match (← plain v).int?, ← specialNumber (base = 10) v with
        | some n, _ => pure n
        | none, some n => pure n
        | none, none =>
          let need := if base = 10 then "a real number" else "an integer"
          Action.typeError ("%" ++ f.kind.toString ++ " format: " ++ need ++
            " is required, not " ++ (← typeName v))
    let ds := Nat.toDigits base n.natAbs
    let ds := if upper then ds.map Char.toUpper else ds
    let ds := List.replicate (f.precision.getD 0 - ds.length) '0' ++ ds
    return spec.pad '>' (spec.signText (n < 0) ++ (if f.alternate then mark else [])) ds
  match f.kind with
  | 's' => return texts (← textOf k v).toList
  | 'r' => return texts (← repr k v).toList
  | 'a' => return texts ((← repr k v).toList.flatMap (shownChar '\x00' true))
  | 'd' | 'i' | 'u' => number 10 [] false
  | 'x' => number 16 ['0', 'x'] false
  | 'X' => number 16 ['0', 'X'] true
  | 'o' => number 8 ['0', 'o'] false
  | 'c' =>
    match ← plain v with
    | .str s =>
      if s.length = 1 then return texts s.toList else Action.typeError "%c requires int or char"
    | v =>
      match v.int? with
      | some n =>
        if n < 0 ∨ 0x110000 ≤ n then
          Action.raise "OverflowError" "%c arg not in range(0x110000)"
        else return texts [Text.ofCodePoint n.toNat]
      | none => Action.typeError "%c requires int or char"
  | kind =>
    let x ← match ← plain v with
      | .float x => pure x
      | p =>
        match p.int?, ← special? v "__float__" with
        | some n, _ => toFloat n
        | none, some g =>
          match ← k.call g [] [] with
          | .float x => pure x
          | r =>
            Action.typeError ((← typeName v) ++ ".__float__ returned non-float (type " ++
              (← typeName r) ++ ")")
        | none, none => Action.typeError ("must be real number, not " ++ (← typeName v))
    let body := Spec.floatBody (some kind) f.precision f.alternate (if isNegative x then -x else x)
    return spec.pad '>' (spec.signText (isNegative x)) body
where
  specialNumber (wide : Bool) (v : Value) : Action (Option Int) := do
    match ← if wide then special? v "__int__" else pure none with
    | some f => return (← k.call f [] []).int?
    | none =>
      match ← special? v "__index__" with
      | some f => return (← k.call f [] []).int?
      | none => return none

/-- Fills the fields of a text with values, of which a mapping may be one. -/
def filledFrom (k : Calls) (all : Value) (length : Nat) :
    Nat → List Char → List Value → List Char → Action (List Char × List Value)
  | 0, _, vs, done => return (done.reverse, vs)
  | _, [], vs, done => return (done.reverse, vs)
  | fuel + 1, '%' :: s, vs, done => do
    match readField s with
    | none => Action.valueError "incomplete format"
    | some (f, rest) =>
      let take (vs : List Value) : Action (Value × List Value) :=
        match vs with
        | v :: vs => return (v, vs)
        | [] => Action.typeError "not enough arguments for format string"
      if f.kind = '%' then filledFrom k all length fuel rest vs ('%' :: done)
      else if ¬ "diouxXeEfFgGcrsa".toList.contains f.kind then
        Action.valueError ("unsupported format character '" ++ f.kind.toString ++ "' (0x" ++
          String.ofList (Nat.toDigits 16 f.kind.toNat) ++ ") at index " ++
          Text.naturalText (length - rest.length - 1))
      else
        let (f, vs) ← if f.widthAsked then do
            let (w, vs) ← take vs
            let n := w.int?.getD 0
            pure ({ f with width := n.natAbs, left := f.left || n < 0 }, vs)
          else pure (f, vs)
        let (f, vs) ← if f.precisionAsked then do
            let (p, vs) ← take vs
            pure ({ f with precision := some (p.int?.getD 0).toNat }, vs)
          else pure (f, vs)
        let (v, vs) ← match f.key with
          | some key => do
            match ← Action.object? (← plain all), ← special? all "__getitem__" with
            | some (.dict _ _), _ | some (.list _ _), _ | _, some _ =>
              pure (← getItem k all (.str key), vs)
            | some (.view which _), none =>
              if isNameView which then pure (← getItem k all (.str key), vs)
              else Action.typeError "format requires a mapping"
            | _, _ => Action.typeError "format requires a mapping"
          | none => take vs
        let text ← f.written k v
        filledFrom k all length fuel rest vs (text.reverse ++ done)
  | fuel + 1, c :: s, vs, done => filledFrom k all length fuel s vs (c :: done)

/-- Fills the fields of a text with a value or the values of a tuple. -/
def filled (k : Calls) (s : String) (v : Value) : Action Value := do
  let values := match ← plain v with
    | .tuple xs => xs
    | _ => [v]
  let cs := s.toList
  let (text, left) ← filledFrom k v cs.length (cs.length + 1) cs values []
  let base ← plain v
  let mapping ← match base, ← Action.object? base, ← special? v "__getitem__" with
    | .tuple _, _, _ | .str _, _, _ => pure false
    | .bytes _, _, _ | .range _ _ _, _, _ => pure true
    | _, some (.dict _ _), _ | _, some (.octets _), _ | _, _, some _ => pure true
    | _, some (.list _ ends), none => pure !ends
    | _, some (.view which _), none => pure (isNameView which)
    | _, _, none => pure false
  if left.isEmpty || mapping then return .str (.ofList text)
  else Action.typeError "not all arguments converted during string formatting"

/-- A text again and again. -/
def repeated {α : Type} (n : Int) (xs : List α) : Action (List α) := do
  let size := n.toNat * xs.length
  if sizeLimit < size then throw .never
  if xs.isEmpty then return []
  Action.work (size / 50)
  return (List.replicate n.toNat xs).flatten

/-- Puts values into a set. -/
def insertAll (k : Calls) (d : Dict) (vs : List Value) : Action Dict :=
  vs.foldlM (fun d v => do return d.insert (← keyOf k v) v .none) d

/-- The elements of a set for which it counts whether another one has them. -/
def keepWhere (d other : Dict) (wanted : Bool) : Dict :=
  d.places.toList.foldl (fun d (key, _) =>
    if other.contains key = wanted then d else d.erase key) d

def setOperation (op : String) (d e : Dict) : Option Dict :=
  let joined (d e : Dict) : Dict :=
    e.entries.foldl (fun acc p => match p with
      | some (v, _) =>
        match (keyText nesting v) with
        | some key => acc.insert key v .none
        | none => acc
      | none => acc) d
  match op with
  | "-" => some (keepWhere d e false)
  | "&" => some (keepWhere d e true)
  | "|" => some (joined d e)
  | "^" => some (joined (keepWhere d e false) (keepWhere e d false))
  | _ => none

/-- An operator on two counting mappings; only positive counts stay. -/
def countOperation (k : Calls) (op : String) (d e : Dict) : Action (Option Dict) := do
  let count (d : Dict) (key : String) : Int := ((d.get? key).bind Value.int?).getD 0
  let combine? : Option (Int → Int → Int) := match op with
    | "+" => some (· + ·)
    | "-" => some (· - ·)
    | "&" => some min
    | "|" => some max
    | _ => none
  match combine? with
  | none => return none
  | some f =>
    let keys := d.keys ++ e.keys
    let result ← keys.foldlM (fun acc v => do
      let key ← keyOf k v
      let n := f (count d key) (count e key)
      return if 0 < n then acc.insert key v (.int n) else acc) Dict.empty
    return some result

/-- An operator on values that are no objects of classes in the script. -/
def plainOperation (k : Calls) (op : String) (a b : Value) : Action (Option Value) := do
  match ← numberOperation op a b with
  | some v => return some v
  | none =>
    match op, a, b with
    | "+", .str s, .str t =>
      let size := s.utf8ByteSize + t.utf8ByteSize
      if sizeLimit < size then throw .never
      Action.work (size / 1000)
      return some (.str (s ++ t))
    | "+", .bytes s, .bytes t => return some (.bytes (s ++ t))
    | "%", .bytes s, v =>
      match ← filled k (.ofList (Text.octets s)) (← bytesAsText v) with
      | .str t => return some (.bytes (Text.octetBytes t.toList))
      | v => return some v
    | "+", .tuple xs, .tuple ys => return some (.tuple (xs ++ ys))
    | "%", .str s, v => return some (← filled k s v)
    | op, a, b =>
      match ← Action.object? a, ← Action.object? b with
      | some (.list xs e), some (.list ys _) =>
        if op = "+" then
          if sizeLimit < xs.size + ys.size then throw .never
          Action.work ((xs.size + ys.size) / 50)
          return some (← Action.allocate (.list (xs ++ ys) e))
        else return none
      | some (.octets x), _ =>
        match op, ← bytesOf? b with
        | "*", none =>
          match b.int? with
          | some n =>
            let bytes ← repeated n x.data.toList
            return some (← Action.allocate (.octets ⟨bytes.toArray⟩))
          | none => return none
        | _, _ => return none
      | some (.set d frozen), some (.set e _) =>
        match setOperation op d e with
        | some r => return some (← Action.allocate (.set r frozen))
        | none => return none
      | some (.dict d .counting), some (.dict e .counting) =>
        match ← countOperation k op d e with
        | some r => return some (← Action.allocate (.dict r .counting))
        | none => return none
      | p, q =>
        if op = "*" then
          match a.int?, b.int? with
          | none, some n => times n a p
          | some n, none => times n b q
          | some _, some _ => return none
          | none, none =>
            let _ ← asIndex k a
            let _ ← asIndex k b
            return none
        else return none
where
  bytesAsText (v : Value) : Action Value := do
    match v with
    | .tuple xs =>
      return .tuple (xs.map fun
        | .bytes b => .str (.ofList (Text.octets b))
        | v => v)
    | v => return v
  times (n : Int) (v : Value) (o : Option Obj) : Action (Option Value) := do
    match v, o with
    | .str s, _ =>
      let size := n.toNat * s.utf8ByteSize
      if sizeLimit < size then throw .never
      Action.work (size / 50)
      return some (.str (if s = "" then "" else String.join (List.replicate n.toNat s)))
    | .bytes b, _ => return some (.bytes (← repeated n b))
    | .tuple xs, _ => return some (.tuple (← repeated n xs))
    | _, some (.list xs e) =>
      return some (← Action.allocate (.list (← repeated n xs.toList).toArray e))
    | _, _ => return none

/-- Why there is no answer for two values; an operator is shown as it is written. -/
def refuseOperation (op shown : String) (a b : Value) : Action Value := do
  let (s, t) := (← typeName a, ← typeName b)
  let kind (v : Value) : Action String := do nameOfType (← typeOf (← plain v))
  let (p, q) := (← kind a, ← kind b)
  let sequences := ["str", "list", "tuple", "bytes", "bytearray", "deque"]
  if op = "+" ∧ (p = "bytes" ∨ p = "bytearray") then
    Action.typeError ("can't concat " ++ t ++ " to " ++ s)
  else if op = "+" ∧ sequences.contains p then
    Action.typeError ("can only concatenate " ++ p ++ " (not \"" ++ t ++ "\") to " ++ p)
  else if op = "*" ∧ sequences.contains p then
    Action.typeError ("can't multiply sequence by non-int of type '" ++ t ++ "'")
  else if op = "*" ∧ sequences.contains q then
    Action.typeError ("can't multiply sequence by non-int of type '" ++ s ++ "'")
  else
    let shown := if shown = "**" then "** or pow()" else shown
    Action.typeError ("unsupported operand type(s) for " ++ shown ++ ": '" ++ s ++ "' and '" ++ t ++
      "'")

/-- What the class of a value says about a name and another value. -/
def askedOnce (k : Calls) (name : String) (v other : Value) : Action Value := do
  match ← special? v name with
  | some f => k.call f [other] []
  | none => return .unsupported

/-- Whether the second value is asked about an operator before the first one: it is of a narrower
class that has a function of its own for it. -/
def asksSecond (name : String) (a b : Value) : Action Bool := do
  if ← isNarrower a b then
    let find (v : Value) : Action (Option Value) := do
      findIn ("__r" ++ name ++ "__") (← lineage (← typeOf v))
    match ← find b, ← find a with
    | some f, some g => return !f.same g
    | some _, none => return true
    | none, _ => return false
  else return false

/-- What the classes of two values say about an operator. -/
def askedOperation (k : Calls) (name : String) (a b : Value) : Action Value := do
  let (own, other) := ("__" ++ name ++ "__", "__r" ++ name ++ "__")
  if (← typeOf a).same (← typeOf b) then askedOnce k own a b
  else
    let swapped ← asksSecond name a b
    match ← if swapped then askedOnce k other b a else askedOnce k own a b with
    | .unsupported => if swapped then askedOnce k own a b else askedOnce k other b a
    | v => return v

/-- An object's value as one of a type that is always there; the keys or pairs of a mapping are a
set. -/
def operand (k : Calls) (v : Value) : Action Value := do
  match ← Action.object? v with
  | some (.view which d) =>
    if isNameView which then Action.allocate (.dict (← openView which d) .plain)
    else
      let d ← insertAll k Dict.empty (viewed which (← dictAt d))
      Action.allocate (.set d false)
  | _ => plain v

/-- Whether a value is a type or stands for nothing, so that it may be one of several types. -/
def isTypeLike (v : Value) : Action Bool := do
  match v with
  | .none => return true
  | .builtin name => return isType name
  | v =>
    match ← Action.object? v with
    | some (.type _) => return true
    | some (.object (.builtin "types.UnionType") _ _) => return true
    | some (.object (.builtin "types.GenericAlias") _ _) => return true
    | _ => return false

def unionOf (a b : Value) : Action Value := do
  let parts (v : Value) : Action (List Value) := do
    match ← Action.object? v with
    | some (.object (.builtin "types.UnionType") attributes _) =>
      match attributes.named? "__args__" with
      | some (.tuple xs) => return xs
      | _ => return [v]
    | _ => return [v]
  let xs ← parts a
  let ys ← parts b
  let all := ys.foldl (fun acc y => if acc.any (·.same y) then acc else acc ++ [y]) xs
  Action.allocate (.object (.builtin "types.UnionType")
    (Dict.empty.set "__args__" (.tuple all)) .none)

/-- Whether values of a type know an operator with another value themselves, so that what stands
behind it is not asked before them. -/
def knowsOperator (op : String) (a b : Value) : Action Bool := do
  match a, b with
  | .int _, b | .bool _, b => return b.int?.isSome
  | .float _, b => return b.int?.isSome || (b matches .float _)
  | .complex _ _, _ => return true
  | .str _, _ | .bytes _, _ => return op = "%"
  | a, _ =>
    match ← Action.object? a with
    | some (.set _ _) => return true
    | some (.dict _ _) => return op = "|"
    | _ => return false

/-- What stands beside a view of keys or pairs as a set if it can be gone through; a value is given
with what stands beside it, and as what it has become. -/
def besideView (k : Calls) (v other plain : Value) : Action Value := do
  match ← Action.object? v, ← Action.object? other with
  | some (.view _ _), _ => return plain
  | _, some (.view which _) =>
    if isNameView which || which = "values" then return plain
    else Action.allocate (.set (← insertAll k Dict.empty (← itemsOf k plain)) false)
  | _, _ => return plain

def operateShown (k : Calls) (op shown : String) (a b : Value) : Action Value := do
  match a, b with
  | .int m, .int n =>
    match ← intOperation op m n with
    | some v => return v
    | none => refuseOperation op shown a b
  | a, b =>
    let name := operatorName op
    let swapped ← asksSecond name a b
    match ← if swapped then askedOnce k ("__r" ++ name ++ "__") b a else pure .unsupported with
    | .unsupported =>
      match ← plainOperation k op a b with
      | some v => return v
      | none =>
        let q ← operand k b
        let known ← if q.same b then pure none
          else if ← knowsOperator op a q then plainOperation k op a q
          else pure none
        match known with
        | some v => return v
        | none =>
          match ← if swapped then askedOnce k ("__" ++ name ++ "__") a b
            else askedOperation k name a b with
          | .unsupported =>
            let union ← if op = "|" then do
                if ← isTypeLike a then isTypeLike b else pure false
              else pure false
            if union && !(a.same .none && b.same .none) then return (← unionOf a b)
            let p ← operand k a
            if p.same a && q.same b then refuseOperation op shown a b
            else
              match ← plainOperation k op (← besideView k a b p) (← besideView k b a q) with
              | some v => return v
              | none => refuseOperation op shown a b
          | v => return v
    | v => return v

def operate (k : Calls) (op : String) (a b : Value) : Action Value :=
  operateShown k op op a b

/-- Takes away what is too much in a queue, at its start or at its end. -/
def limitQueue (i : Nat) (atEnd : Bool) : Action Unit := do
  match (← get).limits.get? i with
  | none => return
  | some n =>
    Action.change i fun
      | .list xs e =>
        if xs.size ≤ n then .list xs e
        else .list (if atEnd then xs.extract 0 n else xs.extract (xs.size - n) xs.size) e
      | o => o

/-- The result of an operator that may change its first value. -/
def operateInPlace (k : Calls) (op : String) (a b : Value) : Action Value := do
  match a with
  | .ref i =>
    match (← get).heap[i]?, op with
    | some (.octets _), "+" =>
      match ← bytesOf? b with
      | some y =>
        Action.change i fun
          | .octets x => .octets (x ++ ⟨y.toArray⟩)
          | o => o
        return a
      | none => refuseOperation op (op ++ "=") a b
    | some (.list _ _), "+" =>
      let ys ← itemsOf k b
      Action.work (ys.length / 20)
      Action.change i fun
        | .list xs e => .list (xs ++ ys.toArray) e
        | o => o
      return a
    | _, op => operateShown k op (op ++ "=") a b
  | a => operateShown k op (op ++ "=") a b

def operateAlone (k : Calls) (op : String) (v : Value) : Action Value := do
  match op with
  | "not" => return .bool (!(← truth k v))
  | op =>
    let refused : Action Value := do
      Action.typeError ("bad operand type for unary " ++ op ++ ": '" ++ (← typeName v) ++ "'")
    let name := match op with
      | "-" => "__neg__"
      | "+" => "__pos__"
      | _ => "__invert__"
    match ← special? v name with
    | some f => k.call f [] []
    | none =>
      match op, ← operand k v with
      | "-", .float x => return .float (-x)
      | "+", .float x => return .float x
      | "-", .complex x y => return .complex (-x) (-y)
      | "+", .complex x y => return .complex x y
      | op, .ref i =>
        match op, (← get).heap[i]? with
        | "+", some (.dict d .counting) =>
          match ← countOperation k "+" d .empty with
          | some r => Action.allocate (.dict r .counting)
          | none => refused
        | "-", some (.dict d .counting) =>
          match ← countOperation k "-" .empty d with
          | some r => Action.allocate (.dict r .counting)
          | none => refused
        | _, _ => refused
      | op, v =>
        match v.int? with
        | some n =>
          return .int (match op with
            | "-" => -n
            | "+" => n
            | _ => -n - 1)
        | none => refused

def compared (k : Calls) (op : String) (a b : Value) : Action Value := do
  match op with
  | "==" | "!=" => equality op a b
  | "is" => return .bool (a.same b)
  | "is not" => return .bool (!a.same b)
  | "in" => return .bool (← contains k b a)
  | "not in" => return .bool (!(← contains k b a))
  | op =>
    match a, b with
    | .int m, .int n => return .bool (holds op (compare m n))
    | a, b =>
      match ← askedComparison k op a b with
      | .unsupported => return .bool (← orderedPlain k comparing op a b)
      | v => return v
where
  equality (op : String) (a b : Value) : Action Value := do
    let isPlain (v : Value) : Action Bool := do
      match ← Action.object? v with
      | some (.object _ _ _) => return false
      | some (.type _) => return false
      | _ => return true
    if ← if ← isPlain a then isPlain b else pure false then
      return .bool ((← equal k a b) == (op = "=="))
    match ← askedComparison k op a b with
    | .unsupported => return .bool ((← equalBases k comparing a b) == (op = "=="))
    | v => return v

end Flowboard.Script
