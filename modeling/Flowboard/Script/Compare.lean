import Flowboard.Script.Kind
import Flowboard.Text.Octet

/-! Truth, equality and order of values. -/
namespace Flowboard.Script

/-- A number that is no float, if a value is one. -/
def Value.int? : Value → Option Int
  | .int n => some n
  | .bool b => some (if b then 1 else 0)
  | _ => Option.none

/-- Whether a value counts as true. -/
def truth (k : Calls) (v : Value) : Action Bool := do
  match v with
  | .none => return false
  | .bool b => return b
  | .int n => return n ≠ 0
  | .float x => return !(x == 0.0)
  | .complex x y => return !(x == 0.0 && y == 0.0)
  | .str s => return s ≠ ""
  | .bytes b => return !b.isEmpty
  | .tuple xs => return !xs.isEmpty
  | .range a b c => return if 0 < c then a < b else b < a
  | .ref i =>
    match (← get).heap[i]? with
    | some (.list xs _) => return !xs.isEmpty
    | some (.dict d _) => return d.size ≠ 0
    | some (.set d _) => return d.size ≠ 0
    | some (.octets b) => return b.size ≠ 0
    | some (.window w) => return w.shape.headD 1 ≠ 0
    | some (.view _ d) => return (← dictAt d).size ≠ 0
    | some (.type _) =>
      match ← special? v "__bool__" with
      | some f => return (← k.call f [] []).int? = some 1
      | none =>
        match ← special? v "__len__" with
        | some f => return (← k.call f [] []).int? ≠ some 0
        | none => return true
    | some (.object _ _ base) =>
      match ← special? v "__bool__" with
      | some f =>
        match ← k.call f [] [] with
        | .bool b => return b
        | other =>
          Action.typeError ("__bool__ should return bool, returned " ++ (← typeName other))
      | none =>
        match ← special? v "__len__" with
        | some f =>
          match ← k.call f [] [] with
          | .int n => return n ≠ 0
          | _ => return true
        | none =>
          match base with
          | .none => return true
          | .bool b => return b
          | .int n => return n ≠ 0
          | .float x => return !(x == 0.0)
          | .str s => return s ≠ ""
          | .bytes b => return !b.isEmpty
          | .tuple xs => return !xs.isEmpty
          | .ref j =>
            match (← get).heap[j]? with
            | some (.list xs _) => return !xs.isEmpty
            | some (.dict d _) => return d.size ≠ 0
            | some (.set d _) => return d.size ≠ 0
            | _ => return true
          | _ => return true
    | _ => return true
  | _ => return true

def bytesOf? (v : Value) : Action (Option (List UInt8)) := do
  match v with
  | .bytes b => return some b
  | v =>
    match ← Action.object? v with
    | some (.octets b) => return some b.data.toList
    | some (.window w) => return some (← w.pieces).flatten
    | some (.object _ _ (.bytes b)) => return some b
    | some (.object _ _ (.ref j)) =>
      match (← get).heap[j]? with
      | some (.octets b) => return some b.data.toList
      | _ => return none
    | _ => return none

/-- The parts of a number as one with an imaginary part. -/
def complexOf? : Value → Option (Float × Float)
  | .complex x y => some (x, y)
  | .float x => some (x, 0.0)
  | .int n => (floatOfInt? n).map fun x => (x, 0.0)
  | .bool b => some (if b then 1.0 else 0.0, 0.0)
  | _ => none

def orderIntFloat (n : Int) (x : Float) : Option Ordering :=
  if x.isNaN then none
  else
    match fraction? x with
    | some (num, den) => some (compare (n * den) num)
    | none => some (if x < 0.0 then .gt else .lt)

def orderNumbers? (a b : Value) : Option (Option Ordering) :=
  match a, b with
  | .float x, .float y =>
    some (if x < y then some .lt else if y < x then some .gt else if x == y then some .eq else none)
  | .float x, b => b.int?.map fun n => (orderIntFloat n x).map Ordering.swap
  | a, .float y => a.int?.map fun n => orderIntFloat n y
  | a, b =>
    match a.int?, b.int? with
    | some m, some n => some (some (compare m n))
    | _, _ => none

/-- The names of the functions for comparisons, and for the same comparison from the other side. -/
def comparisonNames (op : String) : String × String :=
  match op with
  | "==" => ("__eq__", "__eq__")
  | "!=" => ("__ne__", "__ne__")
  | "<" => ("__lt__", "__gt__")
  | "<=" => ("__le__", "__ge__")
  | ">" => ("__gt__", "__lt__")
  | _ => ("__ge__", "__le__")

/-- Whether the second value is of a narrower class than the first one, so that it is asked first. -/
def isNarrower (a b : Value) : Action Bool := do
  match ← Action.object? b with
  | some (.object type _ _) =>
    let wide ← typeOf a
    if type.same wide then return false else isSubclass type wide
  | _ => return false

/-- What the classes of two values say about a comparison. -/
def askedComparison (k : Calls) (op : String) (a b : Value) : Action Value := do
  let (own, other) := comparisonNames op
  let ask (name : String) (v w : Value) : Action Value := do
    match ← special? v name with
    | some f => k.call f [w] []
    | none =>
      if name ≠ "__ne__" then return .unsupported
      match ← special? v "__eq__" with
      | some f =>
        match ← k.call f [w] [] with
        | .unsupported => return .unsupported
        | t => return .bool (!(← truth k t))
      | none => return .unsupported
  let swapped ← isNarrower a b
  match ← if swapped then ask other b a else ask own a b with
  | .unsupported => if swapped then ask own a b else ask other b a
  | v => return v

mutual

def equalWithin (k : Calls) : Nat → Value → Value → Action Bool
  | 0, _, _ => return false
  | fuel + 1, a, b => do
    match orderNumbers? a b with
    | some o => return o == some .eq
    | none =>
      match a, b with
      | .str s, .str t => return s == t
      | .bytes s, .bytes t => return s == t
      | .tuple xs, .tuple ys => equalLists k fuel xs ys
      | .ref i, .ref j =>
        if i = j then
          match ← special? a "__eq__" with
          | some f => truth k (← k.call f [b] [])
          | none => return true
        else
          let w ← get
          match w.heap[i]?, w.heap[j]? with
          | some (.list xs p), some (.list ys q) =>
            if p != q || xs.size != ys.size then return false
            else equalLists k fuel xs.toList ys.toList
          | some (.dict d .counting), some (.dict e .counting) =>
            -- what has no number counts as none
            let counted (d : Dict) : List (Value × Value) :=
              d.toList.filter fun (_, n) => n.int? ≠ some 0
            if (counted d).length != (counted e).length then return false
            else equalPairs k fuel e (counted d)
          | _, _ =>
            let _ ← bytesOf? a
            let _ ← bytesOf? b
            equalObjects k fuel a b
      | .ref _, _ => equalObjects k fuel a b
      | a, b => return a.same b
termination_by fuel => 2 * fuel

/-- Whether an object of a class equals another value. -/
def equalObjects (k : Calls) : Nat → Value → Value → Action Bool
  | 0, _, _ => return false
  | fuel + 1, a, b => do
    match ← askedComparison k "==" a b with
    | .unsupported => equalBases k fuel a b
    | v => truth k v
termination_by fuel => 2 * fuel

/-- Whether two values are equal if their classes do not say so. -/
def equalBases (k : Calls) : Nat → Value → Value → Action Bool
  | 0, _, _ => return false
  | fuel + 1, a, b => do
    let (p, q) := (← plain a, ← plain b)
    match ← Action.object? a, ← Action.object? p, ← Action.object? b, ← Action.object? q with
    | _, some (.object _ _ _), _, _ => return a.same b
    | _, _, _, some (.object _ _ _) => return a.same b
    | some (.object _ _ _), _, _, _ => equalWithin k fuel p q
    | _, _, some (.object _ _ _), _ => equalWithin k fuel p q
    | _, _, _, _ => return a.same b
termination_by fuel => 2 * fuel

def equalLists (k : Calls) : Nat → List Value → List Value → Action Bool
  | 0, _, _ => return false
  | _, [], [] => return true
  | fuel + 1, x :: xs, y :: ys => do
    if x.same y then equalLists k fuel xs ys
    else if ← equalWithin k fuel x y then equalLists k fuel xs ys
    else return false
  | _, _, _ => return false
termination_by fuel => 2 * fuel

/-- Whether a mapping has all of some pairs. -/
def equalPairs (k : Calls) : Nat → Dict → List (Value × Value) → Action Bool
  | 0, _, _ => return false
  | _, _, [] => return true
  | fuel + 1, d, (key, v) :: rest => do
    match d.get? (← keyOf k key) with
    | some u => if ← equalWithin k fuel v u then equalPairs k fuel d rest else return false
    | none => return false
termination_by fuel => 2 * fuel

end

/-- How far values are compared with each other. -/
def comparing : Nat := 100000000

def equal (k : Calls) (a b : Value) : Action Bool :=
  equalWithin k comparing a b

/-- Whether an order satisfies a comparison. -/
def holds (op : String) (o : Ordering) : Bool :=
  match op with
  | "<" => o == .lt
  | "<=" => o != .gt
  | ">" => o == .gt
  | _ => o != .lt

def orderTexts (s t : String) : Ordering :=
  if s = t then .eq
  else if s.any Text.isHalf || t.any Text.isHalf then
    if Text.precedes s.toList t.toList then .lt else .gt
  else if s < t then .lt
  else .gt

mutual

/-- Whether a comparison of order holds for two values of types that are always there, if they have
an order. -/
def orderedBases (k : Calls) : Nat → String → Value → Value → Action (Option Bool)
  | 0, _, _, _ => return none
  | fuel + 1, op, a, b => do
    match orderNumbers? a b with
    | some (some o) => return some (holds op o)
    | some none => return some false
    | none =>
      match a, b with
      | .str s, .str t => return some (holds op (orderTexts s t))
      | .tuple xs, .tuple ys => return some (← orderedLists k fuel op xs ys)
      | a, b =>
        match ← Action.object? a, ← Action.object? b with
        | some (.list xs _), some (.list ys _) =>
          return some (← orderedLists k fuel op xs.toList ys.toList)
        | some (.set d _), some (.set e _) => return some (← within op d.size e.size d.keys e.keys)
        | _, _ => return none
where
  within (op : String) (m n : Nat) (xs ys : List Value) : Action Bool := do
    let (xs, ys) := (← xs.mapM (keyOf k), ← ys.mapM (keyOf k))
    let less (xs ys : List String) : Bool :=
      let known := ys.foldl (fun (s : Std.HashSet String) y => s.insert y) {}
      xs.all known.contains
    match op with
    | "<" => return m < n && less xs ys
    | "<=" => return m ≤ n && less xs ys
    | ">" => return n < m && less ys xs
    | _ => return n ≤ m && less ys xs

/-- Whether a comparison of order holds if the classes of the values do not say so. -/
def orderedPlain (k : Calls) : Nat → String → Value → Value → Action Bool
  | 0, _, _, _ => return false
  | fuel + 1, op, a, b => do
    match ← orderedBases k fuel op (← plain a) (← plain b) with
    | some t => return t
    | none =>
      Action.typeError ("'" ++ op ++ "' not supported between instances of '" ++
        (← typeName a) ++ "' and '" ++ (← typeName b) ++ "'")

def orderedWithin (k : Calls) : Nat → String → Value → Value → Action Bool
  | 0, _, _, _ => return false
  | fuel + 1, op, a, b => do
    match orderNumbers? a b with
    | some (some o) => return holds op o
    | some none => return false
    | none =>
      match ← askedComparison k op a b with
      | .unsupported => orderedPlain k fuel op a b
      | v => truth k v

def orderedLists (k : Calls) : Nat → String → List Value → List Value → Action Bool
  | 0, _, _, _ => return false
  | _, op, [], [] => return holds op .eq
  | _, op, [], _ => return holds op .lt
  | _, op, _, [] => return holds op .gt
  | fuel + 1, op, x :: xs, y :: ys => do
    if ← equal k x y then orderedLists k fuel op xs ys else orderedWithin k fuel op x y

end

/-- Whether a comparison of order holds. -/
def ordered (k : Calls) (op : String) (a b : Value) : Action Bool :=
  orderedWithin k comparing op a b

/-- Joins two lists in order; of equals the first list's come first. -/
def mergeLists (less : Value → Value → Action Bool) :
    Nat → List (Value × Value) → List (Value × Value) → List (Value × Value) →
    Action (List (Value × Value))
  | 0, done, xs, ys => return done.reverse ++ xs ++ ys
  | _, done, [], ys => return done.reverse ++ ys
  | _, done, xs, [] => return done.reverse ++ xs
  | fuel + 1, done, x :: xs, y :: ys => do
    if ← less y.1 x.1 then mergeLists less fuel (y :: done) (x :: xs) ys
    else mergeLists less fuel (x :: done) xs (y :: ys)

/-- Joins neighbours in a list of sorted lists. -/
def mergeNeighbours (less : Value → Value → Action Bool) :
    List (List (Value × Value)) → Action (List (List (Value × Value)))
  | a :: b :: rest => do
    let ab ← mergeLists less (a.length + b.length) [] a b
    return ab :: (← mergeNeighbours less rest)
  | ls => return ls

def mergeAll (less : Value → Value → Action Bool) :
    Nat → List (List (Value × Value)) → Action (List (Value × Value))
  | 0, ls => return ls.flatten
  | _, [] => return []
  | _, [l] => return l
  | fuel + 1, ls => do mergeAll less fuel (← mergeNeighbours less ls)

/-- Sorts values by their keys; equal ones keep their order, also backwards. -/
def sortedBy (k : Calls) (backwards : Bool) (pairs : List (Value × Value)) :
    Action (List Value) := do
  let numbers := pairs.filterMap fun p => match p.1 with
    | .int n => some (n, p.2)
    | _ => none
  Action.work pairs.length
  if numbers.length = pairs.length then
    let sorted := if backwards then numbers.mergeSort fun a b => b.1 ≤ a.1
      else numbers.mergeSort fun a b => a.1 ≤ b.1
    return sorted.map (·.2)
  else
    let less (a b : Value) : Action Bool :=
      if backwards then ordered k "<" b a else ordered k "<" a b
    let sorted ← mergeAll less 64 (pairs.map fun p => [p])
    return sorted.map (·.2)

end Flowboard.Script
