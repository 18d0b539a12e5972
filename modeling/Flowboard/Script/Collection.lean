import Flowboard.Script.TextMethod

/-! What lists, mappings, sets and numbers can do. -/
namespace Flowboard.Script

def changeList (i : Nat) (f : Array Value → Array Value) : Action Value := do
  Action.change i fun
    | .list xs ends => .list (f xs) ends
    | o => o
  return .none

def changeDict (i : Nat) (f : Dict → Dict) : Action Value := do
  Action.change i fun
    | .dict d kind => .dict (f d) kind
    | o => o
  return .none

def changeSet (i : Nat) (f : Dict → Dict) : Action Value := do
  Action.change i fun
    | .set d frozen => .set (f d) frozen
    | o => o
  return .none

def firstOf (name : String) (args : List Value) : Action Value :=
  match args.head? with
  | some v => return v
  | none => Action.typeError (name ++ "() takes at least 1 argument (0 given)")

/-- The place of the first value that equals another one. -/
def placeOf (k : Calls) (x : Value) : Nat → List Value → Action (Option Nat)
  | _, [] => return none
  | n, y :: ys => do if ← equal k x y then return some n else placeOf k x (n + 1) ys

def sortedWith (k : Calls) (vs : List Value) (named : List (String × Value)) :
    Action (List Value) := do
  let backwards ← match named.lookup "reverse" with
    | some v => truth k v
    | none => pure false
  let pairs ← match named.lookup "key" with
    | none => pure (vs.map fun v => (v, v))
    | some .none => pure (vs.map fun v => (v, v))
    | some f => vs.mapM fun v => do return (← k.call f [v] [], v)
  sortedBy k backwards pairs

def listMethods : List String :=
  ["append", "clear", "copy", "count", "extend", "index", "insert", "pop", "remove", "reverse",
   "sort"]

def dequeMethods : List String :=
  listMethods.erase "sort" ++ ["appendleft", "popleft", "extendleft", "rotate"]

def listMethod (k : Calls) (i : Nat) (xs : Array Value) (ends : Bool) (name : String)
    (args : List Value) (named : List (String × Value)) : Action Value := do
  let empty := if ends then "pop from an empty deque" else "pop from empty list"
  let kind := if ends then "deque" else "list"
  match name with
  | "append" =>
    match args with
    | [v] =>
      let _ ← changeList i (·.push v)
      if ends then limitQueue i false
      return .none
    | args =>
      Action.typeError (kind ++ ".append() takes exactly one argument (" ++
        Text.naturalText args.length ++ " given)")
  | "extend" =>
    let ys ← itemsOf k (← firstOf name args)
    let _ ← changeList i (· ++ ys.toArray)
    if ends then limitQueue i false
    return .none
  | "pop" =>
    let n := match args.head? with
      | some v => v.int?.getD (-1)
      | none => -1
    if xs.isEmpty then Action.raise "IndexError" empty
    else
      match if ends && !args.isEmpty then none else place? n xs.size with
      | none =>
        if ends then Action.typeError "deque.pop() takes no arguments (1 given)"
        Action.raise "IndexError" "pop index out of range"
      | some j =>
        let v := xs[j]?.getD .none
        if j + 1 = xs.size then
          let _ ← changeList i Array.pop
          return v
        else
          let _ ← changeList i fun xs => xs.extract 0 j ++ xs.extract (j + 1) xs.size
          return v
  | "popleft" =>
    match xs[0]? with
    | none => Action.raise "IndexError" empty
    | some v =>
      let _ ← changeList i fun xs => xs.extract 1 xs.size
      return v
  | "appendleft" =>
    let v ← firstOf name args
    let _ ← changeList i fun xs => #[v] ++ xs
    limitQueue i true
    return .none
  | "remove" =>
    match ← placeOf k (← firstOf name args) 0 xs.toList with
    | some j => changeList i fun xs => xs.extract 0 j ++ xs.extract (j + 1) xs.size
    | none => Action.valueError (kind ++ ".remove(x): x not in " ++ kind)
  | "index" =>
    let v ← firstOf name args
    let (start, part) ← between k xs.toList args[1]? args[2]?
    match ← placeOf k v 0 part with
    | some n => return .int (start + n)
    | none => Action.valueError ((← repr k v) ++ " is not in " ++ kind)
  | "clear" =>
    Action.dropped (.tuple xs.toList)
    changeList i fun _ => #[]
  | "reverse" => changeList i Array.reverse
  | "sort" =>
    if !args.isEmpty then Action.typeError "sort() takes no positional arguments"
    let sorted ← sortedWith k xs.toList named
    changeList i fun _ => sorted.toArray
  | name => Action.raise "AttributeError" ("'" ++ kind ++ "' object has no attribute '" ++ name ++ "'")

def pairsOf (k : Calls) (v : Value) : Action (List (Value × Value)) := do
  match ← Action.object? (← plain v) with
  | some (.dict d _) => return d.toList
  | some (.view which d) =>
    if isNameView which then return (← openView which d).toList
    else pairsFrom (← itemsOf k v)
  | some (.object _ _ .none) =>
    -- an object with keys is a mapping
    match ← special? v "keys" with
    | some f =>
      (← itemsOf k (← k.call f [] [])).mapM fun key => do return (key, ← getItem k v key)
    | none => pairsFrom (← itemsOf k v)
  | _ => pairsFrom (← itemsOf k v)
where
  pairsFrom (vs : List Value) : Action (List (Value × Value)) :=
    vs.zipIdx.mapM fun (p, i) => do
      match ← Action.object? p, p with
      | none, .int _ =>
        Action.typeError ("cannot convert dictionary update sequence element #" ++
          Text.naturalText i ++ " to a sequence")
      | _, _ =>
        match ← itemsOf k p with
        | [a, b] => pure (a, b)
        | xs =>
          Action.valueError ("dictionary update sequence element #" ++ Text.naturalText i ++
            " has length " ++ Text.naturalText xs.length ++ "; 2 is required")

def insertPairs (k : Calls) (d : Dict) (pairs : List (Value × Value)) : Action Dict :=
  pairs.foldlM (fun d (a, b) => do return d.insert (← keyOf k a) a b) d

def namedPairs (named : List (String × Value)) : List (Value × Value) :=
  named.map fun (name, v) => (.str name, v)

def countAll (k : Calls) (sign : Int) (d : Dict) (v : Value) : Action Dict := do
  let pairs ← match ← Action.object? (← plain v) with
    | some (.dict e _) => pure e.toList
    | _ => do pure ((← itemsOf k v).map fun x => (x, .int 1))
  pairs.foldlM (fun d (x, n) => do
    let key ← keyOf k x
    let old := ((d.get? key).bind Value.int?).getD 0
    return d.insert key x (.int (old + sign * (n.int?.getD 0)))) d

def dictMethods : List String :=
  ["clear", "copy", "fromkeys", "get", "items", "keys", "pop", "popitem", "setdefault", "update",
   "values"]

def counterMethods : List String :=
  dictMethods ++ ["elements", "most_common", "subtract", "total"]

def dictMethod (k : Calls) (i : Nat) (d : Dict) (kind : Mapping) (name : String)
    (args : List Value) (named : List (String × Value)) : Action Value := do
  let counting := match kind with
    | .counting => true
    | _ => false
  match name with
  | "get" =>
    let v ← firstOf name args
    return ((d.get? (← keyOf k v)).or args[1]?).getD .none
  | "keys" | "values" | "items" => Action.allocate (.view name i)
  | "pop" =>
    let v ← firstOf name args
    let key ← keyOf k v
    match d.get? key, args[1]? with
    | some x, _ => let _ ← changeDict i (·.erase key); return x
    | none, some x => return x
    | none, none => missing v
  | "setdefault" =>
    let v ← firstOf name args
    let key ← keyOf k v
    match d.get? key with
    | some x => return x
    | none =>
      let x := args[1]?.getD .none
      let _ ← changeDict i (·.insert key v x)
      return x
  | "update" =>
    if counting then
      let d ← match args.head? with
        | some v => countAll k 1 d v
        | none => pure d
      let d ← namedPairs named |>.foldlM (fun d (a, b) => do
        let key ← keyOf k a
        let old := ((d.get? key).bind Value.int?).getD 0
        return d.insert key a (.int (old + b.int?.getD 0))) d
      changeDict i fun _ => d
    else
      let pairs ← match args.head? with
        | some v => pairsOf k v
        | none => pure []
      let d ← insertPairs k d (pairs ++ namedPairs named)
      changeDict i fun _ => d
  | "most_common" =>
    let all := (mostCommon d).map fun (a, b) => Value.tuple [a, b]
    match args.head?.bind Value.int? with
    | some n => Action.list (all.take n.toNat)
    | none => Action.list all
  | "move_to_end" =>
    let v ← firstOf name args
    let key ← keyOf k v
    match d.get? key with
    | some x =>
      if (argument? args named 1 "last").any (fun v => v.int? = some 0) then
        let rest := d.erase key
        let d ← insertPairs k (Dict.empty.insert key v x) rest.toList
        changeDict i fun _ => d
      else changeDict i fun d => (d.erase key).insert key v x
    | none => missing v
  | "fromkeys" =>
    let keys ← itemsOf k (← firstOf name args)
    let d ← insertPairs k .empty (keys.map fun key => (key, args[1]?.getD .none))
    Action.allocate (.dict d .plain)
  | name => Action.raise "AttributeError" ("'dict' object has no attribute '" ++ name ++ "'")

def setMethods : List String :=
  ["add", "clear", "copy", "difference", "difference_update", "discard", "intersection",
   "intersection_update", "isdisjoint", "issubset", "issuperset", "pop", "remove",
   "symmetric_difference", "symmetric_difference_update", "union", "update"]

def asSet (k : Calls) (v : Value) : Action Dict := do
  match ← Action.object? v with
  | some (.set d _) => return d
  | _ => insertAll k .empty (← itemsOf k v)

/-- An operator on a set and others one after the other. -/
def setWithAll (k : Calls) (op : String) (d : Dict) (args : List Value) : Action Dict :=
  args.foldlM (fun d v => do return (setOperation op d (← asSet k v)).getD d) d

def setMethod (k : Calls) (i : Nat) (d : Dict) (name : String)
    (args : List Value) : Action Value := do
  match name with
  | "add" =>
    let v ← firstOf name args
    let key ← keyOf k v
    changeSet i fun d => if d.contains key then d else d.insert key v .none
  | "update" => let d ← setWithAll k "|" d args; changeSet i fun _ => d
  | name => Action.raise "AttributeError" ("'set' object has no attribute '" ++ name ++ "'")

def tupleMethod (k : Calls) (xs : List Value) (name : String) (args : List Value) :
    Action Value := do
  match name with
  | "index" =>
    match ← placeOf k (← firstOf name args) 0 xs with
    | some n => return .int n
    | none => Action.valueError "tuple.index(x): x not in tuple"
  | name => Action.raise "AttributeError" ("'tuple' object has no attribute '" ++ name ++ "'")

def lowBytes : Nat → Nat → List UInt8
  | 0, _ => []
  | width + 1, n => UInt8.ofNat (n % 256) :: lowBytes width (n / 256)

def intMethods : List String :=
  ["as_integer_ratio", "bit_count", "bit_length", "conjugate", "to_bytes"]

/-- What an integer does. -/
def intMethod (n : Int) (name : String) (args : List Value) (named : List (String × Value)) :
    Action Value := do
  match name with
  | "bit_length" => return .int (bitLength n)
  | "bit_count" => return .int ((Nat.toDigits 2 n.natAbs).count '1')
  | "to_bytes" =>
    let width := ((argument? args named 0 "length").bind Value.int?).getD 1
    let little := textOr (argument? args named 1 "byteorder") "big" = "little"
    let signed := (named.lookup "signed").any fun v => v.int? = some 1
    let limit : Int := twoTo (8 * width.toNat)
    if n < 0 ∧ ¬ signed then
      Action.raise "OverflowError" "can't convert negative int to unsigned"
    else if limit ≤ n ∨ (signed ∧ (limit ≤ 2 * n ∨ 2 * n < -limit)) then
      Action.raise "OverflowError" "int too big to convert"
    else
      let bs := lowBytes width.toNat (n % limit).toNat
      return .bytes (if little then bs else bs.reverse)
  | "as_integer_ratio" => return .tuple [.int n, .int 1]
  | "conjugate" => return .int n
  | name => Action.raise "AttributeError" ("'int' object has no attribute '" ++ name ++ "'")

def floatMethods : List String :=
  ["as_integer_ratio", "conjugate", "hex", "is_integer"]

def octetsMethods : List String :=
  ["append", "extend", "insert", "pop", "remove", "reverse", "clear", "copy"]

/-- Bytes of a result as bytes that can change. -/
def asOctets (v : Value) : Action Value := do
  let one (v : Value) : Action Value := match v with
    | .bytes b => Action.allocate (.octets ⟨b.toArray⟩)
    | v => return v
  match v with
  | .bytes _ => one v
  | .tuple xs => return .tuple (← xs.mapM one)
  | .ref i =>
    match (← get).heap[i]? with
    | some (.list xs ends) =>
      Action.store i (.list (← xs.mapM one) ends)
      return v
    | _ => return v
  | v => return v

def floatMethod (x : Float) (name : String) : Action Value := do
  match name with
  | "is_integer" => return .bool (integral? x).isSome
  | "conjugate" => return .float x
  | "as_integer_ratio" =>
    match fraction? x with
    | some (n, d) =>
      let g := Nat.gcd n.natAbs d
      return .tuple [.int (n / g), .int (d / g)]
    | none =>
      if x.isNaN then Action.valueError "cannot convert NaN to integer ratio"
      else Action.raise "OverflowError" "cannot convert Infinity to integer ratio"
  | "hex" => return .str (floatHex x)
  | name => Action.raise "AttributeError" ("'float' object has no attribute '" ++ name ++ "'")

end Flowboard.Script
