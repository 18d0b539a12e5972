import Flowboard.Script.Compare
import Flowboard.Script.Shown
import Flowboard.Text.Octet

/-! Values in order: iteration, indices and slices. -/
namespace Flowboard.Script

def rangeLength (first last step : Int) : Nat :=
  if 0 < step then ((last - first + step - 1) / step).toNat
  else if step < 0 then ((first - last - step - 1) / -step).toNat
  else 0

def rangeValues (first last step : Int) : List Value :=
  (List.range (rangeLength first last step)).map fun (i : Nat) => .int (first + step * i)

/-- The longest text or list that can be built. -/
def sizeLimit : Nat := 20000000

/-- The names of an object or the variables of a scope as pairs of a mapping. -/
def openView (which : String) (i : Nat) : Action Dict := do
  if which = "variables" then
    return (((← get).scopes[i]?.map Scope.pairs).getD []).foldl (fun d (n, v) => Dict.set d n v)
      Dict.empty
  else dictAt i

/-- Puts the pairs of a mapping in the place of the names of an object or of the variables of a
scope. -/
def closeView (which : String) (i : Nat) (d : Dict) : Action Unit := do
  if which = "variables" then
    modify fun w =>
      { w with scopes := w.scopes.modify i fun s =>
          let hidden := s.bindings.toList.filter fun (n, _) => n.startsWith "."
          let shown := d.toList.filterMap fun
            | (.str n, v) => some (n, v)
            | _ => none
          { s with bindings := (hidden ++ shown).foldl (fun m (n, v) => m.insert n v) {} } }
  else
    let innate ← match (← get).heap[i]? with
      | some (.object type attributes _) =>
        if (attributes.named? "args").isSome then
          pure ((← innateNames type).filterMap fun n => (attributes.named? n).map fun v => (n, v))
        else pure []
      | _ => pure []
    Action.change i fun
      | .object type _ base =>
        .object type (innate.foldl (fun d (n, v) => Dict.set d n v) d) base
      | .function f => .function { f with attributes := d }
      | o => o

/-- Does something with a mapping that stands for the names of an object or the variables of a
scope. -/
def throughView {α : Type} (which : String) (i : Nat) (work : Value → Action α) : Action α := do
  let d ← openView which i
  let held ← Action.allocate (.dict d .plain)
  let a ← work held
  match ← Action.object? held with
  | some (.dict e _) => closeView which i e
  | _ => pure ()
  return a

def isNameView (which : String) : Bool :=
  which = "members" || which = "variables"

def lengthOf (k : Calls) (v : Value) : Action Nat := do
  let unsized : Action Nat := do
    Action.typeError ("object of type '" ++ (← typeName v) ++ "' has no len()")
  let own ← match v with
    | .ref _ => special? v "__len__"
    | _ => pure none
  let p ← match own with
    | some _ => pure v
    | none => plain v
  match p with
  | .str s => return s.length
  | .bytes b => return b.length
  | .tuple xs => return xs.length
  | .range a b c => return rangeLength a b c
  | .ref i =>
    match (← get).heap[i]? with
    | some (.list xs _) => return xs.size
    | some (.dict d _) => return d.size
    | some (.set d _) => return d.size
    | some (.octets b) => return b.size
    | some (.window w) => w.checkOpen; return w.shape.headD 1
    | some (.view which d) =>
      if isNameView which then return (← openView which d).size else return (← dictAt d).size
    | _ =>
      match own with
      | some f =>
        let n ← k.call f [] []
        match n.int? with
        | some n =>
          if n < 0 then Action.valueError "__len__() should return >= 0" else return n.toNat
        | none =>
          Action.typeError ("'" ++ (← typeName n) ++ "' object cannot be interpreted as an integer")
      | none =>
        match ← bytesOf? v with
        | some b => return b.length
        | none => unsized
  | _ => unsized

def charsOf (s : String) : List Value :=
  s.toList.map fun c => .str c.toString

def iterOf (k : Calls) (v : Value) : Action Value := do
  let refused : Action Value := do
    Action.typeError ("'" ++ (← typeName v) ++ "' object is not iterable")
  match v with
  | .str s => Action.iterator (.values (charsOf s))
  | .bytes b => Action.iterator (.values (b.map fun b => .int b.toNat))
  | .tuple xs => Action.iterator (.values xs)
  | .range a b c => Action.iterator (.counting a b c)
  | .builtin "sys.stdin" => return v
  | .ref i =>
    match (← get).heap[i]? with
    | some (.list _ _) => Action.iterator (.elements i 0)
    | some (.dict d _) => Action.iterator (.entries "keys" i 0 d.size)
    | some (.set d _) => Action.iterator (.values (setElements d))
    | some (.octets _) | some (.window _) => Action.iterator (.indexed v 0)
    | some (.view which d) =>
      if isNameView which then Action.iterator (.values (← openView which d).keys)
      else
        match (← get).heap[d]? with
        | some (.dict e _) => Action.iterator (.entries which d 0 e.size)
        | _ => Action.iterator (.values (viewed which (← dictAt d)))
    | some (.iterator _) => return v
    | some (.file _) => return v
    | some (.type _) =>
      match ← special? v "__iter__" with
      | some f => k.call f [] []
      | none => refused
    | some (.object _ _ base) =>
      match ← special? v "__iter__" with
      | some (.bound _ .none) => refused
      | some f =>
        let it ← k.call f [] []
        match ← Action.object? it with
        | some (.object _ _ _) =>
          if (← special? it "__next__").isNone then
            Action.typeError ("iter() returned non-iterator of type '" ++ (← typeName it) ++ "'")
          else return it
        | some _ => return it
        | none =>
          Action.typeError ("iter() returned non-iterator of type '" ++ (← typeName it) ++ "'")
      | none =>
        match base with
        | .none =>
          if (← special? v "__getitem__").isSome then Action.iterator (.indexed v 0)
          else if (← bytesOf? v).isSome then Action.iterator (.indexed v 0)
          else refused
        | .ref j => Action.iterator (← (do
            match (← get).heap[j]? with
            | some (.list _ _) => return .elements j 0
            | some (.dict d _) => return .entries "keys" j 0 d.size
            | some (.set d _) => return .values (setElements d)
            | some (.octets _) => return .indexed (.ref j) 0
            | _ => return .done))
        | .tuple xs => Action.iterator (.values xs)
        | .str s => Action.iterator (.values (charsOf s))
        | .bytes b => Action.iterator (.values (b.map fun b => .int b.toNat))
        | _ => refused
    | _ => refused
  | _ => refused

def drain (k : Calls) (it : Value) : Nat → Array Value → Action (Array Value)
  | 0, _ => throw .never
  | fuel + 1, acc => do
    match ← k.next it with
    | some v => Action.step; drain k it fuel (acc.push v)
    | none => return acc

/-- The number of rounds that no loop reaches. -/
def rounds : Nat := 1000000000

/-- The values of something that can be iterated over. -/
def itemsOf (k : Calls) (v : Value) : Action (List Value) := do
  match v with
  | .tuple xs => return xs
  | .str s => return charsOf s
  | .range a b c =>
    Action.work (rangeLength a b c / 8)
    return rangeValues a b c
  | v =>
    match ← Action.object? v with
    | some (.list xs _) => return xs.toList
    | some (.dict d _) => return d.keys
    | some (.set d _) => return setElements d
    | some (.octets b) => return b.data.toList.map fun b => .int b.toNat
    | some (.window w) =>
      if w.shape.length = 1 then w.numbers else return (← drain k (← iterOf k v) rounds #[]).toList
    | _ => return (← drain k (← iterOf k v) rounds #[]).toList

def indexOf? (k : Calls) (v : Value) : Action (Option Int) := do
  match v.int? with
  | some n => return some n
  | none =>
    match ← special? v "__index__" with
    | some f => return (← k.call f [] []).int?
    | none => return (← plain v).int?

/-- An object that stands for a place as its number, any other value as it is. -/
def asIndex (k : Calls) (v : Value) : Action Value := do
  match ← Action.object? v with
  | some (.object _ _ .none) =>
    match ← special? v "__index__" with
    | some f => k.call f [] []
    | none => return v
  | _ => return v

/-- A place that counts from the end if it is negative. -/
def place? (n : Int) (length : Nat) : Option Nat :=
  let m := if n < 0 then n + length else n
  if 0 ≤ m ∧ m < length then some m.toNat else none

/-- The places of a slice: the first one, how many there are, and the step. -/
structure Places where
  first : Int
  count : Nat
  step : Int

def placesOf (k : Calls) (length : Nat) (first last step : Value) : Action Places := do
  let number (v : Value) : Action (Option Int) := do
    match v with
    | .none => return none
    | v =>
      match ← indexOf? k v with
      | some n => return some n
      | none =>
        Action.typeError "slice indices must be integers or None or have an __index__ method"
  let step := (← number step).getD 1
  if step = 0 then Action.valueError "slice step cannot be zero"
  let n : Int := length
  let clamp (low high v : Int) : Int :=
    let v := if v < 0 then v + n else v
    max low (min high v)
  let (first, last) := (← number first, ← number last)
  if 0 < step then
    let a := (first.map (clamp 0 n)).getD 0
    let b := (last.map (clamp 0 n)).getD n
    return ⟨a, rangeLength a b step, step⟩
  else
    let a := (first.map (clamp (-1) (n - 1))).getD (n - 1)
    let b := (last.map (clamp (-1) (n - 1))).getD (-1)
    return ⟨a, rangeLength a b step, step⟩

def Places.pick {α : Type} (p : Places) (xs : Array α) : List α :=
  (List.range p.count).filterMap fun (i : Nat) => xs[(p.first + p.step * i).toNat]?

/-- The element of a list at an index, or of some of them. -/
def pickFrom (k : Calls) (kind : String) (xs : Array Value) (i : Value)
    (build : List Value → Action Value) : Action Value := do
  match i with
  | .slice a b c => build ((← placesOf k xs.size a b c).pick xs)
  | i =>
    match ← indexOf? k i with
    | some n =>
      match place? n xs.size with
      | some j => return xs[j]?.getD .none
      | none => Action.raise "IndexError" (kind ++ " index out of range")
    | none =>
      Action.typeError (kind ++ " indices must be integers or slices, not " ++ (← typeName i))

/-- A byte or some bytes that can change. -/
def pickOctets (k : Calls) (b : ByteArray) (i : Value) : Action Value := do
  match i with
  | .slice x y z =>
    let p ← placesOf k b.size x y z
    Action.work (p.count / 50)
    if p.step = 1 then
      Action.allocate (.octets (b.extract p.first.toNat (p.first.toNat + p.count)))
    else Action.allocate (.octets ⟨(p.pick b.data).toArray⟩)
  | i =>
    match ← indexOf? k i with
    | some n =>
      match place? n b.size with
      | some j => return .int (b.data[j]?.getD 0).toNat
      | none => Action.raise "IndexError" "bytearray index out of range"
    | none =>
      Action.typeError ("bytearray indices must be integers or slices, not " ++ (← typeName i))

def byteOf (k : Calls) (kind : String) (v : Value) : Action UInt8 := do
  match ← indexOf? k v with
  | some n =>
    if 0 ≤ n ∧ n < 256 then return UInt8.ofNat n.toNat
    else Action.valueError (kind ++ " must be in range(0, 256)")
  | none =>
    Action.typeError ("'" ++ (← typeName v) ++ "' object cannot be interpreted as an integer")

def bytesFrom (k : Calls) (v : Value) : Action (List UInt8) := do
  match ← bytesOf? v with
  | some b => return b
  | none =>
    match v with
    | .str _ => Action.typeError "can assign only bytes, buffers, or iterables of ints in range(0, 256)"
    | v => (← itemsOf k v).mapM (byteOf k "byte")

/-- Binds a byte or replaces some bytes. -/
def setOctets (k : Calls) (place size : Nat) (i x : Value) : Action Unit := do
  match i with
  | .slice u v w =>
    let new ← bytesFrom k x
    let p ← placesOf k size u v w
    Action.work ((p.count + new.length) / 50)
    if p.step = 1 then
      let first := p.first.toNat
      Action.change place fun
        | .octets b =>
          if new.length = p.count then
            .octets (new.foldl (fun (b, i) x => (b.set! i x, i + 1)) (b, first)).1
          else
            .octets (b.extract 0 first ++ ⟨new.toArray⟩ ++ b.extract (first + p.count) b.size)
        | o => o
    else if new.length = p.count then
      Action.change place fun
        | .octets b => .octets (new.foldl (fun (b, i) x =>
            (b.set! (p.first + p.step * i).toNat x, i + 1)) (b, (0 : Int))).1
        | o => o
    else
      Action.valueError ("attempt to assign bytes of size " ++ Text.naturalText new.length ++
        " to extended slice of size " ++ Text.naturalText p.count)
  | i =>
    match ← indexOf? k i with
    | some n =>
      match place? n size with
      | some j =>
        let x ← byteOf k "byte" x
        Action.change place fun
          | .octets b => .octets (b.set! j x)
          | o => o
      | none => Action.raise "IndexError" "bytearray index out of range"
    | none =>
      Action.typeError ("bytearray indices must be integers or slices, not " ++ (← typeName i))

def pickWindow (k : Calls) (w : Window) (i : Value) : Action Value := do
  w.checkOpen
  match i, w.shape with
  | .slice x y z, [n] =>
    let p ← placesOf k n x y z
    Action.allocate (.window { w with
      start := w.start + w.step * p.first, step := w.step * p.step, shape := [p.count] })
  | _, _ => Action.raise "NotImplementedError" "multi-dimensional sub-views are not implemented"

/-- Replaces a number or some numbers of a window. -/
def setWindow (k : Calls) (w : Window) (i x : Value) : Action Unit := do
  w.checkOpen
  if w.fixed then Action.typeError "cannot modify read-only memory"
  let put (pieces : List (Nat × List UInt8)) : Action Unit := do
    match w.source with
    | .ref place =>
      Action.change place fun
        | .octets b => .octets (pieces.foldl (fun b (start, bytes) =>
            (bytes.foldl (fun ((b : ByteArray), i) x => (b.set! i x, i + 1)) (b, start)).1) b)
        | o => o
    | _ => return
  match i, w.shape with
  | .slice a b c, [n] =>
    let p ← placesOf k n a b c
    let (format, shape, pieces) ← do
      let _ ← Action.object? x
      do
        match ← bytesOf? x with
        | some b => pure ("B", [b.length], b.map fun b => [b])
        | none =>
          Action.typeError ("a bytes-like object is required, not '" ++ (← typeName x) ++ "'")
    if format ≠ w.format || shape ≠ [p.count] then
      Action.valueError "memoryview assignment: lvalue and rvalue have different structures"
    let starts := (List.range p.count).map fun (i : Nat) =>
      (w.start + w.step * (p.first + p.step * i)).toNat
    put (starts.zip pieces)
  | _, _ => Action.raise "NotImplementedError" "sub-views are not implemented"

def missing {α : Type} (key : Value) : Action α :=
  Action.raiseWith "KeyError" [key]

def lookUp (k : Calls) (i : Nat) (d : Dict) (kind : Mapping) (key : Value) : Action Value := do
  let text ← keyOf k key
  match d.get? text with
  | some v => return v
  | none =>
    match kind with
    | .counting => return .int 0
    | .supplied .none => missing key
    | .supplied factory =>
      let v ← k.call factory [] []
      Action.change i fun
        | .dict d kind => .dict (d.insert text key v) kind
        | o => o
      return v
    | _ => missing key

/-- The character of a text at a place. Where all characters have one byte, the place is that of the
byte. -/
def charAt (s : String) (i : Nat) : Char :=
  if s.utf8ByteSize = s.length then String.Pos.Raw.get s ⟨i⟩ else s.toList[i]?.getD ' '

def pickText (k : Calls) (s : String) (i : Value) : Action Value := do
  match i with
  | .slice a b c =>
    let p ← placesOf k s.length a b c
    let cs := s.toList
    if p.step = 1 then return .str (.ofList ((cs.drop p.first.toNat).take p.count))
    else return .str (.ofList (p.pick cs.toArray))
  | i =>
    match ← indexOf? k i with
    | some n =>
      match place? n s.length with
      | some j => return .str (charAt s j).toString
      | none => Action.raise "IndexError" "string index out of range"
    | none =>
      Action.typeError ("string indices must be integers, not '" ++ (← typeName i) ++ "'")

/-- The element under an index or a key. -/
def getItem (k : Calls) (v i : Value) : Action Value := do
  let refused : Action Value := do
    Action.typeError ("'" ++ (← typeName v) ++ "' object is not subscriptable")
  match v with
  | .str s => pickText k s i
  | .bytes b =>
    pickFrom k "index" (b.map fun b => Value.int b.toNat).toArray i fun xs =>
      return .bytes (xs.map fun x => UInt8.ofNat (x.int?.getD 0).toNat)
  | .tuple xs => pickFrom k "tuple" xs.toArray i fun xs => return .tuple xs
  | .range a b c =>
    match ← indexOf? k i with
    | some n =>
      match place? n (rangeLength a b c) with
      | some j => return .int (a + c * j)
      | none => Action.raise "IndexError" "range object index out of range"
    | none =>
      Action.typeError ("range indices must be integers or slices, not " ++ (← typeName i))
  | .ref place =>
    match (← get).heap[place]? with
    | some (.list xs ends) =>
      pickFrom k (if ends then "deque" else "list") xs i Action.list
    | some (.dict d kind) => lookUp k place d kind i
    | some (.octets b) => pickOctets k b i
    | some (.window w) => pickWindow k w i
    | some (.type _) =>
      match ← special? v "__getitem__" with
      | some f => k.call f [i] []
      | none =>
        match ← findIn "__class_getitem__" (← lineage v) with
        | some f =>
          let f ← do
            let _ ← Action.object? f
            pure f
          k.call f [v, i] []
        | none =>
          if (← lineage v).any fun
              | _ => false then aliasOf v i
          else Action.typeError ("type '" ++ (← nameOfType v) ++ "' is not subscriptable")
    | some (.object _ _ base) =>
      match ← special? v "__getitem__" with
      | some f => k.call f [i] []
      | none =>
        match base with
        | .tuple xs => pickFrom k "tuple" xs.toArray i fun xs => return .tuple xs
        | .ref j =>
          match (← get).heap[j]? with
          | some (.dict d kind) =>
            lookUp k j d kind i
          | _ => refused
        | _ => refused
    | _ => refused
  | _ => refused

def replaceAll (p : Places) (xs : Array Value) (ys : List Value) : Array Value :=
  (ys.foldl (fun (xs, i) y => (xs.setIfInBounds (p.first + p.step * i).toNat y, i + 1))
    (xs, (0 : Int))).1

def setItem (k : Calls) (v i x : Value) : Action Unit := do
  let refused : Action Unit := do
    Action.typeError ("'" ++ (← typeName v) ++ "' object does not support item assignment")
  let own ← match ← special? v "__setitem__" with
    | some f => let _ ← k.call f [i, x] []; pure true
    | none => pure false
  if own then return
  match ← plain v with
  | .ref place =>
    match (← get).heap[place]? with
    | some (.octets b) => setOctets k place b.size i x
    | some (.window w) => setWindow k w i x
    | some (.view which d) =>
      if isNameView which then
        let text ← keyOf k i
        closeView which d ((← openView which d).insert text i x)
      else refused
    | some (.list xs _) =>
      match i with
      | .slice a b c =>
        let ys ← itemsOf k x
        let p ← placesOf k xs.size a b c
        if p.step = 1 then
          let first := p.first.toNat
          Action.change place fun
            | .list xs ends => .list
                (xs.extract 0 first ++ ys.toArray ++ xs.extract (first + p.count) xs.size) ends
            | o => o
        else if ys.length = p.count then
          Action.change place fun
            | .list xs ends => .list (replaceAll p xs ys) ends
            | o => o
        else
          Action.valueError ("attempt to assign sequence of size " ++ Text.naturalText ys.length ++
            " to extended slice of size " ++ Text.naturalText p.count)
      | i =>
        match ← indexOf? k i with
        | some n =>
          match place? n xs.size with
          | some j =>
            Action.change place fun
              | .list xs ends => .list (xs.setIfInBounds j x) ends
              | o => o
          | none => Action.raise "IndexError" "list assignment index out of range"
        | none =>
          Action.typeError ("list indices must be integers or slices, not " ++ (← typeName i))
    | some (.dict _ _) =>
      let text ← keyOf k i
      Action.change place fun
        | .dict d kind => .dict (d.insert text i x) kind
        | o => o
    | _ => refused
  | _ => refused

/-- Takes away an index or a key. -/
def eraseItem (k : Calls) (v i : Value) : Action Unit := do
  let refused : Action Unit := do
    Action.typeError ("'" ++ (← typeName v) ++ "' object doesn't support item deletion")
  let own ← match ← special? v "__delitem__" with
    | some f => let _ ← k.call f [i] []; pure true
    | none => pure false
  if own then return
  match ← plain v with
  | .ref place =>
    match (← get).heap[place]? with
    | some (.list xs _) =>
      let without (taken : List Nat) : Action Unit :=
        Action.change place fun
          | .list xs ends =>
            .list ((xs.toList.zipIdx.filter fun (_, i) => !taken.contains i).map (·.1)).toArray ends
          | o => o
      match i with
      | .slice a b c =>
        let p ← placesOf k xs.size a b c
        without ((List.range p.count).map fun (i : Nat) => (p.first + p.step * i).toNat)
      | i =>
        match ← indexOf? k i with
        | some n =>
          match place? n xs.size with
          | some j => without [j]
          | none => Action.raise "IndexError" "list assignment index out of range"
        | none =>
          Action.typeError ("list indices must be integers or slices, not " ++ (← typeName i))
    | some (.octets b) =>
      let taken ← match i with
        | .slice x y z => do
          let p ← placesOf k b.size x y z
          pure ((List.range p.count).map fun (i : Nat) => (p.first + p.step * i).toNat)
        | i => do
          match ← indexOf? k i with
          | some n =>
            match place? n b.size with
            | some j => pure [j]
            | none => Action.raise "IndexError" "bytearray index out of range"
          | none => Action.typeError "bytearray indices must be integers or slices"
      let left := (b.data.toList.zipIdx.filter fun (_, i) => !taken.contains i).map (·.1)
      Action.store place (.octets ⟨left.toArray⟩)
    | some (.window w) =>
      w.checkOpen
      Action.typeError (if w.fixed then "cannot modify read-only memory" else "cannot delete memory")
    | some (.view which d) =>
      if isNameView which then
        let text ← keyOf k i
        let names ← openView which d
        if names.contains text then closeView which d (names.erase text) else missing i
      else refused
    | some (.dict d _) =>
      let text ← keyOf k i
      if d.contains text then
        Action.change place fun
          | .dict d kind => .dict (d.erase text) kind
          | o => o
      else missing i
    | _ => refused
  | _ => refused

/-- Whether a text stands in another one. -/
def isInfix (s t : List Char) : Bool :=
  match t with
  | [] => s.isEmpty
  | _ :: rest => s.isPrefixOf t || isInfix s rest

def anyEqual (k : Calls) (x : Value) : List Value → Action Bool
  | [] => return false
  | y :: ys => do
    if x.same y then return true
    else if ← equal k x y then return true
    else anyEqual k x ys

/-- Looks for a value among those of an iterator. -/
def foundIn (k : Calls) (it x : Value) : Nat → Action Bool
  | 0 => throw .never
  | fuel + 1 => do
    Action.step
    match ← k.next it with
    | some y => if ← equal k x y then return true else foundIn k it x fuel
    | none => return false

def contains (k : Calls) (v x : Value) : Action Bool := do
  match v with
  | .str s =>
    match x with
    | .str t => return isInfix t.toList s.toList
    | x =>
      Action.typeError ("'in <string>' requires string as left operand, not " ++ (← typeName x))
  | .bytes b =>
    match x with
    | .bytes c => return isInfix (Text.octets c) (Text.octets b)
    | x => return b.any fun b => x.int? = some (b.toNat : Int)
  | .tuple xs => anyEqual k x xs
  | .range a b c =>
    match x.int? with
    | some n =>
      return (if 0 < c then a ≤ n && n < b else b < n && n ≤ a) && (n - a) % c = 0
    | none => return false
  | .ref i =>
    match (← get).heap[i]? with
    | some (.list xs _) => anyEqual k x xs.toList
    | some (.dict d _) => return d.contains (← keyOf k x)
    | some (.set d _) => return d.contains (← keyOf k x)
    | some (.view "keys" d) => return (← dictAt d).contains (← keyOf k x)
    | some (.view which d) =>
      if isNameView which then return (← openView which d).contains (← keyOf k x)
      else foundIn k (← iterOf k v) x rounds
    | some (.octets b) =>
      match ← bytesOf? x with
      | some c => return isInfix (Text.octets c) (Text.octets b.data.toList)
      | none => return b.data.any fun b => x.int? = some (b.toNat : Int)
    | some (.type _) =>
      match ← special? v "__contains__" with
      | some f => truth k (← k.call f [x] [])
      | none =>
        if (← special? v "__iter__").isSome then foundIn k (← iterOf k v) x rounds
        else Action.typeError ("argument of type '" ++ (← typeName v) ++ "' is not iterable")
    | some (.object _ _ base) =>
      match ← special? v "__contains__" with
      | some f => truth k (← k.call f [x] [])
      | none =>
        match base with
        | .ref j =>
          match (← get).heap[j]? with
          | some (.list xs _) => anyEqual k x xs.toList
          | some (.dict d _) => return d.contains (← keyOf k x)
          | some (.set d _) => return d.contains (← keyOf k x)
          | _ => return false
        | .tuple xs => anyEqual k x xs
        | .str s =>
          match ← plain x with
          | .str t => return isInfix t.toList s.toList
          | _ => return false
        | _ =>
          if (← special? v "__iter__").isSome || (← special? v "__getitem__").isSome then
            foundIn k (← iterOf k v) x rounds
          else Action.typeError ("argument of type '" ++ (← typeName v) ++ "' is not iterable")
    | some (.function _) =>
      Action.typeError ("argument of type '" ++ (← typeName v) ++ "' is not iterable")
    | _ => foundIn k (← iterOf k v) x rounds
  | v => Action.typeError ("argument of type '" ++ (← typeName v) ++ "' is not iterable")

/-- The next values of some iterators, if all of them have one. -/
def nextOfAll (k : Calls) : List Value → Action (Option (List Value))
  | [] => return some []
  | it :: rest => do
    match ← k.next it with
    | none => return none
    | some v =>
      match ← nextOfAll k rest with
      | some vs => return some (v :: vs)
      | none => return none

/-- Passes over values. -/
def skip (k : Calls) (source : Value) : Nat → Action Unit
  | 0 => return
  | n + 1 => do
    match ← k.next source with
    | some _ => skip k source n
    | none => return

/-- The next value of iterators one after the other. -/
def nextOfChain (k : Calls) : List Value → Action (Option Value × List Value)
  | [] => return (none, [])
  | v :: rest => do
    let it ← iterOf k v
    match ← k.next it with
    | some x => return (some x, it :: rest)
    | none => nextOfChain k rest

/-- The first pair at a place or behind it, and the place behind that one. -/
def nextEntry (entries : Array (Option (Value × Value))) (n : Nat) :
    Nat → Option (Value × Value × Nat)
  | 0 => none
  | fuel + 1 =>
    match entries[n]? with
    | some (some (a, b)) => some (a, b, n + 1)
    | some none => nextEntry entries (n + 1) fuel
    | none => none

/-- The next value of an iterator that is no interrupted call, and what becomes of it. -/
def advance (k : Calls) (it : Iterator) : Action (Option Value × Iterator) := do
  match it with
  | .values [] => return (none, .done)
  | .values (x :: xs) => return (some x, .values xs)
  | .elements list n =>
    match (← get).heap[list]? with
    | some (.list xs _) =>
      match xs[n]? with
      | some x => return (some x, .elements list (n + 1))
      | none => return (none, .done)
    | _ => return (none, .done)
  | .counting a b c =>
    if (0 < c ∧ a < b) ∨ (c < 0 ∧ b < a) then return (some (.int a), .counting (a + c) b c)
    else return (none, .done)
  | .endless (.int n) (.int s) => return (some (.int n), .endless (.int (n + s)) (.int s))
  | .endless (.float n) (.float s) =>
    return (some (.float n), .endless (.float (n + s)) (.float s))
  | .endless n s => return (some n, .endless n s)
  | .mapped f sources =>
    match ← nextOfAll k sources with
    | none => return (none, .done)
    | some vs => return (some (← k.call f vs []), it)
  | .zipped [] _ => return (none, .done)
  | .zipped sources none =>
    match ← nextOfAll k sources with
    | none => return (none, .done)
    | some vs => return (some (.tuple vs), it)
  | .zipped sources (some fill) =>
    let vs ← sources.mapM k.next
    if vs.all Option.isNone then return (none, .done)
    else return (some (.tuple (vs.map fun v => v.getD fill)), it)
  | .enumerated n source =>
    match ← k.next source with
    | none => return (none, .done)
    | some v => return (some (.tuple [.int n, v]), .enumerated (n + 1) source)
  | .chained sources =>
    match ← nextOfChain k sources with
    | (none, _) => return (none, .done)
    | (some v, rest) => return (some v, .chained rest)
  | .cycled all [] =>
    match all with
    | [] => return (none, .done)
    | x :: xs => return (some x, .cycled all xs)
  | .cycled all (x :: xs) => return (some x, .cycled all xs)
  | .sliced _ (some 0) _ _ => return (none, .done)
  | .sliced n left step source =>
    skip k source n
    match ← k.next source with
    | none => return (none, .done)
    | some v => return (some v, .sliced (step - 1) (left.map (· - 1)) step source)
  | .entries which dict n size =>
    let d ← dictAt dict
    if d.size ≠ size then
      Action.raise "RuntimeError" "dictionary changed size during iteration"
    else
      match nextEntry d.entries n d.entries.size with
      | some (a, b, n) =>
        let v := match which with
          | "keys" => a
          | "values" => b
          | _ => .tuple [a, b]
        return (some v, .entries which dict n size)
      | none => return (none, .done)
  | .indexed object n =>
    try
      return (some (← getItem k object (.int n)), .indexed object (n + 1))
    catch
      | .raise e =>
        if (← isInstance e (.builtin "IndexError")) || (← isInstance e (.builtin "StopIteration")) then
          return (none, .done)
        else throw (.raise e)
      | s => throw s
  | .generator _ _ _ _ | .running _ => return (none, it)
  | .done => return (none, .done)

end Flowboard.Script
