import Flowboard.Compress.Deflate
import Flowboard.Script.Data
import Flowboard.Script.Math
import Flowboard.Text.Decomposition

/-! What functions of modules do that scripts cannot do for themselves: on functions, iterators and
collections, numbers as bytes, bytes made shorter, digests of bytes, numbers by chance, and what is
known of characters. -/
namespace Flowboard.Script

def operatorFunctions : List (String × String) :=
  [("add", "+"), ("sub", "-"), ("mul", "*"), ("truediv", "/"), ("floordiv", "//"), ("mod", "%"),
   ("pow", "**"), ("and_", "&"), ("or_", "|"), ("xor", "^"), ("concat", "+")]

def comparisonFunctions : List (String × String) :=
  [("eq", "=="), ("ne", "!="), ("lt", "<"), ("le", "<="), ("gt", ">"), ("ge", ">=")]

def operatorFunction (k : Calls) (name : String) (args : List Value) : Action Value := do
  let first ← firstOf name args
  let second := args[1]?.getD .none
  match operatorFunctions.lookup name, comparisonFunctions.lookup name with
  | some op, _ => operate k op first second
  | none, some op => compared k op first second
  | none, none =>
    match name with
    | "index" => return .int (← intOf k first)
    | name => noMember (.module "operator") name

def functionFunction (name : String) (args : List Value)
    (named : List (String × Value)) : Action Value := do
  let first := firstOf name args
  match name with
  | "partial" =>
    let f ← first
    if !(← isCallable f) then Action.typeError "the first argument must be callable"
    let _ ← Action.object? f
    Action.allocate (.curried f (args.drop 1) named)
  | name => noMember (.module "functools") name

/-- A copy of a value and, if `deep`, of everything in it. -/
def copied (k : Calls) (deep : Bool) : Nat → Value → Action Value
  | 0, v => return v
  | fuel + 1, v => do
    let inner (x : Value) : Action Value := if deep then copied k deep fuel x else return x
    match v with
    | .tuple xs => return .tuple (← xs.mapM inner)
    | .ref i =>
      match (← get).heap[i]? with
      | some (.list xs ends) => Action.allocate (.list (← xs.mapM inner) ends)
      | some (.dict d kind) =>
        let d ← d.toList.foldlM (fun acc (a, b) => do
          return acc.insert (← keyOf k a) a (← inner b)) Dict.empty
        Action.allocate (.dict d kind)
      | some (.set d frozen) => Action.allocate (.set d frozen)
      | some (.object type attributes base) =>
        match ← special? v (if deep then "__deepcopy__" else "__copy__") with
        | some f => k.call f (if deep then [.none] else []) []
        | none =>
          let attributes ← attributes.toList.foldlM (fun acc (a, b) => do
            return acc.insert (← keyOf k a) a (← inner b)) Dict.empty
          Action.allocate (.object type attributes (← inner base))
      | _ => return v
    | v => return v

def listAt (v : Value) : Action (Nat × Array Value) := do
  match v, ← Action.object? v with
  | .ref i, some (.list xs _) => return (i, xs)
  | v, _ => Action.typeError ("heap argument must be a list, not " ++ (← typeName v))

/-- Moves an element up a heap as long as it comes before the one above it. -/
def siftUp (k : Calls) (xs : Array Value) : Nat → Nat → Action (Array Value)
  | 0, _ => return xs
  | fuel + 1, i => do
    if i = 0 then return xs
    else
      let parent := (i - 1) / 2
      let (a, b) := (xs[parent]?.getD .none, xs[i]?.getD .none)
      if ← ordered k "<" b a then
        siftUp k ((xs.setIfInBounds i a).setIfInBounds parent b) fuel parent
      else return xs

/-- Moves the lesser of two elements up until there are none below, then moves the element up. -/
def siftDown (k : Calls) (xs : Array Value) : Nat → Nat → Nat → Action (Array Value)
  | 0, _, _ => return xs
  | fuel + 1, start, i => do
    let left := 2 * i + 1
    if xs.size ≤ left then siftBack xs (fuel + 1) start i
    else
      let right := left + 1
      let child ← if right < xs.size then do
          let less ← ordered k "<" (xs[left]?.getD .none) (xs[right]?.getD .none)
          pure (if less then left else right)
        else pure left
      let (a, b) := (xs[i]?.getD .none, xs[child]?.getD .none)
      siftDown k ((xs.setIfInBounds i b).setIfInBounds child a) fuel start child
where
  siftBack (xs : Array Value) : Nat → Nat → Nat → Action (Array Value)
    | 0, _, _ => return xs
    | fuel + 1, start, i => do
      if i ≤ start then return xs
      else
        let parent := (i - 1) / 2
        let (a, b) := (xs[parent]?.getD .none, xs[i]?.getD .none)
        if ← ordered k "<" b a then
          siftBack ((xs.setIfInBounds i a).setIfInBounds parent b) fuel start parent
        else return xs

def heapPop (k : Calls) (xs : Array Value) : Action (Value × Array Value) := do
  match xs.back? with
  | none => Action.raise "IndexError" "index out of range"
  | some last =>
    let rest := xs.pop
    match rest[0]? with
    | none => return (last, rest)
    | some top => return (top, ← siftDown k (rest.setIfInBounds 0 last) (xs.size + 1) 0 0)

def heapFunction (k : Calls) (name : String) (args : List Value) (named : List (String × Value)) :
    Action Value := do
  let first ← firstOf name args
  let second := args[1]?.getD .none
  match name with
  | "heappush" =>
    let (i, xs) ← listAt first
    let ys ← siftUp k (xs.push second) (xs.size + 1) xs.size
    changeList i fun _ => ys
  | "heappop" =>
    let (i, xs) ← listAt first
    let (v, ys) ← heapPop k xs
    let _ ← changeList i fun _ => ys
    return v
  | "heappushpop" =>
    let (i, xs) ← listAt first
    let (v, ys) ← heapPop k (← siftUp k (xs.push second) (xs.size + 1) xs.size)
    let _ ← changeList i fun _ => ys
    return v
  | "heapreplace" =>
    let (i, xs) ← listAt first
    let (v, ys) ← heapPop k xs
    let zs ← siftUp k (ys.push second) (ys.size + 1) ys.size
    let _ ← changeList i fun _ => zs
    return v
  | "heapify" =>
    let (i, xs) ← listAt first
    let places := (List.range (xs.size / 2)).reverse
    let ys ← places.foldlM (fun ys p => siftDown k ys (xs.size + 1) p p) xs
    changeList i fun _ => ys
  | "nlargest" | "nsmallest" =>
    let vs ← itemsOf k second
    let named := if name = "nlargest" then ("reverse", .bool true) :: named else named
    Action.list ((← sortedWith k vs named).take (first.int?.getD 0).toNat)
  | "merge" =>
    let vs ← args.mapM (itemsOf k)
    Action.iterator (.values (← sortedWith k vs.flatten named))
  | name => noMember (.module "heapq") name

def bitsFunction (k : Calls) (name : String) (args : List Value) : Action Value := do
  match name, args with
  | "float_bytes", [x, .int width] =>
    match (Special.FloatShape.ofWidth width.toNat).encode? (← floatOf k x) with
    | some bits => return .bytes (Compress.lowFirst width.toNat bits)
    | none => return .none
  | "bytes_float", [b] =>
    let bytes ← bytesArgument b
    return .float ((Special.FloatShape.ofWidth bytes.length).decode (Compress.ofLowFirst bytes))
  | name, _ => noMember (.module "_bits") name

/-- Why bytes cannot be made longer again. -/
def shortFault : Compress.ReadFault → String
  | .truncated => "truncated"
  | .badBlock => "invalid block type"
  | .badStored => "invalid stored block lengths"
  | .badCodes => "invalid code lengths set"
  | .badSymbol => "invalid literal/length code"
  | .tooFar => "invalid distance too far back"

/-- Functions that make bytes shorter and longer, and sums of bytes. -/
def flateFunction (name : String) (args : List Value) : Action Value := do
  match name, args with
  | "deflate", [b, .int level] =>
    let data := (← bytesArgument b).toArray
    Action.work (data.size / 8)
    return .bytes (Compress.deflate level.toNat data).toList
  | "inflate", [b, .int start] =>
    match Compress.inflate (← bytesArgument b).toArray start.toNat with
    | .ok (bytes, place) => return .tuple [.bytes bytes.toList, .int place]
    | .error fault => return .str (shortFault fault)
  | "crc32", [b, .int before] =>
    let sum := Compress.cyclicSum (UInt32.ofNat (before % twoTo 32).toNat)
      (← bytesArgument b).toArray
    return .int sum.toNat
  | "adler32", [b, .int before] =>
    let sum := Compress.doubleSum (before % twoTo 32).toNat (← bytesArgument b).toArray
    return .int sum
  | name, _ => noMember (.module "_flate") name

def digestFunction (name : String) (args : List Value) : Action Value := do
  let numbers (b : List UInt8) : List Nat := b.map UInt8.toNat
  let bytes (ns : List Nat) : Value := .bytes (ns.map UInt8.ofNat)
  let sponge (bits : Nat) (b : List UInt8) : Value :=
    bytes (Utility.sponge (200 - bits / 4) 6 (bits / 8) (numbers b))
  match name, args with
  | "digest", [.str kind, .bytes b] =>
    Action.work (b.length / 8)
    match kind with
    | "sha3_224" => return sponge 224 b
    | "sha3_256" => return sponge 256 b
    | "sha3_384" => return sponge 384 b
    | "sha3_512" => return sponge 512 b
    | kind => return .bytes ((bytesOfHex (digestText kind b)).getD [])
  | "long", [.str kind, .bytes b, .int length] =>
    let rate := if kind = "shake_128" then 168 else 136
    return bytes (Utility.sponge rate 31 length.toNat (numbers b))
  | "blake", [.int width, .int length, .bytes key, .bytes settings, .bytes b] =>
    let blake := if width = 64 then Utility.blakeLong else Utility.blakeShort
    return bytes (blake.digest length.toNat (numbers key) (numbers b) (numbers settings))
  | name, _ => noMember (.module "_digest") name

/-- Functions on registers that numbers by chance come from. -/
def chanceFunction (name : String) (args : List Value) : Action Value := do
  let taken {α : Type} (i : Nat) (f : Chance.Register → α × Chance.Register) (empty : α) :
      Action α :=
    modifyGet fun w =>
      match w.registers[i]? with
      | none => (empty, w)
      | some r =>
        -- the register is taken out of the world while it changes
        let w := { w with registers := w.registers.setIfInBounds i ⟨#[], 0⟩ }
        let (a, r) := f r
        (a, { w with registers := w.registers.setIfInBounds i r })
  match name, args with
  | "make", _ =>
    modifyGet fun w =>
      (.int w.registers.size, { w with registers := w.registers.push (Chance.ofSeed 0) })
  | "seed", [.int i, .int n] =>
    taken i.toNat (fun _ => ((), Chance.ofSeed n.natAbs)) ()
    return .none
  | "real", [.int i] => return .float (← taken i.toNat Chance.real 0.0)
  | "bits", [.int i, .int n] =>
    return .int (← taken i.toNat (Chance.bits (n.toNat / 32 + 1) n.toNat) 0 : Nat)
  | "below", [.int i, .int n] =>
    return .int (← taken i.toNat (Chance.below n.toNat 1000) 0 : Nat)
  | "words", [.int i] =>
    match (← get).registers[i.toNat]? with
    | some r => return .tuple ((r.words.toList.map fun w => .int w.toNat) ++ [.int r.place])
    | none => return .tuple []
  | "set", [.int i, .tuple words] =>
    let ns := words.filterMap Value.int?
    taken i.toNat (fun _ =>
      ((), ⟨(ns.dropLast.map fun n => UInt32.ofNat n.toNat).toArray, (ns.getLastD 0).toNat⟩)) ()
    return .none
  | name, _ => noMember (.module "_chance") name

/-- The number that a character stands for: as a decimal digit, a digit of any kind, or any
number. -/
def characterNumber (c : Char) : Value :=
  match Text.ratio? c with
  | some (n, d) => .float (Float.ofInt n / d.toFloat)
  | none => .none

/-- What a character is made of, in numbers. -/
def partsText (p : Text.Parts) : String :=
  let four (c : Char) : String :=
    let digits := Text.capitalHex c.toNat
    String.ofList (List.replicate (4 - digits.length) '0') ++ digits
  let likeness := match p.likeness with
    | some l => ["<" ++ l ++ ">"]
    | none => []
  " ".intercalate (likeness ++ p.characters.map four)

def characterTrait (kind : String) (c : Char) : Value :=
  match kind with
  | "category" => .str (if Text.isHalf c then "Cs" else Text.category c)
  | "east_asian_width" => .str (Text.width c)
  | "combining" => .int (Text.markClass c)
  | _ => .str (((Text.parts? c).map partsText).getD "")

def marksFunction (name : String) (args : List Value) : Action Value := do
  let first (s : String) : Char := (s.toList.head?).getD ' '
  match name, args with
  | "name", [.str s] => return ((Text.characterName? (first s)).map Value.str).getD .none
  | "named", [.str s] =>
    return ((Text.characterNamed? s).map fun c => Value.str (.singleton c)).getD .none
  | "number", [.str _, .str s] => return characterNumber (first s)
  | "trait", [.str kind, .str s] => return characterTrait kind (first s)
  | "normal", [.bool alike, .bool together, .str s] =>
    return .str (.ofList (Text.normalForm alike together s.toList))
  | name, _ => noMember (.module "_marks") name

end Flowboard.Script
