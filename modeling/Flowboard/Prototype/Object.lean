import Flowboard.Prototype.Value
import Flowboard.Script.Number

/-! Members of objects, and what values become as texts, numbers and keys. -/
namespace Flowboard.Prototype

/-- Numbers from a millionth up to a sextillion are written out. -/
def numberStyle : Double.Style :=
  ⟨-6, 20, ['+']⟩

def notANumber : Float := 0.0 / 0.0
def infinity : Float := 1.0 / 0.0

def numberText (x : Float) : String :=
  if x.isNaN then "NaN"
  else if x.abs < 9007199254740992.0 && x.floor == x then Text.integerText x.toInt64.toInt
  else
    match Script.double? x with
    | none => if x < 0.0 then "-Infinity" else "Infinity"
    | some d =>
      if d.isZero then "0"
      else
        let s := Double.text numberStyle d
        String.ofList (match s.reverse with
          | '0' :: '.' :: rest => rest.reverse
          | _ => s)

def isSpace (c : Char) : Bool :=
  c == ' ' || (9 ≤ c.toNat && c.toNat ≤ 13) || c.toNat == 0xFEFF || c.toNat == 0xA0 ||
    c.toNat == 0x1680 || (0x2000 ≤ c.toNat && c.toNat ≤ 0x200A) || c.toNat == 0x2028 ||
    c.toNat == 0x2029 || c.toNat == 0x202F || c.toNat == 0x205F || c.toNat == 0x3000

def trimStart (s : List Char) : List Char :=
  s.dropWhile isSpace

def trimEnd (s : List Char) : List Char :=
  (s.reverse.dropWhile isSpace).reverse

def numberOfText (s : String) : Float :=
  let s := trimEnd (trimStart s.toList)
  let inBase (base : Nat) (ds : List Char) : Float :=
    if ds.isEmpty then notANumber
    else
      match Text.naturalIn? base ds with
      | some n => (Script.floatOfInt? n).getD infinity
      | none => notANumber
  match s with
  | [] => 0.0
  | '0' :: 'x' :: ds | '0' :: 'X' :: ds => inBase 16 ds
  | '0' :: 'o' :: ds | '0' :: 'O' :: ds => inBase 8 ds
  | '0' :: 'b' :: ds | '0' :: 'B' :: ds => inBase 2 ds
  | _ =>
    let (sign, rest) := match s with
      | '-' :: r => (-1.0, r)
      | '+' :: r => (1.0, r)
      | r => (1.0, r)
    if String.ofList rest == "Infinity" then sign * infinity
    else if rest.all fun c => c.isDigit || c == '.' || c == 'e' || c == 'E' || c == '+' || c == '-' then
      match Script.floatOf? rest with
      | some x => sign * x
      | none => notANumber
    else notANumber

def placeOfText? (s : String) : Option Nat :=
  match s.toList with
  | ['0'] => some 0
  | '0' :: _ | [] => none
  | ds =>
    if ds.length ≤ 10 && ds.all Char.isDigit then
      let n := ds.foldl (fun n c => 10 * n + (c.toNat - 48)) 0
      if n < 4294967295 then some n else none
    else none

def Name.ofPlace (i : Nat) : Name :=
  .text (Text.naturalText i)

def natValue (n : Nat) : Value :=
  .number (Float.ofNat n)

def Value.isMissing : Value → Bool
  | .undefined | .null | .hole => true
  | _ => false

/-- A key for a value under which entries are found. -/
def Value.mark : Value → String
  | .undefined | .hole => "u"
  | .null => "l"
  | .bool b => if b then "bt" else "bf"
  | .number x => if x == 0.0 then "n0" else "n" ++ (if x.isNaN then "n" else toString x.toBits.toNat)
  | .bigint n => "i" ++ Text.integerText n
  | .text s => "t" ++ s
  | .symbol n => "s" ++ Text.naturalText n
  | .object n => "o" ++ Text.naturalText n

namespace Entries

def insert (m : Entries) (k v : Value) : Entries :=
  match m.index[k.mark]? with
  | some i => { m with entries := m.entries.set! i (some (k, v)) }
  | none =>
    let k := match k with
      | .number x => if x == 0.0 then Value.number 0.0 else k
      | k => k
    ⟨m.entries.push (some (k, v)), m.index.insert k.mark m.entries.size⟩

def size (m : Entries) : Nat :=
  m.index.size

def toList (m : Entries) : List (Value × Value) :=
  m.entries.toList.filterMap id

end Entries

/-- The items of an object that keeps them in a row. -/
def Kind.items? : Kind → Option (Array Value)
  | .array items | .typed _ items => some items
  | _ => none

def dataProperty (v : Value) : Property :=
  { value := v }

def fixedProperty (v : Value) : Property :=
  { value := v, writable := false, shown := false }

/-- Makes the prototype for the objects that a function builds, when it is asked for. -/
def buildPrototype (ref : Nat) (c : Code) : Action (Option Property) := do
  if c.arrow || c.method || (c.async && !c.generator) then return none
  let parent := if c.generator then
      if c.async then "AsyncGenerator" else "Generator"
    else "Object"
  let proto ← alloc { proto := .object (protoRef parent) }
  unless c.generator do putHidden proto "constructor" (.object ref)
  let p : Property := { value := .object proto, shown := false, configurable := false }
  putOwn ref (.text "prototype") p
  return some p

def ownProperty? (ref : Nat) (n : Name) : Action (Option Property) := do
  let o ← objectAt ref
  match o.members.get? n with
  | some p => return some p
  | none =>
    match o.kind, n with
    | .array items, .text s =>
      if s == "length" then
        return some { value := natValue items.size, shown := false, configurable := false }
      match placeOfText? s with
      | some i =>
        match items[i]? with
        | some .hole | none => return none
        | some v => return some (dataProperty v)
      | none => return none
    | .typed _ items, .text s =>
      match placeOfText? s with
      | some i => return (items[i]?).map dataProperty
      | none =>
        return if s == "length" || s == "byteLength" then some (fixedProperty (natValue items.size))
          else none
    | .boxed (.text t), .text s =>
      if s == "length" then return some { fixedProperty (natValue (unitCount t)) with configurable := false }
      match placeOfText? s with
      | some i =>
        return ((unitsOf t)[i]?).map fun c =>
          { value := .text (textOfUnits [c]), writable := false, configurable := false }
      | none => return none
    | .closure c, .text s =>
      let code := (← get).codes.getD c.code default
      match s with
      | "name" => return some (fixedProperty (.text code.name))
      | "length" => return some (fixedProperty (natValue code.arity))
      | "prototype" => buildPrototype ref code
      | _ => return none
    | .native family name _, .text s =>
      match s with
      | "name" =>
        let name := if name == "" then family else if name == "construct" then family else name
        return some (fixedProperty (.text name))
      | "length" => return some (fixedProperty (.number 0.0))
      | _ => return none
    | _, _ => return none

/-- How far chains of prototypes are followed. -/
def chainLimit : Nat := 10000

def findProperty? : Nat → Nat → Name → Action (Option Property)
  | 0, _, _ => return none
  | fuel + 1, ref, n => do
    match ← ownProperty? ref n with
    | some p => return some p
    | none =>
      match (← objectAt ref).proto with
      | .object p => findProperty? fuel p n
      | _ => return none

/-- Where members of a value that is no object are looked for. -/
def protoOf (v : Value) : Option Nat :=
  match v with
  | .text _ => some 4
  | .number _ => some 5
  | .bool _ => some 6
  | .bigint _ => some 7
  | .symbol _ => some 8
  | .object r => some r
  | _ => none

/-- A known name as the value that it came from. -/
def Name.value : Name → Value
  | .text s | .hidden s => .text s
  | .symbol n => .symbol n

def symbolText (n : Nat) : Action String := do
  return "Symbol(" ++ (((← get).symbols.getD n none).getD "") ++ ")"

def Name.display (n : Name) : Action String := do
  match n with
  | .text s | .hidden s => return s
  | .symbol n => symbolText n

/-- The value of a member. -/
def getNamed (v : Value) (n : Name) : Action Value := do
  match v, n with
  | .text t, .text s =>
    if s == "length" then return natValue (unitCount t)
    match placeOfText? s with
    | some i =>
      match (unitsOf t)[i]? with
      | some c => return .text (textOfUnits [c])
      | none => return .undefined
    | none => pure ()
  | _, _ => pure ()
  match protoOf v with
  | none =>
    throwType ("Cannot read properties of " ++ (match v with | .null => "null" | _ => "undefined") ++
      " (reading '" ++ (← n.display) ++ "')")
  | some ref =>
    match ← findProperty? chainLimit ref n with
    | some p =>
      match p.access with
      | none => return p.value
      | some (getter, _) => if getter.isMissing then return .undefined else call getter v []
    | none =>
      match n with
      | .hidden s =>
        throwType ("Cannot read private member " ++ s ++
          " from an object whose class did not declare it")
      | .text "__proto__" => return (← objectAt ref).proto
      | _ => return .undefined

def getText (v : Value) (s : String) : Action Value :=
  getNamed v (.text s)

/-- Whether an array or object with items refuses changes. -/
def isFrozen (o : Object) : Bool :=
  (o.members.get? (.hidden "frozen")).isSome

/-- The greatest number of items that are kept one by one. -/
def itemLimit : Nat := 50000000

/-- Gives an object a member of its own, whatever it had. -/
def defineOwn (ref : Nat) (n : Name) (p : Property) : Action Unit :=
  putOwn ref n p

/-- Changes a member. False if it cannot be changed. -/
def tryNamed (v : Value) (n : Name) (value : Value) : Action Bool := do
  match v with
  | .object ref =>
    let o ← objectAt ref
    if isFrozen o then return false
    match ← findProperty? chainLimit ref n with
    | some { access := some (_, setter), .. } =>
      if setter.isMissing then return false
      let _ ← call setter v [value]
      return true
    | some { writable := false, .. } => return false
    | some _ =>
      -- a member of its own keeps what it is
      match ← ownProperty? ref n with
      | some own => defineOwn ref n { own with value }
      | none =>
        if !o.extensible then return false
        defineOwn ref n (dataProperty value)
      return true
    | none =>
      if !o.extensible then return false
      defineOwn ref n (dataProperty value)
      return true
  | _ => return false

/-- Changes a member; where that cannot be done it is refused only if the rules are strict. -/
def setNamed (strict : Bool) (v : Value) (n : Name) (value : Value) : Action Unit := do
  let ok ← tryNamed v n value
  if !ok && strict then
    match v with
    | .object r =>
      match ← findProperty? chainLimit r n with
      | some { access := some _, .. } =>
        throwType ("Cannot set property " ++ (← n.display) ++
          " of #<Object> which has only a getter")
      | some _ =>
        let what := match (← objectAt r).kind with
          | .array _ => "[object Array]"
          | _ => "#<Object>"
        throwType ("Cannot assign to read only property '" ++ (← n.display) ++ "' of object '" ++
          what ++ "'")
      | none => throwType ("Cannot add property " ++ (← n.display) ++ ", object is not extensible")
    | _ => pure ()

def setText (v : Value) (s : String) (value : Value) : Action Unit :=
  setNamed true v (.text s) value

/-- The keys of an object's own members: places first, in order, then the others as they came. -/
def ownNames (ref : Nat) : Action (List Name) := do
  let o ← objectAt ref
  let own := o.members.entries.toList.map (·.1)
  let places := own.filterMap fun n => match n with
    | .text s => placeOfText? s
    | _ => none
  let items := match o.kind with
    | .array items =>
      (items.toList.zipIdx.filterMap fun (v, i) => match v with
        | .hole => none
        | _ => some i)
    | .typed _ items => List.range items.size
    | .boxed (.text s) => List.range (unitCount s)
    | _ => []
  let places := (items ++ places).mergeSort (· ≤ ·)
  let texts := own.filter fun n => match n with
    | .text s => (placeOfText? s).isNone
    | _ => false
  let extra : List Name := match o.kind with
    | .array _ => [.text "length"]
    | .boxed (.text _) => [.text "length"]
    | .closure _ | .native .. =>
      ["length", "name"].filterMap fun s =>
        if texts.contains (.text s) then none else some (.text s)
    | _ => []
  let symbols := own.filter fun n => match n with
    | .symbol _ => true
    | _ => false
  return places.map Name.ofPlace ++ extra ++ texts ++ symbols

def typeName (v : Value) : Action String := do
  match v with
  | .undefined | .hole => return "undefined"
  | .null => return "object"
  | .bool _ => return "boolean"
  | .number _ => return "number"
  | .bigint _ => return "bigint"
  | .text _ => return "string"
  | .symbol _ => return "symbol"
  | .object _ => return if ← isCallable v then "function" else "object"

def toPrimitive (hint : String) (v : Value) : Action Value := do
  match v with
  | .object _ =>
    let special ← getNamed v (knownSymbol "toPrimitive")
    if !special.isMissing then
      match ← call special v [.text hint] with
      | .object _ => throwType "Cannot convert object to primitive value"
      | p => return p
    let order := if hint == "string" then ["toString", "valueOf"] else ["valueOf", "toString"]
    for name in order do
      let f ← getText v name
      if ← isCallable f then
        match ← call f v [] with
        | .object _ => pure ()
        | p => return p
    throwType "Cannot convert object to primitive value"
  | v => return v

def toText (v : Value) : Action String := do
  match v with
  | .text s => return s
  | .number x => return numberText x
  | _ =>
    match ← toPrimitive "string" v with
    | .undefined | .hole => return "undefined"
    | .null => return "null"
    | .bool b => return if b then "true" else "false"
    | .number x => return numberText x
    | .bigint n => return Text.integerText n
    | .text s => return s
    | .symbol _ => throwType "Cannot convert a Symbol value to a string"
    | .object _ => return ""

def toNumber (v : Value) : Action Float := do
  match v with
  | .number x => return x
  | _ =>
    match ← toPrimitive "number" v with
    | .undefined | .hole => return notANumber
    | .null => return 0.0
    | .bool b => return if b then 1.0 else 0.0
    | .number x => return x
    | .bigint _ => throwType "Cannot convert a BigInt value to a number"
    | .text s => return numberOfText s
    | .symbol _ => throwType "Cannot convert a Symbol value to a number"
    | .object _ => return notANumber

/-- A number, or an integer of any size. -/
def toNumeric (v : Value) : Action Value := do
  match v with
  | .number _ | .bigint _ => return v
  | _ =>
    match ← toPrimitive "number" v with
    | .bigint n => return .bigint n
    | p => return .number (← toNumber p)

/-- A number without its fraction; what is none is zero. -/
def toInteger (v : Value) : Action Float := do
  let x ← toNumber v
  if x.isNaN then return 0.0
  return if x < 0.0 then x.ceil + 0.0 else x.floor

def toKey (v : Value) : Action Name := do
  match v with
  | .text s => return .text s
  | .number x =>
    return .text (numberText x)
  | .symbol n => return .symbol n
  | _ =>
    match ← toPrimitive "string" v with
    | .symbol n => return .symbol n
    | p => return .text (← toText p)

def toObject (v : Value) : Action Nat := do
  match v with
  | .object r => return r
  | .undefined | .null | .hole => throwType "Cannot convert undefined or null to object"
  | v => alloc { kind := .boxed v, proto := .object ((protoOf v).getD objectProto) }

/-- How many items an object says that it has. -/
def lengthOf (v : Value) : Action Nat := do
  match v with
  | .object r =>
    match (← objectAt r).kind with
    | .array items | .typed _ items => return items.size
    | _ =>
      let x ← toInteger (← getText v "length")
      return if x < 0.0 then 0 else min x.toUInt64.toNat itemLimit
  | .text s => return unitCount s
  | v =>
    let x ← toInteger (← getText v "length")
    return if x < 0.0 then 0 else x.toUInt64.toNat

/-- The items of something like an array; holes are kept. -/
def itemsOf (v : Value) : Action (Array Value) := do
  match v with
  | .object r =>
    match (← objectAt r).kind with
    | .array items | .typed _ items => return items
    | _ =>
      let n ← lengthOf v
      let mut out := #[]
      for i in [0:n] do
        out := out.push (← getNamed v (.ofPlace i))
      return out
  | .text s => return (unitsOf s).map fun c => .text (textOfUnits [c])
  | .undefined | .null | .hole => throwType "Cannot convert undefined or null to object"
  | _ => return #[]

/-- An item without a value is `undefined`. -/
def Value.filled : Value → Value
  | .hole => .undefined
  | v => v

def stepResult (v : Value) (done : Bool) : Action Value := do
  let r ← alloc { proto := .object objectProto }
  putOwn r (.text "value") (dataProperty v)
  putOwn r (.text "done") (dataProperty (.bool done))
  return .object r

def describe (v : Value) : Action String := do
  match v with
  | .object r =>
    match (← objectAt r).kind with
    | .closure _ | .native .. => return "function"
    | .array _ => return "[object Array]"
    | _ => return "#<Object>"
  | .text s => return "\"" ++ s ++ "\""
  | .symbol n => symbolText n
  | v => toText v

/-- What is said about something that cannot be walked over. -/
def notIterable {α : Type} (v : Value) (shown : String) : Action α := do
  if shown != "" then
    throwType (if shown.endsWith "(...)" then String.ofList (shown.toList.take (shown.length - 5)) ++
        " is not a function or its return value is not iterable"
      else shown ++ " is not iterable")
  else
    let what ← match v with
      | .undefined | .hole => pure "undefined"
      | .null => pure "object null"
      | .object _ => pure "object"
      | v => do pure ((← typeName v) ++ " " ++ (← describe v))
    throwType (what ++ " is not iterable (cannot read property Symbol(Symbol.iterator))")

/-- Starts a walk over the values of something that a program shows in some way. -/
def startWalkShown (shown : String) (v : Value) : Action Value := do
  let make (w : Walk) : Action Value := allocValue { kind := .walk w, proto := .object objectProto }
  match v with
  | .text s => make (.text s.toList)
  | .undefined | .null | .hole => notIterable v shown
  | _ =>
    let f ← getNamed v iteratorSymbol
    match f with
    | .object r =>
      match ← kindAt r with
      | .native "Array" "values" _ => make (.array v 0 "values")
      | _ =>
        match ← call f v [] with
        | .object it =>
          match ← kindAt it with
          | .walk (.array t p w) => make (.array t p w)
          | .walk (.entries t p w) => make (.entries t p w)
          | _ => make (.calls (.object it) (← getText (.object it) "next"))
        | _ => throwType "Result of the Symbol.iterator method is not an object"
    | _ => notIterable v shown

/-- The next value of a walk. Walks over walks use up the fuel. -/
def nextOfWalk : Nat → Nat → Action (Option Value)
  | 0, _ => throw .never
  | _ + 1, ref => do
    let finish : Action (Option Value) := do
      setKind ref (.walk .finished)
      return none
    match ← kindAt ref with
    | .walk (.text rest) =>
      match rest with
      | [] => finish
      | c :: rest =>
        setKind ref (.walk (.text rest))
        return some (.text (String.singleton c))
    | _ => return none

/-- How long walks may skip. -/
def walkDepth : Nat := 1000000

/-- All values of something. Each one uses up one of the fuel. -/
def collect (walk : Nat) : Nat → Array Value → Action (Array Value)
  | 0, _ => throw .never
  | fuel + 1, done => do
    match ← nextOfWalk walkDepth walk with
    | some v => collect walk fuel (done.push v)
    | none => return done

def valuesShown (shown : String) (v : Value) : Action (Array Value) := do
  let quick? ← match v with
    | .object r =>
      match (← objectAt r).kind with
      | .array items =>
        match ← getNamed v iteratorSymbol with
        | .object f =>
          match ← kindAt f with
          | .native "Array" "values" _ => pure (some items)
          | _ => pure none
        | _ => pure none
      | _ => pure none
    | _ => pure none
  match quick? with
  | some items => return items.map Value.filled
  | none =>
    match ← startWalkShown shown v with
    | .object w => collect w itemLimit #[]
    | _ => return #[]

def valuesOf (v : Value) : Action (Array Value) :=
  valuesShown "" v

end Flowboard.Prototype
