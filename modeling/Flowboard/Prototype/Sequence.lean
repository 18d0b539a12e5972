import Flowboard.Prototype.Shown
import Flowboard.Text.Symbol

/-! What objects, functions, errors, symbols and arrays can do. -/
namespace Flowboard.Prototype

/-- The prototype of the class that is asked for, or a usual one. -/
def protoFor (newTarget : Value) (usual : Nat) : Action Value := do
  match newTarget with
  | .object _ =>
    match ← getText newTarget "prototype" with
    | .object p => return .object p
    | _ => return .object usual
  | _ => return .object usual

def objectOf (members : List (String × Value)) : Action Value := do
  let r ← alloc { proto := .object objectProto }
  for (k, v) in members do putOwn r (.text k) (dataProperty v)
  return .object r

def hasMember (ref : Nat) (n : Name) : Action Bool := do
  return (← findProperty? chainLimit ref n).isSome

/-- The keys of an object's own members that are shown. -/
def shownKeys (v : Value) : Action (List String) := do
  let r ← toObject v
  (← ownNames r).filterMapM fun n => do
    match n with
    | .text s => return if ((← ownProperty? r n).map (·.shown)).getD false then some s else none
    | _ => return none

def plainText (v : Value) : Action String := do
  match v with
  | .undefined | .hole => return "[object Undefined]"
  | .null => return "[object Null]"
  | v =>
    match ← getNamed v (knownSymbol "toStringTag") with
    | .text s => return "[object " ++ s ++ "]"
    | _ =>
      let r ← toObject v
      return match (← objectAt r).kind with
        | .array _ => "[object Array]"
        | .closure _ | .native .. => "[object Function]"
        | .error => "[object Error]"
        | .boxed (.text _) => "[object String]"
        | .boxed (.number _) => "[object Number]"
        | .boxed (.bool _) => "[object Boolean]"
        | .date _ => "[object Date]"
        | .regex _ => "[object RegExp]"
        | _ => "[object Object]"

def objectCall (name : String) (this : Value) (args : List Value) : Action Value := do
  let a := arg args 0
  match name with
  | "entries" =>
    if a.isMissing then throwType "Cannot convert undefined or null to object"
    let es ← (← shownKeys a).mapM fun k => do newArray #[.text k, ← getText a k]
    newArray es.toArray
  | "toString" => return .text (← plainText this)
  | "valueOf" => return .object (← toObject this)
  | _ => return .undefined

def buildError (kind : String) (args : List Value) (newTarget : Value) : Action Value := do
  let proto ← protoFor newTarget (protoRef kind)
  let ref ← alloc { kind := .error, proto }
  let (args, errors) := if kind == "AggregateError" then (args.drop 1, some (arg args 0))
    else (args, none)
  let name ← match ← getText (.object ref) "name" with
    | .text s => pure s
    | _ => pure kind
  -- the trace is made before the class says more
  let shown ← match newTarget with
    | .object t => do
      let n ← functionName t
      pure (if name == kind && n != "" then n else name)
    | _ => pure name
  let message ← match arg args 0 with
    | .undefined => pure ""
    | m => toText m
  let first := if message == "" then shown else shown ++ ": " ++ message
  putHidden ref "stack" (.text (first ++ "\n    at <anonymous>"))
  if !(arg args 0 matches .undefined) then putHidden ref "message" (.text message)
  match errors with
  | some e => putHidden ref "errors" (← newArray (← valuesOf e))
  | none => pure ()
  match arg args 1 with
  | .object o =>
    if ← hasMember o (.text "cause") then
      putHidden ref "cause" (← getText (.object o) "cause")
  | _ => pure ()
  return .object ref

def symbolCall (name : String) (args : List Value) : Action Value := do
  let fresh (d : Option String) : Action Value :=
    modifyGet fun w => (.symbol w.symbols.size, { w with symbols := w.symbols.push d })
  match name with
  | "construct" =>
    let d := arg args 0
    fresh (some (← toText d))
  | _ => return .undefined

def itemAt? (v : Value) (i : Nat) : Action (Option Value) := do
  match v with
  | .object r =>
    match (← objectAt r).kind with
    | .array items | .typed _ items =>
      match items[i]? with
      | some .hole | none => return none
      | some x => return some x
    | _ => if ← hasMember r (.ofPlace i) then return some (← getNamed v (.ofPlace i)) else return none
  | .text s =>
    return ((unitsOf s)[i]?).map fun c => .text (textOfUnits [c])
  | _ => return none

def changeItems (ref : Nat) (what : String) (f : Array Value → Array Value) : Action Unit := do
  let o ← objectAt ref
  if isFrozen o then
    if what == "push" || what == "unshift" then
      let n ← lengthOf (.object ref)
      throwType ("Cannot add property " ++ Text.naturalText n ++ ", object is not extensible")
    else throwType "Cannot assign to read only property '0' of object '[object Array]'"
  modifyObject ref fun o => match o.kind with
    | .array items => { o with kind := .array (f items) }
    | .typed name items => { o with kind := .typed name (f items) }
    | _ => o

/-- Joins two lists in order into one. -/
def mergeBy (before : Value → Value → Action Bool) :
    Nat → List Value → List Value → List Value → Action (List Value)
  | 0, a, b, done => return done.reverse ++ a ++ b
  | fuel + 1, a, b, done => do
    match a, b with
    | x :: xs, y :: ys =>
      if ← before y x then mergeBy before fuel a ys (y :: done)
      else mergeBy before fuel xs b (x :: done)
    | a, b => return done.reverse ++ a ++ b

/-- Joins neighbours pairwise. -/
def mergePairs (before : Value → Value → Action Bool) (size : Nat) :
    List (List Value) → Action (List (List Value))
  | a :: b :: rest => do
    let m ← mergeBy before (size + 1) a b []
    return m :: (← mergePairs before size rest)
  | l => return l

def mergeAll (before : Value → Value → Action Bool) (size : Nat) :
    Nat → List (List Value) → Action (List Value)
  | 0, l => return l.flatten
  | fuel + 1, l => do
    match l with
    | [] => return []
    | [x] => return x
    | l => mergeAll before size fuel (← mergePairs before size l)

/-- The items in order; holes and missing values come last. -/
def sortItems (items : Array Value) (compare : Value) : Action (Array Value) := do
  let holes := items.filter (· matches .hole)
  let missing := items.filter (· matches .undefined)
  let present := items.toList.filter fun v => !(v matches .hole | .undefined)
  let sorted ← match compare with
    | .undefined => do
      let keyed ← present.mapM fun v => do
        let s ← toText v
        pure ((units s.toList), v)
      let sorted := keyed.mergeSort fun a b => !Text.precedes b.1 a.1
      pure (sorted.map (·.2))
    | f => do
      unless ← isCallable f do
        throwType "The comparison function must be either a function or undefined"
      let before (a b : Value) : Action Bool := do
        work 1
        let x ← toNumber (← call f .undefined [a, b])
        return x < 0.0
      mergeAll before present.length 100 (present.map ([·]))
  return sorted.toArray ++ missing ++ holes

/-- The texts of the items with something between them. -/
def joinItems (v : Value) (separator : String) : Action String := do
  match v with
  | .object r =>
    if (← get).joining.contains r then return ""
    modify fun w => { w with joining := r :: w.joining }
    let items ← itemsOf v
    let parts ← items.toList.mapM fun (x : Value) => match x with
      | .undefined | .null | .hole => pure ""
      | x => toText x
    modify fun w => { w with joining := w.joining.tail }
    return separator.intercalate parts
  | _ => return ""

def isArray (v : Value) : Action Bool := do
  match v with
  | .object r =>
    match ← kindAt r with
    | .array _ => return true
    | _ => return false
  | _ => return false

/-- The items with those of arrays among them in their place. -/
def flatten : Nat → Float → List Value → Action (List Value)
  | 0, _, l => return l
  | fuel + 1, depth, l => do
    match l with
    | [] => return []
    | v :: rest =>
      let more ← flatten fuel depth rest
      match v with
      | .hole => return more
      | v =>
        if depth < 1.0 then return v :: more
        if ← isArray v then
          return (← flatten fuel (depth - 1.0) (← itemsOf v).toList) ++ more
        else return v :: more

def sameClass (this : Value) (items : Array Value) : Action Value := do
  match this with
  | .object r =>
    let o ← objectAt r
    match o.kind with
    | .array _ => allocValue { kind := .array items, proto := o.proto }
    | _ => newArray items
  | _ => newArray items

def notFunction {α : Type} (v : Value) : Action α := do
  let s ← inspect {} v
  throwType (s ++ " is not a function")

def requireFunction (v : Value) : Action Unit := do
  unless ← isCallable v do notFunction v

def arrayMethod (name : String) (this : Value) (args : List Value) : Action Value := do
  let a := arg args 0
  let b := arg args 1
  let ref ← toObject this
  match name with
  | "toString" => return .text (← joinItems (.object ref) ",")
  | "sort" =>
    let sorted ← sortItems (← itemsOf this) a
    changeItems ref name fun _ => sorted
    return this
  | "map" =>
    requireFunction a
    let n ← lengthOf this
    let mut out := #[]
    for i in [0:n] do
      match ← itemAt? this i with
      | some v => out := out.push (← call a b [v, natValue i, this])
      | none => out := out.push .hole
    sameClass this out
  | "flat" =>
    let depth ← toInteger a
    newArray (← flatten 100000 depth (← itemsOf this).toList).toArray
  | _ => return .undefined

def arrayCall (name : String) (this : Value) (args : List Value) : Action Value := do
  arrayMethod name this args

def buildArray (args : List Value) (newTarget : Value) : Action Value := do
  let proto ← protoFor newTarget arrayProto
  let items ← pure args.toArray
  allocValue { kind := .array items, proto }

/-- A new array of numbers of a kind. -/
def buildTyped (kind : String) (newTarget : Value) : Action Value := do
  let proto ← protoFor newTarget (protoRef kind)
  let items ← pure #[]
  allocValue { kind := .typed kind items, proto }

end Flowboard.Prototype
