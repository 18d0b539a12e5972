import Flowboard.Script.Special
import Flowboard.Script.Value

/-! Types of values, and what classes hold. -/
namespace Flowboard.Script

/-- The kinds of exceptions that are always there, each with the kind it belongs to. -/
def exceptionKinds : List (String × String) :=
  [("BaseException", "object"), ("SystemExit", "BaseException"),
   ("KeyboardInterrupt", "BaseException"), ("GeneratorExit", "BaseException"),
   ("Exception", "BaseException"), ("StopIteration", "Exception"),
   ("StopAsyncIteration", "Exception"), ("ArithmeticError", "Exception"),
   ("FloatingPointError", "ArithmeticError"), ("OverflowError", "ArithmeticError"),
   ("ZeroDivisionError", "ArithmeticError"), ("AssertionError", "Exception"),
   ("AttributeError", "Exception"), ("BufferError", "Exception"), ("EOFError", "Exception"),
   ("ImportError", "Exception"), ("ModuleNotFoundError", "ImportError"),
   ("LookupError", "Exception"), ("IndexError", "LookupError"), ("KeyError", "LookupError"),
   ("MemoryError", "Exception"), ("NameError", "Exception"), ("UnboundLocalError", "NameError"),
   ("OSError", "Exception"), ("BlockingIOError", "OSError"), ("ChildProcessError", "OSError"),
   ("ConnectionError", "OSError"), ("BrokenPipeError", "ConnectionError"),
   ("ConnectionAbortedError", "ConnectionError"), ("ConnectionRefusedError", "ConnectionError"),
   ("ConnectionResetError", "ConnectionError"),
   ("FileExistsError", "OSError"), ("FileNotFoundError", "OSError"),
   ("InterruptedError", "OSError"), ("IsADirectoryError", "OSError"),
   ("NotADirectoryError", "OSError"), ("PermissionError", "OSError"),
   ("ProcessLookupError", "OSError"), ("TimeoutError", "OSError"),
   ("ReferenceError", "Exception"), ("RuntimeError", "Exception"),
   ("NotImplementedError", "RuntimeError"), ("RecursionError", "RuntimeError"),
   ("SyntaxError", "Exception"), ("IndentationError", "SyntaxError"),
   ("TabError", "IndentationError"), ("SystemError", "Exception"),
   ("TypeError", "Exception"), ("ValueError", "Exception"), ("UnicodeError", "ValueError"),
   ("UnicodeDecodeError", "UnicodeError"), ("UnicodeEncodeError", "UnicodeError"),
   ("UnicodeTranslateError", "UnicodeError"), ("io.UnsupportedOperation", "OSError"),
   ("Warning", "Exception"), ("DeprecationWarning", "Warning"), ("RuntimeWarning", "Warning"),
   ("UserWarning", "Warning"), ("FutureWarning", "Warning"), ("SyntaxWarning", "Warning"),
   ("ResourceWarning", "Warning"), ("PendingDeprecationWarning", "Warning"),
   ("ImportWarning", "Warning"), ("UnicodeWarning", "Warning"), ("BytesWarning", "Warning"),
   ("EncodingWarning", "Warning")]

/-- The types of values that are always there, each with the type it belongs to. -/
def valueTypes : List (String × String) :=
  [("object", ""), ("type", "object"), ("int", "object"), ("bool", "int"), ("float", "object"),
   ("str", "object"), ("bytes", "object"), ("list", "object"), ("tuple", "object"),
   ("dict", "object"), ("set", "object"), ("frozenset", "object"), ("range", "object"),
   ("slice", "object"), ("NoneType", "object"), ("property", "object"),
   ("staticmethod", "object"), ("classmethod", "object"), ("enumerate", "object"),
   ("zip", "object"), ("map", "object"), ("filter", "object"), ("reversed", "object"),
   ("super", "object"), ("function", "object"), ("method", "object"), ("module", "object"),
   ("generator", "object"), ("collections.OrderedDict", "dict"), ("collections.Counter", "dict"),
   ("collections.defaultdict", "dict"), ("collections.deque", "object"),
   ("functools.partial", "object"), ("memoryview", "object"),
   ("itertools.count", "object"), ("itertools.chain", "object"), ("bytearray", "object"),
   ("complex", "object"), ("itertools.cycle", "object"), ("itertools.repeat", "object"),
   ("coroutine", "object"), ("async_generator", "object"), ("types.UnionType", "object"),
   ("types.GenericAlias", "object"), ("set_iterator", "object"), ("code", "object"),
   ("traceback", "object"), ("frame", "object"), ("wrapper_descriptor", "object"), ("method_descriptor", "object"),
   ("builtin_function_or_method", "object"), ("ellipsis", "object"),
   ("NotImplementedType", "object"), ("list_iterator", "object"), ("range_iterator", "object"),
   ("callable_iterator", "object"), ("dict_keys", "object"), ("dict_values", "object"),
   ("dict_items", "object"), ("_io.TextIOWrapper", "object"),
   ("_io.BufferedReader", "object"), ("_io.BufferedWriter", "object"),
   ("_io.BufferedRandom", "object"), ("_io.FileIO", "object"),
   ("subprocess.CompletedProcess", "object")]

def isException (name : String) : Bool :=
  (exceptionKinds.lookup name).isSome

def isType (name : String) : Bool :=
  (valueTypes.lookup name).isSome || isException name

/-- A type and the types it belongs to, nearest first, for types that are always there. -/
def ancestry (name : String) : List String :=
  if name = "io.UnsupportedOperation" then name :: "OSError" :: go 8 "ValueError" else go 8 name
where
  go : Nat → String → List String
    | 0, _ => []
    | fuel + 1, name =>
      match (exceptionKinds.lookup name).or (valueTypes.lookup name) with
      | some "" => [name]
      | some parent => name :: go fuel parent
      | none => [name, "object"]

def lastPart (name : String) : String :=
  (name.splitOn ".").getLastD name

def Iterator.typeName : Iterator → String
  | .values _ => "iterator"
  | .elements _ _ => "list_iterator"
  | .counting _ _ _ => "range_iterator"
  | .endless _ _ => "itertools.count"
  | .mapped _ _ => "map"
  | .zipped _ _ => "zip"
  | .enumerated _ _ => "enumerate"
  | .chained _ => "itertools.chain"
  | .cycled _ _ => "itertools.cycle"
  | .sliced _ _ _ _ => "itertools.islice"
  | .entries "set" _ _ _ => "set_iterator"
  | .entries "keys" _ _ _ => "dict_keyiterator"
  | .entries "values" _ _ _ => "dict_valueiterator"
  | .entries _ _ _ _ => "dict_itemiterator"
  | .indexed _ _ => "iterator"
  | .generator _ _ _ kind => kind
  | .running kind => kind
  | .done => "iterator"

def OpenFile.kindName (f : OpenFile) : String :=
  if !f.binary then "_io.TextIOWrapper"
  else if f.bare then "_io.FileIO"
  else if f.mode.toList.contains '+' then "_io.BufferedRandom"
  else if f.mode.toList.contains 'r' then "_io.BufferedReader"
  else "_io.BufferedWriter"

def OpenFile.shownEncoding (f : OpenFile) : String :=
  if f.encoding = "UTF-8" then "utf-8" else f.encoding

/-- The type of something that stands in the world. -/
def Obj.kind : Obj → Value
  | .list _ ends => .builtin (if ends then "collections.deque" else "list")
  | .dict _ .plain => .builtin "dict"
  | .dict _ .ordered => .builtin "collections.OrderedDict"
  | .dict _ .counting => .builtin "collections.Counter"
  | .dict _ (.supplied _) => .builtin "collections.defaultdict"
  | .set _ frozen => .builtin (if frozen then "frozenset" else "set")
  | .function _ => .builtin "function"
  | .type c => c.kind
  | .octets _ => .builtin "bytearray"
  | .window _ => .builtin "memoryview"
  | .object t _ _ => t
  | .iterator it => .builtin it.typeName
  | .wrapped .property _ _ => .builtin "property"
  | .wrapped .ofClass _ _ => .builtin "classmethod"
  | .wrapped .static _ _ => .builtin "staticmethod"
  | .curried _ _ _ => .builtin "functools.partial"
  | .file f => .builtin f.kindName
  | .view "members" _ => .builtin "dict"
  | .view "variables" _ => .builtin "dict"
  | .view which _ => .builtin ("dict_" ++ which)
  | .above _ _ => .builtin "super"

def typeOf (v : Value) : Action Value := do
  match v with
  | .none => return .builtin "NoneType"
  | .ellipsis => return .builtin "ellipsis"
  | .unsupported => return .builtin "NotImplementedType"
  | .bool _ => return .builtin "bool"
  | .int _ => return .builtin "int"
  | .float _ => return .builtin "float"
  | .complex _ _ => return .builtin "complex"
  | .str _ => return .builtin "str"
  | .bytes _ => return .builtin "bytes"
  | .tuple _ => return .builtin "tuple"
  | .range _ _ _ => return .builtin "range"
  | .slice _ _ _ => return .builtin "slice"
  | .builtin name => return .builtin (if isType name then "type" else "builtin_function_or_method")
  | .method _ _ => return .builtin "builtin_function_or_method"
  | .bound _ _ => return .builtin "method"
  | .module _ => return .builtin "module"
  | .ref i =>
    match (← get).heap[i]? with
    | some o => return o.kind
    | none => return .builtin "object"

def nameOfType (type : Value) : Action String := do
  match type with
  | .builtin name => return lastPart name
  | v =>
    match ← Action.object? v with
    | some (.type c) => return c.name
    | _ => return "object"

def typeName (v : Value) : Action String := do
  match ← typeOf v with
  | .builtin "collections.Counter" => return "Counter"
  | .builtin name => return name
  | type =>
    match ← Action.object? type with
    | some (.type c) =>
      match c.attributes.named? ".title" with
      | some (.str title) => return title
      | _ => return c.name
    | _ => nameOfType type

mutual

def Value.same : Value → Value → Bool
  | .none, .none => true
  | .unsupported, .unsupported => true
  | .bool a, .bool b => a == b
  | .int a, .int b => a == b
  | .str a, .str b => a == b
  | .builtin a, .builtin b => a == b
  | .ref a, .ref b => a == b
  | _, _ => false

end

/-- A class and the classes it belongs to, nearest first. -/
def lineage (type : Value) : Action (List Value) := do
  match type with
  | .builtin name => return (ancestry name).map .builtin
  | v =>
    match ← Action.object? v with
    | some (.type c) => return v :: c.ancestors
    | _ => return [v]

/-- Whether a class is another one or belongs to it. -/
def isSubclass (type other : Value) : Action Bool := do
  return (← lineage type).any (·.same other)

/-- Whether a value belongs to a class. -/
def isInstance (v type : Value) : Action Bool := do
  isSubclass (← typeOf v) type

/-- Joins the orders of classes so that each class comes before those it belongs to. -/
def mergeLineages : Nat → List (List Value) → List Value
  | 0, _ => []
  | fuel + 1, lists =>
    let lists := lists.filter fun l => !l.isEmpty
    let good? := lists.findSome? fun l =>
      l.head?.bind fun c =>
        if lists.any fun m => (m.drop 1).any (·.same c) then none else some c
    match good? with
    | none => []
    | some c =>
      c :: mergeLineages fuel (lists.map fun l =>
        if l.head?.any (·.same c) then l.drop 1 else l)

/-- Whether a type that is always there has its own rule under a name with underscores. -/
def ownsRule (type name : String) : Bool :=
  let numbers := ["int", "float", "complex"]
  let sequences := ["str", "bytes", "bytearray", "list", "tuple", "collections.deque"]
  let mappings := ["dict", "collections.OrderedDict", "collections.Counter",
    "collections.defaultdict"]
  let sets := ["set", "frozenset"]
  if ["__repr__", "__eq__", "__ne__", "__hash__", "__lt__", "__le__", "__gt__", "__ge__"].contains
      name then
    (numbers ++ sequences ++ mappings ++ sets).contains type || (type = "bool" && name = "__repr__")
  else if name = "__format__" then type = "str" || numbers.contains type
  else if name = "__str__" then type = "str"
  else if ["__len__", "__iter__", "__contains__", "__getitem__"].contains name then
    (sequences ++ mappings ++ sets).contains type
  else if name = "__bool__" || name = "__neg__" || name = "__abs__" then numbers.contains type
  else if ["__add__", "__mul__", "__radd__", "__rmul__"].contains name then
    (numbers ++ sequences).contains type
  else if ["__and__", "__or__", "__xor__", "__sub__"].contains name then
    ("int" :: "float" :: sets).contains type
  else false

/-- What the classes of a lineage hold under a name; the first one counts, and a type that is always
there may come before it. -/
def findIn (name : String) : List Value → Action (Option Value)
  | [] => return none
  | c :: rest => do
    match c with
    | .builtin type =>
      if type ≠ "object" && ownsRule type name then return none else findIn name rest
    | c =>
      match ← Action.object? c with
      | some (.type k) =>
        match k.attributes.named? name with
        | some v => return some v
        | none => findIn name rest
      | _ => findIn name rest

/-- What the class of an object, or of a class, holds under a name, with it as first argument. -/
def special? (v : Value) (name : String) : Action (Option Value) := do
  let asked (type : Value) : Action (Option Value) := do
    match ← findIn name (← lineage type) with
    | some f =>
      match ← Action.object? f with
      | some (.wrapped .static g _) => return some g
      | some (.wrapped .ofClass g _) => return some (.bound type g)
      | some (.object _ _ _) => return some f
      | some (.curried _ _ _) => return some f
      | _ => return some (.bound v f)
    | none => return none
  match ← Action.object? v with
  | some (.object type _ _) => asked type
  | some (.type c) =>
    match c.kind with
    | .builtin _ => return none
    | kind => asked kind
  | _ => return none

def viewed (which : String) (d : Dict) : List Value :=
  match which with
  | "keys" => d.keys
  | "values" => d.values
  | _ => d.toList.map fun (a, b) => .tuple [a, b]

/-- The names of an exception that are part of its kind and not its own. -/
def innateNames (type : Value) : Action (List String) := do
  let line ← lineage type
  let kinds : List (String × List String) :=
    [("BaseException", ["args", "__cause__", "__context__", "__suppress_context__"]),
     ("OSError", ["errno", "strerror", "filename", "filename2"]),
     ("SyntaxError", ["msg", "filename", "lineno", "offset", "text", "end_lineno", "end_offset",
       "print_file_and_line"]),
     ("ImportError", ["name", "path", "msg"]), ("AttributeError", ["name", "obj"]),
     ("NameError", ["name"]),
     ("UnicodeError", ["encoding", "object", "start", "end", "reason"]),
     ("BaseExceptionGroup", ["message", "exceptions"])]
  return (kinds.filter fun (k, _) => line.any (·.same (.builtin k))).flatMap (·.2)

/-- The pairs of a mapping, or the names of an object or a function with what they are bound to. -/
def dictAt (i : Nat) : Action Dict := do
  match (← get).heap[i]? with
  | some (.dict d _) => return d
  | some (.object type attributes _) =>
    if (attributes.named? "args").isSome then
      return (← innateNames type).foldl (fun d n => d.erase ("s" ++ n)) attributes
    else return attributes
  | some (.function f) => return f.attributes
  | _ => return .empty

/-- The names in a scope in their order: those of a class or a module as they were bound, those of a
call as they stand in its function. -/
def Scope.ordered (s : Scope) : List String :=
  let known := if s.ofClass || s.ofModule then s.order.eraseDups.reverse else s.names.own
  let known := known.filter s.bindings.contains
  let others := (s.bindings.toList.map (·.1)).filter fun n => !n.startsWith "." && !known.contains n
  if s.ofModule then others.mergeSort ++ known else known ++ others.mergeSort

def Scope.pairs (s : Scope) : List (String × Value) :=
  s.ordered.filterMap fun n => (s.bindings.get? n).map fun v => (n, v)

/-- A type together with the types of what it holds. -/
def aliasOf (origin key : Value) : Action Value :=
  let args : Value := match key with
    | .tuple xs => .tuple xs
    | x => .tuple [x]
  Action.allocate (.object (.builtin "types.GenericAlias")
    (((Dict.empty.set "__origin__" origin).set "__args__" args).set "__parameters__" (.tuple []))
    .none)

/-- What an object is as a value of a type that is always there. -/
def plain (v : Value) : Action Value := do
  match ← Action.object? v with
  | some (.object _ _ .none) => return v
  | some (.object _ _ base) => return base
  | _ => return v

/-- A text that two keys share if they are equal, for values that cannot change. -/
def keyText : Nat → Value → Option String
  | 0, _ => none
  | fuel + 1, v =>
    match v with
    | .none => some "n"
    | .ellipsis => some "e"
    | .unsupported => some "u"
    | .bool b => some (if b then "i1" else "i0")
    | .int n => some ("i" ++ Text.integerText n)
    | .float x =>
      match integral? x with
      | some n => some ("i" ++ Text.integerText n)
      | none => some ("f" ++ Text.naturalText x.toBits.toNat)
    | .complex x y =>
      if y == 0.0 then keyText fuel (.float x)
      else some ("j" ++ Text.naturalText x.toBits.toNat ++ "," ++ Text.naturalText y.toBits.toNat)
    | .str s => some ("s" ++ s)
    | .bytes b => some ("b" ++ String.ofList (b.map fun b => Char.ofNat b.toNat))
    | .tuple xs =>
      match xs.mapM (keyText fuel) with
      | some keys =>
        some ("t" ++ String.join (keys.map fun k => Text.naturalText k.length ++ ":" ++ k))
      | none => none
    | .range a b c => some ("r" ++ ",".intercalate ([a, b, c].map Text.integerText))
    | .slice _ _ _ => none
    | .builtin name => some ("c" ++ name)
    | .method _ name => some ("m" ++ name)
    | .bound _ f => (keyText fuel f).map ("o" ++ ·)
    | .module name => some ("d" ++ name)
    | .ref i => some ("p" ++ Text.naturalText i)

/-- How many bytes a number of a format has. -/
def widthOfFormat (format : String) : Nat :=
  match format with
  | "h" | "H" | "e" => 2
  | "i" | "I" | "f" => 4
  | "l" | "L" | "q" | "Q" | "n" | "N" | "P" | "d" => 8
  | _ => 1

namespace Window

def width (w : Window) : Nat :=
  widthOfFormat w.format

/-- How many numbers there are. -/
def count (w : Window) : Nat :=
  w.shape.foldl (· * ·) 1

def starts (w : Window) : List Nat :=
  (List.range w.count).map fun (i : Nat) => (w.start + w.step * i).toNat

/-- Whether nothing stands between the numbers. -/
def isDense (w : Window) : Bool :=
  w.count < 2 || w.step = (w.width : Int)

/-- Refuses a window that has been given back. -/
def checkOpen (w : Window) : Action Unit := do
  if w.released then
    Action.valueError "operation forbidden on released memoryview object"

def allBytes (w : Window) : Action ByteArray := do
  match w.source with
  | .bytes b => return ⟨b.toArray⟩
  | v =>
    match ← Action.object? v with
    | some (.octets b) => return b
    | _ => return .empty

/-- The bytes of each number. -/
def pieces (w : Window) : Action (List (List UInt8)) := do
  w.checkOpen
  let all ← w.allBytes
  let width := w.width
  return w.starts.map fun i => (all.extract i (i + width)).data.toList

/-- The number of a format that bytes stand for, the lowest byte first. -/
def numberOf (format : String) (b : List UInt8) : Value :=
  let n := b.foldr (fun x n => x.toNat + 256 * n) 0
  match format with
  | "c" => .bytes b
  | "?" => .bool (n % 2 = 1)
  | "e" | "f" | "d" => .float ((Special.FloatShape.ofWidth b.length).decode n)
  | "b" | "h" | "i" | "l" | "q" | "n" => .int ((n : Int).bmod (twoTo (8 * b.length)))
  | _ => .int n

def numbers (w : Window) : Action (List Value) := do
  return (← w.pieces).map (numberOf w.format)

end Window

/-- The first value in a value that keeps it from being a key. -/
def unhashable? : Nat → Value → Action (Option String)
  | 0, _ => return none
  | fuel + 1, v => do
    match v with
    | .tuple xs => xs.findSomeM? (unhashable? fuel)
    | .slice _ _ _ => return some "slice"
    | .ref _ =>
      match ← Action.object? v with
      | some (.list _ _) => return some (← typeName v)
      | some (.dict _ _) => return some (← typeName v)
      | some (.set _ false) => return some "set"
      | some (.object type _ _) =>
        match ← findIn "__hash__" (← lineage type) with
        | some .none => return some (← typeName v)
        | _ => return none
      | some (.octets _) => return some "bytearray"
      | _ => return none
    | _ => return none

/-- How deep values may stand in values. -/
def nesting : Nat := 200

/-- The first object that was a key under a text and is or equals another one, which is the first
one of its own if none does. -/
def peerOf (k : Calls) (text : String) (i : Nat) : Action Nat := do
  let peers := ((← get).peers.get? text).getD []
  if peers.contains i then return i
  let equals (j : Nat) : Action Bool := do
    match ← special? (.ref i) "__eq__" with
    | some f =>
      match ← k.call f [.ref j] [] with
      | .bool b => return b
      | _ => return false
    | none => return false
  match ← peers.findM? equals with
  | some j => return j
  | none =>
    modify fun w => { w with peers := w.peers.insert text (peers ++ [i]) }
    return i

def equalNumber? (v : Value) : Action (Option Value) := do
  let _ ← special? v "__float__"
  let _ ← special? v "__eq__"
  return none

def keyOf (k : Calls) (v : Value) : Action String := do
  match v with
  | .str s => return "s" ++ s
  | .int n => return "i" ++ Text.integerText n
  | v =>
    let v ← plain v
    match ← unhashable? nesting v with
    | some name => Action.typeError ("unhashable type: '" ++ name ++ "'")
    | none =>
      match ← Action.object? v with
      | some (.object _ _ _) =>
        match ← special? v "__hash__" with
        | some f =>
          let h ← k.call f [] []
          let text := "h" ++ (keyText nesting h).getD ""
          match v, ← equalNumber? v with
          | _, some x => return (keyText nesting x).getD text
          | .ref i, none => return text ++ "." ++ Text.naturalText (← peerOf k text i)
          | _, none => return text
        | none => return (keyText nesting v).getD ""
      | _ => return (keyText nesting v).getD ""

end Flowboard.Script
