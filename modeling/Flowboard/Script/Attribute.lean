import Flowboard.Script.Braces
import Flowboard.Script.Stream

/-! What values have under names. -/
namespace Flowboard.Script

def generatorMethods : List String :=
  ["close", "send", "throw"]

def commonMethods : List String :=
  ["__str__", "__repr__", "__eq__", "__ne__", "__hash__", "__init__", "__format__",
   "__getattribute__", "__setattr__", "__lt__", "__le__", "__gt__", "__ge__", "__dir__",
   "__init_subclass__", "__delattr__", "__sizeof__", "__reduce__", "__subclasshook__"]

def iteratorMethods : List String :=
  ["__iter__", "__next__"]

def sequenceMethods : List String :=
  ["__len__", "__iter__", "__contains__", "__getitem__", "__add__", "__mul__"]

def numberMethods : List String :=
  ["__add__", "__sub__", "__mul__", "__truediv__", "__floordiv__", "__mod__", "__pow__",
   "__neg__", "__abs__", "__int__", "__float__", "__bool__", "__radd__", "__rsub__", "__rmul__"]

def methodsOfType (name : String) : List String :=
  match name with
  | "str" => textMethods ++ sequenceMethods
  | "bytes" => bytesMethods ++ sequenceMethods ++ ["fromhex"]
  | "bytearray" =>
    bytesMethods ++ octetsMethods ++ sequenceMethods ++ ["fromhex", "__setitem__", "__delitem__"]
  | "complex" => numberMethods ++ ["conjugate"]
  | "memoryview" =>
    ["tobytes", "tolist", "toreadonly", "release", "hex", "cast", "__enter__", "__exit__",
     "__setitem__", "__delitem__"] ++ sequenceMethods
  | "list" => listMethods ++ sequenceMethods ++ ["__setitem__", "__delitem__"]
  | "collections.deque" => dequeMethods ++ sequenceMethods
  | "dict" | "collections.OrderedDict" | "collections.defaultdict" =>
    dictMethods ++ sequenceMethods ++ ["__setitem__", "__delitem__", "move_to_end"]
  | "collections.Counter" => counterMethods ++ sequenceMethods ++ ["__setitem__", "__delitem__"]
  | "set" | "frozenset" => setMethods ++ sequenceMethods
  | "tuple" => ["count", "index"] ++ sequenceMethods
  | "range" => ["count", "index"] ++ sequenceMethods
  | "int" | "bool" =>
    intMethods ++ numberMethods ++ ["from_bytes", "__index__", "__and__", "__or__", "__xor__",
      "__lshift__", "__rshift__", "__invert__", "__rand__", "__ror__", "__rxor__", "__trunc__",
      "__round__", "__floor__", "__ceil__", "__divmod__"]
  | "float" => floatMethods ++ numberMethods ++ ["fromhex"]
  | "generator" => generatorMethods ++ iteratorMethods
  | "coroutine" => generatorMethods ++ ["__await__"]
  | "BaseException" => ["with_traceback", "add_note"]
  | "_io.TextIOWrapper" => fileMethods ++ ["__enter__", "__exit__"] ++ iteratorMethods
  | "object" => ["__new__"]
  | "type" =>
    ["mro", "__call__", "__subclasses__", "__instancecheck__", "__subclasscheck__", "__prepare__"]
  | name =>
    if name.endsWith "iterator" || name.startsWith "itertools." then iteratorMethods
    else if name.startsWith "dict_" then sequenceMethods
    else []

/-- The types that are always there of which objects of a class may hold a value. -/
def holdingTypes : List String :=
  ["int", "float", "complex", "str", "list", "dict", "tuple", "set", "frozenset", "bytes",
   "bytearray", "collections.Counter", "collections.OrderedDict", "collections.defaultdict",
   "collections.deque"]

/-- The first type that is always there of which objects of a class hold a value. -/
def baseTypeOf (type : Value) : Action (Option String) := do
  return (← lineage type).findSome? fun
    | .builtin name => if holdingTypes.contains name then some name else none
    | _ => none

/-- A member of a class as an object of the class sees it. -/
def boundTo (k : Calls) (self type member : Value) : Action Value := do
  match ← Action.object? member with
  | some (.function _) => return .bound self member
  | some (.wrapped .property f _) => k.call f [self] []
  | some (.object _ _ _) =>
    match ← special? member "__get__" with
    | some g => k.call g [self, type] []
    | none => return member
  | _ => return member

def boundToClass (k : Calls) (cls member : Value) : Action Value := do
  match ← Action.object? member with
  | some (.wrapped .ofClass f _) => return .bound cls f
  | some (.wrapped .static f _) => return f
  | some (.object _ _ _) =>
    match ← special? member "__get__" with
    | some g => k.call g [.none, cls] []
    | none => return member
  | _ => return member

/-- Whether a member of a class comes before what an object holds itself. -/
def isDataMember (member : Value) : Action Bool := do
  match ← Action.object? member with
  | some (.wrapped .property _ _) => return true
  | some (.object _ _ _) =>
    return (← special? member "__set__").isSome || (← special? member "__delete__").isSome
  | _ => return false

/-- The names of functions. -/
def nameAttribute (module title name asked : String) : Option Value :=
  match asked with
  | "__name__" => some (.str name)
  | "__qualname__" => some (.str title)
  | "__module__" => some (.str module)
  | _ => none

/-- What a type that is always there has under a name, as its functions are seen from it. -/
def typeMember? (type name : String) : Option Value :=
  if name = "__new__" then some (.builtin (type ++ ".__new__"))
  else if (methodsOfType type).contains name || (commonMethods.contains name && ownsRule type name)
    then some (.builtin (type ++ "." ++ name))
  else none

/-- What the types that are always there of a lineage have under a name. -/
def typesMember? (name : String) (line : List Value) : Option Value :=
  (line.findSome? fun
    | .builtin type => if type = "object" then none else typeMember? type name
    | _ => none).or
    (if name = "__new__" then some (.builtin "object.__new__")
      else if commonMethods.contains name then some (.builtin ("object." ++ name))
      else none)

def classNote? (cls : Value) (c : Class) (name : String) : Action (Option Value) := do
  match name with
  | "__name__" => return some (.str c.name)
  | "__qualname__" => return some (.str c.title)
  | "__module__" => return some (.str c.module)
  | "__mro__" => return some (.tuple (cls :: c.ancestors))
  | "__bases__" =>
    return some (.tuple (if c.bases.isEmpty then [.builtin "object"] else c.bases))
  | "__base__" => return some (c.bases.headD (.builtin "object"))
  | "__dict__" => return some (← Action.allocate (.dict c.attributes .plain))
  | "__doc__" => return some .none
  | "__annotations__" => return some (← Action.allocate (.dict .empty .plain))
  | _ => return none

def classMember? (k : Calls) (cls : Value) (c : Class) (name : String) :
    Action (Option Value) := do
  let line := cls :: c.ancestors
  let above ← match c.kind with
    | .builtin _ => pure none
    | kind => do pure ((← findIn name (← lineage kind)).map fun m => (kind, m))
  let computed ← match above with
    | some (_, m) => isDataMember m
    | none => pure false
  match computed, above with
  | true, some (kind, m) => return some (← boundTo k cls kind m)
  | _, _ =>
    match name with
    | "__name__" | "__mro__" | "__dict__" | "__bases__" | "__base__" => classNote? cls c name
    | "__annotations__" | "__doc__" =>
      -- these are not taken from the classes behind
      match c.attributes.named? name with
      | some v => return some v
      | none => classNote? cls c name
    | name =>
      match ← findIn name line with
      | some m => return some (← boundToClass k cls m)
      | none =>
        match ← classNote? cls c name with
        | some v => return some v
        | none =>
          match typesMember? name c.ancestors, above with
          | some v, none => return some v
          | _, some (kind, m) => return some (← boundTo k cls kind m)
          | none, none =>
            if (methodsOfType "type").contains name then return some (.method cls name)
            else
              match ← special? cls "__getattr__" with
              | some f => return some (← k.call f [.str name] [])
              | none => return none

/-- The place that is under way and those behind it, the innermost first. -/
def stations (w : World) : List Station :=
  go w.line w.calls
where
  go (line : Nat) : List Call → List Station
    | [] => [⟨⟨"<module>", "<module>", "__main__", 1, 0, 0⟩, line⟩]
    | c :: cs => ⟨c, line⟩ :: go c.back cs

/-- The variables of a scope as a mapping, which is always the same one. -/
def variablesOf (i : Nat) : Action Value := do
  let key := ".variables " ++ Text.naturalText i
  match (← get).shared.get? key with
  | some v => return v
  | none =>
    let v ← Action.allocate (.view "variables" i)
    if ((← get).scopes[i]?).any (·.ofModule) then
      modify fun w => { w with shared := w.shared.insert key v }
    return v

def fileOfModule (w : World) (module : String) : String :=
  if module = "__main__" then w.path else "/usr/lib/python3.11/" ++ module.replace "." "/" ++ ".py"

/-- What is known about the statements of a function. -/
def codeObject (name title module : String) (line : Nat) (more : List (String × Value)) :
    Action Value := do
  let w ← get
  let known := [("co_name", .str name), ("co_qualname", .str title),
    ("co_filename", .str (fileOfModule w module)), ("co_firstlineno", .int line)] ++ more
  Action.allocate (.object (.builtin "code")
    (known.foldl (fun d (n, v) => Dict.set d n v) Dict.empty) .none)

/-- The frames of places of a script, the innermost first; the first of them is given. -/
def frameObject : List Station → Action Value
  | [] => return .none
  | s :: rest => do
    let back ← frameObject rest
    let code ← codeObject s.call.name s.call.title s.call.module s.call.first []
    let w ← get
    let outermost := if s.call.module = "__main__" then 0
      else (w.modules.get? s.call.module).getD 0
    let inner ← variablesOf s.call.scope
    let outer ← variablesOf outermost
    let builtins ← Action.allocate (.dict .empty .plain)
    let known : List (String × Value) :=
      [("f_back", back), ("f_code", code), ("f_lineno", .int s.line), ("f_locals", inner),
       ("f_globals", outer), ("f_builtins", builtins), ("f_lasti", .int 0), ("f_trace", .none)]
    Action.allocate (.object (.builtin "frame")
      (known.foldl (fun d (n, v) => Dict.set d n v) Dict.empty) .none)

/-- The places that an exception came through, the outermost first. -/
def traceOf (e : Value) : Action Value := do
  match e with
  | .ref i =>
    match (← get).traces.get? i with
    | none => return .none
    | some (all, cut) =>
      let inside := all.take (all.length - cut)
      let shown := if all.length ≤ cut then all.take 1 else inside
      link (shown.length + 1) shown .none
  | _ => return .none
where
  link : Nat → List Station → Value → Action Value
    | _, [], next => return next
    | 0, _, next => return next
    | fuel + 1, s :: rest, next => do
      let frame ← frameObject ((s :: rest).take 20)
      let known : List (String × Value) :=
        [("tb_frame", frame), ("tb_lineno", .int s.line), ("tb_next", next), ("tb_lasti", .int 0)]
      let tb ← Action.allocate (.object (.builtin "traceback")
        (known.foldl (fun d (n, v) => Dict.set d n v) Dict.empty) .none)
      link fuel rest tb

/-- What an exception has under a name beside what it was given. -/
def exceptionMember? (self : Value) (type : Value) (attributes : Dict) (name : String) :
    Action (Option Value) := do
  let args := exceptionArgs attributes
  match name with
  | "code" =>
    if ← isSubclass type (.builtin "SystemExit") then
      return some (match args with
        | [] => .none
        | [x] => x
        | xs => .tuple xs)
    else return none
  | "value" =>
    if ← isSubclass type (.builtin "StopIteration") then return some (args.headD .none)
    else return none
  | "args" => return some (.tuple args)
  | "__traceback__" => return some (← traceOf self)
  | "__cause__" | "__context__" => return some .none
  | "__suppress_context__" => return some (.bool false)
  | "with_traceback" | "add_note" => return some (.method self name)
  | "name" =>
    if ← isSubclass type (.builtin "ImportError") then return some .none else return none
  | "errno" | "strerror" | "filename" | "filename2" =>
    if ← isSubclass type (.builtin "OSError") then return some .none else return none
  | _ => return none

/-- What is known about a window. -/
def windowMember? (w : Window) (name : String) : Action (Option Value) := do
  let known (v : Value) : Action (Option Value) := do
    w.checkOpen
    return some v
  let naturals (ns : List Nat) : Value := .tuple (ns.map fun (n : Nat) => .int n)
  -- how far apart numbers are in each direction
  let strides : List Int := (List.range w.shape.length).map fun i =>
    w.step * ((w.shape.drop (i + 1)).foldl (· * ·) 1 : Nat)
  match name with
  | "obj" => known w.source
  | "nbytes" => known (.int (w.count * w.width))
  | "itemsize" => known (.int w.width)
  | "format" => known (.str w.format)
  | "readonly" => known (.bool w.fixed)
  | "ndim" => known (.int w.shape.length)
  | "shape" => known (naturals w.shape)
  | "strides" => known (.tuple (strides.map fun n => .int n))
  | "suboffsets" => known (.tuple [])
  | "c_contiguous" | "contiguous" => known (.bool w.isDense)
  | "f_contiguous" => known (.bool (w.isDense && w.shape.length < 2))
  | _ => return none

/-- What a value of a type that is always there has under a name. -/
def plainMember? (v : Value) (name : String) : Action (Option Value) := do
  match v, name with
  | .int n, "real" | .int n, "numerator" => return some (.int n)
  | .int _, "imag" => return some (.int 0)
  | .int _, "denominator" => return some (.int 1)
  | .complex x _, "real" => return some (.float x)
  | .complex _ y, "imag" => return some (.float y)
  | .bool b, "real" | .bool b, "numerator" => return some (.int (if b then 1 else 0))
  | .bool _, "imag" => return some (.int 0)
  | .bool _, "denominator" => return some (.int 1)
  | .float x, "real" => return some (.float x)
  | .float _, "imag" => return some (.float 0.0)
  | .range a _ _, "start" => return some (.int a)
  | .range _ b _, "stop" => return some (.int b)
  | .range _ _ c, "step" => return some (.int c)
  | .slice a _ _, "start" => return some a
  | .slice _ b _, "stop" => return some b
  | .slice _ _ c, "step" => return some c
  | v, name =>
    match ← typeOf v with
    | .builtin type =>
      if (methodsOfType type).contains name || commonMethods.contains name then
        return some (.method v name)
      else return none
    | _ => return none

def streamMember? (stream name : String) : Option Value :=
  match name with
  | "buffer" => some (.builtin (stream ++ ".buffer"))
  | "encoding" => some (.str "utf-8")
  | "errors" =>
    some (.str (if stream.endsWith "stderr" then "backslashreplace" else "surrogateescape"))
  | "name" =>
    some (.str ("<" ++ (if stream.endsWith "buffer" then lastPart (String.ofList
      (stream.toList.take (stream.length - 7))) else lastPart stream) ++ ">"))
  | "mode" =>
    let binary := if stream.endsWith "buffer" then "b" else ""
    some (.str ((if (stream.splitOn "stdin").length = 2 then "r" else "w") ++ binary))
  | "line_buffering" => some (.bool (stream.endsWith "stderr"))
  | "write_through" => some (.bool false)
  | "newlines" => some .none
  | name =>
    if fileMethods.contains name || name = "reconfigure" || name = "__iter__" then
      some (.builtin (stream ++ "." ++ name))
    else none

/-- The descriptor of a stream that is always there. -/
def streamNumber (stream : String) : Nat :=
  if (stream.splitOn "stdin").length = 2 then 0
  else if (stream.splitOn "stderr").length = 2 then 2
  else 1

def streams : List String :=
  ["sys.stdout", "sys.stderr", "sys.stdin", "sys.stdout.buffer", "sys.stderr.buffer",
   "sys.stdin.buffer", "sys.__stdout__", "sys.__stderr__"]

/-- Whether objects of a class with a lineage hold more than what their classes name. -/
def hasMembers (line : List Value) : Action Bool := do
  line.anyM fun c => do
    match ← Action.object? c with
    | some (.type c) =>
      match c.attributes.named? "__slots__" with
      | none => return true
      | some (.str s) => return s = "__dict__"
      | some (.tuple xs) => return xs.any (·.same (.str "__dict__"))
      | some v =>
        match ← Action.object? v with
        | some (.list xs _) => return xs.any (·.same (.str "__dict__"))
        | _ => return false
    | _ =>
      match c with
      | .builtin name => return name ≠ "object" && isException name
      | _ => return true

/-- What an object of a class has under a name, apart from what its class computes for missing
ones. -/
def ownMember? (k : Calls) (v type : Value) (attributes : Dict) (base : Value) (name : String) :
    Action (Option Value) := do
  let ofClass ← findIn name (← lineage type)
  let computed ← match ofClass with
    | some member => isDataMember member
    | none => pure false
  match computed, attributes.named? name, ofClass with
  | true, _, some member => return some (← boundTo k v type member)
  | _, some x, _ => return some x
  | _, none, some member => return some (← boundTo k v type member)
  | _, none, none =>
    match name with
    | "__dict__" =>
      match v with
      | .ref i =>
        if ← hasMembers (← lineage type) then return some (← Action.allocate (.view "members" i))
        else return none
      | _ => return none
    | "__doc__" => return some .none
    | "__module__" =>
      match ← Action.object? type with
      | some (.type c) => return some (.str c.module)
      | _ => return some (.str "builtins")
    | name =>
      let known ← match base with
        | .none =>
          if ← isSubclass type (.builtin "BaseException") then
            exceptionMember? v type attributes name
          else pure none
        | .tuple xs =>
          -- the places of a tuple may have names
          match ← recordFields? type with
          | some fields =>
            match fields.idxOf? name with
            | some i => pure xs[i]?
            | none =>
              if ["_asdict", "_replace"].contains name then pure (some (.method v name))
              else plainMember? base name
          | none => plainMember? base name
        | base => plainMember? base name
      match known with
      | some x => return some x
      | none =>
        if commonMethods.contains name then return some (.method v name)
        else
          match type with
          | .builtin t =>
            if (methodsOfType t).contains name then return some (.method v name) else return none
          | _ => return none

/-- What an object of a class has under a name. -/
def objectMember? (k : Calls) (v type : Value) (attributes : Dict) (base : Value) (name : String) :
    Action (Option Value) := do
  let fallback : Action (Option Value) := do
    match ← special? v "__getattr__" with
    | some f => return some (← k.call f [.str name] [])
    | none => return none
  match ← special? v "__getattribute__" with
  | some f =>
    try
      return some (← k.call f [.str name] [])
    catch
      | .raise e =>
        if ← isInstance e (.builtin "AttributeError") then
          match ← fallback with
          | some x => return some x
          | none => throw (.raise e)
        else throw (.raise e)
      | s => throw s
  | none =>
    if (← special? v "__getattr__").isNone then ownMember? k v type attributes base name
    else
      let found ← try
          ownMember? k v type attributes base name
        catch
          | .raise e =>
            if ← isInstance e (.builtin "AttributeError") then pure none else throw (.raise e)
          | s => throw s
      match found with
      | some x => return some x
      | none => fallback

/-- What a module has under a name; its text may have a rule for names that it does not bind. -/
def moduleMember? (k : Calls) (module name : String) : Action (Option Value) := do
  match ← moduleAttribute? module name with
  | some v => return some v
  | none =>
    match name, (← get).modules.get? module with
    | "__dict__", some i => return some (← Action.allocate (.view "variables" i))
    | _, _ =>
      match ← preludeValue? module "__getattr__" with
      | some f =>
        try
          return some (← k.call f [.str name] [])
        catch
          | .raise e =>
            if ← isInstance e (.builtin "AttributeError") then return none else throw (.raise e)
          | s => throw s
      | none => return none

/-- What a value has under a name, if it has something there. -/
def member? (k : Calls) (v : Value) (name : String) : Action (Option Value) := do
  match name, v with
  | "__class__", v => return some (← typeOf v)
  | name, .module m => moduleMember? k m name
  | name, .builtin b =>
    if streams.contains b && name = "closed" then
      return some (.bool ((← get).shut.contains (streamNumber b)))
    else if streams.contains b then return streamMember? b name
    else if isType b then
      match name with
      | "__name__" | "__qualname__" => return some (.str (lastPart b))
      | "__module__" =>
        let parts := b.splitOn "."
        return some (.str (if parts.length < 2 then "builtins" else ".".intercalate parts.dropLast))
      | "__mro__" => return some (.tuple ((ancestry b).map .builtin))
      | "__hash__" =>
        if ["list", "dict", "set", "bytearray", "collections.deque", "collections.OrderedDict",
            "collections.Counter", "collections.defaultdict", "slice"].contains b then
          return some .none
        else return some (.builtin (b ++ ".__hash__"))
      | name =>
        if (methodsOfType b).contains name || name = "__new__" then
          return some (.builtin (b ++ "." ++ name))
        else if commonMethods.contains name then
          let owner := ((ancestry b).find? fun t => ownsRule t name).getD "object"
          return some (.builtin (owner ++ "." ++ name))
        else return none
    else if name = "__name__" || name = "__qualname__" then return some (.str (lastPart b))
    else if b = "itertools.chain" && name = "from_iterable" then
      return some (.builtin "itertools.chain.from_iterable")
    else return none
  | name, .bound _ f =>
    match ← Action.object? f with
    | some (.function g) =>
      match (nameAttribute g.module g.title g.name name).or (g.attributes.named? name), name with
      | some v, _ => return some v
      | none, "__doc__" => return some ((g.about.map Value.str).getD .none)
      | none, "__call__" => return some v
      | none, _ => return none
    | _ => return none
  | name, .ref i =>
    match (← get).heap[i]? with
    | some (.object type attributes base) => objectMember? k v type attributes base name
    | some (.type c) => classMember? k v c name
    | some (.function f) =>
      match f.attributes.named? name, name with
      | some x, _ => return some x
      | none, "__doc__" => return some ((f.about.map Value.str).getD .none)
      | none, "__dict__" => return some (← Action.allocate (.view "members" i))
      | none, "__defaults__" =>
        let vs := (f.params.filter fun p => p.taking.byPlace).filterMap (·.standard)
        return some (.tuple vs)
      | none, "__kwdefaults__" =>
        let pairs := (f.params.filter fun p => p.taking = .named).filterMap fun p =>
          p.standard.map fun v => (p.name, v)
        if pairs.isEmpty then return some .none
        else
          return some (← Action.allocate (.dict (pairs.foldl (fun d (n, v) => Dict.set d n v)
            Dict.empty) .plain))
      | none, "__annotations__" => return some (← Action.allocate (.dict f.notes .plain))
      | none, "__call__" => return some v
      | none, "__get__" => return some (.method v name)
      | none, "__code__" =>
        let taken (t : Taking → Bool) : List String :=
          (f.params.filter fun p => t p.taking).map (·.name)
        let names := taken Taking.byPlace ++ taken (· = .named) ++ taken (· = .rest) ++
          taken (· = .namedRest) ++ f.names.own.filter fun n => !f.params.any (·.name = n)
        let places := (f.params.filter fun p => p.taking.byPlace).length
        let flag (n : Nat) (b : Bool) : Nat := if b then n else 0
        let flags := 3 + flag 4 (f.params.any (·.taking = .rest)) +
          flag 8 (f.params.any (·.taking = .namedRest)) + flag 32 (f.yields && !f.awaits) +
          flag 128 (f.awaits && !f.yields) + flag 512 (f.awaits && f.yields)
        return some (← codeObject f.name f.title f.module f.line
          [("co_argcount", .int places), ("co_varnames", .tuple (names.map .str)),
           ("co_nlocals", .int names.length), ("co_flags", .int flags),
           ("co_posonlyargcount", .int (f.params.filter fun p => p.taking = .placed).length),
           ("co_kwonlyargcount", .int (f.params.filter fun p => p.taking = .named).length),
           ("co_freevars", .tuple []), ("co_cellvars", .tuple []),
           ("co_names", .tuple []), ("co_stacksize", .int 4),
           ("co_consts", .tuple [(f.about.map Value.str).getD .none])])
      | none, "__closure__" | none, "__wrapped__" =>
        if name = "__closure__" then return some .none else return none
      | none, "__globals__" =>
        let w ← get
        let i := if f.module = "__main__" then 0 else (w.modules.get? f.module).getD 0
        return some (← variablesOf i)
      | none, name => return nameAttribute f.module f.title f.name name
    | some (.above type self) =>
      let cls ← typeOf self
      let asClass ← match ← Action.object? self, self with
        | some (.type _), _ => isSubclass self type
        | _, _ => pure false
      let line ← lineage (if asClass then self else cls)
      let rest := (line.dropWhile fun c => !c.same type).drop 1
      match ← findIn name rest with
      | some member =>
        if asClass then return some (← boundToClass k self member)
        else return some (← boundTo k self cls member)
      | none =>
        if asClass && (name = "__init_subclass__" || name = "__subclasshook__") then
          return some (.method self name)
        else if asClass || name = "__new__" then return typesMember? name rest
        else
          match typesMember? name rest with
          | some (.builtin m) =>
            if commonMethods.contains name && m.startsWith "object." then
              return some (.method self name)
            else return some (.bound self (.builtin m))
          | _ =>
            let _ ← Action.object? self
            return none
    | some (.file _) =>
      plainMember? v name
    | some (.window w) =>
      match ← windowMember? w name with
      | some x => return some x
      | none => plainMember? v name
    | some (.list _ true) =>
      if name = "maxlen" then
        return some (((← get).limits.get? i).map (fun n => Value.int n) |>.getD .none)
      else plainMember? v name
    | some (.iterator (.generator _ _ _ _)) =>
      plainMember? v name
    | some (.wrapped .property f _) =>
      match name with
      | "__isabstractmethod__" =>
        match ← Action.object? f with
        | some (.function g) => return g.attributes.named? name
        | _ => return none
      | name => plainMember? v name
    | some (.wrapped _ f _) =>
      match name with
      | "__func__" | "__wrapped__" => return some f
      | "__isabstractmethod__" =>
        match ← Action.object? f with
        | some (.function g) => return g.attributes.named? name
        | _ => return none
      | name => plainMember? v name
    | _ => plainMember? v name
  | name, v => plainMember? v name

/-- Raises the exception for a missing name. -/
def noMember {α : Type} (v : Value) (name : String) : Action α := do
  match v with
  | .module m =>
    Action.raise "AttributeError" ("module '" ++ m ++ "' has no attribute '" ++ name ++ "'")
  | v =>
    match ← Action.object? v, v with
    | some (.type c), _ =>
      Action.raise "AttributeError" ("type object '" ++ c.name ++ "' has no attribute '" ++ name ++
        "'")
    | _, .builtin b =>
      if isType b then
        Action.raise "AttributeError" ("type object '" ++ lastPart b ++ "' has no attribute '" ++
          name ++ "'")
      else
        Action.raise "AttributeError" ("'builtin_function_or_method' object has no attribute '" ++
          name ++ "'")
    | _, _ =>
      Action.raise "AttributeError" ("'" ++ (← typeName v) ++ "' object has no attribute '" ++
        name ++ "'")

def member (k : Calls) (v : Value) (name : String) : Action Value := do
  match ← member? k v name with
  | some x => return x
  | none => noMember v name

/-- Binds a name in what an object, a class or a function holds. -/
def bindMember (i : Nat) (name : String) (x : Value) : Action Unit :=
  Action.change i fun
    | .object type attributes base => .object type (attributes.set name x) base
    | .type c => .type { c with attributes := c.attributes.set name x }
    | .function f => .function { f with attributes := f.attributes.set name x }
    | o => o

/-- The names that the classes of a lineage allow for what their objects hold, if they all tell. -/
def slotNames? (k : Calls) (line : List Value) : Action (Option (List String)) := do
  let known ← line.mapM fun c => do
    match ← Action.object? c with
    | some (.type c) =>
      match c.attributes.named? "__slots__" with
      | some (.str s) => return some [s]
      | some v =>
        return some ((← itemsOf k v).filterMap fun
          | .str s => some s
          | _ => none)
      | none => return none
    | _ =>
      match c with
      | .builtin name => return if isException name then none else some []
      | _ => return none
  if known.all Option.isSome then return some (known.filterMap id).flatten else return none

/-- Binds a name of an object as all objects do. -/
def setOwn (k : Calls) (v : Value) (i : Nat) (type : Value) (name : String) (x : Value) :
    Action Unit := do
  let line ← lineage type
  match ← findIn name line with
  | some m =>
    match ← Action.object? m with
    | some (.wrapped .property _ .none) =>
      Action.raise "AttributeError" ("property '" ++ name ++ "' of '" ++ (← nameOfType type) ++
        "' object has no setter")
    | some (.wrapped .property _ setter) =>
      let _ ← k.call setter [v, x] []
      return
    | some (.object _ _ _) =>
      match ← special? m "__set__" with
      | some f => let _ ← k.call f [v, x] []; return
      | none => bindOwn line
    | _ => bindOwn line
  | none => bindOwn line
where
  bindOwn (line : List Value) : Action Unit := do
    match name, x with
    | "__class__", x =>
      Action.change i fun
        | .object _ attributes base => .object x attributes base
        | o => o
    | "__dict__", x =>
      match ← Action.object? x with
      | some (.dict d _) =>
        Action.change i fun
          | .object type _ base => .object type d base
          | o => o
      | _ => Action.typeError ("__dict__ must be set to a dictionary, not a '" ++ (← typeName x) ++ "'")
    | name, x =>
      match ← Action.object? v with
      | some (.object (.builtin "object") _ _) =>
        Action.raise "AttributeError" ("'object' object has no attribute '" ++ name ++ "'")
      | _ =>
        let hasSlots ← line.anyM fun c => do
          match ← Action.object? c with
          | some (.type c) => return (c.attributes.named? "__slots__").isSome
          | _ => return false
        if hasSlots then
          if ((← recordFields? type).getD []).contains name then
            Action.raise "AttributeError" "can't set attribute"
          match ← slotNames? k line with
          | some names =>
            if names.contains name || names.contains "__dict__" then bindMember i name x
            else
              Action.raise "AttributeError" ("'" ++ (← nameOfType type) ++
                "' object has no attribute '" ++ name ++ "'")
          | none => bindMember i name x
        else
          if !(← get).watched.isEmpty then
            match (← get).heap[i]? with
            | some (.object _ attributes _) =>
              Action.dropped ((attributes.named? name).getD .none)
            | _ => pure ()
          bindMember i name x

def setMember (k : Calls) (v : Value) (name : String) (x : Value) : Action Unit := do
  match v with
  | .module m => share m name x
  | .builtin b =>
    if isType b then
      Action.typeError ("cannot set '" ++ name ++ "' attribute of immutable type '" ++ lastPart b ++
        "'")
    else noMember v name
  | .bound _ _ => Action.raise "AttributeError" ("'method' object has no attribute '" ++ name ++ "'")
  | .ref i =>
    match (← get).heap[i]? with
    | some (.object type _ _) =>
      match ← special? v "__setattr__" with
      | some f => let _ ← k.call f [.str name, x] []; return
      | none => setOwn k v i type name x
    | some (.type c) =>
      match ← special? v "__setattr__" with
      | some f => let _ ← k.call f [.str name, x] []; return
      | none =>
        let above ← match c.kind with
          | .builtin _ => pure none
          | kind => findIn name (← lineage kind)
        match ← Action.object? (above.getD .none) with
        | some (.wrapped .property _ setter) =>
          let _ ← k.call setter [v, x] []
          return
        | _ => setOfClass i name x
    | some (.function _) =>
      match name, x with
      | "__name__", .str s =>
        Action.change i fun
          | .function f => .function { f with name := s }
          | o => o
      | "__qualname__", .str s =>
        Action.change i fun
          | .function f => .function { f with title := s }
          | o => o
      | "__doc__", .str s =>
        Action.change i fun
          | .function f => .function { f with about := some s }
          | o => o
      | name, x => bindMember i name x
    | some (.dict _ (.supplied _)) =>
      if name = "default_factory" then
        Action.change i fun
          | .dict d _ => .dict d (.supplied x)
          | o => o
      else noMember v name
    | _ => noMember v name
  | v => noMember v name
where
  setOfClass (i : Nat) (name : String) (x : Value) : Action Unit := do
    match name, x with
    | "__name__", .str s =>
      Action.change i fun
        | .type c => .type { c with name := s }
        | o => o
    | "__qualname__", .str s =>
      Action.change i fun
        | .type c => .type { c with title := s }
        | o => o
    | "__module__", .str s =>
      Action.change i fun
        | .type c =>
          .type { c with module := s, attributes := c.attributes.set "__module__" (.str s) }
        | o => o
    | name, x => bindMember i name x

/-- Takes away a name of an object as all objects do. -/
def eraseOwn (k : Calls) (v : Value) (i : Nat) (type : Value) (attributes : Dict)
    (name : String) : Action Unit := do
  let deleter ← match ← findIn name (← lineage type) with
    | some m =>
      match ← Action.object? m, m with
      | some (.wrapped .property _ _), .ref j =>
        match (← get).shared.get? (".deleter" ++ Text.naturalText j) with
        | some f => pure (some (Value.bound v f))
        | none =>
          Action.raise "AttributeError" ("property '" ++ name ++ "' of '" ++ (← nameOfType type) ++
            "' object has no deleter")
      | some (.object _ _ _), _ =>
        match ← special? m "__delete__" with
        | some f => pure (some (Value.bound v (.bound m f)))
        | none => pure none
      | _, _ => pure none
    | none => pure none
  match deleter with
  | some (.bound v (.bound _ f)) => let _ ← k.call f [v] []
  | some f => let _ ← k.call f [] []
  | none =>
    if (attributes.named? name).isSome then
      Action.change i fun
        | .object type attributes base => .object type (attributes.unset name) base
        | o => o
    else noMember v name

/-- Takes away a name of a class as all classes do. -/
def eraseOfClass (v : Value) (i : Nat) (c : Class) (name : String) : Action Unit := do
  if (c.attributes.named? name).isSome then
    Action.change i fun
      | .type c => .type { c with attributes := c.attributes.unset name }
      | o => o
  else noMember v name

/-- Takes away a name of a value. -/
def eraseMember (k : Calls) (v : Value) (name : String) : Action Unit := do
  match v with
  | .ref i =>
    match (← get).heap[i]? with
    | some (.object type attributes _) =>
      match ← special? v "__delattr__" with
      | some f => let _ ← k.call f [.str name] []; return
      | none => eraseOwn k v i type attributes name
    | some (.type c) =>
      match ← special? v "__delattr__" with
      | some f => let _ ← k.call f [.str name] []; return
      | none => eraseOfClass v i c name
    | some (.function f) =>
      if (f.attributes.named? name).isSome then
        Action.change i fun
          | .function f => .function { f with attributes := f.attributes.unset name }
          | o => o
      else noMember v name
    | _ => noMember v name
  | v => noMember v name

/-- The value of a field after its points and brackets. -/
def fieldPath (k : Calls) : Nat → Value → List Char → Action Value
  | 0, v, _ => return v
  | _, v, [] => return v
  | fuel + 1, v, s => do
    match ← readBraces (BraceStep.next s) with
    | (.attribute name, rest) => fieldPath k fuel (← member k v name) rest
    | (.item key, rest) => fieldPath k fuel (← getItem k v key) rest

def converted (k : Calls) (v : Value) (conversion : Option Char) : Action Value := do
  match conversion with
  | some 'r' => return .str (← repr k v)
  | some 's' => return .str (← textOf k v)
  | some 'a' =>
    return .str (.ofList ((← repr k v).toList.flatMap fun c =>
      if 126 < c.toNat then shownChar '\x00' true c else [c]))
  | some c =>
    Action.valueError ("Unknown conversion specifier " ++
      if 32 < c.toNat ∧ c.toNat < 127 then c.toString else "\\x" ++ .ofList (Text.paddedIn 16 1 c.toNat))
  | none => return v

/-- Fills the fields in braces of a text; formats may hold fields as deep as `depth`. -/
def fillBraces (k : Calls) (args : Option (List Value)) (named : String → Action Value) :
    Nat → Nat → Numbering → List Char → List Char → Action (List Char × Numbering)
  | 0, _, count, done, _ => return (done.reverse, count)
  | _, _, count, done, [] => return (done.reverse, count)
  | fuel + 1, depth, count, done, s => do
    let (plain, field, rest) ← readBraces (BraceField.next s)
    let done := plain.reverse ++ done
    match field with
    | none => fillBraces k args named fuel depth count done rest
    | some field =>
      let (name, path) := BraceField.splitSteps field.name
      let (v, count) ← match name, braceKey name with
        | [], _ => numbered count none
        | _, .int n => numbered count (some n.toNat)
        | _, _ => do pure (← named (.ofList name), count)
      let v ← fieldPath k path.length v path
      let v ← converted k v field.conversion
      let (spec, count) ← match field.spec.contains '{', depth with
        | false, _ => pure (field.spec, count)
        | true, 0 => readBraces (.error .deepFormat)
        | true, depth + 1 => fillBraces k args named fuel depth count [] field.spec
      let text ← formatted k v (.ofList spec)
      fillBraces k args named fuel depth count (text.toList.reverse ++ done) rest
where
  numbered (count : Numbering) (given : Option Nat) : Action (Value × Numbering) := do
    let (n, count) ← readBraces (count.assign given)
    match args.map (·[n]?) with
    | some (some v) => return (v, count)
    | none => readBraces (.error .numbered)
    | some none => Action.raise "IndexError" ("Replacement index " ++ Text.naturalText n ++
        " out of range for positional args tuple")

def bracesFilled (k : Calls) (s : String) (args : List Value) (named : List (String × Value)) :
    Action Value := do
  let cs := s.toList
  let lookUp (name : String) : Action Value :=
    match named.lookup name with
    | some v => return v
    | none => missing (.str name)
  let (text, _) ← fillBraces k (some args) lookUp cs.length 1 .undecided [] cs
  return .str (.ofList text)

end Flowboard.Script
