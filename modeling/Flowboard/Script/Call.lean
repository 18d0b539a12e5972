import Flowboard.Script.Lifetime
import Flowboard.Script.Tools
import Flowboard.Script.Value
import Flowboard.Search.Match

/-! What calls do: parameters, classes and functions that are always there. -/
namespace Flowboard.Script

/-- A class of tuples with names for their places, of which the last ones may have values. -/
def tupleClass (name module : String) (fields : List String) (standards : List (String × Value))
    (members : Dict) : Action Value := do
  let defaults ← Action.allocate (.dict (standards.foldl (fun d (n, v) => Dict.set d n v)
    Dict.empty) .plain)
  let names : Value := .tuple (fields.map .str)
  let members := members.set "__slots__" (.tuple [])
  let members := ((members.set "_fields" names).set "__match_args__" names).set "_field_defaults"
    defaults
  let about := name ++ "(" ++ ", ".intercalate fields ++ ")"
  let members := if (members.named? "__doc__").isSome then members
    else members.set "__doc__" (.str about)
  let makes ← Action.allocate (.wrapped .ofClass (.builtin "_collections.make") .none)
  let members := members.set "_make" makes
  Action.allocate (.type
    { name, ancestors := [.builtin "tuple", .builtin "object"], attributes := members
      bases := [.builtin "tuple"], module })

/-- What a place holds if nothing is given for it. -/
def standardOf? (type : Value) (field : String) : Action (Option Value) := do
  match ← findIn "_field_defaults" (← lineage type) with
  | some d =>
    match ← Action.object? d with
    | some (.dict d _) => return d.named? field
    | _ => return none
  | none => return none

/-- Names in quotes with commas and a word before the last one. -/
def enumerateNames (names : List String) : String :=
  let shown := names.map fun n => "'" ++ n ++ "'"
  match shown with
  | [] => ""
  | [a] => a
  | [a, b] => a ++ " and " ++ b
  | names => ", ".intercalate names.dropLast ++ ", and " ++ names.getLastD ""

/-- A word for one thing or several. -/
def plural (n : Nat) (word : String) : String :=
  if n = 1 then word else word ++ "s"

def fieldValues (type : Value) (fields : List String) (args : List Value)
    (named : List (String × Value)) : Action (List Value) := do
  let title := (← nameOfType type) ++ ".__new__()"
  if fields.length < args.length then
    let optional ← fields.filterM fun f => do return (← standardOf? type f).isSome
    let most := fields.length + 1
    let takes := if optional.isEmpty then Text.naturalText most
      else "from " ++ Text.naturalText (most - optional.length) ++ " to " ++ Text.naturalText most
    Action.typeError (title ++ " takes " ++ takes ++ " positional arguments but " ++
      Text.naturalText (args.length + 1) ++ " were given")
  match named.find? fun (n, _) => !fields.contains n with
  | some (n, _) => Action.typeError (title ++ " got an unexpected keyword argument '" ++ n ++ "'")
  | none =>
    match (fields.take args.length).find? fun f => (named.lookup f).isSome with
    | some f => Action.typeError (title ++ " got multiple values for argument '" ++ f ++ "'")
    | none =>
      let values ← fields.zipIdx.mapM fun (f, i) => do
        match args[i]?.or (named.lookup f) with
        | some v => return (f, some v)
        | none => return (f, ← standardOf? type f)
      match (values.filter fun (_, v) => v.isNone).map (·.1) with
      | [] => return values.filterMap (·.2)
      | gaps =>
        Action.typeError (title ++ " missing " ++ Text.naturalText gaps.length ++
          " required positional " ++ plural gaps.length "argument" ++ ": " ++ enumerateNames gaps)

/-- Functions that make tuples with names for their places. -/
def tupleFunction (k : Calls) (name : String) (args : List Value) : Action Value := do
  match name, args with
  | "tuple_class", [.str title, fields, standards, .str module] =>
    let texts ← itemsOf k fields
    let names := texts.filterMap fun
      | .str s => some s
      | _ => none
    let given ← itemsOf k standards
    tupleClass title module names ((names.drop (names.length - given.length)).zip given) .empty
  | "make", [type, vs] =>
    let vs ← itemsOf k vs
    let fields := (← recordFields? type).getD []
    if vs.length = fields.length then Action.allocate (.object type .empty (.tuple vs))
    else
      Action.typeError ("Expected " ++ Text.naturalText fields.length ++ " arguments, got " ++
        Text.naturalText vs.length)
  | name, _ => noMember (.module "_collections") name

/-- Texts and bytes as characters. -/
def searchable? : Value → Option (Array Char)
  | .str s => some s.toList.toArray
  | .bytes b => some (b.map fun x => Char.ofNat x.toNat).toArray
  | _ => none

def optionsOf (bits : Nat) : Search.Options :=
  { fold := bits.testBit 1
    lines := bits.testBit 3
    all := bits.testBit 4
    spaced := bits.testBit 6
    ascii := bits.testBit 8 }

def bitsOf (o : Search.Options) (text : Bool) : Int :=
  (if o.fold then 2 else 0) + (if o.lines then 8 else 0) + (if o.all then 16 else 0) +
    (if o.spaced then 64 else 0) + (if text then (if o.ascii then 256 else 32) else 0)

/-- The first and last places of all groups, and at last the number of the group that was closed
last. -/
def spansOf (groups : Search.Groups) : Value :=
  let places : List Value := (groups.toList.dropLast).flatMap fun
    | some (a, b) => [.int a, .int b]
    | none => [.int (-1), .int (-1)]
  let last := match (groups[groups.size - 1]?).join with
    | some (n, _) => Value.int n
    | none => .none
  .tuple (places ++ [last])

def searchPart (text : Array Char) (first last : Int) : Array Char × Nat :=
  let n := text.size
  let last := min n (max 0 last).toNat
  (text.extract 0 last, (max 0 first).toNat)

def searchFunction (name : String) (args : List Value) : Action Value := do
  match name, args with
  | "compile", [source, .int bits] =>
    match searchable? source with
    | none => Action.typeError "first argument must be string or compiled pattern"
    | some text =>
      let isText := match source with
        | .str _ => true
        | _ => false
      match Search.compile .strict (!isText) (optionsOf bits.toNat) text.toList with
      | .error f =>
        return .tuple [.str f.what, (f.place.map fun n => Value.int n).getD .none]
      | .ok c =>
        let n := (← get).patterns.size
        modify fun w => { w with patterns := w.patterns.push c }
        return .tuple [.int n, .int (bitsOf c.options isText), .int c.groups,
          .tuple (c.names.map fun (name, i) => .tuple [.str name, .int i])]
  | "find", [.int handle, text, .int first, .int last, .str how] =>
    match (← get).patterns[handle.toNat]?, searchable? text with
    | some c, some text =>
      let (text, i) := searchPart text first last
      if text.size < i then return .none
      let (outcome, left) := match how with
        | "search" =>
          Search.searchFrom text c.pattern c.groups (text.size + 1 - i) i .anywhere
            Search.patience
        | "match" => Search.matchAt text c.pattern c.groups i .anywhere Search.patience
        | _ => Search.matchAt text c.pattern c.groups i .whole Search.patience
      Action.work ((Search.patience - left) / 20)
      match outcome with
      | .found _ groups => return spansOf groups
      | .failed => return .none
      | .tired => throw .never
    | _, _ =>
      Action.typeError ("expected string or bytes-like object, got '" ++ (← typeName text) ++ "'")
  | "spans", [.int handle, text, .int first, .int last, .int most] =>
    match (← get).patterns[handle.toNat]?, searchable? text with
    | some c, some text =>
      let (text, i) := searchPart text first last
      let most := if most = 0 then text.size + 2 + text.size else most.toNat
      match Search.searchAll text c.pattern c.groups most i .anywhere Search.patience #[] with
      | some found =>
        Action.work found.size
        Action.list (found.toList.map spansOf)
      | none => throw .never
    | _, _ =>
      Action.typeError ("expected string or bytes-like object, got '" ++ (← typeName text) ++ "'")
  | name, _ => noMember (.module "_search") name

def targetNames : Nat → Expr → List String
  | 0, _ => []
  | _, .name s => [s]
  | fuel + 1, .starred e => targetNames fuel e
  | fuel + 1, .tuple es => es.flatMap (targetNames fuel)
  | fuel + 1, .list es => es.flatMap (targetNames fuel)
  | _, _ => []

def patternNames : Nat → Pattern → List String
  | 0, _ => []
  | fuel + 1, p =>
    match p with
    | .capture name => [name]
    | .sequence ps => ps.flatMap (patternNames fuel)
    | .rest name => name.toList
    | .mapping pairs rest => pairs.flatMap (fun (_, p) => patternNames fuel p) ++ rest.toList
    | .object _ args named =>
      args.flatMap (patternNames fuel) ++ named.flatMap fun (_, p) => patternNames fuel p
    | .either ps => ps.flatMap (patternNames fuel)
    | .named p name => name :: patternNames fuel p
    | _ => []

def Names.append (a b : Names) : Names :=
  ⟨a.own ++ b.own, a.outermost ++ b.outermost, a.outer ++ b.outer⟩

def namesIn : Nat → List Stmt → Names
  | 0, _ => {}
  | fuel + 1, ss =>
    let target (e : Expr) : List String := targetNames fuel e
    let own (names : List String) : Names := { own := names }
    (ss.map fun s => match s with
      | .assign targets _ => own (targets.flatMap target)
      | .augment t _ _ => own (target t)
      | .annotate t _ _ => own (target t)
      | .choice _ yes no => (namesIn fuel yes).append (namesIn fuel no)
      | .loop _ body otherwise => (namesIn fuel body).append (namesIn fuel otherwise)
      | .each t _ body otherwise =>
        ((own (target t)).append (namesIn fuel body)).append (namesIn fuel otherwise)
      | .define name _ _ _ _ _ => own [name]
      | .describe name _ _ _ => own [name]
      | .bring modules =>
        own (modules.map fun (m, n) => if n = "" then (m.splitOn ".").headD m else n)
      | .bringFrom _ names => own (names.map fun (m, n) => if n = "" then m else n)
      | .attempt body handlers otherwise final =>
        let handled := handlers.map fun
          | .mk _ name body => (own name.toList).append (namesIn fuel body)
        handled.foldl Names.append
          (((namesIn fuel body).append (namesIn fuel otherwise)).append (namesIn fuel final))
      | .using _ t body => (own ((t.map target).getD [])).append (namesIn fuel body)
      | .outer true names => { outermost := names }
      | .outer false names => { outer := names }
      | .delete targets => own (targets.flatMap target)
      | .select _ cases =>
        let all := cases.map fun
          | .mk pattern _ body => (own (patternNames fuel pattern)).append (namesIn fuel body)
        all.foldl Names.append {}
      | _ => {}).foldl Names.append {}

/-- Whether an expression waits for the one who asks for values. -/
def Expr.isYield : Expr → Bool
  | .yield _ => true
  | .yieldFrom _ => true
  | _ => false

/-- Whether statements give values one after the other. -/
def yieldsIn : Nat → List Stmt → Bool
  | 0, _ => false
  | fuel + 1, ss => ss.any fun s => match s with
    | .expr e => e.isYield
    | .assign _ e => e.isYield
    | .give (some e) => e.isYield
    | .choice _ yes no => yieldsIn fuel yes || yieldsIn fuel no
    | .loop _ body otherwise => yieldsIn fuel body || yieldsIn fuel otherwise
    | .each _ _ body otherwise => yieldsIn fuel body || yieldsIn fuel otherwise
    | .attempt body handlers otherwise final =>
      yieldsIn fuel body || yieldsIn fuel otherwise || yieldsIn fuel final ||
        handlers.any fun
          | .mk _ _ body => yieldsIn fuel body
    | .using _ _ body => yieldsIn fuel body
    | .select _ cases => cases.any fun
      | .mk _ _ body => yieldsIn fuel body
    | _ => false

/-- How deep statements are looked into. -/
def statementDepth : Nat := 100

/-- What a body says about names, of which its parameters are its own. -/
def bodyNames (params : List String) (body : List Stmt) : Names :=
  let names := namesIn statementDepth body
  let free (s : String) : Bool := !names.outermost.contains s && !names.outer.contains s
  { names with own := (params ++ names.own).eraseDups.filter free }

def aboutOf : List Stmt → Option String
  | .mark _ :: .expr (.constant (.str s)) :: _ => some s
  | .expr (.constant (.str s)) :: _ => some s
  | _ => none

/-- The statements that a comprehension without end stands for. -/
def clauseStmts (element : Expr) : List Clause → List Stmt
  | [] => [.expr (.yield (some element))]
  | .each target e _ :: rest => [.each target e (clauseStmts element rest) []]
  | .test c :: rest => [.choice c (clauseStmts element rest) []]

def clauseNames (clauses : List Clause) : List String :=
  clauses.flatMap fun
    | .each target _ _ => targetNames statementDepth target
    | .test _ => []

def tooMany {α : Type} (f : Function) (given : Nat) (named : List (String × Value)) :
    Action α := do
  let places := f.params.filter fun p => p.taking.byPlace
  let optional := (places.filter fun p => p.standard.isSome).length
  let n := places.length
  let takes := if optional = 0 then Text.naturalText n
    else "from " ++ Text.naturalText (n - optional) ++ " to " ++ Text.naturalText n
  let only := (f.params.filter fun p => p.taking = .named && (named.lookup p.name).isSome).length
  let what := if only = 0 then Text.naturalText given ++ (if given = 1 then " was" else " were")
    else Text.naturalText given ++ " positional " ++ plural given "argument" ++ " (and " ++
      Text.naturalText only ++ " keyword-only " ++ plural only "argument" ++ ") were"
  Action.typeError (f.title ++ "() takes " ++ takes ++ " positional " ++
    plural (if optional = 0 then n else 2) "argument" ++ " but " ++ what ++ " given")

/-- Refuses a call without arguments that it needs. -/
def tooFew {α : Type} (f : Function) (kind : String) (names : List String) : Action α :=
  Action.typeError (f.title ++ "() missing " ++ Text.naturalText names.length ++ " required " ++
    kind ++ " " ++ plural names.length "argument" ++ ": " ++ enumerateNames names)

/-- Refuses names for arguments that take none. -/
def notByName {α : Type} (f : Function) (named : List (String × Value)) : Action α :=
  let names := (f.params.filter fun p => p.taking = .placed && (named.lookup p.name).isSome).map
    (·.name)
  Action.typeError (f.title ++ "() got some positional-only arguments passed as keyword " ++
    "arguments: '" ++ ", ".intercalate names ++ "'")

/-- Binds parameters to arguments one after the other: the variables and the arguments that are
left. -/
def bindPlaces (bound : Std.HashMap String Value) :
    List Parameter → List Value → Std.HashMap String Value × List Value
  | p :: ps, v :: vs =>
    if p.taking.byPlace then bindPlaces (bound.insert p.name v) ps vs else (bound, v :: vs)
  | _, vs => (bound, vs)

def bindArguments (f : Function) (args : List Value) (named : List (String × Value)) :
    Action (Std.HashMap String Value) := do
  let (bound, left) := bindPlaces {} f.params args
  let rest? := f.params.find? fun p => p.taking = .rest
  if !left.isEmpty && rest?.isNone then tooMany f args.length named
  let bound := match rest? with
    | some p => bound.insert p.name (.tuple left)
    | none => bound
  let namedRest? := f.params.find? fun p => p.taking = .namedRest
  let (bound, extra) ← named.foldlM (fun (m, extra) (n, v) => do
    match f.params.find? fun p => p.name = n && (p.taking = .one || p.taking = .named) with
    | some _ =>
      if m.contains n then
        Action.typeError (f.title ++ "() got multiple values for argument '" ++ n ++ "'")
      else return (m.insert n v, extra)
    | none =>
      if namedRest?.isSome then return (m, (n, v) :: extra)
      else if f.params.any fun p => p.name = n && p.taking = .placed then notByName f named
      else Action.typeError (f.title ++ "() got an unexpected keyword argument '" ++ n ++ "'"))
    (bound, ([] : List (String × Value)))
  let bound ← match namedRest? with
    | some p => do
      let d := extra.reverse.foldl (fun d (n, v) => Dict.set d n v) Dict.empty
      pure (bound.insert p.name (← Action.allocate (.dict d .plain)))
    | none => pure bound
  if bound.size = f.params.length then return bound
  let bound := f.params.foldl (fun m p =>
    match p.standard with
    | some v => if m.contains p.name then m else m.insert p.name v
    | none => m) bound
  if bound.size = f.params.length then return bound
  let gaps (t : Taking → Bool) : List String :=
    (f.params.filter fun p => t p.taking && !bound.contains p.name).map (·.name)
  match gaps Taking.byPlace, gaps (· = .named) with
  | [], [] => return bound
  | [], names => tooFew f "keyword-only" names
  | names, _ => tooFew f "positional" names

def collectionFunction (k : Calls) (name : String) (args : List Value)
    (named : List (String × Value)) : Action Value := do
  match name with
  | "OrderedDict" => makeDict k .ordered args named
  | "Counter" =>
    let d ← match args.head? with
      | some v => countAll k 1 .empty v
      | none => pure .empty
    let d ← insertPairs k d (namedPairs named)
    Action.allocate (.dict d .counting)
  | "defaultdict" =>
    let f := args.headD .none
    if f.same .none || (← isCallable f) then makeDict k (.supplied f) (args.drop 1) named
    else Action.typeError "first argument must be callable or None"
  | "deque" =>
    let vs ← match argument? args named 0 "iterable" with
      | some v => itemsOf k v
      | none => pure []
    match argument? args named 1 "maxlen" with
    | some (.int n) =>
      if n < 0 then Action.valueError "maxlen must be non-negative"
      let made ← Action.allocate (.list (vs.drop (vs.length - n.toNat)).toArray true)
      match made with
      | .ref i => modify fun w => { w with limits := w.limits.insert i n.toNat }
      | _ => pure ()
      return made
    | none | some .none => Action.allocate (.list vs.toArray true)
    | some _ => Action.typeError "an integer is required"
  | name => noMember (.module "collections") name

def makeException (type : Value) (args : List Value) (named : List (String × Value)) :
    Action Value := do
  let attributes := Dict.empty.set "args" (.tuple args)
  let known ← if ← isSubclass type (.builtin "OSError") then
      match args with
      | [n, reason] => pure [("errno", n), ("strerror", reason)]
      | n :: reason :: f :: _ => pure [("errno", n), ("strerror", reason), ("filename", f)]
      | _ => pure []
    else if ← isSubclass type (.builtin "UnicodeError") then
      pure (["encoding", "object", "start", "end", "reason"].zip args)
    else if ← isSubclass type (.builtin "ImportError") then
      pure (named.filter fun (n, _) => n = "name" || n = "path")
    else if ← isSubclass type (.builtin "SyntaxError") then
      match args with
      | [m, .tuple (f :: line :: column :: text :: rest)] =>
        pure [("msg", m), ("filename", f), ("lineno", line), ("offset", column), ("text", text),
          ("end_lineno", rest.headD .none), ("end_offset", rest[1]?.getD .none),
          ("print_file_and_line", .none)]
      | _ =>
        let names := ["filename", "lineno", "offset", "text", "end_lineno", "end_offset",
          "print_file_and_line"]
        pure (("msg", args.headD .none) :: (names.map fun n => (n, Value.none)))
    else if ← isSubclass type (.builtin "AttributeError") then
      pure (named.filter fun (n, _) => n = "name" || n = "obj")
    else if ← isSubclass type (.builtin "NameError") then
      pure (named.filter fun (n, _) => n = "name")
    else pure []
  -- the arguments of a failure with a file do not hold its name
  let attributes := if known.length = 3 && (known.lookup "filename").isSome then
      attributes.set "args" (.tuple (args.take 2))
    else attributes
  let type ← match type, args with
    | .builtin "OSError", n :: _ :: _ => pure (.builtin (osErrorKind n))
    | type, _ => pure type
  Action.allocate (.object type (known.foldl (fun d (n, v) => Dict.set d n v) attributes) .none)
where
  osErrorKind (n : Value) : String :=
    ([(1, "PermissionError"), (2, "FileNotFoundError"), (3, "ProcessLookupError"),
      (4, "InterruptedError"), (10, "ChildProcessError"), (11, "BlockingIOError"),
      (13, "PermissionError"), (17, "FileExistsError"), (20, "NotADirectoryError"),
      (21, "IsADirectoryError"), (32, "BrokenPipeError"),
      (110, "TimeoutError")].lookup (n.int?.getD 0)).getD "OSError"

def abstractNames (type : Value) : Action (List String) := do
  match ← Action.object? type with
  | some (.type c) =>
    match ← Action.object? ((c.attributes.named? "__abstractmethods__").getD .none) with
    | some (.set d _) =>
      let names := d.keys.filterMap fun
        | .str s => some s
        | _ => none
      return names.mergeSort fun a b => a ≤ b
    | _ => return []
  | _ => return []

/-- The value as one of a type that is always there that a new object of a class has; a collection
is still empty if the class has a rule for new objects. -/
def baseValue (k : Calls) (type : Value) (args : List Value) (named : List (String × Value))
    (initialised : Bool) : Action Value := do
  match ← baseTypeOf type with
  | none => return .none
  | some "tuple" =>
    match ← recordFields? type with
    | some fields => return .tuple (← fieldValues type fields args named)
    | none => coreFunction k "tuple" args []
  | some name =>
    let fills := ["list", "dict", "set", "bytearray"].contains name || name.startsWith "collections."
    let (args, named) := if initialised && fills then ([], []) else (args, named)
    if name.startsWith "collections." then collectionFunction k (lastPart name) args named
    else coreFunction k name args named

/-- The rule of a class for something that all classes have rules for. -/
def ruleOf? (name : String) (line : List Value) : Action (Option Value) := do
  match ← findIn name line with
  | some f =>
    match ← Action.object? f with
    | some (.wrapped _ f _) => return some f
    | _ => return some f
  | none => return none

/-- The orders of some classes joined, or a refusal. -/
def joinedLineage (bases : List Value) : Action (List Value) := do
  let lines ← bases.mapM lineage
  let all := lines ++ [bases]
  let joined := mergeLineages 1000 all
  if all.flatten.all fun c => joined.any (·.same c) then return joined
  else
    let names ← bases.mapM nameOfType
    Action.typeError ("Cannot create a consistent method resolution\norder (MRO) for bases " ++
      ", ".intercalate names)

/-- Refuses classes that cannot stand behind a class. -/
def checkBases (bases : List Value) : Action Unit := do
  bases.forM fun b => do
    match b with
    | .builtin name =>
      if ["bool", "NoneType", "range", "slice", "memoryview", "function", "generator", "ellipsis",
          "NotImplementedType", "builtin_function_or_method", "method"].contains name then
        Action.typeError ("type '" ++ name ++ "' is not an acceptable base type")
    | _ => pure ()
  match bases with
  | [] => return
  | _ =>
    let twice := bases.zipIdx.find? fun (b, i) => (bases.take i).any (·.same b)
    match twice with
    | some (b, _) => Action.typeError ("duplicate base class " ++ (← nameOfType b))
    | none =>
      let held := (← bases.mapM baseTypeOf).filterMap id
      let core := (held.map fun n => if n.startsWith "collections." then
        (if n = "collections.deque" then n else "dict") else n).eraseDups
      if 1 < core.length then Action.typeError "multiple bases have instance lay-out conflict"

def makeClass (k : Calls) (kind : Value) (name : String) (bases : List Value) (members : Dict)
    (named : List (String × Value)) : Action Value := do
  checkBases bases
  let bases := if bases.isEmpty then [.builtin "object"] else bases
  let ancestors ← joinedLineage bases
  let module ← match members.named? "__module__" with
    | some (.str s) => pure s
    | _ => moduleName
  let title := match members.named? "__qualname__" with
    | some (.str s) => s
    | _ => name
  let members := members.unset "__qualname__"
  let members := if (members.named? "__module__").isSome then members
    else members.set "__module__" (.str module)
  -- rules that take the class first need no mark
  let wrapRule (how : Wrapping) (d : Dict) (n : String) : Action Dict := do
    match d.named? n with
    | some f =>
      match ← Action.object? f with
      | some (.function _) => return d.set n (← Action.allocate (.wrapped how f .none))
      | _ => return d
    | none => return d
  let members ← wrapRule .static members "__new__"
  let members ← wrapRule .ofClass members "__init_subclass__"
  let members ← wrapRule .ofClass members "__class_getitem__"
  let members := if (members.named? "__eq__").isSome && (members.named? "__hash__").isNone then
      members.set "__hash__" .none
    else members
  let cls ← Action.allocate (.type
    { name, ancestors, attributes := members, bases, kind, module, title })
  if (members.named? "__del__").isSome then modify fun w => { w with endings := true }
  match (← get).body with
  | some i =>
    modify fun w => { w with body := none }
    bindIn i "__class__" cls
  | none => pure ()
  members.toList.forM fun (key, v) => do
    match ← special? v "__set_name__", v with
    | some f, .ref i =>
      match (← get).heap[i]? with
      | some (.object _ _ _) => let _ ← k.call f [cls, key] []
      | _ => pure ()
    | _, _ => pure ()
  match ← ruleOf? "__init_subclass__" ancestors with
  | some f => let _ ← k.call f (cls :: []) named
  | none =>
    if !named.isEmpty then
      Action.typeError (name ++ ".__init_subclass__() takes no keyword arguments")
  return cls

/-- The kind of classes to which a class with some bases belongs. -/
def kindFor (kind : Value) (bases : List Value) : Action Value := do
  bases.foldlM (fun kind b => do
    let other ← typeOf b
    if ← isSubclass kind other then return kind
    else if ← isSubclass other kind then return other
    else
      Action.typeError ("metaclass conflict: the metaclass of a derived class must be a " ++
        "(non-strict) subclass of the metaclasses of all its bases")) kind

/-- A class from arguments: a name, bases and what it holds. -/
def classFrom (k : Calls) (kind : Value) (args : List Value) (named : List (String × Value)) :
    Action Value := do
  match args with
  | [.str name, .tuple bases, d] =>
    match ← Action.object? (← plain d) with
    | some (.dict d _) => makeClass k (← kindFor kind bases) name bases d named
    | _ =>
      Action.typeError ("type.__new__() argument 3 must be dict, not " ++ (← typeName d))
  | [.str _, b, _] =>
    Action.typeError ("type.__new__() argument 2 must be tuple, not " ++ (← typeName b))
  | [n, _, _] =>
    Action.typeError ("type.__new__() argument 1 must be str, not " ++ (← typeName n))
  | args =>
    Action.typeError ("type.__new__() takes exactly 3 arguments (" ++
      Text.naturalText args.length ++ " given)")

/-- A new object of a class, before its own rule is asked. -/
def allocateObject (k : Calls) (type : Value) (args : List Value) (named : List (String × Value))
    (initialised : Bool) : Action Value := do
  if ← isSubclass type (.builtin "BaseException") then
    let v ← makeException type args named
    watchNew type v
    return v
  else if ← isSubclass type (.builtin "type") then classFrom k type args named
  else
    match ← abstractNames type with
    | [] =>
      let v ← Action.allocate (.object type .empty (← baseValue k type args named initialised))
      watchNew type v
      return v
    | names =>
      Action.typeError ("Can't instantiate abstract class " ++ (← nameOfType type) ++
        " with abstract " ++ plural names.length "method" ++ " " ++ ", ".intercalate names)

/-- What a call of a class does unless its kind has another rule. -/
def construct (k : Calls) (type : Value) (args : List Value)
    (named : List (String × Value)) : Action Value := do
  let line ← lineage type
  let init ← ruleOf? "__init__" line
  let new ← ruleOf? "__new__" line
  let v ← match new with
    | some f => k.call f (type :: args) named
    | none =>
      let ofType := (← baseTypeOf type).isSome || line.any fun
        | .builtin name => name = "BaseException" || name = "type"
        | _ => false
      if init.isNone && !ofType && !(args.isEmpty && named.isEmpty) then
        Action.typeError ((← nameOfType type) ++ "() takes no arguments")
      allocateObject k type args named init.isSome
  match init with
  | some f =>
    if ← isInstance v type then
      match ← holding v (k.call (.bound v f) args named) with
      | .none => return v
      | other =>
        Action.typeError ("__init__() should return None, not '" ++ (← typeName other) ++ "'")
    else return v
  | none =>
    -- a collection that was made empty by a rule of the class is filled
    match new, ← Action.object? v with
    | some _, some (.object t _ (.ref _)) =>
      if ← isSubclass t type then let _ ← commonMethod k v "__init__" args named
      return v
    | _, _ => return v

def callClass (k : Calls) (type : Value) (args : List Value) (named : List (String × Value)) :
    Action Value := do
  match ← special? type "__call__" with
  | some f => k.call f args named
  | none => construct k type args named

def otherFunction (k : Calls) (module name : String) (args : List Value) : Action Value := do
  let first := args.headD .none
  match module, name with
  | "copy", _ => copied k true nesting first
  | "atexit", "register" =>
    modify fun w => { w with atExit := (first, args.drop 1) :: w.atExit }
    return first
  | "_weak", "at" =>
    match first with
    | .int n => return .ref n.toNat
    | _ => return .none
  | "_weak", "look" =>
    match args with
    | [.ref i, .ref j] =>
      watch i
      modify fun w => { w with lookers := (i, j) :: w.lookers }
      return .int i
    | _ => return .none
  | "_weak", "lookers" =>
    match first with
    | .ref i =>
      Action.list (((← get).lookers.filter (·.1 = i)).reverse.map fun (_, j) => .ref j)
    | _ => Action.list []
  | _, _ => Action.raise "NotImplementedError" (module ++ "." ++ name ++ "() is not there")

def typeFunction (k : Calls) (type name : String) (args : List Value)
    (named : List (String × Value)) : Action Value := do
  match type, name with
  | "object", "__new__" =>
    match args with
    | cls :: rest =>
      if !(rest.isEmpty && named.isEmpty) then
        let line ← lineage cls
        if (← findIn "__new__" line).isSome then
          Action.typeError ("object.__new__() takes exactly one argument " ++
            "(the type to instantiate)")
        else if (← findIn "__init__" line).isNone then
          Action.typeError ((← nameOfType cls) ++ "() takes no arguments")
      allocateObject k cls [] [] true
    | [] => Action.typeError "object.__new__(): not enough arguments"
  | "type", "__new__" =>
    match args with
    | kind :: rest => classFrom k kind rest named
    | [] => Action.typeError "type.__new__(): not enough arguments"
  | type, "__new__" =>
    match args with
    | cls :: rest =>
      if ← isSubclass cls (.builtin "BaseException") then makeException cls rest named
      else
        -- the places of a tuple come as one argument
        match type, rest with
        | "tuple", [v] =>
          Action.allocate (.object cls .empty (.tuple (← itemsOf k v)))
        | _, rest => allocateObject k cls rest named true
    | _ => Action.typeError (type ++ ".__new__(): not enough arguments")
  | "dict", "fromkeys" =>
    let d ← Action.allocate (.dict .empty .plain)
    callMethod k d "fromkeys" args named
  | "str", "maketrans" => translation k args
  | "bytes", "fromhex" =>
    match args with
    | [.str s] =>
      match spacedHex 0 s.toList with
      | .ok b => return .bytes b
      | .error place =>
        Action.valueError ("non-hexadecimal number found in fromhex() arg at position " ++
          Text.naturalText place)
    | vs =>
      Action.typeError ("bytes.fromhex() takes exactly one argument (" ++
        Text.naturalText vs.length ++ " given)")
  | "int", "from_bytes" =>
    let b ← match args.head? with
      | some (.bytes b) => pure b
      | some v => do
        match ← bytesOf? v with
        | some b => pure b
        | none => pure ((← itemsOf k v).map fun x => UInt8.ofNat (x.int?.getD 0).toNat)
      | none => pure []
    let little := textOr (argument? args named 1 "byteorder") "big" = "little"
    let bs := if little then b.reverse else b
    let n := bs.foldl (fun (n : Nat) b => 256 * n + b.toNat) 0
    let negative := (named.lookup "signed").any (fun v => v.int? = some 1) &&
      bs.head?.any fun b => 128 ≤ b
    return .int (if negative then (n : Int) - twoTo (8 * bs.length) else n)
  | "float", "fromhex" =>
    match readHexFloat? (textOr args.head? "").toList with
    | some (some x) => return .float x
    | _ => Action.valueError "invalid hexadecimal floating-point string"
  | type, name =>
    match args with
    | self :: rest =>
      if commonMethods.contains name then callMethod k self name rest named
      else if ← isInstance self (.builtin type) then
        if holdingTypes.contains type then callMethod k (← plain self) name rest named
        else callMethod k self name rest named
      else
        Action.typeError ("descriptor '" ++ name ++ "' for '" ++ lastPart type ++
          "' objects doesn't apply to a '" ++ (← typeName self) ++ "' object")
    | [] =>
      if name.startsWith "__" then
        Action.typeError ("descriptor '" ++ name ++ "' of '" ++ lastPart type ++
          "' object needs an argument")
      else Action.typeError ("unbound method " ++ type ++ "." ++ name ++ "() needs an argument")

/-- A function of a module or a type, by its name after the name of that. -/
def partFunction (k : Calls) (full : String) (args : List Value) (named : List (String × Value)) :
    Action Value := do
  let parts := full.splitOn "."
  let head := parts.headD ""
  let rest := ".".intercalate (parts.drop 1)
  let stream := ".".intercalate parts.dropLast
  let last := parts.getLastD ""
  if streams.contains stream then streamFunction stream last args
  else if isType stream then typeFunction k stream last args named
  else
    match head with
    | "math" => mathFunction k rest args
    | "sys" => sysFunction k rest args
    | "posix" => osFunction k rest args
    | "posixpath" => pathFunction k rest args
    | "_clock" => clockFunction k rest args
    | "_moments" => momentFunction rest args
    | "_signal" => signalFunction k rest args
    | "_process" => processFunction k rest args
    | "_json" => dataFunction k rest args
    | "_marks" => marksFunction rest args
    | "_bits" => bitsFunction k rest args
    | "_flate" => flateFunction rest args
    | "_digest" => digestFunction rest args
    | "_chance" => chanceFunction rest args
    | "operator" => operatorFunction k rest args
    | "functools" => functionFunction rest args named
    | "collections" => collectionFunction k rest args named
    | "heapq" => heapFunction k rest args named
    | "_collections" => tupleFunction k rest args
    | "_search" => searchFunction rest args
    | "_threads" => threadFunction k rest args
    | head => otherFunction k head rest args

/-- A call of a function or a type that is always there. -/
def callBuiltin (k : Calls) (name : String) (args : List Value) (named : List (String × Value)) :
    Action Value := do
  if name.any (· == '.') && !isException name then partFunction k name args named
  else if name.any Char.isUpper && isException name then makeException (.builtin name) args named
  else
    match name, args with
    | "type", [a, b, c] => classFrom k (.builtin "type") [a, b, c] named
    | name, args => coreFunction k name args named

/-- A method of a value that is always there. -/
def callBound (k : Calls) (self : Value) (name : String) (args : List Value)
    (named : List (String × Value)) : Action Value := do
  callMethod k self name args named

end Flowboard.Script
