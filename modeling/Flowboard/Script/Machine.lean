import Flowboard.Script.Builtin
import Flowboard.Script.Call
import Flowboard.Script.Parser

/-! How expressions are evaluated and statements are executed. -/
namespace Flowboard.Script

def enterManager (k : Calls) (m : Value) : Action Value := do
  let refused (more : String) : Action Value := do
    Action.typeError ("'" ++ (← typeName m) ++
      "' object does not support the context manager protocol" ++ more)
  match ← Action.object? m with
  | some (.file f) =>
    if f.closed then Action.valueError "I/O operation on closed file." else return m
  | some (.object (.builtin _) _ _) => return m
  | some (.window w) => w.checkOpen; return m
  | _ =>
    match ← special? m "__enter__", ← special? m "__exit__" with
    | none, _ => refused ""
    | some _, none => refused " (missed __exit__ method)"
    | some f, some _ => holding m (k.call f [] [])

/-- Leaves a manager, with an exception or without one: whether the exception goes no further. -/
def exitManager (k : Calls) (m : Value) (e : Option Value) : Action Bool := do
  match ← Action.object? m, m with
  | some (.file f), .ref i =>
    Action.store i (.file (← f.shut))
    return false
  | some (.object (.builtin _) _ _), _ => return false
  | some (.window w), .ref i =>
    Action.store i (.window { w with released := true })
    return false
  | _, _ =>
    match ← special? m "__exit__", e with
    | some f, some e => truth k (← k.call f [← typeOf e, e, ← traceOf e] [])
    | some f, none =>
      let _ ← k.call f [.none, .none, .none] []
      return false
    | none, _ => return false

def Constant.value : Constant → Value
  | .none => .none
  | .ellipsis => .ellipsis
  | .bool b => .bool b
  | .int n => .int n
  | .float x => .float x
  | .imaginary x => .complex 0.0 x
  | .str s => .str s
  | .bytes b => .bytes b

/-- What comes of some frames. -/
inductive Ended where
  | done (v : Value)
  | yielded (v : Value) (rest : List Frame)

/-- What one step does. -/
inductive Turn where
  | go (frames : List Frame)
  | leave (e : Exit) (frames : List Frame)
  | stop (e : Ended)

/-- The title of a function or a class in the scope at hand. -/
def titleOf (name : String) : Action String := do
  let w ← get
  return ((w.scopes[w.scope]?.map (·.title)).getD "") ++ name

/-- Cuts the values for targets, of which the one at `star` takes what the others leave. -/
def shareOut (count : Nat) (star : Option Nat) (vs : List Value) : Action (List Value) := do
  let n := vs.length
  match star with
  | none =>
    if n = count then return vs
    else if count < n then
      Action.valueError ("too many values to unpack (expected " ++ Text.naturalText count ++ ")")
    else
      Action.valueError ("not enough values to unpack (expected " ++ Text.naturalText count ++
        ", got " ++ Text.naturalText n ++ ")")
  | some i =>
    if n + 1 < count then
      Action.valueError ("not enough values to unpack (expected at least " ++
        Text.naturalText (count - 1) ++ ", got " ++ Text.naturalText n ++ ")")
    else
      let after := count - 1 - i
      let middle ← Action.list ((vs.drop i).take (n - i - after))
      return vs.take i ++ [middle] ++ vs.drop (n - after)

/-- Whether a value can be iterated over, as far as unpacking asks. -/
def unpackable (v : Value) : Action Bool := do
  match v with
  | .none => return false
  | .bool _ => return false
  | .int _ => return false
  | .float _ => return false
  | .builtin _ => return false
  | .ref _ =>
    match ← Action.object? v with
    | some (.function _) => return false
    | some (.object _ _ .none) =>
      return (← special? v "__iter__").isSome || (← special? v "__getitem__").isSome
    | _ => return true
  | _ => return true

def packages : List String :=
  ["asyncio", "collections", "concurrent", "ctypes", "dbm", "email", "encodings", "html", "http",
   "importlib", "json", "logging", "multiprocessing", "os", "re", "unittest", "urllib", "xml"]

def noModule {α : Type} (name : String) : Action α := do
  let parts := name.splitOn "."
  let outside := ".".intercalate parts.dropLast
  let more := if (← isModule outside) && !packages.contains outside then
      "; '" ++ outside ++ "' is not a package"
    else ""
  Action.raise "ModuleNotFoundError" ("No module named '" ++ name ++ "'" ++ more)

def takeSent : Action Value :=
  modifyGet fun w => (w.sent, { w with sent := .none })

/-- Takes what an iterator gave back at its end. -/
def takeReturned : Action Value :=
  modifyGet fun w => (w.returned, { w with returned := .none })

def exceptionOf (k : Calls) (v : Value) : Action Value := do
  let refused : Action Value := Action.typeError "exceptions must derive from BaseException"
  match v with
  | .builtin name => if isException name then k.call v [] [] else refused
  | v =>
    match ← Action.object? v with
    | some (.type _) =>
      if ← isSubclass v (.builtin "BaseException") then k.call v [] [] else refused
    | some (.object type _ _) =>
      if ← isSubclass type (.builtin "BaseException") then return v else refused
    | _ => refused

/-- Whether a handler for some kinds takes an exception. -/
def handles (e kinds : Value) : Action Bool := do
  match kinds with
  | .tuple ks => ks.anyM fun c => isInstance e c
  | c => isInstance e c

/-- How deep expressions and calls may stand in each other, and how many steps a call may take. -/
def fuelLimit : Nat := 1000000000

def importName (k : Calls) (module name : String) : Action Value := do
  match ← moduleAttribute? module name with
  | some v => return v
  | none =>
    if ← isModule (module ++ "." ++ name) then
      k.load (module ++ "." ++ name)
      return .module (module ++ "." ++ name)
    else
      match ← moduleMember? k module name with
      | some v => return v
      | none =>
        Action.raise "ImportError" ("cannot import name '" ++ name ++ "' from '" ++ module ++
          "' (unknown location)")

def keepTrace (v : Value) : Action Unit := do
  match v with
  | .ref i =>
    let w ← get
    if !w.traces.contains i then
      set { w with traces := w.traces.insert i ((stations w).take 1000, 0) }
  | _ => return

/-- The places of an exception end where it is handled. -/
def cutTrace (v : Value) : Action Unit := do
  match v with
  | .ref i =>
    modify fun w =>
      { w with traces := w.traces.modify i fun (t, _) => (t, w.calls.length) }
  | _ => return

/-- Keeps which exception was being handled when another one came up. -/
def setContext (v context : Value) : Action Unit := do
  match v, ← Action.object? v with
  | .ref i, some (.object _ attributes _) =>
    if !v.same context && (attributes.named? "__context__").isNone then
      bindMember i "__context__" context
  | _, _ => return

/-- An exception has been handled, and its name goes away. -/
def leaveHandling (name : Option String) : Action Unit := do
  modify fun w => { w with handling := w.handling.drop 1 }
  match name with
  | some n =>
    let w ← get
    let i := scopeFor w.scopes n w.scope
    modify fun w =>
      { w with scopes := w.scopes.modify i fun s => { s with bindings := s.bindings.erase n } }
  | none => return

/-- The mapping of names to types in the scope at hand, unless it is one of a call. -/
def annotations? : Action (Option Nat) := do
  let w ← get
  match w.scopes[w.scope]? with
  | some scope =>
    if scope.ofClass || scope.ofModule then
      let place ← match scope.bindings.get? "__annotations__" with
        | some v => pure v
        | none => do
          let v ← Action.allocate (.dict .empty .plain)
          bindName "__annotations__" v
          pure v
      match place with
      | .ref i => return some i
      | _ => return none
    else return none
  | none => return none

/-- The iterator behind a value that can be waited for. -/
def awaited (k : Calls) (v : Value) : Action Value := do
  let refused : Action Value := do
    Action.typeError ("object " ++ (← typeName v) ++ " can't be used in 'await' expression")
  match ← Action.object? v with
  | some (.iterator it) =>
    match it with
    | .generator [] _ _ "coroutine" =>
      Action.raise "RuntimeError" "cannot reuse already awaited coroutine"
    | .generator _ _ _ "coroutine" => return v
    | _ => refused
  | some (.object _ _ _) =>
    match ← special? v "__await__" with
    | some f => iterOf k (← k.call f [] [])
    | none => refused
  | _ => refused

/-- Whether a value is a sequence, as far as patterns ask. -/
def sequenceItems? (v : Value) : Action (Option (List Value)) := do
  match ← plain v with
  | .tuple xs => return some xs
  | p =>
    match ← Action.object? p with
    | some (.list xs _) => return some xs.toList
    | _ => return none

/-- Whether a value is a mapping, as far as patterns ask. -/
def isMapping (v : Value) : Action Bool := do
  match ← Action.object? (← plain v) with
  | some (.dict _ _) => return true
  | some (.view which _) => return isNameView which
  | some (.object type _ _) =>
    return (← (← lineage type).mapM nameOfType).contains "Mapping"
  | _ => return false

/-- The types whose values a pattern takes as a whole. -/
def wholeTypes : List String :=
  ["bool", "bytearray", "bytes", "dict", "float", "frozenset", "int", "list", "set", "str", "tuple"]

/-- Whether the script takes the types of names as texts. -/
def notesAreTexts : Action Bool := do
  return (← get).imported.contains "__future__.annotations"

def noteText : Nat → Expr → String
  | 0, _ => ""
  | fuel + 1, e =>
    match e with
    | .name s => s
    | .constant .none => "None"
    | .constant .ellipsis => "..."
    | .constant (.bool b) => if b then "True" else "False"
    | .constant (.int n) => Text.integerText n
    | .constant (.str s) => .ofList (quoted false s.toList)
    | .attribute a n => noteText fuel a ++ "." ++ n
    | .index a (.tuple es) =>
      noteText fuel a ++ "[" ++ ", ".intercalate (es.map (noteText fuel)) ++ "]"
    | .index a i => noteText fuel a ++ "[" ++ noteText fuel i ++ "]"
    | .binary op a b => noteText fuel a ++ " " ++ op ++ " " ++ noteText fuel b
    | .list es => "[" ++ ", ".intercalate (es.map (noteText fuel)) ++ "]"
    | .tuple es => "(" ++ ", ".intercalate (es.map (noteText fuel)) ++ ")"
    | _ => ""

/-- Work that counts as a call of its own, as far as the ends of objects go. -/
def asCall {α : Type} (work : Action α) : Action α := do
  let depth := (← get).depth
  modify fun w => { w with depth := depth + 1 }
  try
    let a ← work
    modify fun w => { w with depth }
    raiseWatched
    return a
  catch e =>
    modify fun w => { w with depth }
    raiseWatched
    throw e

mutual

def eval : Nat → Expr → Action Value
  | 0, _ => throw .never
  | fuel + 1, e =>
    match e with
    | .constant c => return c.value
    | .name "ExceptionGroup" => groupClass fuel "ExceptionGroup"
    | .name "BaseExceptionGroup" => groupClass fuel "BaseExceptionGroup"
    | .name s => lookName s
    | .binary op a b => do
      let x ← eval fuel a
      let y ← eval fuel b
      operate ⟨callValue fuel, nextOf fuel, loadModule fuel⟩ op x y
    | .unary op a => do operateAlone ⟨callValue fuel, nextOf fuel, loadModule fuel⟩ op (← eval fuel a)
    | .compare a rest => do evalCompare fuel (← eval fuel a) rest
    | .both a b => do
      let x ← eval fuel a
      if ← truth ⟨callValue fuel, nextOf fuel, loadModule fuel⟩ x then eval fuel b else return x
    | .either a b => do
      let x ← eval fuel a
      if ← truth ⟨callValue fuel, nextOf fuel, loadModule fuel⟩ x then return x else eval fuel b
    | .choice c yes no => do
      if ← truth ⟨callValue fuel, nextOf fuel, loadModule fuel⟩ (← eval fuel c) then eval fuel yes
      else eval fuel no
    | .call f args => evalCall fuel f args
    | .attribute a name => do
      member ⟨callValue fuel, nextOf fuel, loadModule fuel⟩ (← eval fuel a) name
    | .index a i => do
      let v ← eval fuel a
      getItem ⟨callValue fuel, nextOf fuel, loadModule fuel⟩ v (← eval fuel i)
    | e => evalOther fuel e

/-- The value of an expression of one of the kinds that are met less often. -/
def evalOther : Nat → Expr → Action Value
  | 0, _ => throw .never
  | fuel + 1, e => do
    Action.step
    match e with
    | .joined parts => do
      let texts ← parts.mapM (eval fuel)
      return .str (String.join (texts.map fun
        | .str s => s
        | _ => ""))
    | .formatted a conversion spec => do
      let k : Calls := ⟨callValue fuel, nextOf fuel, loadModule fuel⟩
      let v ← converted k (← eval fuel a) conversion
      let spec ← match spec with
        | some s => textOf k (← eval fuel s)
        | none => pure ""
      return .str (← formatted k v spec)
    | .tuple es => do return .tuple (← evalAll fuel es)
    | .list es => do Action.list (← evalAll fuel es)
    | .set es => do
      Action.allocate (.set (← insertAll ⟨callValue fuel, nextOf fuel, loadModule fuel⟩ .empty (← evalAll fuel es))
        false)
    | .dict pairs => do
      let k : Calls := ⟨callValue fuel, nextOf fuel, loadModule fuel⟩
      let d ← pairs.foldlM (fun d p => do
        match p with
        | (some a, b) =>
          let key ← eval fuel a
          return d.insert (← keyOf k key) key (← eval fuel b)
        | (none, m) => insertPairs k d (← pairsOf k (← eval fuel m))) Dict.empty
      Action.allocate (.dict d .plain)
    | .lambda params body => makeFunction fuel "<lambda>" params [.give (some body)] [] false false
    | .slice a b c => do
      let part (e : Option Expr) : Action Value := match e with
        | some e => eval fuel e
        | none => return .none
      return .slice (← part a) (← part b) (← part c)
    | .comprehension kind element value clauses => comprehend fuel kind element value clauses
    | .assign name a => do
      let v ← eval fuel a
      bindOutside name v
      return v
    | .starred _ => Action.raise "SyntaxError" "can't use starred expression here"
    | .yield _ | .yieldFrom _ => Action.raise "SyntaxError" "'yield' outside function"
    | .await _ => Action.raise "SyntaxError" "'await' outside function"
    | _ => return .none

/-- The values of expressions, of which starred ones stand for several. -/
def evalAll : Nat → List Expr → Action (List Value)
  | 0, _ => throw .never
  | _, [] => return []
  | fuel + 1, .starred e :: es => do
    let vs ← itemsOf ⟨callValue fuel, nextOf fuel, loadModule fuel⟩ (← eval fuel e)
    return vs ++ (← evalAll fuel es)
  | fuel + 1, e :: es => do
    let v ← eval fuel e
    return v :: (← evalAll fuel es)

def evalCompare : Nat → Value → List (String × Expr) → Action Value
  | 0, _, _ => throw .never
  | _, _, [] => return .bool true
  | fuel + 1, a, [(op, e)] => do
    compared ⟨callValue fuel, nextOf fuel, loadModule fuel⟩ op a (← eval fuel e)
  | fuel + 1, a, (op, e) :: rest => do
    let k : Calls := ⟨callValue fuel, nextOf fuel, loadModule fuel⟩
    let b ← eval fuel e
    let t ← compared k op a b
    if ← truth k t then evalCompare fuel b rest else return t

def evalCall : Nat → Expr → List Argument → Action Value
  | 0, _, _ => throw .never
  | fuel + 1, f, args => do
    let v ← eval fuel f
    let (vs, named) ← evalArguments fuel args
    callValue fuel v vs named

/-- The values of arguments without names and with names. -/
def evalArguments : Nat → List Argument → Action (List Value × List (String × Value))
  | 0, _ => throw .never
  | _, [] => return ([], [])
  | fuel + 1, a :: rest => do
    let k : Calls := ⟨callValue fuel, nextOf fuel, loadModule fuel⟩
    match a with
    | .one e =>
      let v ← eval fuel e
      let (vs, named) ← evalArguments fuel rest
      return (v :: vs, named)
    | .spread e =>
      let source ← eval fuel e
      if !(← unpackable source) then
        Action.typeError ("Value after * must be an iterable, not " ++ (← typeName source))
      let xs ← itemsOf k source
      let (vs, named) ← evalArguments fuel rest
      return (xs ++ vs, named)
    | .named n e =>
      let v ← eval fuel e
      let (vs, named) ← evalArguments fuel rest
      if named.any (·.1 = n) then
        Action.typeError ("got multiple values for keyword argument '" ++ n ++ "'")
      return (vs, (n, v) :: named)
    | .namedSpread e =>
      let source ← eval fuel e
      if !(← isMapping source) && (← member? k source "keys").isNone then
        Action.typeError ("argument after ** must be a mapping, not " ++ (← typeName source))
      let pairs ← pairsOf k source
      let (vs, named) ← evalArguments fuel rest
      let more ← pairs.mapM fun (key, v) => do
        match key with
        | .str n =>
          if named.any (·.1 = n) then
            Action.typeError ("got multiple values for keyword argument '" ++ n ++ "'")
          return (n, v)
        | _ => Action.typeError "keywords must be strings"
      return (vs, more ++ named)

def evalNote : Nat → Expr → Action Value
  | 0, _ => throw .never
  | fuel + 1, e => do
    if ← notesAreTexts then return .str (noteText nesting e) else eval fuel e

/-- A function with the values that its parameters have if nothing is given for them. -/
def makeFunction :
    Nat → String → List Param → List Stmt → List (String × Expr) → Bool → Bool → Action Value
  | 0, _, _, _, _, _, _ => throw .never
  | fuel + 1, name, params, body, notes, isDefinition, awaits => do
    let made ← params.mapM fun p => do
      let standard ← match p.default? with
        | some e => do pure (some (← eval fuel e))
        | none => pure none
      return (⟨p.name, standard, p.taking⟩ : Parameter)
    let notes ← notes.foldlM (fun d (n, e) => do return Dict.set d n (← evalNote fuel e))
      Dict.empty
    capture
    let title ← titleOf name
    let names := bodyNames (params.map Param.name) body
    let yields := yieldsIn statementDepth body
    Action.allocate (.function
      { name, title, params := made, body, names, scope := (← get).scope, yields, awaits
        module := ← moduleName, notes, about := if isDefinition then aboutOf body else none
        line := (← get).line })

def comprehend : Nat → Gathering → Expr → Option Expr → List Clause → Action Value
  | 0, _, _, _, _ => throw .never
  | fuel + 1, kind, element, value, clauses => do
    let k : Calls := ⟨callValue fuel, nextOf fuel, loadModule fuel⟩
    match clauses with
    | .each target first _ :: rest =>
      let source ← iterOf k (← eval fuel first)
      let w ← get
      let scope : Scope :=
        { parent := w.scope, ofComprehension := true, names := { own := clauseNames clauses }
          title := ((w.scopes[w.scope]?.map (·.title)).getD "") }
      match kind with
      | .generator =>
        capture
        let i := (← get).scopes.size
        let scope :=
          { scope with captured := true, bindings := scope.bindings.insert ".source" source }
        modify fun w => { w with scopes := w.scopes.push scope }
        let body := clauseStmts element (.each target (.name ".source") false :: rest)
        Action.iterator (.generator [.stmts body] i "<genexpr>" "generator")
      | kind =>
        let result ← Action.allocate (match kind with
          | .list => .list #[] false
          | .set => .set .empty false
          | _ => .dict .empty .plain)
        let place := match result with
          | .ref i => i
          | _ => 0
        let emit : Action Unit := do
          match kind with
          | .list =>
            let v ← eval fuel element
            let _ ← changeList place (·.push v)
          | .set =>
            let v ← eval fuel element
            let key ← keyOf k v
            let _ ← changeSet place fun d => if d.contains key then d else d.insert key v .none
          | _ =>
            let a ← eval fuel element
            let b ← match value with
              | some e => eval fuel e
              | none => pure .none
            let key ← keyOf k a
            let _ ← changeDict place (·.insert key a b)
        inScope scope (comprehendEach fuel source target rest emit)
        return result
    | _ => return .none

/-- Does something for all values of an iterator that pass the clauses. -/
def comprehendEach : Nat → Value → Expr → List Clause → Action Unit → Action Unit
  | 0, _, _, _, _ => throw .never
  | fuel + 1, source, target, rest, emit => do
    match ← nextOf fuel source with
    | none => return
    | some v =>
      Action.step
      assign fuel target v
      comprehendRest fuel rest emit
      comprehendEach fuel source target rest emit

def comprehendRest : Nat → List Clause → Action Unit → Action Unit
  | 0, _, _ => throw .never
  | _, [], emit => emit
  | fuel + 1, .test c :: rest, emit => do
    if ← truth ⟨callValue fuel, nextOf fuel, loadModule fuel⟩ (← eval fuel c) then comprehendRest fuel rest emit
  | fuel + 1, .each target e _ :: rest, emit => do
    let source ← iterOf ⟨callValue fuel, nextOf fuel, loadModule fuel⟩ (← eval fuel e)
    comprehendEach fuel source target rest emit

def assign : Nat → Expr → Value → Action Unit
  | 0, _, _ => throw .never
  | fuel + 1, target, v => do
    match target with
    | .name s => assignName fuel s v
    | .tuple es => assignAll fuel es v
    | .attribute e name =>
      setMember ⟨callValue fuel, nextOf fuel, loadModule fuel⟩ (← eval fuel e) name v
    | .index e i =>
      let x ← eval fuel e
      let i ← eval fuel i
      let k : Calls := ⟨callValue fuel, nextOf fuel, loadModule fuel⟩
      dropItem x
      setItem k x i v
    | .starred e => assign fuel e v
    | _ => Action.raise "SyntaxError" "cannot assign to expression"

/-- Binds a name; a mapping that keeps the names of a class is told, and its answer counts. -/
def assignName : Nat → String → Value → Action Unit
  | 0, _, _ => throw .never
  | fuel + 1, s, v => do
    let w ← get
    if !w.watched.isEmpty then dropName s
    match (w.scopes[w.scope]?).bind (·.keeper) with
    | none => bindName s v
    | some keeper =>
      let k : Calls := ⟨callValue fuel, nextOf fuel, loadModule fuel⟩
      setItem k keeper (.str s) v
      match ← Action.object? (← plain keeper) with
      | some (.dict d _) => bindName s ((d.named? s).getD v)
      | _ => bindName s v

def assignAll : Nat → List Expr → Value → Action Unit
  | 0, _, _ => throw .never
  | fuel + 1, targets, v => do
    if !(← unpackable v) then
      Action.typeError ("cannot unpack non-iterable " ++ (← typeName v) ++ " object")
    let vs ← itemsOf ⟨callValue fuel, nextOf fuel, loadModule fuel⟩ v
    let star := targets.findIdx? fun
      | .starred _ => true
      | _ => false
    let shares ← shareOut targets.length star vs
    (targets.zip shares).forM fun (t, x) => assign fuel t x

def callValue : Nat → Value → List Value → List (String × Value) → Action Value
  | 0, _, _, _ => throw .never
  | fuel + 1, f, args, named => do
    Action.step
    let k : Calls := ⟨callValue fuel, nextOf fuel, loadModule fuel⟩
    match f with
    | .builtin "eval" => evaluateText fuel true args named
    | .builtin "exec" => evaluateText fuel false args named
    | .builtin name => callBuiltin k name args named
    | .method self name => callBound k self name args named
    | .bound self g => callValue fuel g (self :: args) named
    | f =>
      match ← Action.object? f with
      | some (.function g) => callFunction fuel g args named
      | some (.type _) => callClass k f args named
      | some (.curried g first more) =>
        let kept := more.filter fun (n, _) => !named.any (·.1 = n)
        callValue fuel g (first ++ args) (kept ++ named)
      | some (.wrapped .static g _) => callValue fuel g args named
      | some (.object (.builtin "types.GenericAlias") attributes _) =>
        callValue fuel ((attributes.named? "__origin__").getD .none) args named
      | some (.object _ _ _) =>
        match ← special? f "__call__" with
        | some g => callValue fuel g args named
        | none => Action.typeError ("'" ++ (← typeName f) ++ "' object is not callable")
      | _ => Action.typeError ("'" ++ (← typeName f) ++ "' object is not callable")

/-- The value of a text as an expression, or what comes of it as statements. -/
def evaluateText : Nat → Bool → List Value → List (String × Value) → Action Value
  | 0, _, _, _ => throw .never
  | fuel + 1, isExpression, args, named => do
    let k : Calls := ⟨callValue fuel, nextOf fuel, loadModule fuel⟩
    let name := if isExpression then "eval" else "exec"
    let start (s : String) : String :=
      if isExpression then .ofList (s.toList.dropWhile fun c => c == ' ' || c == '\t') else s
    let (source, isExpression, checked) ← match args.head?.getD .none with
      | .str s => pure (start s, isExpression, false)
      | v =>
        let _ ← Action.object? v
        Action.typeError (name ++ "() arg 1 must be a string, bytes or code object")
    if !checked then checkSource isExpression "<string>" source.toList
    let work : Action Value := do
      if isExpression then
        match readExpression (trimmed source.toList) with
        | some e => eval fuel e
        | none => Action.raise "SyntaxError" "invalid syntax"
      else
        match read source.toList with
        | some ss =>
          let _ ← asCall (run fuel [.stmts ss])
          return .none
        | none => Action.raise "SyntaxError" "invalid syntax"
    match argument? args named 1 "globals", argument? args named 2 "locals" with
    | none, none | some .none, none => work
    | outer, inner =>
      let mapping := match inner with
        | some .none | none => outer.getD .none
        | some m => m
      let _ ← Action.object? mapping
      let pairs (v : Value) : Action (List (Value × Value)) :=
        pairsOf k v
      let known := (← pairs (outer.getD .none)) ++ (← pairs mapping)
      let bindings := known.foldl (fun (m : Std.HashMap String Value) (key, v) =>
        match key with
        | .str n => m.insert n v
        | _ => m) {}
      let i := (← get).scopes.size
      modify fun w =>
        { w with scopes := w.scopes.push { bindings, ofModule := true, captured := true } }
      let keep : Action Unit := do
        let after := ((← get).scopes[i]?.map fun s => s.bindings.toList).getD []
        let changed := (after.filter fun (n, v) =>
          !n.startsWith "." && !((bindings.get? n).any (·.same v))).mergeSort fun a b => a.1 ≤ b.1
        changed.forM fun (n, v) => setItem k mapping (.str n) v
      try
        let v ← inModule i work
        keep
        return v
      catch e =>
        keep
        throw e

def groupClass : Nat → String → Action Value
  | 0, _ => throw .never
  | fuel + 1, name => do
    loadModule fuel "_groups"
    match ← preludeValue? "_groups" name with
    | some v => return v
    | none => lookName name

def inModule : Nat → Action Value → Action Value
  | i, work => do
    let outside := (← get).scope
    modify fun w => { w with scope := i }
    try
      let v ← work
      modify fun w => { w with scope := outside }
      return v
    catch e =>
      modify fun w => { w with scope := outside }
      throw e

def loadModule : Nat → String → Action Unit
  | 0, _ => throw .never
  | fuel + 1, name => do
    if (← get).modules.contains name then return
    let outside := ".".intercalate (name.splitOn ".").dropLast
    if outside ≠ "" then loadModule fuel outside
    match ← moduleText? name with
    | some text =>
      let i := (← get).scopes.size
      let scope : Scope :=
        { bindings := ({} : Std.HashMap String Value).insert "__name__"
            (.str (if name = "os.path" then "posixpath" else name))
          ofModule := true, captured := true }
      modify fun w =>
        { w with scopes := w.scopes.push scope, modules := w.modules.insert name i }
      match read text.toList with
      | some ss =>
        match aboutOf ss with
        | some s => bindIn i "__doc__" (.str s)
        | none => bindIn i "__doc__" .none
        let _ ← inModule i (asCall do
          let _ ← run fuel [.stmts ss]
          return .none)
      | none => Action.raise "SyntaxError" ("the text of '" ++ name ++ "' cannot be read")
    | none => if (moduleFunctions.lookup name).isSome then return else noModule name

def callFunction : Nat → Function → List Value → List (String × Value) → Action Value
  | 0, _, _, _ => throw .never
  | fuel + 1, f, args, named => do
    Action.step
    let w ← get
    if w.recursionLimit ≤ w.depth + 1 then
      Action.raise "RecursionError" "maximum recursion depth exceeded"
    let bindings ← bindArguments f args named
    let scope : Scope :=
      { bindings, parent := f.scope, names := f.names
        first := (f.params.head?).map (·.name), title := f.title ++ ".<locals>." }
    if f.yields || f.awaits then
      let i := (← get).scopes.size
      modify fun w => { w with scopes := w.scopes.push { scope with captured := true } }
      let kind := if !f.awaits then "generator"
        else if f.yields then "async_generator"
        else "coroutine"
      Action.iterator (.generator [.stmts f.body] i f.name kind)
    else
      let call : Call := ⟨f.name, f.title, f.module, f.line, w.scopes.size, w.line⟩
      modify fun w =>
        let line := if f.module = "__main__" then f.line else w.line
        { w with depth := w.depth + 1, calls := call :: w.calls, line }
      let depth := w.depth
      let line := w.line
      let calls := w.calls
      try
        let ended ← inScope scope (tryCatch (run fuel [.stmts f.body]) fun e => do
          if !(← get).watched.isEmpty then detain
          throw e)
        modify fun w => { w with depth, line, calls }
        let v := match ended with
          | .done v => v
          | .yielded v _ => v
        if !(← get).watched.isEmpty then
          settleCall ⟨callValue fuel, nextOf fuel, loadModule fuel⟩ (depth + 1) [v]
        return v
      catch e =>
        modify fun w => { w with depth, line, calls }
        raiseWatched
        throw e

def nextOf : Nat → Value → Action (Option Value)
  | 0, _ => throw .never
  | fuel + 1, v => do
    let k : Calls := ⟨callValue fuel, nextOf fuel, loadModule fuel⟩
    match v with
    | .builtin "sys.stdin" =>
      match ← inputMethod "readline" false [] with
      | .str "" => return none
      | line => return some line
    | .ref i =>
      match (← get).heap[i]? with
      | some (.iterator (.generator frames scope name kind)) =>
        resume fuel i frames scope name kind
      | some (.iterator it) =>
        let (x, it) ← advance k it
        Action.store i (.iterator it)
        return x
      | some (.object _ _ _) =>
        match ← special? v "__next__" with
        | some f =>
          try
            return some (← callValue fuel f [] [])
          catch
            | .raise e =>
              if ← isInstance e (.builtin "StopIteration") then return none else throw (.raise e)
            | s => throw s
        | none => Action.typeError ("'" ++ (← typeName v) ++ "' object is not an iterator")
      | _ => Action.typeError ("'" ++ (← typeName v) ++ "' object is not an iterator")
    | v => Action.typeError ("'" ++ (← typeName v) ++ "' object is not an iterator")

/-- Goes on with an interrupted call up to its next value. -/
def resume : Nat → Nat → List Frame → Nat → String → String → Action (Option Value)
  | 0, _, _, _, _, _ => throw .never
  | fuel + 1, i, frames, scope, name, kind => do
    let w ← get
    let outside := w.scope
    let depth := w.depth
    let handling := w.handling
    if w.recursionLimit ≤ depth + 1 then
      Action.raise "RecursionError" "maximum recursion depth exceeded"
    let thrown := w.thrown
    let k : Calls := ⟨callValue fuel, nextOf fuel, loadModule fuel⟩
    match frames, thrown with
    | [], none =>
      if kind = "coroutine" then
        Action.raise "RuntimeError" "cannot reuse already awaited coroutine"
      modify fun w => { w with returned := .none }
      return none
    | [], some x =>
      modify fun w => { w with thrown := none }
      throw (.raise (← exceptionOf k x))
    | _, _ =>
      Action.store i (.iterator (.running kind))
      let line := w.line
      let calls := w.calls
      let title := ((w.scopes[scope]?).map (·.title)).getD name
      let title := if title.endsWith ".<locals>." then
          String.ofList (title.toList.take (title.length - 10)) else name
      let call : Call := ⟨name, title, "__main__", line, scope, line⟩
      modify fun w => { w with scope, depth := depth + 1, thrown := none, calls := call :: calls }
      try
        let ended ← match thrown with
          | none => run fuel frames
          | some x => throwInto fuel (← exceptionOf k x) frames
        modify fun w => { w with scope := outside, depth, handling, line, calls }
        match ended with
        | .done v =>
          Action.store i (.iterator (.generator [] scope name kind))
          modify fun w => { w with returned := v }
          return none
        | .yielded v rest =>
          Action.store i (.iterator (.generator rest scope name kind))
          raiseWatched
          if kind = "generator" && endsWithWork rest then watch i
          return some v
      catch e =>
        Action.store i (.iterator (.generator [] scope name kind))
        modify fun w => { w with scope := outside, depth, handling, line, calls }
        match e with
        | .raise x =>
          if ← isInstance x (.builtin "StopIteration") then
            stopped x (if kind = "async_generator" then "async generator" else kind) "StopIteration"
          else if kind = "async_generator" && (← isInstance x (.builtin "StopAsyncIteration")) then
            stopped x "async generator" "StopAsyncIteration"
          else throw e
        | e => throw e

/-- An interrupted call must not raise what tells its end. -/
def stopped (cause : Value) (kind what : String) : Action (Option Value) := do
  let e ← Action.allocate (.object (.builtin "RuntimeError") ((Dict.empty.set "args"
    (.tuple [.str (kind ++ " raised " ++ what)])).set "__cause__" cause) .none)
  throw (.raise e)

/-- Raises an exception where a call was interrupted. -/
def throwInto : Nat → Value → List Frame → Action Ended
  | 0, _, _ => throw .never
  | fuel + 1, e, frames => do
    let outward (e : Value) (frames : List Frame) : Action Ended := do
      match ← unwind fuel (.raise e) frames with
      | .go frames => run fuel frames
      | .leave _ _ => return .done .none
      | .stop e => return e
    match frames with
    | .delegate it targets :: rest =>
      match ← Action.object? it with
      | some (.iterator (.generator (_ :: _) _ _ _)) =>
        let closes ← isInstance e (.builtin "GeneratorExit")
        let k : Calls := ⟨callValue fuel, nextOf fuel, loadModule fuel⟩
        let next : Except Value (Option Value) ← try
            if closes then
              let _ ← callMethod k it "close" [] []
              pure (.error e)
            else
              modify fun w => { w with thrown := some e }
              pure (.ok (← nextOf fuel it))
          catch
            | .raise x => pure (.error x)
            | s => throw s
        match next with
        | .ok (some v) => return .yielded v frames
        | .ok none =>
          let v ← takeReturned
          targets.forM fun t => assign fuel t v
          run fuel rest
        | .error x => outward x rest
      | _ => outward e rest
    | frames => outward e frames

def run : Nat → List Frame → Action Ended
  | 0, _ => throw .never
  | _, [] => return .done .none
  | fuel + 1, frame :: rest => do
    let turn ← tryCatch (turnOf fuel frame rest) fun s =>
      match s with
      | .raise v => do
        keepTrace v
        return .leave (.raise v) rest
      | s => throw s
    match turn with
    | .go frames =>
      if !(← get).watched.isEmpty then
        settleAfter ⟨callValue fuel, nextOf fuel, loadModule fuel⟩ frames []
      run fuel frames
    | .stop e => return e
    | .leave e frames =>
      match e with
      | .raise v => keepTrace v
      | _ => pure ()
      match ← unwind fuel e frames with
      | .go frames =>
        if !(← get).watched.isEmpty then
          settleAfter ⟨callValue fuel, nextOf fuel, loadModule fuel⟩ frames []
        run fuel frames
      | .leave _ _ => return .done .none
      | .stop e => return e

/-- Leaves frames until one of them takes over. -/
def unwind : Nat → Exit → List Frame → Action Turn
  | 0, _, _ => throw .never
  | _, e, [] =>
    match e with
    | .raise v => throw (.raise v)
    | .give v => return .stop (.done v)
    | _ => return .stop (.done .none)
  | fuel + 1, e, frame :: rest => do
    match frame, e with
    | .loop _ _ _, .leave => return .go rest
    | .loop _ _ _, .again => return .go (frame :: rest)
    | .each _ _ _ _, .leave => return .go rest
    | .each _ _ _ _, .again => return .go (frame :: rest)
    | .attempt handlers _ final, .raise v =>
      let next ← tryCatch
        (do
          match (← get).handling with
          | h :: _ => setContext v h
          | [] => pure ()
          cutTrace v
          match ← handlerFor fuel handlers v with
          | some (name, body) =>
            modify fun w => { w with handling := v :: w.handling }
            match name with
            | some n => bindName n v
            | none => pure ()
            return Turn.go (.stmts body :: .handling name :: .final final :: rest)
          | none => return Turn.go (.stmts final :: .resume e :: rest))
        fun s =>
          throw s
      return next
    | .attempt _ _ final, e => return .go (.stmts final :: .resume e :: rest)
    | .final final, e => return .go (.stmts final :: .resume e :: rest)
    | .handling name, e =>
      match e, (← get).handling with
      | .raise v, h :: _ => setContext v h
      | _, _ => pure ()
      leaveHandling name
      unwind fuel e rest
    | .using m, .raise v =>
      let k : Calls := ⟨callValue fuel, nextOf fuel, loadModule fuel⟩
      match (← get).handling with
      | h :: _ => setContext v h
      | [] => pure ()
      cutTrace v
      let handling := (← get).handling
      modify fun w => { w with handling := v :: handling }
      let restore : Action Unit := modify fun w => { w with handling }
      tryCatch
        (do
          let isOver ← exitManager k m (some v)
          restore
          if isOver then return Turn.go rest else unwind fuel e rest)
        fun s => do
          restore
          throw s
    | _, e => unwind fuel e rest

def handlerFor : Nat → List Handler → Value → Action (Option (Option String × List Stmt))
  | 0, _, _ => throw .never
  | _, [], _ => return none
  | fuel + 1, .mk kind name body :: rest, v => do
    match kind with
    | none => return some (name, body)
    | some e =>
      if ← handles v (← eval fuel e) then return some (name, body) else handlerFor fuel rest v

def turnOf : Nat → Frame → List Frame → Action Turn
  | 0, _, _ => throw .never
  | fuel + 1, frame, rest => do
    match frame with
    | .stmts [] => return .go rest
    | .stmts (.mark n :: ss) =>
      modify fun w => { w with line := n }
      match ss with
      | [] => return .go rest
      | [s] => execute fuel s rest
      | s :: ss => execute fuel s (.stmts ss :: rest)
    | .stmts [s] => execute fuel s rest
    | .stmts (s :: ss) => execute fuel s (.stmts ss :: rest)
    | .loop c body otherwise =>
      Action.step
      if ← truth ⟨callValue fuel, nextOf fuel, loadModule fuel⟩ (← eval fuel c) then
        return .go (.stmts body :: frame :: rest)
      else return .go (.stmts otherwise :: rest)
    | .each it target body otherwise =>
      Action.step
      match ← nextOf fuel it with
      | some v =>
        assign fuel target v
        return .go (.stmts body :: frame :: rest)
      | none => return .go (.stmts otherwise :: rest)
    | .attempt _ otherwise final => return .go (.stmts otherwise :: .final final :: rest)
    | .final ss => return .go (.stmts ss :: rest)
    | .resume e => return .leave e rest
    | .handling name =>
      leaveHandling name
      return .go rest
    | .using m =>
      let _ ← exitManager ⟨callValue fuel, nextOf fuel, loadModule fuel⟩ m none
      return .go rest
    | .receive targets =>
      let v ← takeSent
      targets.forM fun t => assign fuel t v
      return .go rest
    | .giveSent => return .leave (.give (← takeSent)) rest
    | .delegate it targets =>
      match ← Action.object? it with
      | some (.iterator (.generator _ _ _ _)) => pure ()
      | _ => modify fun w => { w with sent := .none }
      match ← nextOf fuel it with
      | some v => return .stop (.yielded v (frame :: rest))
      | none =>
        let v ← takeReturned
        targets.forM fun t => assign fuel t v
        return .go rest

/-- Executes a statement; `rest` is what follows it. -/
def execute : Nat → Stmt → List Frame → Action Turn
  | 0, _, _ => throw .never
  | fuel + 1, s, rest => do
    Action.step
    let k : Calls := ⟨callValue fuel, nextOf fuel, loadModule fuel⟩
    match s with
    | .expr (.yield e) =>
      let v ← evalOptional fuel e
      return .stop (.yielded v (.receive [] :: rest))
    | .expr (.yieldFrom e) => return .go (.delegate (← iterOf k (← eval fuel e)) [] :: rest)
    | .expr (.await e) => return .go (.delegate (← awaited k (← eval fuel e)) [] :: rest)
    | .expr (.call f args) =>
      let v ← eval fuel f
      let (vs, named) ← evalArguments fuel args
      if !(← get).watched.isEmpty then settleAfter k rest (v :: vs ++ named.map fun p => p.2)
      let v ← callValue fuel v vs named
      if !(← get).watched.isEmpty then Action.dropped v
      return .go rest
    | .expr e =>
      let _ ← eval fuel e
      return .go rest
    | .assign targets (.yield e) =>
      let v ← evalOptional fuel e
      return .stop (.yielded v (.receive targets :: rest))
    | .assign targets (.yieldFrom e) =>
      return .go (.delegate (← iterOf k (← eval fuel e)) targets :: rest)
    | .assign targets (.await e) =>
      return .go (.delegate (← awaited k (← eval fuel e)) targets :: rest)
    | .assign targets e =>
      let v ← eval fuel e
      targets.forM fun t => assign fuel t v
      return .go rest
    | .augment target op e =>
      augment fuel target op e
      return .go rest
    | .choice c yes no =>
      if ← truth k (← eval fuel c) then return .go (.stmts yes :: rest)
      else return .go (.stmts no :: rest)
    | .loop c body otherwise => return .go (.loop c body otherwise :: rest)
    | .each target e body otherwise =>
      return .go (.each (← iterOf k (← eval fuel e)) target body otherwise :: rest)
    | .give (some (.yield e)) =>
      let v ← evalOptional fuel e
      return .stop (.yielded v (.giveSent :: rest))
    | .give e => return .leave (.give (← evalOptional fuel e)) rest
    | .leave => return .leave .leave rest
    | .again => return .leave .again rest
    | .pass => return .go rest
    | s => executeOther fuel s rest

def evalOptional : Nat → Option Expr → Action Value
  | 0, _ => throw .never
  | fuel + 1, e =>
    match e with
    | some e => eval fuel e
    | none => return .none

def augment : Nat → Expr → String → Expr → Action Unit
  | 0, _, _, _ => throw .never
  | fuel + 1, target, op, e => do
    let k : Calls := ⟨callValue fuel, nextOf fuel, loadModule fuel⟩
    match target with
    | .name s =>
      let old ← lookName s
      assignName fuel s (← operateInPlace k op old (← eval fuel e))
    | .attribute a name =>
      let v ← eval fuel a
      let old ← member k v name
      setMember k v name (← operateInPlace k op old (← eval fuel e))
    | .index a i =>
      let v ← eval fuel a
      let i ← eval fuel i
      let old ← getItem k v i
      setItem k v i (← operateInPlace k op old (← eval fuel e))
    | _ => Action.raise "SyntaxError" "illegal expression for augmented assignment"

/-- Executes a statement of one of the kinds that are met less often. -/
def executeOther : Nat → Stmt → List Frame → Action Turn
  | 0, _, _ => throw .never
  | fuel + 1, s, rest => do
    let k : Calls := ⟨callValue fuel, nextOf fuel, loadModule fuel⟩
    match s with
    | .define name params body decorators notes awaits =>
      let wrappers ← decorators.reverse.mapM (eval fuel)
      let f ← makeFunction fuel name params body notes true awaits
      assignName fuel name (← decorate fuel wrappers.reverse f)
      return .go rest
    | .describe name bases body decorators =>
      let wrappers ← decorators.reverse.mapM (eval fuel)
      let c ← describe fuel name bases body
      assignName fuel name (← decorate fuel wrappers.reverse c)
      return .go rest
    | .annotate target type value =>
      match value with
      | some e => assign fuel target (← eval fuel e)
      | none => pure ()
      match target, ← annotations? with
      | .name s, some i =>
        let note ← evalNote fuel type
        let _ ← changeDict i (·.set s note)
      | _, _ => pure ()
      return .go rest
    | .bring modules =>
      modules.forM fun (m, n) => do
        loadModule fuel m
        if n = "" then
          let top := (m.splitOn ".").headD m
          assignName fuel top (.module top)
        else assignName fuel n (.module m)
      return .go rest
    | .bringFrom m names =>
      loadModule fuel m
      names.forM fun (n, as_) => do
        if n = "*" then
          (← allNames k m).forM fun n => do bindName n (← importName k m n)
        else
          if m = "__future__" then
            modify fun w => { w with imported := (m ++ "." ++ n) :: w.imported }
          assignName fuel (if as_ = "" then n else as_) (← importName k m n)
      return .go rest
    | .select subject cases =>
      let v ← eval fuel subject
      return .go (.stmts (← chooseCase fuel v cases) :: rest)
    | .raise none _ =>
      match (← get).handling with
      | v :: _ => return .leave (.raise v) rest
      | [] => Action.raise "RuntimeError" "No active exception to reraise"
    | .raise (some e) cause =>
      let v ← exceptionOf k (← eval fuel e)
      match cause with
      | some c =>
        let cause ← match ← eval fuel c with
          | .none => pure .none
          | c => do
            if (← isInstance c (.builtin "BaseException")) then pure c
            else
              let _ ← Action.object? c
              Action.typeError "exception causes must derive from BaseException"
        match v with
        | .ref i =>
          bindMember i "__cause__" cause
          bindMember i "__suppress_context__" (.bool true)
        | _ => pure ()
      | none => pure ()
      return .leave (.raise v) rest
    | .attempt body handlers otherwise final =>
      return .go (.stmts body :: .attempt handlers otherwise final :: rest)
    | .using manager target body =>
      let m ← eval fuel manager
      let v ← enterManager k m
      match target with
      | some t => assign fuel t v
      | none => pure ()
      return .go (.stmts body :: .using m :: rest)
    | .assert e message =>
      if ← truth k (← eval fuel e) then return .go rest
      else
        match message with
        | some m => Action.raiseWith "AssertionError" [← eval fuel m]
        | none => Action.raiseWith "AssertionError" []
    | .delete targets =>
      targets.forM fun t => do
        match t with
        | .name s =>
          dropName s
          unbindName s
        | .attribute e name =>
          let v ← eval fuel e
          Action.dropped v
          eraseMember k v name
        | .index e i =>
          let v ← eval fuel e
          let i ← eval fuel i
          dropItem v
          eraseItem k v i
        | _ => Action.raise "SyntaxError" "cannot delete expression"
      return .go rest
    | _ => return .go rest

/-- The body of the first case whose pattern fits a value. -/
def chooseCase : Nat → Value → List Case → Action (List Stmt)
  | 0, _, _ => throw .never
  | _, _, [] => return []
  | fuel + 1, v, .mk pattern guard body :: rest => do
    match ← fit fuel pattern v with
    | none => chooseCase fuel v rest
    | some found =>
      found.forM fun (n, x) => assignName fuel n x
      match guard with
      | none => return body
      | some e =>
        let k : Calls := ⟨callValue fuel, nextOf fuel, loadModule fuel⟩
        if ← truth k (← eval fuel e) then return body else chooseCase fuel v rest

/-- The names that a pattern binds if it fits a value. -/
def fit : Nat → Pattern → Value → Action (Option (List (String × Value)))
  | 0, _, _ => throw .never
  | fuel + 1, p, v => do
    let k : Calls := ⟨callValue fuel, nextOf fuel, loadModule fuel⟩
    let yes (b : Bool) : Option (List (String × Value)) := if b then some [] else none
    match p with
    | .anything => return some []
    | .capture n => return some [(n, v)]
    | .equal e => return yes (← truth k (← compared k "==" v (← eval fuel e)))
    | .same c => return yes (c.value.same v)
    | .rest _ => return none
    | .named p n => return (← fit fuel p v).map fun found => found ++ [(n, v)]
    | .either ps => ps.findSomeM? fun p => fit fuel p v
    | .sequence ps =>
      match ← sequenceItems? v with
      | none => return none
      | some xs =>
        let star := ps.findIdx? fun
          | .rest _ => true
          | _ => false
        match star with
        | none => if xs.length = ps.length then fitAll fuel (ps.zip xs) else return none
        | some i =>
          let after := ps.length - 1 - i
          if xs.length + 1 < ps.length then return none
          let middle := (xs.drop i).take (xs.length - i - after)
          let named ← match ps[i]? with
            | some (.rest (some n)) => do pure [(n, ← Action.list middle)]
            | _ => pure []
          let outside := (ps.take i).zip xs ++ (ps.drop (i + 1)).zip (xs.drop (xs.length - after))
          return (← fitAll fuel outside).map fun found => found ++ named
    | .mapping pairs rest =>
      if !(← isMapping v) then return none
      let keys ← pairs.mapM fun (e, _) => eval fuel e
      let found ← (keys.zip pairs).mapM fun (key, _, p) => do
        if ← contains k v key then return some (p, ← getItem k v key) else return none
      if found.any Option.isNone then return none
      match ← fitAll fuel (found.filterMap id) with
      | none => return none
      | some bound =>
        match rest with
        | none => return some bound
        | some n =>
          let d ← insertPairs k .empty (← pairsOf k v)
          let texts ← keys.mapM (keyOf k)
          let left := texts.foldl Dict.erase d
          return some (bound ++ [(n, ← Action.allocate (.dict left .plain))])
    | .object type args named =>
      let c ← eval fuel type
      let isType ← match c with
        | .builtin b => pure (isType b)
        | c => do
          match ← Action.object? c with
          | some (.type _) => pure true
          | _ => pure false
      if !isType then Action.typeError "called match pattern must be a class"
      if !(← truth k (← callValue fuel (.builtin "isinstance") [v, c] [])) then return none
      let whole ← do
        let held ← lineage c
        pure (args.length = 1 && (wholeTypes.any fun n => held.any (·.same (.builtin n))) &&
          (← findIn "__match_args__" held).isNone)
      if whole then
        match args with
        | [p] =>
          match ← fit fuel p v with
          | none => return none
          | some found => return (← fitNamed fuel v named).map (found ++ ·)
        | _ => return none
      else
        let names ← match ← member? k c "__match_args__" with
          | some (.tuple names) => pure names
          | _ => pure []
        if names.length < args.length then
          Action.typeError ((← nameOfType c) ++ "() accepts " ++ Text.naturalText names.length ++
            " positional sub-" ++ plural names.length "pattern" ++ " (" ++
            Text.naturalText args.length ++ " given)")
        let places := (names.zip args).filterMap fun
          | (.str n, p) => some (n, p)
          | _ => none
        fitNamed fuel v (places ++ named)

/-- The names that patterns bind if all of them fit. -/
def fitAll : Nat → List (Pattern × Value) → Action (Option (List (String × Value)))
  | 0, _ => throw .never
  | _, [] => return some []
  | fuel + 1, (p, v) :: rest => do
    match ← fit fuel p v with
    | none => return none
    | some found => return (← fitAll fuel rest).map (found ++ ·)

/-- The names that patterns for members of a value bind if all of them fit. -/
def fitNamed : Nat → Value → List (String × Pattern) → Action (Option (List (String × Value)))
  | 0, _, _ => throw .never
  | _, _, [] => return some []
  | fuel + 1, v, (n, p) :: rest => do
    let k : Calls := ⟨callValue fuel, nextOf fuel, loadModule fuel⟩
    match ← member? k v n with
    | none => return none
    | some x =>
      match ← fit fuel p x with
      | none => return none
      | some found => return (← fitNamed fuel v rest).map (found ++ ·)

def decorate : Nat → List Value → Value → Action Value
  | 0, _, _ => throw .never
  | _, [], v => return v
  | fuel + 1, f :: fs, v => do decorate fuel fs (← callValue fuel f [v] [])

/-- The classes that stand behind a class, where a value may stand for some. -/
def baseClasses : Nat → List Value → Action (List Value)
  | 0, _ => throw .never
  | fuel + 1, bases => do
    let found ← bases.mapM fun b => do
      match ← special? b "__mro_entries__", ← Action.object? b with
      | some f, some (.object _ _ _) =>
        match ← callValue fuel f [.tuple bases] [] with
        | .tuple cs => return cs
        | _ => return []
      | none, some (.object (.builtin "types.GenericAlias") attributes _) =>
        return (attributes.named? "__origin__").toList
      | _, some (.function f) =>
        match f.attributes.named? "__mro_entries__" with
        | some f =>
          match ← callValue fuel f [.tuple bases] [] with
          | .tuple cs => return cs
          | _ => return []
        | none => return [b]
      | _, _ => return [b]
    return found.flatten

/-- Makes a class: its body is executed in a scope of its own. -/
def describe : Nat → String → List Argument → List Stmt → Action Value
  | 0, _, _, _ => throw .never
  | fuel + 1, name, args, body => do
    let k : Calls := ⟨callValue fuel, nextOf fuel, loadModule fuel⟩
    let (given, named) ← evalArguments fuel args
    let bases ← baseClasses fuel given
    let asked := (named.lookup "metaclass").getD (.builtin "type")
    let named := named.filter fun (n, _) => n ≠ "metaclass"
    let isClass ← isSubclass asked (.builtin "type")
    let kind ← if isClass then kindFor asked bases else pure asked
    let prepare ← match kind with
      | .builtin _ => pure none
      | kind => if isClass then findIn "__prepare__" (← lineage kind) else pure none
    let keeper ← match prepare with
      | none => pure none
      | some _ =>
        let f ← member k kind "__prepare__"
        pure (some (← callValue fuel f [.str name, .tuple bases] named))
    let title ← titleOf name
    let module ← moduleName
    let w ← get
    let i := w.scopes.size
    let scope : Scope :=
      { parent := w.scope, ofClass := true, captured := true, title := title ++ "."
        names := bodyNames [] body, keeper }
    inScope scope (do
      assignName fuel "__module__" (.str module)
      assignName fuel "__qualname__" (.str title)
      match aboutOf body with
      | some s => assignName fuel "__doc__" (.str s)
      | none => pure ()
      let _ ← asCall (run fuel [.stmts body])
      return ())
    let space ← match keeper with
      | some m => pure m
      | none =>
        let members := match (← get).scopes[i]? with
          | some s =>
            s.order.eraseDups.reverse.foldl (fun d n =>
              match s.bindings.get? n with
              | some v => Dict.set d n v
              | none => d) Dict.empty
          | none => .empty
        Action.allocate (.dict members .plain)
    modify fun w => { w with body := some i }
    let c ← match kind with
      | .builtin "type" => classFrom k kind [.str name, .tuple bases, space] named
      | kind => callValue fuel kind [.str name, .tuple bases, space] named
    modify fun w => { w with body := none }
    if given.length ≠ bases.length || !(given.zip bases).all fun (a, b) => a.same b then
      match c with
      | .ref j => bindMember j "__orig_bases__" (.tuple given)
      | _ => pure ()
    return c

end

end Flowboard.Script
