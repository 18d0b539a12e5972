import Flowboard.Prototype.Collection

/-! What operators and simple steps of functions do. -/
namespace Flowboard.Prototype

def numberBinary (op : String) (x y : Float) : Float :=
  match op with
  | "/" => x / y
  | _ => x + y

def binaryOp (op : String) (a b : Value) : Action Value := do
  match a, b, op with
  | .number x, .number y, "+" => return .number (x + y)
  | .number x, .number y, "*" => return .number (x * y)
  | _, _, _ =>
  match op with
  | "+" =>
    let a ← toPrimitive "default" a
    let b ← toPrimitive "default" b
    match a, b with
    | .text s, b => return .text (s ++ (← toText b))
    | a, b =>
      let _ ← toNumeric a
      let _ ← toNumeric b
      throwType "Cannot mix BigInt and other types, use explicit conversions"
  | op =>
    match ← toNumeric a, ← toNumeric b with
    | .number x, .number y => return .number (numberBinary op x y)
    | _, _ => throwType "Cannot mix BigInt and other types, use explicit conversions"

def unaryOp (op : String) (v : Value) : Action Value := do
  match op with
  | "typeof" => return .text (← typeName v)
  | _ => return v

/-- The scope some steps further out. -/
def scopeAt (scopes : Array Scope) : Nat → Nat → Nat
  | 0, s => s
  | d + 1, s => scopeAt scopes d (scopes.getD s default).parent

def getVariable (frame : Frame) (depth index : Nat) : Action Value := do
  let scopes := (← get).scopes
  return (scopes.getD (scopeAt scopes depth frame.scope) default).vars.getD index .undefined

def setVariable (frame : Frame) (depth index : Nat) (v : Value) : Action Unit :=
  modify fun w =>
    let s := scopeAt w.scopes depth frame.scope
    { w with scopes := w.scopes.modify s fun sc => { sc with vars := sc.vars.set! index v } }

def newScope (vars : Array Value) (parent : Nat) : Action Nat :=
  modifyGet fun w => (w.scopes.size, { w with scopes := w.scopes.push ⟨vars, parent⟩ })

def memberName (s : String) : Name :=
  if s.startsWith "#" then .hidden s else .text s

def closureOf? (f : Value) : Action (Option Closure) := do
  match f with
  | .object r =>
    match ← kindAt r with
    | .closure c => return some c
    | _ => return none
  | _ => return none

/-- Gives a function the object in whose parents it looks for methods. -/
def setHome (f home : Value) : Action Unit := do
  match f with
  | .object r =>
    modifyObject r fun o => match o.kind with
      | .closure c => { o with kind := .closure { c with home } }
      | _ => o
  | _ => pure ()

def nameFunction (f : Value) (name : String) : Action Unit := do
  match f with
  | .object r =>
    if (← closureOf? f).isSome then
      if (← functionName r) == "" then putOwn r (.text "name") (fixedProperty (.text name))
  | _ => pure ()

def defineMember (target key f : Value) (kind : MemberKind) (shown : Bool) : Action Unit := do
  let n ← match key with
    | .text s => pure (if !shown && s.startsWith "#" then Name.hidden s else .text s)
    | k => toKey k
  let ref ← toObject target
  let label ← match n with
    | .symbol i => pure ("[" ++ ((← get).symbols.getD i none).getD "" ++ "]")
    | n => n.display
  match kind with
  | .getter | .setter =>
    setHome f target
    match f with
    | .object r =>
      let start := if kind = .getter then "get " else "set "
      putOwn r (.text "name") (fixedProperty (.text (start ++ label)))
    | _ => pure ()
    let (g, s) := ((((← objectAt ref).members.get? n).bind (·.access)).getD (.undefined, .undefined))
    let access := if kind = .getter then (f, s) else (g, f)
    putOwn ref n { access := some access, shown }
  | .method =>
    setHome f target
    nameFunction f label
    putOwn ref n { value := f, shown }
  | _ =>
    nameFunction f label
    defineOwn ref n (dataProperty f)

/-- Gives a new object the fields of its class. -/
def initFields (this : Value) (fields : List (Value × Value)) : Action Unit := do
  for (key, thunk) in fields do
    let v ← call thunk this []
    match this with
    | .object r =>
      let n ← match key with
        | .text s => pure (memberName s)
        | k => toKey k
      match n with
      | .hidden _ => putOwn r n { value := v, shown := false }
      | n => defineOwn r n (dataProperty v)
    | _ => pure ()

def makeClass (frame : Frame) (id : Nat) (parent : Option Value) : Action Value := do
  let protoParent ← match parent with
    | none => pure (Value.object objectProto)
    | some .null => pure .null
    | some p => do
      unless ← isCallable p do
        throwType ("Class extends value " ++ (← inspect {} p) ++
          " is not a constructor or null")
      getText p "prototype"
  let functionParent := match parent with
    | some (.object p) => Value.object p
    | _ => .object functionProto
  let ref ← alloc
    { kind := .closure { code := id, scope := frame.scope }, proto := functionParent }
  let proto ← alloc { proto := protoParent }
  putHidden proto "constructor" (.object ref)
  putOwn ref (.text "prototype")
    { value := .object proto, shown := false, writable := false, configurable := false }
  setHome (.object ref) (.object proto)
  return .object ref

def makeFunction (frame : Frame) (id : Nat) : Action Value := do
  let code := (← get).codes.getD id default
  let c : Closure := { code := id, scope := frame.scope }
  let c := if code.arrow then
      { c with this := frame.this, newTarget := frame.newTarget, owner := frame.function }
    else c
  let proto := if code.generator then
      if code.async then "AsyncGeneratorFunction" else "GeneratorFunction"
    else if code.async then "AsyncFunction" else "Function"
  let ref := if proto == "Function" then functionProto else protoRef proto
  allocValue { kind := .closure c, proto := .object ref }

/-- Does a step that calls nothing by itself, and goes to the next one. -/
def simpleStep (strict : Bool) (op : Op) (f : Frame) : Action Frame := do
  let next : Frame := { f with pc := f.pc + 1 }
  match op, f.stack with
  | .push v, s => return { next with stack := v.value :: s }
  | .pop, _ :: s => return { next with stack := s }
  | .dup, a :: s => return { next with stack := a :: a :: s }
  | .get depth i _, s =>
    let v ← getVariable f depth i
    return { next with stack := v :: s }
  | .init depth i, v :: s =>
    setVariable f depth i v
    return { next with stack := s }
  | .enter start, s =>
    let scope ← newScope (start.map Literal.value) f.scope
    return { next with scope, stack := s }
  | .leave, s =>
    let scopes := (← get).scopes
    return { next with scope := (scopes.getD f.scope default).parent, stack := s }
  | .getMember n, o :: s => return { next with stack := (← getNamed o (memberName n)) :: s }
  | .setMember n, v :: o :: s =>
    setNamed strict o (memberName n) v
    return { next with stack := v :: s }
  | .array, s => return { next with stack := (← newArray #[]) :: s }
  | .append, v :: a :: s =>
    match a with
    | .object r =>
      modifyObject r fun o => match o.kind with
        | .array items => { o with kind := .array (items.push v) }
        | _ => o
    | _ => pure ()
    return { next with stack := a :: s }
  | .appendAll shown, v :: a :: s =>
    let vs ← valuesShown shown v
    match a with
    | .object r =>
      modifyObject r fun o => match o.kind with
        | .array items => { o with kind := .array (items ++ vs) }
        | _ => o
    | _ => pure ()
    return { next with stack := a :: s }
  | .object, s => return { next with stack := (← newObject) :: s }
  | .define n, v :: o :: s =>
    match o with
    | .object r =>
      if n == "__proto__" then
        pure ()
      else putOwn r (.text n) (dataProperty v)
    | _ => pure ()
    return { next with stack := o :: s }
  | .defineIndex kind shown, v :: k :: o :: s =>
    defineMember o k v kind shown
    return { next with stack := o :: s }
  | .function id, s => return { next with stack := (← makeFunction f id) :: s }
  | .classFrom id _ false, s => return { next with stack := (← makeClass f id none) :: s }
  | .field isStatic, thunk :: key :: c :: s =>
    if isStatic then
      setHome thunk c
      initFields c [(key, thunk)]
    else
      match c with
      | .object r =>
        setHome thunk (← getText c "prototype")
        modifyObject r fun o => match o.kind with
          | .closure x => { o with kind := .closure { x with fields := x.fields ++ [(key, thunk)] } }
          | _ => o
      | _ => pure ()
    return { next with stack := c :: s }
  | .unary op, v :: s => return { next with stack := (← unaryOp op v) :: s }
  | .binary op, b :: a :: s => return { next with stack := (← binaryOp op a b) :: s }
  | .toText, v :: s => return { next with stack := .text (← toText v) :: s }
  | .toKey, v :: s =>
    match v with
    | .number _ | .text _ | .symbol _ => return { next with stack := v :: s }
    | v => return { next with stack := (← toKey v).value :: s }
  | .guard l final, s =>
    return { next with handlers := ⟨l, final, s, f.scope⟩ :: f.handlers, stack := s }
  | .this, s =>
    let v := f.this
    return { next with stack := v :: s }
  | .argument i, s => return { next with stack := f.args.getD i .undefined :: s }
  | .join n, s =>
    let parts := (s.take n).reverse.map fun (v : Value) => match v with
      | .text t => t
      | _ => ""
    return { next with stack := .text (String.join parts) :: s.drop n }
  | .regex source flags, s =>
    return { next with stack := (← newRegex source flags (.object (protoRef "RegExp"))) :: s }
  | .nothing, s => return { next with stack := s }
  | _, s => return { next with stack := s }

end Flowboard.Prototype
