import Flowboard.Prototype.Reader
import Flowboard.Prototype.Step

/-! How programs with prototypes run. -/
namespace Flowboard.Prototype

def nativeBuild (family : String) (args : List Value) (newTarget : Value) : Action Value := do
  match family with
  | "Map" | "Set" | "WeakMap" | "WeakSet" => buildEntries family args newTarget
  | "Date" => buildDate args newTarget
  | family =>
    if family.endsWith "Error" then buildError family args newTarget
    else if family.endsWith "Array" then buildTyped family newTarget
    else throwType (family ++ " is not a constructor")

/-- What a walk that a function makes is asked for. -/
def generatorCall (name : String) (this : Value) (args : List Value) : Action Value := do
  let r ← match this with
    | .object r => pure r
    | _ => throwType (name ++ " method called on incompatible receiver " ++ (← describe this))
  let how : Resumption := match name with
    | "next" => .value (arg args 0)
    | "throw" => .thrown (arg args 0)
    | _ => .left (arg args 0)
  match ← kindAt r with
  | .generator frame running (.bool true) requests =>
    -- requests to a walk that waits are served in turn
    let p ← newPromise
    setKind r (.generator frame running (.bool true) (requests ++ [(how, .object p)]))
    unless running do
      let _ ← fun k => k.resume r how
    return .object p
  | .generator .. =>
    let (v, done) ← fun k => k.resume r how
    stepResult v done
  | _ => throwType (name ++ " method called on incompatible receiver " ++ (← describe this))

def nativeCall (family name : String) (this : Value) (args : List Value) :
    Action Value := do
  match family with
  | "Object" => objectCall name this args
  | "Array" => if name == "construct" then buildArray args .undefined else arrayCall name this args
  | "String" => stringCall name this args
  | "Number" => numberCall name this args
  | "Symbol" => symbolCall name args
  | "JSON" => jsonCall name args
  | "Date" => dateCall (if name == "construct" then "call" else name) this args
  | "Timer" => timerCall name this args
  | "console" => consoleCall name args
  | "process" => processCall name args
  | "tool" => toolCall name args
  | "Generator" => generatorCall name this args
  | _ =>
    if family.endsWith "Error" then
      if name == "construct" then buildError family args .undefined
      else pure .undefined
    else if name == "construct" then throwType ("Constructor " ++ family ++ " requires 'new'")
    else
      match family with
      | "Promise" => promiseCall name this args
      | _ =>
        if family.endsWith "Array" then
          if name == "from" || name == "of" then
            let _ ← if name == "of" then newArray args.toArray else arrayCall "from" .undefined args
            buildTyped family .undefined
          else arrayMethod name this args
        else return .undefined

/-- How a call ends, or pauses. -/
inductive Outcome where
  | returned (v : Value)
  | yielded (v : Value) (f : Frame)
  | awaited (v : Value) (f : Frame)

def frameOf (w : World) (ref : Nat) (c : Closure) (this : Value) (args : List Value) : Frame :=
  let code := w.codes.getD c.code default
  if code.arrow then
    { code := c.code, ops := code.ops, scope := c.scope, this := c.this, function := c.owner, args
      newTarget := c.newTarget }
  else
    let this := match this with
      | .undefined | .null => if code.strict then this else .object globalRef
      | t => t
    { code := c.code, ops := code.ops, scope := c.scope, this, function := .object ref, args }

/-- What a thrown value goes to: the frame that catches it, and those around it. -/
def caughtBy (leaving : Bool) (v : Value) : Frame → List Frame → Option (Frame × List Frame)
  | f, callers =>
    match f.handlers.dropWhile (fun h => leaving && !h.final) with
    | h :: rest =>
      some ({ f with pc := h.target, stack := v :: h.stack, scope := h.scope, handlers := rest },
        callers)
    | [] =>
      match callers with
      | [] => none
      | c :: more => caughtBy leaving v c more
termination_by _ callers => callers.length

/-- How many calls may be open at once. -/
def frameLimit : Nat := 10000

/-- How deep native functions may call others. -/
def nativeLimit : Nat := 2000

/-- A result of a constructor: the new object unless another one is given. -/
def constructed (f : Frame) : Action Value :=
  return f.this

mutual

/-- Runs a frame to its end, or to where it pauses. Each step uses up one of the fuel. -/
def loop (runner : Runner) : Nat → Frame → List Frame → Bare Outcome
  | 0, _, _ => throw .never
  | fuel + 1, f, callers => fun w =>
    if w.steps = 0 then (.error .never, w)
    else
      let w := { w with steps := w.steps - 1 }
      let k : Calls := callsOf runner fuel
      let raise (v : Value) : Bare Outcome := do
        let heap := (← get).heap
        let leaving := match v with
          | .object r => match (heap.getD r default).kind with
            | .leaving x => some x
            | _ => none
          | _ => none
        match caughtBy leaving.isSome v f callers with
        | some (g, more) => loop runner fuel g more
        | none =>
          match leaving with
          | some x => return .returned x
          | none => throw (.thrown v)
      -- goes on after an action, or with what it throws
      let after (a : Action Frame) : Bare Outcome := fun w =>
        match a k w with
        | (.ok g, w) => loop runner fuel g callers w
        | (.error (.thrown v), w) => raise v w
        | (.error e, w) => (.error e, w)
      let fail (a : Action Value) : Bare Outcome := fun w =>
        match a k w with
        | (.ok v, w) => raise v w
        | (.error (.thrown v), w) => raise v w
        | (.error e, w) => (.error e, w)
      let enterCall (g this : Value) (args : List Value) (rest : List Value) (shown : String) :
          Bare Outcome := fun w =>
        let back : Frame := { f with pc := f.pc + 1, stack := rest }
        match g with
        | .object r =>
          match (w.heap.getD r default).kind with
          | .closure c =>
            let code := w.codes.getD c.code default
            if code.async || code.generator || code.constructs then
              after (do return { back with stack := (← k.call g this args) :: rest }) w
            else if frameLimit ≤ callers.length then
              fail (newError "RangeError" "Maximum call stack size exceeded") w
            else loop runner fuel (frameOf w r c this args) (back :: callers) w
          | .plain | .array _ | .error | .boxed _ | .map .. | .set .. | .promise _
          | .generator .. | .walk _ | .regex _ | .date _ | .typed .. =>
            fail (newError "TypeError" (shown ++ " is not a function")) w
          | _ => after (do return { back with stack := (← k.call g this args) :: rest }) w
        | _ => fail (newError "TypeError" (shown ++ " is not a function")) w
      match f.ops.getD f.pc .give, f.stack with
      | .call n shown, stack =>
        let args := (stack.take n).reverse
        match stack.drop n with
        | g :: this :: rest => enterCall g this args rest shown w
        | _ => (.error .never, w)
      | .callAll shown, a :: g :: this :: rest =>
        match a with
        | .object r =>
          let items := (((w.heap.getD r default).kind.items?).getD #[]).toList.map Value.filled
          enterCall g this items rest shown w
        | _ => (.error .never, w)
      | .new n shown, stack =>
        let args := (stack.take n).reverse
        match stack.drop n with
        | g :: rest =>
          after (do
            let v ← constructShown shown g args
            return { f with pc := f.pc + 1, stack := v :: rest }) w
        | _ => (.error .never, w)
      | .newAll shown, a :: g :: rest =>
        after (do
          let items ← itemsOf a
          let v ← constructShown shown g (items.map Value.filled).toList
          return { f with pc := f.pc + 1, stack := v :: rest }) w
      | .superCall, a :: rest =>
        after (do
          let items ← itemsOf a
          let parent := match f.function with
            | .object r => (w.heap.getD r default).proto
            | _ => .undefined
          let v ← fun k => k.construct parent (items.map Value.filled).toList f.newTarget
          match ← closureOf? f.function with
          | some c => initFields v c.fields
          | none => pure ()
          return { f with pc := f.pc + 1, stack := v :: rest, this := v }) w
      | .getGlobal name, stack =>
        after (do
          let v ← globalValue name
          return { f with pc := f.pc + 1, stack := v :: stack }) w
      | .give, stack =>
        let v := stack.headD .undefined
        let result : Action Value := if f.constructing then constructed f else pure v
        match callers with
        | [] =>
          match result k w with
          | (.ok v, w) => (.ok (.returned v), w)
          | (.error (.thrown v), w) => raise v w
          | (.error e, w) => (.error e, w)
        | c :: more => loop runner fuel { c with stack := v :: c.stack } more w
      | .throw, v :: _ => raise v w
      | .yield, v :: rest =>
        (.ok (.yielded v { f with pc := f.pc + 1, stack := rest }), w)
      | .await, v :: rest =>
        (.ok (.awaited v { f with pc := f.pc + 1, stack := rest }), w)
      | op, _ =>
        let strict := (w.codes.getD f.code default).strict
        after (simpleStep strict op f) w
where
  constructShown (shown : String) (g : Value) (args : List Value) : Action Value := do
    let ok ← match g with
      | .object r => do
        match ← kindAt r with
        | .closure c =>
          let code := (← get).codes.getD c.code default
          pure (code.constructs ||
            !(code.arrow || code.method || code.async || code.generator))
        | .native _ "construct" _ => pure true
        | _ => pure false
      | _ => pure false
    unless ok do throwType (shown ++ " is not a constructor")
    construct g args
  globalValue (name : String) : Action Value := do
    match ← findProperty? chainLimit globalRef (.text name) with
    | some { value, access := none, .. } => return value
    | some _ => getText (.object globalRef) name
    | none => throwNew "ReferenceError" (name ++ " is not defined")

/-- How functions are called with so much fuel. -/
def callsOf (runner : Runner) : Nat → Calls
  | 0 =>
    { call := fun _ _ _ => throw .never, construct := fun _ _ _ => throw .never
      resume := fun _ _ => throw .never, evaluate := fun _ => throw .never, runner }
  | fuel + 1 =>
    { call := fun f this args => callValue runner fuel f this args
      construct := fun f args target => constructValue runner fuel f args target
      resume := fun r how => resumeFrame runner fuel r how
      evaluate := fun s => evaluateSource runner fuel s
      runner }

def callValue (runner : Runner) : Nat → Value → Value → List Value → Bare Value
  | 0, _, _, _ => throw .never
  | fuel + 1, f, this, args => fun w =>
    let k : Calls := callsOf runner fuel
    if nativeLimit ≤ w.depth then
      (newError "RangeError" "Maximum call stack size exceeded" >>= throwValue) k w
    else
      let deeper (b : Bare Value) : Bare Value := fun w =>
        let depth := w.depth
        let (r, w) := b { w with depth := depth + 1 }
        (r, { w with depth })
      match f with
      | .object r =>
        let o := w.heap.getD r default
        match o.kind with
        | .native family name _ => deeper (fun w => nativeCall family name this args k w) w
        | .closure c =>
          let code := w.codes.getD c.code default
          let frame := frameOf w r c this args
          if code.constructs then
            throwType ("Class constructor " ++ code.name ++ " cannot be invoked without 'new'") k w
          else if code.generator then
            (do
              let proto ← getText f "prototype"
              let usual := protoRef (if code.async then "AsyncGenerator" else "Generator")
              let proto := match proto with
                | .object p => Value.object p
                | _ => .object usual
              allocValue
                { kind := .generator (some frame) false (if code.async then .bool true else .undefined) []
                  proto }) k w
          else if code.async then
            deeper (fun w => (do
              let p ← newPromise
              let g ← alloc { kind := .generator (some frame) false (.object p) [] }
              let _ ← fun k => k.resume g (.value .undefined)
              return Value.object p) k w) w
          else
            deeper (fun w =>
              match loop runner fuel frame [] w with
              | (.ok (.returned v), w) => (.ok v, w)
              | (.ok _, w) => (.ok .undefined, w)
              | (.error e, w) => (.error e, w)) w
        | _ => notFunction f k w
      | _ => notFunction f k w

def constructValue (runner : Runner) : Nat → Value → List Value → Value → Bare Value
  | 0, _, _, _ => throw .never
  | fuel + 1, f, args, target => fun w =>
    let k : Calls := callsOf runner fuel
    if nativeLimit ≤ w.depth then
      (newError "RangeError" "Maximum call stack size exceeded" >>= throwValue) k w
    else
      let deeper (b : Bare Value) : Bare Value := fun w =>
        let depth := w.depth
        let (r, w) := b { w with depth := depth + 1 }
        (r, { w with depth })
      match f with
      | .object r =>
        let o := w.heap.getD r default
        match o.kind with
        | .native family "construct" _ => deeper (fun w => nativeBuild family args target k w) w
        | .closure c =>
          let code := w.codes.getD c.code default
          deeper (fun w => (do
            let this ← if code.derived then pure Value.hole else do
              let proto ← protoFor target objectProto
              let this ← allocValue { proto }
              initFields this c.fields
              pure this
            let frame : Frame :=
              { frameOf (← get) r c this args with this, newTarget := target, constructing := true }
            fun _ w => match loop runner fuel frame [] w with
              | (.ok (.returned v), w) => (.ok v, w)
              | (.ok _, w) => (.ok .undefined, w)
              | (.error e, w) => (.error e, w)) k w) w
        | _ => throwType "not a constructor" k w
      | _ => throwType "not a constructor" k w

/-- Goes on with a function that has paused; tells its value and whether it is done. -/
def resumeFrame (runner : Runner) : Nat → Nat → Resumption → Bare (Value × Bool)
  | 0, _, _ => throw .never
  | fuel + 1, ref, how => fun w =>
    let k : Calls := callsOf runner fuel
    let set_ (frame : Option Frame) (running : Bool) : Action Unit :=
      modifyObject ref fun o => match o.kind with
        | .generator _ _ result requests => { o with kind := .generator frame running result requests }
        | _ => o
    match (w.heap.getD ref default).kind with
    | .generator frame? running result requests =>
      let isAsync := match result with
        | .object _ => true
        | _ => false
      -- what is done with the outcome of the frame
      let finish (outcome : Except Value Outcome) : Action (Value × Bool) := do
        match outcome with
        | .ok (.awaited v g) =>
          set_ (some g) true
          let p ← promiseFor v
          subscribe p ⟨.undefined, .undefined, .undefined, some ref⟩
          return (.undefined, false)
        | .ok (.yielded v g) =>
          set_ (some g) false
          return (v, false)
        | .ok (.returned v) =>
          set_ none false
          match result with
          | .object p => resolvePromise p v
          | _ => pure ()
          return (v, true)
        | .error v =>
          set_ none false
          throwValue v
      match frame? with
      | none =>
        (match how with
          | .value _ => return (.undefined, true)
          | .thrown v => throwValue v
          | .left v => return (v, true) : Action (Value × Bool)) k w
      | some frame =>
        if running && !isAsync then throwType "Generator is already running" k w
        else
          let w := { w with heap := w.heap.modify ref fun o =>
            { o with kind := .generator none true result requests } }
          let depth := w.depth
          if nativeLimit ≤ depth then
            (newError "RangeError" "Maximum call stack size exceeded" >>= throwValue) k w
          else
          let w := { w with depth := depth + 1 }
          let started := frame.pc ≠ 0
          let raise (v : Value) (leaving : Bool) : Bare Outcome :=
            match caughtBy leaving v frame [] with
            | some (g, more) => if started then loop runner fuel g more else throw (.thrown v)
            | none => throw (.thrown v)
          let run : Bare Outcome := match how with
            | .value v =>
              loop runner fuel (if started then { frame with stack := v :: frame.stack } else frame) []
            | .thrown v => raise v false
            | .left v =>
              if frame.handlers.any (·.final) then fun w =>
                let (r, w) := (w.heap.size, { w with heap := w.heap.push { kind := .leaving v } })
                raise (.object r) true w
              else return .returned v
          match run w with
          | (.ok outcome, w) => finish (.ok outcome) k { w with depth }
          | (.error (.thrown v), w) => finish (.error v) k { w with depth }
          | (.error e, w) => (.error e, { w with depth })
    | _ => (.ok (.undefined, true), w)

/-- Reads a program and gives its value. -/
def evaluateSource (runner : Runner) : Nat → String → Bare Value
  | 0, _ => throw .never
  | fuel + 1, source => fun w =>
    let k : Calls := callsOf runner fuel
    match readProgram source.toList with
    | .error m => throwNew "SyntaxError" m k w
    | .ok ss =>
      match compileProgram w.codes [] (givingLast ss) with
      | .error m => throwNew "SyntaxError" m k w
      | .ok codes =>
        let w := { w with codes }
        let id := codes.size - 1
        let frame : Frame :=
          { code := id, ops := (codes.getD id default).ops, scope := 0, this := .object globalRef
            function := .undefined, args := [] }
        match loop runner fuel frame [] w with
        | (.ok (.returned v), w) => (.ok v, w)
        | (.ok _, w) => (.ok .undefined, w)
        | (.error e, w) => (.error e, w)

end

end Flowboard.Prototype
