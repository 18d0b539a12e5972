import Flowboard.Prototype.Numeric
import Flowboard.Text.Quoted
import Flowboard.Utility.Digest

/-! What maps, sets and walks can do, values as JSON, promises with what is done later, and what
programs read and write outside of themselves. -/
namespace Flowboard.Prototype

def changeEntries (ref : Nat) (f : Entries → Entries) : Action Unit :=
  modifyObject ref fun o => match o.kind with
    | .map m w => { o with kind := .map (f m) w }
    | .set m w => { o with kind := .set (f m) w }
    | _ => o

/-- A new map or set with what a walk gives. -/
def buildEntries (kind : String) (args : List Value) (newTarget : Value) : Action Value := do
  let proto ← protoFor newTarget (protoRef kind)
  let weak := kind.startsWith "Weak"
  let isMap := kind.endsWith "Map"
  let ref ← alloc { kind := if isMap then .map {} weak else .set {} weak, proto }
  match arg args 0 with
  | .undefined | .null => pure ()
  | source =>
    for v in ← valuesOf source do
      if isMap then
        match v with
        | .object _ =>
          let k ← getText v "0"
          let x ← getText v "1"
          changeEntries ref (·.insert k x)
        | v => throwType ("Iterator value " ++ (← describe v) ++ " is not an entry object")
      else changeEntries ref (·.insert v v)
  return .object ref

def isControl (c : Char) : Bool :=
  c.toNat < 32

def jsonText (s : String) : String :=
  let body := s.toList.flatMap fun c =>
    if c == '"' then ['\\', '"']
    else if c == '\\' then ['\\', '\\']
    else if c == '\n' then ['\\', 'n']
    else if c == '\r' then ['\\', 'r']
    else if c == '\t' then ['\\', 't']
    else if c == '\x08' then ['\\', 'b']
    else if c == '\x0c' then ['\\', 'f']
    else if isControl c || Text.isHalf c then
      let ds := Nat.toDigits 16 (Text.codePoint c)
      '\\' :: 'u' :: (List.replicate (4 - ds.length) '0' ++ ds)
    else [c]
  String.ofList ('"' :: (body ++ ['"']))

/-- What is kept while a value is written. -/
structure Writing where
  replacer : Value
  /-- the keys that are written, if not all are -/
  keys : Option (List String)
  gap : String

/-- A value as JSON, if it has such a form. Each level uses up one of the fuel. -/
def writeJson (w : Writing) :
    Nat → Value → String → String → List Nat → Action (Option String)
  | 0, _, _, _, _ => throwNew "RangeError" "Maximum call stack size exceeded"
  | fuel + 1, holder, key, indent, seen => do
    let v ← getText holder key
    let v ← match v with
      | .object _ | .bigint _ => do
        let f ← getText v "toJSON"
        if ← isCallable f then call f v [.text key] else pure v
      | v => pure v
    let v ← if w.replacer.isMissing then pure v else call w.replacer holder [.text key, v]
    let v ← match v with
      | .object r => do
        match ← kindAt r with
        | .boxed (.symbol _) => pure v
        | .boxed p => pure p
        | _ => pure v
      | v => pure v
    match v with
    | .null => return some "null"
    | .bool b => return some (if b then "true" else "false")
    | .number x => return some (if x.isFinite then numberText x else "null")
    | .text s => return some (jsonText s)
    | .bigint _ => throwType "Do not know how to serialize a BigInt"
    | .undefined | .hole | .symbol _ => return none
    | .object r =>
      if ← isCallable v then return none
      if seen.contains r then
        let name ← className 100 r
        throwType ("Converting circular structure to JSON\n    --> starting at object with " ++
          "constructor '" ++ name.getD "Object" ++ "'\n    --- property '" ++ key ++
          "' closes the circle")
      let inner := indent ++ w.gap
      let newline := if w.gap == "" then "" else "\n" ++ inner
      let wrap (a b : String) (parts : List String) : String :=
        if parts.isEmpty then a ++ b
        else if w.gap == "" then a ++ ",".intercalate parts ++ b
        else a ++ newline ++ (("," ++ newline).intercalate parts) ++ "\n" ++ indent ++ b
      if ← isArray v then
        let n ← lengthOf v
        let mut parts := #[]
        for i in [0:n] do
          let t ← writeJson w fuel v (Text.naturalText i) inner (r :: seen)
          parts := parts.push (t.getD "null")
        return some (wrap "[" "]" parts.toList)
      let keys ← match w.keys with
        | some ks => pure ks
        | none => shownKeys v
      let mut parts := #[]
      for k in keys do
        match ← writeJson w fuel v k inner (r :: seen) with
        | some t => parts := parts.push (jsonText k ++ (if w.gap == "" then ":" else ": ") ++ t)
        | none => pure ()
      return some (wrap "\x7b" "\x7d" parts.toList)

def stringify (v replacer : Value) : Action (Option String) := do
  let gap ← pure ""
  let keys ← if ← isArray replacer then do
      let ks ← (← itemsOf replacer).toList.mapM toText
      pure (some ks)
    else pure none
  let f ← if ← isCallable replacer then pure replacer else pure .undefined
  let holder ← objectOf [("", v)]
  writeJson ⟨f, keys, gap⟩ 3000 holder "" "" []

def jsonCall (name : String) (args : List Value) : Action Value := do
  match name with
  | "stringify" =>
    match ← stringify (arg args 0) (arg args 1) with
    | some s => return .text s
    | none => return .undefined
  | _ => return .undefined

def jsonInLine (v : Value) : Action String := do
  match ← attempt (stringify v .undefined) with
  | .ok (some s) => return s
  | .ok none => return "undefined"
  | .error _ => return "[Circular]"

def enqueue (j : Job) : Action Unit :=
  modify fun w => { w with laterJobs := j :: w.laterJobs }

def newPromise : Action Nat :=
  alloc { kind := .promise {}, proto := .object (protoRef "Promise") }

def promiseAt? (v : Value) : Action (Option (Nat × Promise)) := do
  match v with
  | .object r =>
    match ← kindAt r with
    | .promise p => return some (r, p)
    | _ => return none
  | _ => return none

def settle (ref : Nat) (s : Settled) : Action Unit := do
  match ← kindAt ref with
  | .promise p =>
    match p.state with
    | .pending =>
      setKind ref (.promise { p with state := s, reactions := [], resolved := true })
      for r in p.reactions do enqueue (.react r s)
      match s with
      | .rejected _ =>
        unless p.handled do modify fun w => { w with unhandled := w.unhandled ++ [ref] }
      | _ => pure ()
    | _ => pure ()
  | _ => pure ()

/-- Gives a promise its value, or binds it to another one. -/
def resolvePromise (ref : Nat) (v : Value) : Action Unit := do
  match v with
  | .object r =>
    if r = ref then
      let e ← newError "TypeError" "Chaining cycle detected for promise #<Promise>"
      settle ref (.rejected e)
    else
      match ← attempt (getText v "then") with
      | .error e => settle ref (.rejected e)
      | .ok f =>
        if ← isCallable f then
          match ← kindAt ref with
          | .promise p => setKind ref (.promise { p with resolved := true })
          | _ => pure ()
          enqueue (.resolve (.object ref) v f)
        else settle ref (.fulfilled v)
  | v => settle ref (.fulfilled v)

/-- Has a reaction follow when a promise is settled. -/
def subscribe (ref : Nat) (r : Reaction) : Action Unit := do
  match ← kindAt ref with
  | .promise p =>
    modify fun w => { w with unhandled := w.unhandled.filter (· != ref) }
    match p.state with
    | .pending =>
      setKind ref (.promise { p with reactions := p.reactions ++ [r], handled := true })
    | s =>
      setKind ref (.promise { p with handled := true })
      enqueue (.react r s)
  | _ => pure ()

/-- A promise for a value; promises stand for themselves. -/
def promiseFor (v : Value) : Action Nat := do
  match ← promiseAt? v with
  | some (r, _) => return r
  | none =>
    let p ← newPromise
    resolvePromise p v
    return p

/-- The promise of what functions give for the outcome of a promise. -/
def thenPromise (ref : Nat) (fulfilled rejected : Value) : Action Value := do
  let target ← newPromise
  subscribe ref ⟨.object target, fulfilled, rejected, none⟩
  return .object target

def runJob (j : Job) (resume : Nat → Resumption → Action Unit) : Action Unit := do
  match j with
  | .resolve (.object target) thenable f =>
    match ← promiseAt? thenable, f with
    | some (r, _), .object g =>
      match ← kindAt g with
      | .native "Promise" _ _ => subscribe r ⟨.object target, .undefined, .undefined, none⟩
      | _ => foreign target thenable f
    | _, _ => foreign target thenable f
  | .resolve .. => pure ()
  | .react r s =>
    match r.waiting, s with
    | some g, .fulfilled v => resume g (.value v)
    | some g, .rejected v => resume g (.thrown v)
    | some _, .pending => pure ()
    | none, s =>
      let (handler, v, failed) := match s with
        | .fulfilled v => (r.fulfilled, v, false)
        | .rejected v => (r.rejected, v, true)
        | .pending => (.undefined, .undefined, false)
      let outcome ← if ← isCallable handler then attempt (call handler .undefined [v])
        else pure (if failed then .error v else .ok v)
      match r.target, outcome with
      | .object t, .ok x => resolvePromise t x
      | .object t, .error x => settle t (.rejected x)
      | _, _ => pure ()
where
  foreign (target : Nat) (thenable f : Value) : Action Unit := do
    let flag ← alloc { kind := .boxed (.bool false) }
    let a ← native "Settler" "resolveOnce" [.object target, .object flag]
    let b ← native "Settler" "rejectOnce" [.object target, .object flag]
    match ← attempt (call f thenable [a, b]) with
    | .ok _ => pure ()
    | .error _ =>
      let _ ← kindAt flag
      pure ()

def promiseCall (name : String) (this : Value) (args : List Value) : Action Value := do
  let a := arg args 0
  let own : Action Nat := do
    match ← promiseAt? this with
    | some (r, _) => return r
    | none => throwType ("Method Promise.prototype." ++ name ++
        " called on incompatible receiver " ++ (← describe this))
  match name with
  | "then" => thenPromise (← own) a (arg args 1)
  | "resolve" => return .object (← promiseFor a)
  | "reject" =>
    let p ← newPromise
    settle p (.rejected a)
    return .object p
  | _ => return .undefined

def addTimer (args : List Value) (repeats : Bool) : Action Value := do
  let f := arg args 0
  unless ← isCallable f do
    let s ← inspect {} f
    throwType ("The \"callback\" argument must be of type function. Received " ++ s)
  let x ← toNumber (arg args 1)
  let ms := if x.isNaN || x < 1.0 || 2147483647.0 < x then 1 else x.toUInt64.toNat
  let w ← get
  let t : Timer := ⟨w.fresh, w.now + ms, if repeats then some ms else none, f, args.drop 2⟩
  set { w with timers := w.timers ++ [t], fresh := w.fresh + 1 }
  let r ← alloc { proto := .object (protoRef "Timeout") }
  putHidden r "id" (natValue t.id)
  return .object r

def timerCall (name : String) (this : Value) (args : List Value) : Action Value := do
  match name with
  | "setTimeout" => addTimer args false
  | _ => return this

def writeOut (errors : Bool) (s : String) : Action Unit :=
  modify fun w => if errors then { w with errors := s :: w.errors }
    else { w with output := s :: w.output }

/-- Writes a line, indented as groups say. -/
def writeLine (errors : Bool) (s : String) : Action Unit := do
  let indent := (← get).indent
  let s := if indent = 0 then s else
    spaces indent ++ s.replace "\n" ("\n" ++ spaces indent)
  writeOut errors (s ++ "\n")

def consoleCall (name : String) (args : List Value) : Action Value := do
  match name with
  | "log" | "info" | "debug" => writeLine false (← formatLine jsonInLine args)
  | "error" | "warn" => writeLine true (← formatLine jsonInLine args)
  | _ => pure ()
  return .undefined

def processCall (name : String) (args : List Value) : Action Value := do
  let a := arg args 0
  match name with
  | "exit" =>
    let status ← toInteger a
    throw (.exit ((Script.truncated? status).getD 0))
  | _ => return .undefined

/-- Other functions that libraries are built on. -/
def toolCall (name : String) (args : List Value) : Action Value := do
  let a := arg args 0
  match name with
  | "parseInt" =>
    let base ← toInteger (arg args 1)
    return .number (leadingInteger (← toText a) (if base < 0.0 then 1 else base.toUInt64.toNat))
  | _ => return .undefined

end Flowboard.Prototype
