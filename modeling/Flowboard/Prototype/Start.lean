import Flowboard.Prototype.Run

/-! What programs with prototypes find when they start, and how they go on until nothing is left to
be done. -/
namespace Flowboard.Prototype

def methodTable : List (String × List String) :=
  [("Object", ["hasOwnProperty", "isPrototypeOf", "propertyIsEnumerable", "toString",
      "toLocaleString", "valueOf", "__defineGetter__"]),
   ("Function", ["call", "apply", "bind", "toString"]),
   ("Array", ["at", "concat", "copyWithin", "entries", "every", "fill", "filter", "find",
      "findIndex", "findLast", "findLastIndex", "flat", "flatMap", "forEach", "includes", "indexOf",
      "join", "keys", "lastIndexOf", "map", "pop", "push", "reduce", "reduceRight", "reverse",
      "shift", "slice", "some", "sort", "splice", "toLocaleString", "toReversed", "toSorted",
      "toSpliced", "toString", "unshift", "values", "with"]),
   ("String", ["at", "charAt", "charCodeAt", "codePointAt", "concat", "endsWith", "includes",
      "indexOf", "lastIndexOf", "localeCompare", "match", "matchAll", "normalize", "padEnd",
      "padStart", "repeat", "replace", "replaceAll", "search", "slice", "split", "startsWith",
      "substr", "substring", "toLocaleLowerCase", "toLocaleUpperCase", "toLowerCase", "toString",
      "toUpperCase", "trim", "trimEnd", "trimLeft", "trimRight", "trimStart", "valueOf",
      "isWellFormed", "toWellFormed"]),
   ("Number", ["toExponential", "toFixed", "toLocaleString", "toPrecision", "toString", "valueOf"]),
   ("Boolean", ["toString", "valueOf"]),
   ("BigInt", ["toString", "toLocaleString", "valueOf"]),
   ("Symbol", ["toString", "valueOf"]),
   ("Error", ["toString"]),
   ("Map", ["clear", "delete", "entries", "forEach", "get", "has", "keys", "set", "values"]),
   ("Set", ["add", "clear", "delete", "difference", "entries", "forEach", "has", "intersection",
      "isDisjointFrom", "isSubsetOf", "isSupersetOf", "keys", "symmetricDifference", "union",
      "values"]),
   ("WeakMap", ["delete", "get", "has", "set"]),
   ("WeakSet", ["add", "delete", "has"]),
   ("WeakRef", ["deref"]),
   ("Promise", ["then", "catch", "finally"]),
   ("RegExp", ["exec", "test", "toString"]),
   ("Date", ["getDate", "getDay", "getFullYear", "getHours", "getMilliseconds", "getMinutes",
      "getMonth", "getSeconds", "getTime", "getTimezoneOffset", "getUTCDate", "getUTCDay",
      "getUTCFullYear", "getUTCHours", "getUTCMilliseconds", "getUTCMinutes", "getUTCMonth",
      "getUTCSeconds", "getYear", "setDate", "setFullYear", "setHours", "setMilliseconds",
      "setMinutes", "setMonth", "setSeconds", "setTime", "setUTCDate", "setUTCFullYear",
      "setUTCHours", "setUTCMilliseconds", "setUTCMinutes", "setUTCMonth", "setUTCSeconds",
      "toDateString", "toISOString", "toJSON", "toLocaleDateString", "toLocaleString",
      "toLocaleTimeString", "toString", "toTimeString", "toUTCString", "valueOf"]),
   ("ArrayBuffer", ["slice"]),
   ("Uint8Array", ["set", "subarray"]), ("Int8Array", ["set", "subarray"]),
   ("Uint16Array", ["set", "subarray"]), ("Int16Array", ["set", "subarray"]),
   ("Uint32Array", ["set", "subarray"]), ("Int32Array", ["set", "subarray"]),
   ("Float32Array", ["set", "subarray"]), ("Float64Array", ["set", "subarray"]),
   ("Uint8ClampedArray", ["set", "subarray"]), ("BigInt64Array", ["set", "subarray"]),
   ("BigUint64Array", ["set", "subarray"]),
   ("Buffer", ["toString", "toJSON", "equals", "readUInt8", "readUInt16BE", "readUInt32BE",
      "readUInt16LE", "readUInt32LE"])]

def staticTable : List (String × List String) :=
  [("Object", ["assign", "create", "defineProperties", "defineProperty", "entries", "freeze",
      "fromEntries", "getOwnPropertyDescriptor", "getOwnPropertyDescriptors", "getOwnPropertyNames",
      "getOwnPropertySymbols", "getPrototypeOf", "groupBy", "hasOwn", "is", "isExtensible",
      "isFrozen", "isSealed", "keys", "preventExtensions", "seal", "setPrototypeOf", "values"]),
   ("Function", []), ("Array", ["from", "isArray", "of"]),
   ("String", ["fromCharCode", "fromCodePoint", "raw"]),
   ("Number", ["isFinite", "isInteger", "isNaN", "isSafeInteger"]),
   ("Boolean", []), ("BigInt", ["asIntN", "asUintN"]), ("Symbol", ["for", "keyFor"]),
   ("Error", ["captureStackTrace"]), ("TypeError", []), ("RangeError", []), ("SyntaxError", []),
   ("ReferenceError", []), ("EvalError", []), ("URIError", []), ("AggregateError", []),
   ("Map", ["groupBy"]), ("Set", []), ("WeakMap", []), ("WeakSet", []), ("WeakRef", []),
   ("Promise", ["all", "allSettled", "any", "race", "reject", "resolve", "withResolvers", "try"]),
   ("RegExp", []), ("Date", ["now", "parse", "UTC"]), ("Proxy", ["revocable"]), ("ArrayBuffer", []),
   ("Uint8Array", ["from", "of"]), ("Int8Array", ["from", "of"]), ("Uint16Array", ["from", "of"]),
   ("Int16Array", ["from", "of"]), ("Uint32Array", ["from", "of"]), ("Int32Array", ["from", "of"]),
   ("Float32Array", ["from", "of"]), ("Float64Array", ["from", "of"]),
   ("Uint8ClampedArray", ["from", "of"]), ("BigInt64Array", ["from", "of"]),
   ("BigUint64Array", ["from", "of"]),
   ("Buffer", ["from", "alloc", "allocUnsafe", "concat", "byteLength", "isBuffer", "compare"])]

/-- Properties that are computed. -/
def getterTable : List (String × List String) :=
  [("Map", ["size"]), ("Set", ["size"]), ("Symbol", ["description"]),
   ("RegExp", ["source", "flags", "global", "ignoreCase", "multiline", "sticky", "unicode",
      "dotAll"]),
   ("ArrayBuffer", ["byteLength"])]

/-- Objects that are only places for functions. -/
def placeTable : List (String × String × List String) :=
  [("Math", "Math", ["abs", "acos", "acosh", "asin", "asinh", "atan", "atan2", "atanh", "cbrt",
      "ceil", "clz32", "cos", "cosh", "exp", "expm1", "floor", "fround", "hypot", "imul", "log",
      "log10", "log1p", "log2", "max", "min", "pow", "random", "round", "sign", "sin", "sinh",
      "sqrt", "tan", "tanh", "trunc"]),
   ("JSON", "JSON", ["parse", "stringify"]),
   ("Reflect", "Reflect", ["apply", "construct", "defineProperty", "deleteProperty", "get",
      "getOwnPropertyDescriptor", "getPrototypeOf", "has", "isExtensible", "ownKeys",
      "preventExtensions", "set", "setPrototypeOf"]),
   ("console", "console", ["log", "info", "debug", "error", "warn", "trace", "dir", "table", "group",
      "groupCollapsed", "groupEnd", "assert", "count", "countReset", "time", "timeEnd", "timeLog"])]

/-- Functions without an object, by what they belong to. -/
def plainFunctions : List (String × List String) :=
  [("Timer", ["setTimeout", "setInterval", "setImmediate", "clearTimeout", "clearInterval",
      "clearImmediate", "queueMicrotask"]),
   ("tool", ["structuredClone", "atob", "btoa", "parseInt", "parseFloat", "isNaN", "isFinite",
      "encodeURIComponent", "encodeURI", "decodeURIComponent", "decodeURI", "escape", "unescape",
      "eval"]),
   ("require", ["require"])]

def fileFunctions : List String :=
  ["readFileSync", "writeFileSync", "appendFileSync", "existsSync", "accessSync", "mkdirSync",
   "mkdtempSync", "readdirSync", "unlinkSync", "rmSync", "rmdirSync", "renameSync", "copyFileSync",
   "statSync", "lstatSync", "realpathSync", "chmodSync"]

def parentOf (name : String) : Nat :=
  if ["TypeError", "RangeError", "SyntaxError", "ReferenceError", "EvalError", "URIError",
      "AggregateError", "AssertionError"].contains name then protoRef "Error"
  else if name == "Buffer" then protoRef "Uint8Array"
  else if name.endsWith "Array" && name != "Array" then arrayProto
  else if ["Generator", "Array Iterator", "Map Iterator", "Set Iterator", "String Iterator",
      "RegExp String Iterator", "Iterator Helper"].contains name then protoRef "Iterator"
  else if ["GeneratorFunction", "AsyncFunction", "AsyncGeneratorFunction"].contains name then
    functionProto
  else objectProto

/-- Classes whose objects say what they are. -/
def taggedClasses : List String :=
  ["Map", "Set", "WeakMap", "WeakSet", "WeakRef", "Promise", "Symbol", "BigInt", "Generator",
   "AsyncGenerator", "Array Iterator", "Map Iterator", "Set Iterator", "String Iterator",
   "RegExp String Iterator", "Iterator Helper", "GeneratorFunction", "AsyncFunction",
   "AsyncGeneratorFunction", "ArrayBuffer"]

def putNatives (ref : Nat) (family : String) (names : List String) (shown : Bool) : Action Unit := do
  for n in names do
    let f ← native family n []
    putOwn ref (.text n) { value := f, shown }

def makeClasses : Action Unit := do
  for (n, i) in classNames.zipIdx do
    let proto : Value := if i = objectProto then .null else .object (parentOf n)
    let _ ← alloc { proto }
    pure ()
  modify fun w => { w with
    symbols := (knownSymbols.map fun s => some ("Symbol." ++ s)).toArray
    scopes := #[⟨#[], 0⟩] }
  for (n, names) in methodTable do putNatives (protoRef n) n names false
  for (n, names) in staticTable do
    let parent ← if n.endsWith "Error" && n != "Error" then getText (.object globalRef) "Error"
      else pure (.object functionProto)
    let c ← alloc { kind := .native n "construct" [], proto := parent }
    putNatives c n names false
    putOwn c (.text "prototype")
      { value := .object (protoRef n), shown := false, writable := false, configurable := false }
    if n != "Proxy" then putHidden (protoRef n) "constructor" (.object c)
    putHidden globalRef n (.object c)
  for (n, names) in getterTable do
    for g in names do
      let f ← native n g []
      putOwn (protoRef n) (.text g) { access := some (f, .undefined), shown := false }
  for n in taggedClasses do
    putOwn (protoRef n) (knownSymbol "toStringTag") (fixedProperty (.text n))
  for n in ["Error", "TypeError", "RangeError", "SyntaxError", "ReferenceError", "EvalError",
      "URIError", "AggregateError"] do
    putHidden (protoRef n) "name" (.text n)
    putHidden (protoRef n) "message" (.text "")
  -- walks
  let hidden (ref : Nat) (n : Name) (v : Value) : Action Unit :=
    putOwn ref n { value := v, shown := false }
  for n in ["Array", "Map", "Set"] do
    let f ← getText (.object (protoRef n)) (if n == "Map" then "entries" else "values")
    hidden (protoRef n) iteratorSymbol f
  hidden (protoRef "String") iteratorSymbol (← native "String" "iterator" [])
  let self ← native "self" "[Symbol.iterator]" []
  hidden (protoRef "Iterator") iteratorSymbol self
  hidden (protoRef "AsyncGenerator") (knownSymbol "asyncIterator") self
  for n in ["Array Iterator", "Map Iterator", "Set Iterator", "String Iterator",
      "RegExp String Iterator", "Iterator Helper"] do
    putNatives (protoRef n) "Walk" ["next"] false
  putNatives (protoRef "Iterator Helper") "Walk" ["return"] false
  putNatives (protoRef "Iterator") "Walk"
    ["map", "filter", "take", "drop", "toArray", "forEach", "reduce", "some", "every", "find",
     "flatMap"] false
  for n in ["Generator", "AsyncGenerator"] do
    putNatives (protoRef n) "Generator" ["next", "return", "throw"] false
  let dateText ← native "Date" "toPrimitive" []
  hidden (protoRef "Date") (knownSymbol "toPrimitive") dateText
  hidden functionProto (knownSymbol "hasInstance") (← native "Function" "hasInstance" [])
  putNatives (protoRef "Timeout") "Timer" ["unref", "ref", "hasRef", "refresh"] false
  putNatives (protoRef "Stats") "fs" ["isDirectory", "isFile", "isSymbolicLink"] false
  for n in ["Timeout", "Immediate", "Stats"] do
    let c ← native n "construct" []
    putHidden (protoRef n) "constructor" c
  for n in ["GeneratorFunction", "AsyncFunction", "AsyncGeneratorFunction"] do
    let c ← native n "construct" []
    putHidden (protoRef n) "constructor" c

/-- Makes what a program finds without asking. -/
def makeGlobals (path : String) (args : List String) : Action Unit := do
  let global := Value.object globalRef
  for (place, family, names) in placeTable do
    let o ← alloc { proto := .object objectProto }
    putNatives o family names (family == "console")
    if family != "console" then
      putOwn o (knownSymbol "toStringTag") (fixedProperty (.text place))
    putHidden globalRef place (.object o)
  for (family, names) in plainFunctions do putNatives globalRef family names false
  match ← getText global "Math" with
  | .object m =>
    for (n, x) in [("PI", 3.141592653589793), ("E", 2.718281828459045), ("LN2", 0.6931471805599453),
        ("LN10", 2.302585092994046), ("LOG2E", 1.4426950408889634), ("LOG10E", 0.4342944819032518),
        ("SQRT2", 1.4142135623730951), ("SQRT1_2", 0.7071067811865476)] do
      putOwn m (.text n) (fixedProperty (.number x))
  | _ => pure ()
  match ← getText global "Number" with
  | .object n =>
    for (k, x) in [("EPSILON", 2.220446049250313e-16), ("MAX_SAFE_INTEGER", 9007199254740991.0),
        ("MIN_SAFE_INTEGER", -9007199254740991.0), ("MAX_VALUE", 1.7976931348623157e308),
        ("MIN_VALUE", Float.ofBits 1), ("POSITIVE_INFINITY", infinity),
        ("NEGATIVE_INFINITY", -infinity), ("NaN", notANumber)] do
      putOwn n (.text k) (fixedProperty (.number x))
    for k in ["parseInt", "parseFloat"] do putHidden n k (← getText global k)
  | _ => pure ()
  match ← getText global "Symbol" with
  | .object s =>
    for (k, i) in knownSymbols.zipIdx do putOwn s (.text k) (fixedProperty (.symbol i))
  | _ => pure ()
  putHidden globalRef "globalThis" global
  putHidden globalRef "global" global
  putOwn globalRef (.text "NaN") (fixedProperty (.number notANumber))
  putOwn globalRef (.text "Infinity") (fixedProperty (.number infinity))
  putOwn globalRef (.text "undefined") (fixedProperty .undefined)
  -- what libraries are built on
  let show_ ← native "tool" "inspect" []
  putOwn globalRef (.hidden "show") { value := show_, shown := false }
  let tool ← alloc { proto := .object objectProto }
  putNatives tool "tool" ["inspect", "format", "command", "digest", "kindOf"] true
  putNatives tool "process" ["readAll"] true
  let fs ← alloc { proto := .object objectProto }
  putNatives fs "fs" fileFunctions true
  putOwn tool (.text "fs") (dataProperty (.object fs))
  putOwn globalRef (.hidden "tool") { value := .object tool, shown := false }
  -- the program itself
  let p ← alloc { proto := .object objectProto }
  let exports ← newObject
  let m ← objectOf [("exports", exports), ("id", .text "."), ("children", ← newArray #[])]
  putHidden globalRef "module" m
  putHidden globalRef "exports" exports
  putHidden globalRef "__filename" (.text path)
  let dir := "/".intercalate (path.splitOn "/").dropLast
  putHidden globalRef "__dirname" (.text (if dir == "" then "/" else dir))
  match ← getText global "require" with
  | .object r => putOwn r (.text "main") (dataProperty m)
  | _ => pure ()
  putOwn p (knownSymbol "toStringTag") (fixedProperty (.text "process"))
  for (k, v) in [("version", "v18.19.0"), ("platform", "linux"), ("arch", "x64"), ("title", "node"),
      ("execPath", "/usr/bin/node")] do
    putOwn p (.text k) (dataProperty (.text v))
  putOwn p (.text "pid") (dataProperty (.number 4242.0))
  putOwn p (.text "ppid") (dataProperty (.number 4241.0))
  putOwn p (.text "versions") (dataProperty (← objectOf [("node", .text "18.19.0")]))
  putOwn p (.text "argv") (dataProperty
    (← newArray (([("/usr/bin/node" : String)] ++ args).map Value.text).toArray))
  putOwn p (.text "execArgv") (dataProperty (← newArray #[]))
  putOwn p (.text "exitCode") (dataProperty .undefined)
  putOwn p (.text "env") (dataProperty
    (← objectOf ((← get).environment.map fun (k, v) => (k, Value.text v))))
  putNatives p "process" ["exit", "cwd", "uptime", "hrtime", "memoryUsage", "emitWarning"] true
  putNatives p "Timer" ["nextTick"] true
  for n in ["on", "once", "addListener"] do
    putOwn p (.text n) (dataProperty (← native "process" "listen" []))
  for n in ["off", "removeListener", "removeAllListeners"] do
    putOwn p (.text n) (dataProperty (← native "self" n []))
  match ← getText (.object p) "hrtime" with
  | .object h => putOwn h (.text "bigint") (dataProperty (← native "process" "bigint" []))
  | _ => pure ()
  for (n, fd) in [("stdout", 1.0), ("stderr", 2.0)] do
    let s ← objectOf [("fd", .number fd), ("isTTY", .bool false)]
    match s with
    | .object r =>
      putOwn r (.text "write") (dataProperty (← native "process" n []))
      putOwn r (.text "end") (dataProperty (← native "undefined" "end" []))
      putNatives r "self" ["on", "once"] true
    | _ => pure ()
    putOwn p (.text n) (dataProperty s)
  putHidden globalRef "process" (.object p)

def lazyNames : List (String × String) :=
  [("TextEncoder", "globals"), ("TextDecoder", "globals"), ("AbortController", "globals"),
   ("AbortSignal", "globals"), ("Event", "globals"), ("EventTarget", "globals"),
   ("performance", "globals"), ("URL", "url"), ("URLSearchParams", "url")]

/-- Makes what is read only when a program asks for it. -/
def makeLazy : Action Unit := do
  for (n, lib) in lazyNames do
    let f ← native "lazy" n [.text lib]
    putOwn globalRef (.text n) { access := some (f, .undefined), shown := false }
  match ← getText (.object globalRef) "process" with
  | .object p =>
    let f ← native "lazy" "" [.text "stdin"]
    putOwn p (.text "stdin") { access := some (f, .undefined) }
  | _ => pure ()

/-- How a program is started. -/
structure Setting where
  path : String
  args : List String
  environment : List (String × String)
  input : Pipe
  files : FileSystem
  runner : Runner

/-- How many steps a program may take. -/
def patienceOfRuns : Nat := 30000000

/-- More fuel than any program uses up. -/
def fuelOfRuns : Nat := 1000000000000

def Setting.calls (s : Setting) : Calls :=
  callsOf s.runner fuelOfRuns

def performJob (j : Job) : Action Unit :=
  runJob j fun g how => do let _ ← fun k => k.resume g how

/-- Does the jobs of promises until none is left. Each one uses up one of the fuel. -/
def drainJobs : Nat → Action Unit
  | 0 => throw .never
  | fuel + 1 => do
    let w ← get
    match w.jobs, w.laterJobs with
    | j :: rest, _ =>
      set { w with jobs := rest }
      performJob j
      drainJobs fuel
    | [], [] => pure ()
    | [], later =>
      set { w with jobs := later.reverse, laterJobs := [] }
      drainJobs fuel

/-- Does all jobs that wait: first what is to be done before anything else. -/
def drain : Nat → Action Unit
  | 0 => throw .never
  | fuel + 1 => do
    let w ← get
    match w.ticks with
    | j :: rest =>
      set { w with ticks := rest }
      performJob j
      drain fuel
    | [] =>
      if w.jobs.isEmpty && w.laterJobs.isEmpty then pure ()
      else
        drainJobs fuel
        drain fuel

/-- Does what waits, and ends the program if a promise was rejected and nobody cares. -/
def drainAll : Action Unit := do
  drain fuelOfRuns
  match (← get).unhandled with
  | r :: _ =>
    match ← kindAt r with
    | .promise { state := .rejected v, .. } =>
      modify fun w => { w with unhandled := [] }
      match (← get).listeners.lookup "unhandledRejection" with
      | some f =>
        let _ ← call f .undefined [v, .object r]
        drain fuelOfRuns
      | none => throwValue v
    | _ => pure ()
  | [] => pure ()

def runTimer (t : Timer) : Action Unit := do
  let _ ← call t.function .undefined t.args
  drainAll

/-- Runs immediate functions and timers until none is left. -/
def eventLoop : Nat → Action Unit
  | 0 => throw .never
  | fuel + 1 => do
    let w ← get
    let due := w.timers.filter (·.due ≤ w.now)
    match due with
    | t :: rest =>
      -- the earliest one
      let t := rest.foldl (fun a b => if b.due < a.due then b else a) t
      let timers := w.timers.filterMap fun (x : Timer) =>
        if x.id != t.id then some x
        else t.every.map fun e => { t with due := w.now + e }
      set { w with timers }
      runTimer t
      eventLoop fuel
    | [] =>
      match w.immediates with
      | _ :: _ =>
        set { w with immediates := [] }
        for t in w.immediates do runTimer t
        eventLoop fuel
      | [] =>
        match w.timers with
        | [] => pure ()
        | t :: rest =>
          let next := rest.foldl (fun n x => min n x.due) t.due
          modify fun w => { w with now := max w.now next }
          eventLoop fuel

/-- The status that a program asks for. -/
def exitStatus : Action Int := do
  let p ← getText (.object globalRef) "process"
  match ← getText p "exitCode" with
  | .undefined | .null => return 0
  | v => return ((Script.truncated? (← toNumber v)).getD 0)

/-- Tells listeners that the program ends. -/
def tellEnd (status : Int) : Action Unit := do
  for (e, f) in (← get).listeners do
    if e == "exit" then
      let _ ← call f .undefined [.number ((Script.floatOfInt? status).getD 0.0)]

/-- Runs a whole program. The value of its last statement is written if it is asked for. -/
def runProgram (source : String) (writes : Bool) : Action Unit := do
  let v ← fun k => k.evaluate source
  if writes then writeLine false (← inLine v)
  drainAll
  modify fun w => { w with now := w.now + 1 }
  eventLoop fuelOfRuns
  for (e, f) in (← get).listeners do
    if e == "beforeExit" then
      let _ ← call f .undefined [.number 0.0]
  drainAll
  eventLoop fuelOfRuns

def Setting.world (s : Setting) : World :=
  { steps := patienceOfRuns, files := s.files, environment := s.environment, input := s.input }

/-- What a program does, and the files after it. -/
def Setting.perform (s : Setting) (source : String) (writes : Bool) : Activity × FileSystem :=
  let k := s.calls
  let boot : Action Unit := do
    makeClasses
    makeGlobals s.path s.args
    makeLazy
    modify fun w => { w with steps := patienceOfRuns }
  let body : Action Int := do
    runProgram source writes
    let status ← exitStatus
    tellEnd status
    exitStatus
  let (_, w) := boot k s.world
  let bytes (l : List String) : List UInt8 :=
    l.reverse.flatMap fun t =>
      Text.encode (t.map fun c => if Text.isHalf c then Char.ofNat 0xFFFD else c)
  let done (w : World) (ending : Ending) : Activity × FileSystem :=
    (⟨bytes w.output, bytes w.errors, ⟨w.now + 30⟩, ending⟩, w.files)
  match body k w with
  | (.ok status, w) => done w (.exit (.ofInt status))
  | (.error (.exit status), w) =>
    let (_, w) := tellEnd status k w
    done w (.exit (.ofInt status))
  | (.error .never, w) => done w .never
  | (.error (.thrown v), w) =>
    let fault : Action Unit := do
      match (← get).listeners.lookup "uncaughtException" with
      | some f => let _ ← call f .undefined [v, .text "uncaughtException"]
      | none =>
        let s' ← inspect {} v
        writeOut true (s.path ++ ":1\n\nUncaught:\n" ++ s' ++ "\n\nNode.js v18.19.0\n")
    let handled := (w.listeners.lookup "uncaughtException").isSome
    let (_, w) := fault k w
    done w (.exit (if handled then .success else .failure))

end Flowboard.Prototype
