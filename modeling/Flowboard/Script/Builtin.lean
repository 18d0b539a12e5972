import Flowboard.Script.Attribute
import Flowboard.Script.Diagnosis
import Flowboard.Script.Library

/-! The functions and types that are always there. -/
namespace Flowboard.Script

/-- What is known about a name in a scope and those around it. -/
inductive Sighting where
  | value (v : Value)
  /-- the scope binds it later -/
  | early
  /-- a scope around it binds it later -/
  | earlyOutside
  | unknown

def scopeDepth : Nat := 1000

/-- The scope of the module around a scope. -/
def rootOf (scopes : Array Scope) : Nat → Nat → Nat
  | 0, _ => 0
  | fuel + 1, i =>
    match scopes[i]? with
    | none => 0
    | some s => if s.ofModule then i else rootOf scopes fuel s.parent

/-- Looks for a name from a scope outwards. Functions do not see what classes around them bind. -/
def sight (scopes : Array Scope) (name : String) : Nat → Bool → Nat → Sighting
  | 0, _, _ => .unknown
  | fuel + 1, inside, i =>
    match scopes[i]? with
    | none => .unknown
    | some s =>
      let visible := !inside || !s.ofClass || name == "__class__"
      match if visible then s.bindings.get? name else none with
      | some v => .value v
      | none =>
        if s.ofModule then .unknown
        else if s.names.own.contains name && !s.ofClass then
          if inside then .earlyOutside else .early
        else if s.names.outermost.contains name then
          match (scopes[rootOf scopes scopeDepth i]?).bind fun g => g.bindings.get? name with
          | some v => .value v
          | none => .unknown
        else sight scopes name fuel (inside || !s.ofComprehension) s.parent

def lookName (name : String) : Action Value := do
  let w ← get
  match sight w.scopes name scopeDepth false w.scope with
  | .value v => return v
  | .early =>
    Action.raise "UnboundLocalError" ("cannot access local variable '" ++ name ++
      "' where it is not associated with a value")
  | .earlyOutside =>
    Action.raise "NameError" ("cannot access free variable '" ++ name ++
      "' where it is not associated with a value in enclosing scope")
  | .unknown =>
    match (w.shared.get? ("builtins." ++ name)).or (coreValue? name) with
    | some v => return v
    | none => Action.raise "NameError" ("name '" ++ name ++ "' is not defined")

def ownerOf (scopes : Array Scope) (name : String) : Nat → Nat → Nat
  | 0, _ => 0
  | fuel + 1, i =>
    match scopes[i]? with
    | none => 0
    | some s =>
      if s.ofModule then i
      else if !s.ofClass && (s.names.own.contains name || s.bindings.contains name) then i
      else ownerOf scopes name fuel s.parent

def scopeFor (scopes : Array Scope) (name : String) (i : Nat) : Nat :=
  match scopes[i]? with
  | none => 0
  | some s =>
    if s.names.outermost.contains name then rootOf scopes scopeDepth i
    else if s.names.outer.contains name then ownerOf scopes name scopeDepth s.parent
    else i

def moduleName : Action String := do
  let w ← get
  match (w.scopes[rootOf w.scopes scopeDepth w.scope]?).bind fun s => s.bindings.get? "__name__" with
  | some (.str s) => return s
  | _ => return "__main__"

def bindIn (i : Nat) (name : String) (v : Value) : Action Unit :=
  modify fun w =>
    { w with scopes := w.scopes.modify i fun s =>
        let s := if (s.ofClass || s.ofModule) && !s.bindings.contains name then
            { s with order := name :: s.order }
          else s
        { s with bindings := s.bindings.insert name v } }

def bindName (name : String) (v : Value) : Action Unit := do
  let w ← get
  let i := scopeFor w.scopes name w.scope
  bindIn i name v

def outsideComprehensions (scopes : Array Scope) : Nat → Nat → Nat
  | 0, i => i
  | fuel + 1, i =>
    match scopes[i]? with
    | some s => if s.ofComprehension then outsideComprehensions scopes fuel s.parent else i
    | none => i

def bindOutside (name : String) (v : Value) : Action Unit := do
  let w ← get
  let i := outsideComprehensions w.scopes scopeDepth w.scope
  bindIn (scopeFor w.scopes name i) name v

def unbindName (name : String) : Action Unit := do
  let w ← get
  let i := scopeFor w.scopes name w.scope
  match (w.scopes[i]?).bind fun s => s.bindings.get? name with
  | some _ =>
    modify fun w =>
      { w with scopes := w.scopes.modify i fun s => { s with bindings := s.bindings.erase name } }
  | none => Action.raise "NameError" ("name '" ++ name ++ "' is not defined")

/-- A new scope in which a piece of work is done; it goes away unless functions or iterators keep
it. -/
def inScope {α : Type} (s : Scope) (work : Action α) : Action α := do
  let w ← get
  let outside := w.scope
  let i := w.scopes.size
  set { w with scopes := w.scopes.push s, scope := i }
  let leave : Action Unit := modify fun w =>
    let drop := i + 1 = w.scopes.size && (w.scopes[i]?).any fun s => !s.captured
    { w with scope := outside, scopes := if drop then w.scopes.pop else w.scopes }
  try
    let a ← work
    leave
    return a
  catch e =>
    leave
    throw e

/-- The scope that stays for a function or an iterator, and those around it. -/
def capture : Action Unit := do
  let w ← get
  set { w with scopes := w.scopes.modify w.scope fun s => { s with captured := true } }

def raiseFault {α : Type} (file : String) (source : List Char) (f : Fault) : Action α := do
  let text := ((String.ofList source).splitOn "\n")[f.line - 1]?.getD ""
  let place := [Value.str file, .int f.line, .int f.column, .str text, .int f.line, .int f.column]
  let attributes := Dict.empty.set "args" (.tuple [.str f.message, .tuple place])
  let attributes := (attributes.set "msg" (.str f.message)).set "filename" (.str file)
  let attributes := (attributes.set "lineno" (.int f.line)).set "offset" (.int f.column)
  let attributes := (attributes.set "end_lineno" (.int f.line)).set "end_offset" (.int f.column)
  let attributes := attributes.set "print_file_and_line" .none
  let e ← Action.allocate (.object (.builtin f.kind) (attributes.set "text" (.str text)) .none)
  throw (.raise e)

def checkSource (isExpression : Bool) (file : String) (source : List Char) : Action Unit := do
  if source.contains '\x00' then
    Action.valueError "source code string cannot contain null bytes"
  match if isExpression then expressionFault? source else statementsFault? source with
  | some f => raiseFault file source f
  | none => return

/-- The integer that a value is made into. -/
def makeInt (k : Calls) (args : List Value) (named : List (String × Value)) : Action Value := do
  let invalid (base : Nat) (shown : String) : Action Value :=
    Action.valueError ("invalid literal for int() with base " ++ Text.naturalText base ++ ": " ++
      shown)
  let read (s : String) (base : Nat) (shown : Value) : Action Value := do
    match readInteger? base s.toList with
    | some n =>
      if digitLimit < s.length && base = 10 then
        Action.valueError ("Exceeds the limit (4300 digits) for integer string conversion: " ++
          "value has " ++ Text.naturalText s.length ++
          " digits; use sys.set_int_max_str_digits() to increase the limit")
      else return .int n
    | none => invalid base (← repr k shown)
  match args.head? with
  | none => return .int 0
  | some v =>
    match argument? args named 1 "base" with
    | some b =>
      let base := b.int?.getD 10
      if base < 0 ∨ base = 1 ∨ 36 < base then
        Action.valueError "int() base must be >= 2 and <= 36, or 0"
      else
        match ← plain v, ← bytesOf? v with
        | .str s, _ => read s base.toNat v
        | _, some b => read (.ofList (Text.octets b)) base.toNat v
        | _, none => Action.typeError "int() can't convert non-string with explicit base"
    | none =>
      match ← special? v "__int__" with
      | some f => k.call f [] []
      | none =>
        match ← operand k v with
        | .str s => read s 10 v
        | .bytes b => read (.ofList (Text.octets b)) 10 v
        | .float x =>
          match truncated? x with
          | some n => return .int n
          | none =>
            if x.isNaN then Action.valueError "cannot convert float NaN to integer"
            else Action.raise "OverflowError" "cannot convert float infinity to integer"
        | p =>
          match p.int?, ← special? v "__index__" with
          | some n, _ => return .int n
          | none, some f => k.call f [] []
          | none, none =>
            Action.typeError ("int() argument must be a string, a bytes-like object or a real " ++
              "number, not '" ++ (← typeName v) ++ "'")

def makeFloat (k : Calls) (args : List Value) : Action Value := do
  match args.head? with
  | none => return .float 0.0
  | some v =>
    match ← special? v "__float__" with
    | some f => k.call f [] []
    | none =>
      match ← operand k v with
      | .float x => return .float x
      | .str s =>
        match readFloat? s.toList with
        | some x => return .float x
        | none => Action.valueError ("could not convert string to float: " ++ (← repr k v))
      | p =>
        match p.int? with
        | some n => return .float (← toFloat n)
        | none =>
          Action.typeError ("float() argument must be a string or a real number, not '" ++
            (← typeName v) ++ "'")

def openedBytes (v : Value) : Action Value := do
  match v, ← bytesOf? v with
  | .ref i, some b =>
    match ← Action.object? v with
    | some (.octets _) =>
      Action.allocate (.window { source := v, start := 0, step := 1, shape := [b.length] })
    | _ =>
      Action.allocate
        (.window { source := .ref i, start := 0, step := 1, shape := [b.length], fixed := true })
  | v, some b =>
    Action.allocate
      (.window { source := v, start := 0, step := 1, shape := [b.length], fixed := true })
  | v, none =>
    Action.typeError ("memoryview: a bytes-like object is required, not '" ++ (← typeName v) ++ "'")

/-- A number with an imaginary part from its parts or from a text. -/
def makeComplex (k : Calls) (args : List Value) (named : List (String × Value)) : Action Value := do
  match argument? args named 0 "real", argument? args named 1 "imag" with
  | some (.str s), none =>
    match readComplex? s.toList with
    | some (x, y) => return .complex x y
    | none => Action.valueError "complex() arg is a malformed string"
  | some (.str _), some _ => Action.typeError "complex() can't take second arg if first is a string"
  | _, some (.str _) => Action.typeError "complex() second arg can't be a string"
  | a, b =>
    -- a part that is a real number has no second part at all, not even a zero with a sign
    let part (place : String) (v : Option Value) : Action (Float × Option Float) := do
      match v with
      | none => return (0.0, none)
      | some v =>
        match ← special? v "__complex__" with
        | some f =>
          match ← k.call f [] [] with
          | .complex x y => return (x, some y)
          | r =>
            Action.typeError ((← typeName v) ++ ".__complex__ returned non-complex (type " ++
              (← typeName r) ++ ")")
        | none =>
          match ← operand k v with
          | .complex x y => return (x, some y)
          | p =>
            match p, complexOf? p with
            | _, some (x, _) => return (x, none)
            | .int n, none => return (← toFloat n, none)
            | _, none =>
              match p, ← special? v "__float__" with
              | .str _, _ | _, none =>
                match ← special? v "__index__" with
                | some _ => return (← toFloat ((← indexOf? k v).getD 0), none)
                | none =>
                  Action.typeError ("complex() " ++ place ++ " must be a " ++
                    (if place = "first argument" then "string or a " else "") ++
                    "number, not '" ++ (← typeName v) ++ "'")
              | _, some f =>
                match ← k.call f [] [] with
                | .float x => return (x, none)
                | r =>
                  Action.typeError ((← typeName v) ++ ".__float__ returned non-float (type " ++
                    (← typeName r) ++ ")")
    let (x, y) ← part "first argument" a
    let (z, w) ← part "second argument" b
    return .complex ((w.map (x - ·)).getD x) ((y.map (· + z)).getD z)
where
  readComplex? (s : List Char) : Option (Float × Float) :=
    let s := trimmed s
    let s := s
    let unit (s : List Char) : Option Float :=
      readFloat? s
    if s.any isSpace then none
    else
      match s.reverse with
      | 'j' :: rest | 'J' :: rest =>
        -- the sign of the imaginary part is the last one that belongs to no exponent
        let body := rest.reverse
        let places := (List.range body.length).filter fun i =>
          0 < i && (body[i]? = some '+' || body[i]? = some '-') &&
            body[i - 1]? ≠ some 'e' && body[i - 1]? ≠ some 'E'
        match places.getLast? with
        | some i => do some (← readFloat? (body.take i), ← unit (body.drop i))
        | none => (unit body).map fun y => (0.0, y)
      | _ => (readFloat? s).map fun x => (x, 0.0)

def absolute (k : Calls) (v : Value) : Action Value := do
  match ← special? v "__abs__" with
  | some f => k.call f [] []
  | none =>
    match ← operand k v with
    | .float x => return .float x.abs
    | .complex x y => return .float (Special.length [x, y])
    | p =>
      match p.int? with
      | some n => return .int n.natAbs
      | none => Action.typeError ("bad operand type for abs(): '" ++ (← typeName v) ++ "'")

/-- A number rounded to decimals. -/
def roundTo (k : Calls) (v : Value) (places : Option Value) : Action Value := do
  match ← special? v "__round__" with
  | some f => k.call f places.toList []
  | none =>
    let places ← match places with
      | none | some .none => pure none
      | some p =>
        match ← indexOf? k p with
        | some n => pure (some n)
        | none =>
          Action.typeError ("'" ++ (← typeName p) ++
            "' object cannot be interpreted as an integer")
    match ← operand k v, places with
    | .float x, none =>
      match rounded? x with
      | some n => return .int n
      | none =>
        if x.isNaN then Action.valueError "cannot convert float NaN to integer"
        else Action.raise "OverflowError" "cannot convert float infinity to integer"
    | .float x, some p =>
      match double? x with
      | none => return .float x
      | some d =>
        let (num, den) := (d.numerator, d.denominator)
        let up := tenTo p.toNat
        let down := tenTo (-p).toNat
        if 400 < p then return .float x
        let n := Double.roundDiv (num * up) (den * down)
        let y := (quotient? (n * down) up).getD (1.0 / 0.0)
        return .float (if d.negative then -y else y)
    | p, places =>
      match p.int?, places with
      | some n, none => return .int n
      | some n, some d =>
        if 0 ≤ d then return .int n
        else
          let unit := tenTo d.natAbs
          let m := Double.roundDiv n.natAbs unit * unit
          return .int (if n < 0 then -(m : Int) else m)
      | none, _ =>
        Action.typeError ("type " ++ (← typeName v) ++ " doesn't define __round__ method")

def power (k : Calls) (args : List Value) : Action Value := do
  match args with
  | [a, b] => operate k "**" a b
  | [a, b, .none] => operate k "**" a b
  | [a, b, m] =>
    let (p, q, r) := (← plain a, ← plain b, ← plain m)
    let asked ← match ← special? a "__pow__" with
      | some f => k.call f [b, m] []
      | none => pure .unsupported
    match asked, p.int?, q.int?, r.int? with
    | .unsupported, some a, some b, some m =>
      if m = 0 then Action.valueError "pow() 3rd argument cannot be 0"
      else if b < 0 then
        let (divisor, inverse) := bezout m.natAbs (Int.fmod a m.natAbs).toNat 0 1
        if divisor ≠ 1 then Action.valueError "base is not invertible for the given modulus"
        else
          let base := (Int.fmod inverse m.natAbs).toNat
          let r : Int := powerModulo m.natAbs (bitLength b + 1) base b.natAbs 1
          return .int (Int.fmod r m)
      else
        let r : Int := powerModulo m.natAbs (bitLength b + 1) (Int.fmod a m.natAbs).toNat b.toNat 1
        return .int (Int.fmod r m)
    | .unsupported, _, _, _ =>
      let isReal (v : Value) : Bool := v.int?.isSome || v matches .float _
      let isNumber (v : Value) : Bool := isReal v || v matches .complex _ _
      if [p, q, r].all isNumber then
        if [p, q, r].all isReal then
          Action.typeError "pow() 3rd argument not allowed unless all arguments are integers"
        else Action.valueError "complex modulo"
      else
        Action.typeError ("unsupported operand type(s) for ** or pow(): '" ++ (← typeName a) ++
          "', '" ++ (← typeName b) ++ "', '" ++ (← typeName m) ++ "'")
    | v, _, _, _ => return v
  | _ => Action.typeError "pow() missing required argument 'exp' (pos 2)"

def inBase (k : Calls) (base : Nat) (mark : String) (v : Value) : Action Value := do
  match ← indexOf? k v with
  | some n =>
    return .str ((if n < 0 then "-" else "") ++ mark ++ String.ofList (Nat.toDigits base n.natAbs))
  | none =>
    Action.typeError ("'" ++ (← typeName v) ++ "' object cannot be interpreted as an integer")

/-- A range from one to three integers. -/
def makeRange (k : Calls) (args : List Value) : Action Value := do
  let number (v : Value) : Action Int := do
    match ← indexOf? k v with
    | some n => return n
    | none =>
      Action.typeError ("'" ++ (← typeName v) ++ "' object cannot be interpreted as an integer")
  match args with
  | [b] => return .range 0 (← number b) 1
  | [a, b] => return .range (← number a) (← number b) 1
  | [a, b, c] =>
    let step ← number c
    if step = 0 then Action.valueError "range() arg 3 must not be zero"
    return .range (← number a) (← number b) step
  | _ => Action.typeError "range expected at least 1 argument, got 0"

def makeSet (k : Calls) (frozen : Bool) (args : List Value) : Action Value := do
  let vs ← match args.head? with
    | some v => itemsOf k v
    | none => pure []
  Action.allocate (.set (← insertAll k .empty vs) frozen)

def makeDict (k : Calls) (kind : Mapping) (args : List Value) (named : List (String × Value)) :
    Action Value := do
  let pairs ← match args.head? with
    | some v => pairsOf k v
    | none => pure []
  Action.allocate (.dict (← insertPairs k .empty (pairs ++ namedPairs named)) kind)

def makeBytes (k : Calls) (kind : String) (args : List Value) (named : List (String × Value)) :
    Action Value := do
  match argument? args named 0 "source" with
  | none => return .bytes []
  | some (.str s) =>
    match argument? args named 1 "encoding" with
    | some (.str e) =>
      return .bytes (← encoded s e (textOr (argument? args named 2 "errors") "strict"))
    | _ => Action.typeError "string argument without an encoding"
  | some (.bytes b) => return .bytes b
  | some (.int n) =>
    if n < 0 then Action.valueError "negative count" else return .bytes (List.replicate n.toNat 0)
  | some v =>
    match ← special? v "__bytes__" with
    | some f => k.call f [] []
    | none =>
      match ← bytesOf? v with
      | some b => return .bytes b
      | none =>
        match v with
        | .none => Action.typeError "cannot convert 'NoneType' object to bytes"
        | .float _ => Action.typeError "cannot convert 'float' object to bytes"
        | v =>
          match ← special? v "__index__" with
          | some f =>
            return .bytes (List.replicate ((← k.call f [] []).int?.getD 0).toNat 0)
          | none => return .bytes (← (← itemsOf k v).mapM (byteOf k kind))

/-- The greatest or the least of some values. -/
def extreme (k : Calls) (name op : String) (args : List Value) (named : List (String × Value)) :
    Action Value := do
  let vs ← match args with
    | [v] => itemsOf k v
    | vs => pure vs
  let keyFor (v : Value) : Action Value := do
    match named.lookup "key" with
    | none => return v
    | some .none => return v
    | some f => k.call f [v] []
  match vs with
  | [] =>
    match args, named.lookup "default" with
    | [_], some d => return d
    | [_], none => Action.valueError (name ++ "() arg is an empty sequence")
    | _, _ =>
      Action.typeError (name ++ " expected at least 1 argument, got 0")
  | v :: rest =>
    Action.work (rest.length / 4)
    let (_, best) ← rest.foldlM (fun (key, best) x => do
      let other ← keyFor x
      if ← ordered k op other key then return (other, x) else return (key, best)) (← keyFor v, v)
    return best

def total (k : Calls) (args : List Value) (named : List (String × Value)) : Action Value := do
  let start := (argument? args named 1 "start").getD (.int 0)
  match start with
  | .str _ => Action.typeError "sum() can't sum strings [use ''.join(seq) instead]"
  | .bytes _ => Action.typeError "sum() can't sum bytes [use b''.join(seq) instead]"
  | _ =>
    let vs ← itemsOf k (← firstOf "sum" args)
    Action.work (vs.length / 4)
    vs.foldlM (operate k "+") start

def backwards (k : Calls) (v : Value) : Action Value := do
  match ← special? v "__reversed__" with
  | some f => k.call f [] []
  | none =>
    match ← Action.object? v with
    | some (.set _ _) => Action.typeError "'set' object is not reversible"
    | some (.iterator it) =>
      Action.typeError ("'" ++ it.typeName ++ "' object is not reversible")
    | some (.object _ _ .none) =>
      let n ← lengthOf k v
      let vs ← (List.range n).mapM fun (i : Nat) => getItem k v (.int (n - 1 - i))
      Action.iterator (.values vs)
    | _ => Action.iterator (.values (← itemsOf k v).reverse)

def quantified (k : Calls) (it : Value) (wanted : Bool) : Nat → Action Value
  | 0 => throw .never
  | fuel + 1 => do
    match ← k.next it with
    | none => return .bool (!wanted)
    | some v =>
      Action.step
      if (← truth k v) = wanted then return .bool wanted else quantified k it wanted fuel

/-- Whether a value belongs to a type or to one of several; a type may have its own rule, which is
asked under a name with a value. -/
def belongs (k : Calls) (what rule : String) (v : Value) (test : Value → Action Bool) :
    Nat → Value → Action Bool
  | 0, _ => return false
  | fuel + 1, types => do
    let refused : Action Bool :=
      Action.typeError (what ++ "() arg 2 must be a type, a tuple of types, or a union")
    match types with
    | .tuple ts => ts.anyM (belongs k what rule v test fuel)
    | .none => test (.builtin "NoneType")
    | .builtin name =>
      if isType name || name.toList.contains '.' then test types else refused
    | t =>
      match ← Action.object? t with
      | some (.type _) =>
        match ← special? t rule with
        | some f =>
          if rule = "__instancecheck__" && (← typeOf v).same t then return true
          else truth k (← k.call f [v] [])
        | none => test t
      | some (.object (.builtin "types.UnionType") attributes _) =>
        match attributes.named? "__args__" with
        | some (.tuple ts) => ts.anyM (belongs k what rule v test fuel)
        | _ => return false
      | some (.object (.builtin "types.GenericAlias") _ _) =>
        Action.typeError (what ++ "() argument 2 cannot be a parameterized generic")
      | some (.object _ _ _) =>
        match ← special? t rule with
        | some f => truth k (← k.call f [v] [])
        | none => refused
      | _ => refused

def isCallable (v : Value) : Action Bool := do
  match v with
  | .builtin b => return !streams.contains b
  | .method _ _ => return true
  | .bound _ _ => return true
  | v =>
    match ← Action.object? v with
    | some (.function _) => return true
    | some (.type _) => return true
    | some (.curried _ _ _) => return true
    | some (.wrapped how _ _) => return how = .static
    | some (.object _ _ _) => return (← special? v "__call__").isSome
    | _ => return false

def namesOf (k : Calls) (v : Value) : Action (List String) := do
  match v with
  | .module m => return (← allNames k m).mergeSort fun a b => a ≤ b
  | v =>
    match ← Action.object? v with
    | some (.object type attributes _) =>
      let own := attributes.keys
      let inherited ← (← lineage type).mapM fun c => do
        match ← Action.object? c with
        | some (.type c) => return c.attributes.keys
        | _ => return []
      let names := (own ++ inherited.flatten).filterMap fun
        | .str s => some s
        | _ => none
      return names.eraseDups.mergeSort fun a b => a ≤ b
    | some (.type c) =>
      let all ← (v :: c.ancestors).mapM fun c => do
        match ← Action.object? c with
        | some (.type c) => return c.attributes.keys
        | _ => return []
      let names := all.flatten.filterMap fun
        | .str s => some s
        | _ => none
      return names.eraseDups.mergeSort fun a b => a ≤ b
    | _ =>
      match ← typeOf v with
      | .builtin t => return (methodsOfType t).mergeSort fun a b => a ≤ b
      | _ => return []

/-- The numbers of some values as one number. -/
def tupleHash (hashes : List Int) : Int :=
  let word := twoTo 64
  let first := 11400714785074694791
  let second := 14029467366897019727
  let last := 2870177450012600261
  let acc := hashes.foldl (fun (acc : Nat) h =>
    let lane := (h % (word : Int)).toNat
    let acc := (acc + lane * second) % word
    let turned := (acc * twoTo 31) % word + acc / twoTo 33
    (turned * first) % word) last
  let acc := (acc + Nat.xor hashes.length (Nat.xor last 3527539)) % word
  let n : Int := if twoTo 63 ≤ acc then (acc : Int) - word else acc
  if n = -1 then 1546275796 else n

/-- A number for a value that equal values share. -/
def hashWithin (k : Calls) : Nat → Value → Action Int
  | 0, _ => return 0
  | fuel + 1, v => do
    match ← special? v "__hash__" with
    | some (.bound _ .none) => Action.typeError ("unhashable type: '" ++ (← typeName v) ++ "'")
    | some f =>
      match (← k.call f [] []).int? with
      | some n => return integerHash n
      | none => Action.typeError "__hash__ method should return an integer"
    | none =>
      let key ← keyOf k v
      let v ← match ← Action.object? v with
        | some (.window w) => pure (.bytes (← w.pieces).flatten)
        | _ => plain v
      match v with
      | .int n => return integerHash n
      | .float x => return floatHash x
      | .complex x y =>
        let h := (floatHash x + 1000003 * floatHash y).bmod (twoTo 64)
        return if h = -1 then -2 else h
      | .bool b => return if b then 1 else 0
      | .tuple xs => return tupleHash (← xs.mapM (hashWithin k fuel))
      | .ref i => return 8 * (i : Int) + 4096
      | _ => return key.toList.foldl (fun h c => (h * 1000003 + c.toNat) % (twoTo 61 - 1)) 5381

def hashOf (k : Calls) (v : Value) : Action Value := do
  return .int (← hashWithin k nesting v)

/-- The object seen as one of the classes behind a class. -/
def superOf : Action Value := do
  let w ← get
  match sight w.scopes "__class__" scopeDepth false w.scope, (w.scopes[w.scope]?).bind (·.first) with
  | .value type, some name => Action.allocate (.above type (← lookName name))
  | _, _ => Action.raise "RuntimeError" "super(): no arguments"

def printTarget (named : List (String × Value)) : Action Value := do
  match named.lookup "file" with
  | some (.builtin name) => return .builtin name
  | some (.ref i) => return .ref i
  | _ =>
    match (← get).shared.get? "sys.stdout" with
    | some v => return v
    | none => return .builtin "sys.stdout"

def printValues (k : Calls) (args : List Value) (named : List (String × Value)) :
    Action Value := do
  match named.find? fun (n, _) => !(["sep", "end", "file", "flush"].contains n) with
  | some (n, _) => Action.typeError ("'" ++ n ++ "' is an invalid keyword argument for print()")
  | none =>
    let texts ← args.mapM (textOf k)
    let option (name standard : String) : Action String := do
      match named.lookup name with
      | some (.str s) => return s
      | none => return standard
      | some .none => return standard
      | some v => Action.typeError (name ++ " must be None or a string, not " ++ (← typeName v))
    let mark ← option "sep" " "
    let ending ← option "end" "\n"
    let target ← printTarget named
    writeTo k (member k) target (mark.intercalate texts ++ ending)
    match named.lookup "flush" with
    | some v => if ← truth k v then flush
    | none => pure ()
    return .none

def readLineOf (k : Calls) (args : List Value) : Action Value := do
  match args.head? with
  | some v => writeOutput (← textOf k v)
  | none => pure ()
  flush
  let line ← readInput true
  if line.isEmpty then Action.raise "EOFError" "EOF when reading a line"
  else
    let s ← decoded line "utf-8" "strict"
    return .str (if s.endsWith "\n" then String.ofList s.toList.dropLast else s)

def leaveWith {α : Type} (args : List Value) : Action α :=
  Action.raiseWith "SystemExit" (args.take 1)

def fsPath (k : Calls) (v : Value) : Action String := do
  match v with
  | .str s => return s
  | .bytes b => return Text.decodeLossy b
  | v =>
    let refused : Action String := do
      Action.typeError ("expected str, bytes or os.PathLike object, not " ++ (← typeName v))
    match ← special? v "__fspath__" with
    | some f =>
      match ← k.call f [] [] with
      | .str s => return s
      | .bytes b => return Text.decodeLossy b
      | _ => refused
    | none => refused

def coreFunction (k : Calls) (name : String) (args : List Value)
    (named : List (String × Value)) : Action Value := do
  let first : Action Value := match args.head? with
    | some v => return v
    | _ => Action.typeError (name ++ "() takes at least one argument (0 given)")
  match name with
  | "print" => printValues k args named
  | "len" => return .int (← lengthOf k (← first))
  | "range" => makeRange k args
  | "str" =>
    match args with
    | [v] =>
      return .str (← textOf k v)
    | _ => Action.typeError "decoding str is not supported"
  | "int" => makeInt k args named
  | "float" => makeFloat k args
  | "bool" =>
    match args.head? with
    | some v => return .bool (← truth k v)
    | none => return .bool false
  | "list" =>
    match args.head? with
    | some v => Action.list (← itemsOf k v)
    | none => Action.list []
  | "tuple" =>
    match args.head? with
    | some v => return .tuple (← itemsOf k v)
    | none => return .tuple []
  | "dict" => makeDict k .plain args named
  | "set" => makeSet k false args
  | "frozenset" => makeSet k true args
  | "bytes" => makeBytes k "bytes" args named
  | "bytearray" => asOctets (← makeBytes k "byte" args named)
  | "complex" => makeComplex k args named
  | "repr" => return .str (← repr k (← first))
  | "ascii" => converted k (← first) (some 'a')
  | "format" => return .str (← formatted k (← first) (textOr args[1]? ""))
  | "abs" => absolute k (← first)
  | "round" => roundTo k (← first) (argument? args named 1 "ndigits")
  | "pow" =>
    power k (args ++ ["base", "exp", "mod"].filterMap fun n => named.lookup n)
  | "divmod" =>
    match args with
    | [a, b] =>
      match ← askedOperation k "divmod" a b, ← plain a, ← plain b with
      | .unsupported, .int a, .int b =>
        return .tuple [← operate k "//" (.int a) (.int b), ← operate k "%" (.int a) (.int b)]
      | v, _, _ => return v
    | _ => Action.typeError ("divmod expected 2 arguments, got " ++ Text.naturalText args.length)
  | "min" => extreme k "min" "<" args named
  | "max" => extreme k "max" ">" args named
  | "sum" => total k args named
  | "sorted" => Action.list (← sortedWith k (← itemsOf k (← first)) named)
  | "reversed" => backwards k (← first)
  | "enumerate" =>
    let start := ((argument? args named 1 "start").bind Value.int?).getD 0
    Action.iterator (.enumerated start (← iterOf k (← first)))
  | "zip" => Action.iterator (.zipped (← args.mapM (iterOf k)) none)
  | "map" => Action.iterator (.mapped (← first) (← (args.drop 1).mapM (iterOf k)))
  | "any" => quantified k (← iterOf k (← first)) true rounds
  | "all" => quantified k (← iterOf k (← first)) false rounds
  | "iter" =>
    iterOf k (← first)
  | "next" =>
    let it ← first
    match ← k.next it, args[1]? with
    | some v, _ => return v
    | none, some d => return d
    | none, none =>
      match (← get).returned with
      | .none => Action.raiseWith "StopIteration" []
      | v =>
        modify fun w => { w with returned := .none }
        Action.raiseWith "StopIteration" [v]
  | "ord" =>
    match ← first with
    | .str s =>
      match s.toList with
      | [c] => return .int (Text.codePoint c)
      | cs =>
        Action.typeError ("ord() expected a character, but string of length " ++
          Text.naturalText cs.length ++ " found")
    | v =>
      Action.typeError ("ord() expected string of length 1, but " ++ (← typeName v) ++ " found")
  | "chr" =>
    match (← first).int? with
    | some n =>
      if n < 0 ∨ 0x10FFFF < n then Action.valueError "chr() arg not in range(0x110000)"
      else return .str (Text.ofCodePoint n.toNat).toString
    | none =>
      Action.typeError ("'" ++ (← typeName (← first)) ++
        "' object cannot be interpreted as an integer")
  | "oct" => inBase k 8 "0o" (← first)
  | "bin" => inBase k 2 "0b" (← first)
  | "isinstance" =>
    let v ← first
    return .bool (← belongs k "isinstance" "__instancecheck__" v (isInstance v) nesting
      (args[1]?.getD (.int 0)))
  | "issubclass" =>
    let c ← first
    let known ← match c with
      | .builtin b => pure (isType b || b.toList.contains '.')
      | c => do
        match ← Action.object? c with
        | some (.type _) => pure true
        | _ => pure false
    if !known then Action.typeError "issubclass() arg 1 must be a class"
    return .bool (← belongs k "issubclass" "__subclasscheck__" c (isSubclass c) nesting
      (args[1]?.getD (.int 0)))
  | "callable" => return .bool (← isCallable (← first))
  | "type" => typeOf (← first)
  | "id" =>
    match ← first with
    | .ref i => return .int (0x7f0000000000 + 64 * i)
    | v => return .int (0x7f1000000000 + 16 * ((identity v).toNat % twoTo 36 : Nat))
  | "hash" => hashOf k (← first)
  | "getattr" =>
    match args with
    | [v, .str n] => member k v n
    | [v, .str n, d] =>
      try
        match ← member? k v n with
        | some x => return x
        | none => return d
      catch
        | .raise e =>
          if ← isInstance e (.builtin "AttributeError") then return d else throw (.raise e)
        | s => throw s
    | _ => Action.typeError "getattr expected at least 2 arguments"
  | "hasattr" =>
    match args with
    | [v, .str n] =>
      try
        return .bool (← member? k v n).isSome
      catch
        | s => throw s
    | _ => Action.typeError "hasattr expected 2 arguments"
  | "setattr" =>
    match args with
    | [v, .str n, x] => setMember k v n x; return .none
    | _ => Action.typeError "setattr expected 3 arguments"
  | "delattr" =>
    match args with
    | [v, .str n] => eraseMember k v n; return .none
    | _ => Action.typeError "delattr expected 2 arguments"
  | "locals" => currentNames
  | "globals" =>
    let w ← get
    variablesOf (rootOf w.scopes scopeDepth w.scope)
  | "dir" =>
    match args.head? with
    | some v =>
      match ← special? v "__dir__" with
      | some f => Action.list (← sortedWith k (← itemsOf k (← k.call f [] [])) [])
      | none => Action.list ((← namesOf k v).map .str)
    | none =>
      let w ← get
      let names := ((w.scopes[w.scope]?.map fun s => s.bindings.toList.map (·.1)).getD []).filter
        fun n => !n.startsWith "."
      Action.list ((names.mergeSort fun a b => a ≤ b).map .str)
  | "input" => readLineOf k args
  | "open" =>
    let v ← match args.head?.or (named.lookup "file") with
      | some v => pure v
      | none => Action.typeError "open() missing required argument 'file' (pos 1)"
    let text? (place : Nat) (name : String) : Action (Option String) := do
      match argument? args named place name with
      | none | some .none => return none
      | some (.str s) => return some s
      | some v =>
        Action.typeError ("open() argument '" ++ name ++ "' must be str or None, not " ++
          (← typeName v))
    let mode := (← text? 1 "mode").getD "r"
    let unbuffered := ((argument? args named 2 "buffering").bind Value.int?) == some 0
    let owns := match argument? args named 6 "closefd" with
      | some v => v.int? ≠ some 0
      | none => true
    let encoding ← text? 3 "encoding"
    let errors ← text? 4 "errors"
    let newline ← text? 5 "newline"
    let path ← fsPath k v
    if !owns then Action.valueError "Cannot use closefd=False with file name"
    openFile v path mode unbuffered encoding errors newline owns
  | "exit" | "quit" => leaveWith args
  | "super" => superOf
  | "property" => Action.allocate (.wrapped .property (← first) (args[1]?.getD .none))
  | "staticmethod" => Action.allocate (.wrapped .static (← first) .none)
  | "classmethod" => Action.allocate (.wrapped .ofClass (← first) .none)
  | "slice" =>
    match args with
    | [a, b] => return .slice a b .none
    | _ => Action.typeError "slice expected at least 1 argument, got 0"
  | "object" =>
    if args.isEmpty && named.isEmpty then
      Action.allocate (.object (.builtin "object") .empty .none)
    else Action.typeError "object() takes no arguments"
  | "__import__" =>
    match ← first with
    | .str m =>
      k.load m
      let wanted := args[3]?.getD ((named.lookup "fromlist").getD .none)
      let top := if ← truth k wanted then m else (m.splitOn ".").headD m
      return .module top
    | _ => Action.typeError "__import__() argument 1 must be str"
  | "memoryview" =>
    let v ← first
    let _ ← Action.object? v
    openedBytes v
  | "compile" =>
    let file := (argument? args named 1 "filename").getD (.str "<string>")
    let mode := match argument? args named 2 "mode" with
      | some (.str m) => m
      | _ => "exec"
    if ! ["exec", "eval", "single"].contains mode then
      Action.valueError "compile() mode must be 'exec', 'eval' or 'single'"
    let source ← do
      let v ← first
      match ← special? v "_source" with
      | some f => textOf k (← k.call f [] [])
      | none => textOf k v
    checkSource (mode = "eval") (← textOf k file) source.toList
    let attributes := (Dict.empty.set "source" (.str source)).set "co_filename" file
    Action.allocate (.object (.builtin "code") (attributes.set "mode" (.str mode)) .none)
  | name =>
    if isType name then Action.typeError ("cannot create '" ++ name ++ "' instances")
    else Action.raise "NotImplementedError" (name ++ "() is not there")
where
  identity : Value → UInt64
    | .tuple xs => identities 7 xs
    | .ref i => hash i
    | v => hash ((keyText nesting v).getD "")
  identities (seed : UInt64) : List Value → UInt64
    | [] => seed
    | x :: xs => identities (mixHash seed (identity x)) xs
  currentNames : Action Value := do
    let w ← get
    match w.scopes[w.scope]? with
    | some s =>
      if s.ofModule then Action.allocate (.view "variables" w.scope)
      else
        let pairs := s.bindings.toList.filter fun (n, _) => !n.startsWith "."
        let own := s.names.own.filterMap fun n => (pairs.lookup n).map fun v => (n, v)
        let rest := pairs.filter fun (n, _) => !s.names.own.contains n && n ≠ "__class__"
        Action.allocate (.dict ((own ++ rest).foldl (fun d (n, v) => Dict.set d n v) .empty) .plain)
    | none => Action.allocate (.dict .empty .plain)

/-- The operator for a function with underscores around its name. -/
def operatorOf? (name : String) : Option String :=
  [("__add__", "+"), ("__sub__", "-"), ("__mul__", "*"), ("__truediv__", "/"),
   ("__floordiv__", "//"), ("__mod__", "%"), ("__pow__", "**"), ("__and__", "&"),
   ("__matmul__", "@"),
   ("__or__", "|"), ("__xor__", "^"), ("__lshift__", "<<"), ("__rshift__", ">>")].lookup name

def commonMethod (k : Calls) (v : Value) (name : String) (args : List Value)
    (named : List (String × Value)) : Action Value := do
  match name with
  | "__repr__" =>
    match ← Action.object? v with
    | some (.object type attributes _) =>
      if ← isSubclass type (.builtin "BaseException") then
        let shown ← (exceptionArgs attributes).mapM (repr k)
        return .str ((← nameOfType type) ++ "(" ++ ", ".intercalate shown ++ ")")
      else return .str (← ownRepr v)
    | _ => return .str (← repr k v)
  | "__init__" =>
    match v with
    | .ref i =>
      match (← get).heap[i]? with
      | some (.object type _ base) =>
        if ← isSubclass type (.builtin "BaseException") then bindMember i "args" (.tuple args)
        else
          match base with
          | .ref j =>
            match (← get).heap[j]? with
            | some (.dict d kind) =>
              let pairs ← match args.head? with
                | some x => pairsOf k x
                | none => pure []
              Action.store j (.dict (← insertPairs k d (pairs ++ namedPairs named)) kind)
            | _ => pure ()
          | _ => pure ()
      | _ => pure ()
    | _ => pure ()
    return .none
  | "__setattr__" =>
    match v, args with
    | .ref i, [.str n, x] =>
      match (← get).heap[i]? with
      | some (.object type _ _) => setOwn k v i type n x
      | _ => bindMember i n x
      return .none
    | _, _ => return .none
  | "__index__" | "__trunc__" => return .int ((← plain v).int?.getD 0)
  | "add_note" =>
    match v with
    | .ref i =>
      let old ← match ← Action.object? v with
        | some (.object _ attributes _) => pure (attributes.named? "__notes__")
        | _ => pure none
      match old with
      | some _ => pure ()
      | none => bindMember i "__notes__" (← Action.list [args.headD .none])
    | _ => pure ()
    return .none
  | "__getitem__" => getItem k (← plain v) (args.headD .none)
  | "__setitem__" => setItem k (← plain v) (args.headD .none) (args[1]?.getD .none); return .none
  | "with_traceback" => return v
  | "__init_subclass__" => return .none
  | "__subclasshook__" => return .unsupported
  | name =>
    match operatorOf? name with
    | some op =>
      match ← plainOperation k op (← plain v) (← plain (args.headD .none)) with
      | some x => return x
      | none => return .unsupported
    | none => noMember v name
where
  ownRepr (v : Value) : Action String := do
    let base ← plain v
    repr k base

def recordMethod (k : Calls) (v type : Value) (xs : List Value) (name : String)
    (args : List Value) (named : List (String × Value)) : Action Value := do
  let fields := (← recordFields? type).getD []
  match name with
  | "_asdict" =>
    let d := (fields.zip xs).foldl (fun d (n, x) => Dict.set d n x) Dict.empty
    Action.allocate (.dict d .plain)
  | "_replace" =>
    let ys := (fields.zip xs).map fun (n, x) => (named.lookup n).getD x
    match named.filter fun (n, _) => !fields.contains n with
    | [] => pure ()
    | others =>
      let names ← repr k (← Action.list (others.map fun (n, _) => .str n))
      Action.valueError ("Got unexpected field names: " ++ names)
    Action.allocate (.object type .empty (.tuple ys))
  | name =>
    if name.startsWith "__" then commonMethod k v name args named else tupleMethod k xs name args

def windowMethod (k : Calls) (v : Value) (i : Nat) (w : Window) (name : String) (args : List Value)
    (named : List (String × Value)) : Action Value := do
  if name = "release" || name = "__exit__" then
    Action.store i (.window { w with released := true })
    return .none
  w.checkOpen
  match name with
  | "__enter__" => return v
  | "tobytes" => return .bytes (← w.pieces).flatten
  | "tolist" =>
    let ns ← w.numbers
    match w.shape with
    | [] => return ns.headD .none
    | _ :: rest => nested rest ns
  | "toreadonly" => Action.allocate (.window { w with fixed := true })
  | "hex" => bytesMethod k (← w.pieces).flatten "hex" args named
  | "cast" =>
    let format := textOr (argument? args named 0 "format") ""
    let format := if format.startsWith "@" then String.ofList (format.toList.drop 1) else format
    if !w.isDense then
      Action.typeError "memoryview: casts are restricted to C-contiguous views"
    if format.length ≠ 1 || !"bBchHiIlLqQnNPfdev?".contains format then
      Action.valueError ("memoryview: destination format must be a native single character " ++
        "format prefixed with an optional '@'")
    let isByte (f : String) : Bool := f = "B" || f = "b" || f = "c"
    if !isByte format && !isByte w.format then
      Action.typeError "memoryview: cannot cast between two non-byte formats"
    let size := w.count * w.width
    let width := widthOfFormat format
    if size % width ≠ 0 then
      Action.typeError "memoryview: length is not a multiple of itemsize"
    let made (shape : List Nat) : Action Value :=
      Action.allocate (.window { w with format, shape, step := width })
    match argument? args named 1 "shape" with
    | none => made [size / width]
    | some shape =>
      let shape := (← itemsOf k shape).map fun n => (n.int?.getD 0).toNat
      if 1 < w.shape.length && shape.length ≠ 1 then
        Action.typeError "memoryview: cast must be 1D -> ND or ND -> 1D"
      if shape.foldl (· * ·) 1 * width ≠ size then
        Action.typeError "memoryview: product(shape) * itemsize != buffer size"
      made shape
  | name => commonMethod k v name args named
where
  nested : List Nat → List Value → Action Value
    | [], ns => Action.list ns
    | n :: rest, ns => do
      let size := rest.foldl (· * ·) n
      let parts := inGroups size (ns.length + 1) ns
      Action.list (← parts.mapM (nested rest))

def callMethod (k : Calls) (v : Value) (name : String) (args : List Value)
    (named : List (String × Value)) : Action Value := do
  if name.startsWith "__" && name != "__enter__" && name != "__exit__" then
    commonMethod k v name args named
  else
    match v with
    | .str s =>
      match name with
      | "format" => bracesFilled k s args named
      | name =>
        if name = "join" ∨ name = "translate" ∨ name = "maketrans" then textMethod k s name args named
        else textMethod k s name (← args.mapM (asIndex k)) named
    | .bytes b => bytesMethod k b name args named
    | .tuple xs => tupleMethod k xs name args
    | .float x => floatMethod x name
    | .ref i =>
      match (← get).heap[i]? with
      | some (.window w) => windowMethod k v i w name args named
      | some (.view which d) =>
        if isNameView which then
          throughView which d fun held => do
            match held, ← Action.object? held with
            | .ref j, some (.dict d kind) =>
              if ["keys", "values", "items"].contains name then
                Action.list (viewed name d)
              else dictMethod k j d kind name args named
            | _, _ => return .none
        else
          commonMethod k v name args named
      | some (.list xs ends) => listMethod k i xs ends name args named
      | some (.dict d kind) => dictMethod k i d kind name args named
      | some (.set d _) => setMethod k i d name args
      | some (.file f) =>
        let whence := if name = "seek" then named.lookup "whence" else none
        fileMethod i f name (args ++ whence.toList)
      | some (.object type _ base) =>
        match base, type with
        | .tuple xs, _ => recordMethod k v type xs name args named
        | _, _ => commonMethod k v name args named
      | some (.iterator it) =>
        match name, it with
        | "send", .generator frames _ _ kind =>
          let fresh := match frames with
            | [.stmts _] => true
            | _ => false
          let x := args.headD .none
          if fresh && !x.same .none then
            Action.typeError ("can't send non-None value to a just-started " ++ kind)
          modify fun w => { w with sent := x }
          coreFunction k "next" [v] []
        | "throw", .generator _ _ _ _ =>
          let x := args.headD .none
          modify fun w => { w with thrown := some x }
          coreFunction k "next" [v] []
        | "close", .generator [] _ _ _ => return .none
        | "close", .generator _ _ _ _ =>
          modify fun w => { w with thrown := some (.builtin "GeneratorExit") }
          let answered ← try
              let x ← k.next v
              pure x.isSome
            catch
              | .raise e =>
                if (← isInstance e (.builtin "GeneratorExit")) ||
                    (← isInstance e (.builtin "StopIteration")) then pure false
                else throw (.raise e)
              | s => throw s
          if answered then Action.raise "RuntimeError" "generator ignored GeneratorExit"
          return .none
        | name, _ => commonMethod k v name args named
      | _ => commonMethod k v name args named
    | v =>
      match v.int? with
      | some n => intMethod n name (← args.mapM (asIndex k)) named
      | none => commonMethod k v name args named

end Flowboard.Script
