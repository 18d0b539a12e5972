import Flowboard.Sigil.Function

/-! How programs whose variables have sigils run. -/
namespace Flowboard.Sigil

section
variable (k : Evaluator)

/-- Whether an expression is a place in which a new reference can be put. -/
def isPlace : Expr → Bool
  | .var .scalar _ | .item _ _ | .entry _ _ | .declare _ .scalar _ | .deref .scalar _ => true
  | .localized e => isPlace e
  | .list [e] => isPlace e
  | _ => false

/-- The value of an expression, and where it lies if it lies somewhere. -/
def valueAndPlace (e : Expr) : Run (Value × Option Nat) := do
  if isPlace e then
    let c ← k.place e
    return (← getCell c, some c)
  else return (← k.scalar e, none)

def symbolName (s : String) : Run String := do
  return fullName (← get).package s

def derefArray (e : Expr) : Run Nat := do
  let (v, _) ← valueAndPlace k e
  match v with
  | .ref (.array a) => return a
  | v =>
    let s ← textOf v
    if (← get).lists.contains (← symbolName s) || s == "ISA" || s.endsWith "::ISA" ||
        s.endsWith "::EXPORT" then
      sharedArray (← symbolName s)
    else fault ("Can't use string (\"" ++ String.ofList (s.toList.take 32) ++
      "\") as an ARRAY ref while \"strict refs\" in use")

def derefHash (e : Expr) : Run Nat := do
  let (v, _) ← valueAndPlace k e
  match v with
  | .ref (.hash h) => return h
  | v =>
    let s ← textOf v
    if (← get).tables.contains (← symbolName s) then sharedHash (← symbolName s)
    else fault ("Can't use string (\"" ++ String.ofList (s.toList.take 32) ++
      "\") as a HASH ref while \"strict refs\" in use")

def derefScalar (e : Expr) : Run Nat := do
  let (v, _) ← valueAndPlace k e
  let s ← textOf v
  if (← get).scalars.contains (← symbolName s) || (s.splitOn "::").length > 1 then
    sharedCell (← symbolName s)
  else fault ("Can't use string (\"" ++ String.ofList (s.toList.take 32) ++
    "\") as a SCALAR ref while \"strict refs\" in use")

def keyOf (e : Expr) : Run String := do
  textOf (← k.scalar e)

def indexOf (e : Expr) : Run Int := do
  return (← numberOf (← k.scalar e)).toInt

/-- Makes something new stand for a name until the block ends. -/
def localize : Expr → Run Unit
  | .var .scalar (.shared n) => do
    let old ← sharedCell n
    let c ← newCell .absent
    pushRestore ⟨n, old⟩
    modify fun w =>
      if n == "main::_" then { w with topic := c } else { w with scalars := w.scalars.insert n c }
  | _ => return

def assignScalar (target : Expr) (v : Value) : Run Unit := do
  let c ← k.place target
  setCell c v

/-- Puts keys and values into a hash. -/
def fillHash (h : Nat) : List Value → Run Unit
  | [] => return
  | key :: rest => do
    let s ← textOf key
    let c ← newCell (rest.headD .absent)
    modify fun w => { w with hashes := w.hashes.modify h (·.put s c) }
    match rest with
    | [] => return
    | _ :: more => fillHash h more

/-- Gives values to targets one after the other. -/
def assignEach : List Expr → List Value → Run Unit
  | [], _ => return
  | t :: rest, vs => do
    match t with
    | .var .array _ | .deref .array _ | .declare _ .array _ =>
      let a ← k.array t
      fillArray a vs.toArray
      assignEach rest []
    | .var .hash _ | .deref .hash _ | .declare _ .hash _ =>
      let h ← k.hash t
      clearHash h
      fillHash h vs
      assignEach rest []
    | t =>
      assignScalar k t (vs.headD .absent)
      assignEach rest (vs.drop 1)

def targetsOf : Expr → List Expr
  | .list es => es.flatMap targetsOf
  | .localized (.list es) => es.map .localized
  | e => [e]

def assignList (target value : Expr) : Run Nat := do
  let vs ← k.list value
  assignEach k (targetsOf target) vs.toList
  return vs.size

/-- A routine under its full name; functions of modules become routines when they are asked for. -/
def routineNamed? (name : String) : Run (Option Nat) := do
  let w ← get
  match w.routines[name]? with
  | some f => return some f
  | none =>
    let full := (w.imports.lookup name).getD name
    if isModuleFunction full then
      let f := w.closures.size
      let body : List Statement := [.expr w.line (.builtin full [arguments])]
      set { w with
        closures := w.closures.push ⟨name, "main", body, []⟩
        routines := w.routines.insert name f }
      return some f
    else return none

def depthOfCalls : Nat := 3000

/-- Runs a routine with the scalars that are its arguments. -/
def callCode (f : Nat) (args : Array Nat) (want : Option Bool) : Run (Array Value) := do
  tick
  let w ← get
  if depthOfCalls < w.depth then throw .stuck
  let c := w.closures.getD f default
  let a ← newArrayOf args
  let body : Run (Array Value) := k.block c.body want
  fun v =>
    let start := { v with
      scope := c.scope, arguments := a, want, package := c.package, depth := w.depth + 1 }
    let (r, e) := body start
    let e := { e with
      scope := w.scope, arguments := w.arguments, want := w.want, package := w.package,
      depth := w.depth, matched := w.matched }
    match r with
    | .ok vs => ((.ok vs), { e with line := w.line })
    | .error (.return_ vs) => ((.ok vs), { e with line := w.line })
    | .error s => (.error s, e)

/-- The values of a call, made to fit what is wanted. -/
def fitted (want : Option Bool) (vs : Array Value) : Array Value :=
  if want == some true then vs else #[vs.back?.getD .absent]

def argumentCells (args : List Expr) : Run (Array Nat) := do
  let parts ← args.mapM k.cells
  return parts.toArray.flatMap id

def callNamed (name : String) (args : List Expr) (plain : Bool) (want : Option Bool) :
    Run (Array Value) := do
  match ← routineNamed? name with
  | some f =>
    let cells ← if plain then argumentCells k args else pure #[]
    return fitted want (← k.call f cells want)
  | none =>
    if !plain then
      match args with
      | [.constant v] => return #[v]
      | _ => return #[]
    let parts := name.splitOn "::"
    let package := "::".intercalate parts.dropLast
    match ← findMethod package "AUTOLOAD" with
    | some f =>
      let owner := ((← get).closures.getD f default).package
      setShared (owner ++ "::AUTOLOAD") (.text name)
      return fitted want (← k.call f (← argumentCells k args) want)
    | none => fault ("Undefined subroutine &" ++ name ++ " called")

/-- Methods that all packages have, and those of handles and of texts that are written out. -/
def commonMethod (object : Value) (name : String) (args : List Value) (want : Option Bool) :
    Run (Array Value) := do
  let package ← textOf object
  let missing : Run (Array Value) := do
    let w ← get
    let known := w.routines.toList.any fun (n, _) => n.startsWith (package ++ "::")
    let hint := if known then "" else " (perhaps you forgot to load \"" ++ package ++ "\"?)"
    if package.isEmpty then
      fault ("Can't call method \"" ++ name ++ "\" without a package or object reference")
    fault ("Can't locate object method \"" ++ name ++ "\" via package \"" ++ package ++ "\"" ++
      hint)
  match ← findMethod package "AUTOLOAD" with
  | some f =>
    let owner := ((← get).closures.getD f default).package
    setShared (owner ++ "::AUTOLOAD") (.text (package ++ "::" ++ name))
    if name == "DESTROY" then return #[]
    return fitted want (← callValues k f (object :: args) want)
  | none => if name == "DESTROY" then return #[] else missing

def callMethod (object : Value) (name : String) (args : List Expr) (want : Option Bool) :
    Run (Array Value) := do
  let cells ← argumentCells k args
  let first ← newCell object
  let parts := name.splitOn "::SUPER::"
  let found ← do
    if (name.splitOn "::").length > 1 then do
      pure ((← get).routines[name]?)
    else
      match object with
      | .ref t =>
        match (← get).blessed[t]? with
        | some p => findMethod p name
        | none => pure none
      | v => do
        let p ← textOf v
        findMethod (if p.startsWith "::" then String.ofList (p.toList.drop 2) else p) name
  match found with
  | some f => return fitted want (← k.call f (#[first] ++ cells) want)
  | none =>
    let vs ← cells.mapM getCell
    return fitted want (← commonMethod k object (parts.getLastD name) vs.toList want)

/-- Puts two lists in order into one. -/
def mergeLists (inOrder : Value → Value → Run Bool) :
    Nat → List Value → List Value → List Value → Run (List Value)
  | 0, _, _, done => return done.reverse
  | _, [], ys, done => return done.reverse ++ ys
  | _, xs, [], done => return done.reverse ++ xs
  | fuel + 1, x :: xs, y :: ys, done => do
    if ← inOrder x y then mergeLists inOrder fuel xs (y :: ys) (x :: done)
    else mergeLists inOrder fuel (x :: xs) ys (y :: done)

def sortList (inOrder : Value → Value → Run Bool) : Nat → List Value → Run (List Value)
  | 0, xs => return xs
  | _, [] => return []
  | _, [x] => return [x]
  | fuel + 1, xs => do
    let half := xs.length / 2
    let a ← sortList inOrder fuel (xs.take half)
    let b ← sortList inOrder fuel (xs.drop half)
    mergeLists inOrder (xs.length + 1) a b []

def sortedBy (by_ : Option Expr) (vs : Array Value) : Run (Array Value) := do
  match by_ with
  | none =>
    let keyed ← vs.toList.mapM fun v => do return (← textOf v, v)
    return ((keyed.mergeSort fun a b => compareTexts a.1 b.1 != .gt).map (·.2)).toArray
  | some f =>
    let package := (← get).package
    let a ← sharedCell (package ++ "::a")
    let b ← sharedCell (package ++ "::b")
    let inOrder (x y : Value) : Run Bool := do
      setCell a x
      setCell b y
      let n ← numberOf (← k.scalar f)
      return n.compare (.int 0) != some .gt
    return (← sortList inOrder (vs.size + 1) vs.toList).toArray

/-- What a function does with its arguments; `list` says what is wanted of it. -/
def function (name : String) (args : List Expr) (list : Bool) : Run (Array Value) := do
  let first := args.headD (.constant .absent)
  let one (v : Value) : Run (Array Value) := return #[v]
  let yes (b : Bool) : Run (Array Value) := return #[ofBool b]
  match name with
  | "capture" =>
    match first with
    | .constant (.int n) => one ((← get).matched.group n.toNat)
    | _ => one .absent
  | "defined" =>
    yes (!((← k.scalar first) matches .absent))
  | "scalar" => one (← k.scalar first)
  | "keys" =>
    if isArrayExpr first then
      let size := (← arrayCells (← k.array first)).size
      return if list then (Array.range size).map fun (i : Nat) => Value.int i else #[.int size]
    let id ← k.hash first
    modify fun w => { w with hashes := w.hashes.modify id fun t => { t with walk := none } }
    let keys ← hashKeys id
    return if list then (keys.map Value.text).toArray else #[.int keys.length]
  | "splice" => splice k args list
  | "reverse" =>
    let vs ← valuesOf k args
    if list then return vs.reverse
    let vs ← if args.isEmpty then do pure #[← k.scalar topic] else pure vs
    let s := "".intercalate (← textsOf vs.toList)
    one (.text (String.ofList s.toList.reverse))
  | "join" =>
    let vs ← valuesOf k args
    let ss ← textsOf vs.toList
    one (.text ((ss.headD "").intercalate (ss.drop 1)))
  | "sprintf" =>
    let vs ← valuesOf k args
    let format ← textOf (vs.getD 0 .absent)
    let pairs ← (vs.toList.drop 1).mapM fun v => do return (← textOf v, ← numberOf v)
    one (.text (String.ofList (formatText format.toList pairs.toArray)))
  | "die" =>
    let v ← messageOf (← valuesOf k args) "Died"
    throw (.die v)
  | "exit" => throw (.exit (← numberAt k args 0).toInt)
  | "bless" =>
    match ← k.scalar first with
    | .ref t =>
      let p ← textAt k args 1
      modify fun w => { w with blessed := w.blessed.insert t p }
      one (.ref t)
    | _ => fault "Can't bless non-reference value"
  | name =>
    if (name.splitOn "::").length > 1 then
      let _ ← valuesOf k args
      fault ("Undefined subroutine &" ++ name ++ " called")
    else
      let v ← k.scalar first
      match ← simpleFunction? name v with
      | some r => one r
      | none => fault ("The " ++ name ++ " function is unimplemented")

end

end Flowboard.Sigil
