import Flowboard.Sigil.Run

/-! How expressions and statements are evaluated. -/
namespace Flowboard.Sigil

section
variable (k : Evaluator)

def piecesText : List Expr → String → Run String
  | [], done => return done
  | e :: rest, done => do
    match e with
    | .woven e =>
      let vs ← k.list e
      let gap ← textOf (← shared "main::\"")
      let ss ← textsOf vs.toList
      piecesText rest (done ++ gap.intercalate ss)
    | e =>
      let s ← textOf (← k.scalar e)
      piecesText rest (done ++ s)

def subjectCell (target : Option Expr) : Run Nat :=
  match target with
  | some e => k.place e
  | none => return (← get).topic

/-- Whether something is the empty pattern. -/
def matchExpr (target : Option Expr) (pattern : Expr) (flags : List Char) (list : Bool) :
    Run (Array Value) := do
  let c ← subjectCell k target
  let s ← textOf (← k.scalar pattern)
  matchCell c s flags list

def substituteExpr (target : Option Expr) (pattern put : Expr) (flags : List Char) :
    Run Value := do
  let c ← subjectCell k target
  let s ← textOf (← k.scalar pattern)
  let (p, anchored) ← patternFor s flags
  let old ← textOf (← getCell c)
  let text := old.toList.toArray
  let replace : Run String := do textOf (← k.scalar put)
  let (new, n) ← substituteIn text p anchored (flags.contains 'g') replace (text.size + 2) 0 0
    .anywhere [] 0
  if flags.contains 'r' then return .text (String.ofList new)
  if n == 0 then return .text ""
  setCell c (.text (String.ofList new))
  return .int n

def transliterateExpr (target : Option Expr) (old new flags : List Char) : Run Value := do
  let c ← subjectCell k target
  let s := (← textOf (← getCell c)).toList
  let (t, n) := transliterate old new flags s
  if flags.contains 'r' then return .text (String.ofList t)
  if t != s then setCell c (.text (String.ofList t))
  return .int n

def rangeValues (a b : Value) : Run (Array Value) := do
  numbers
where
  numbers : Run (Array Value) := do
    let first := (← numberOf a).toInt
    let last := (← numberOf b).toInt
    if last < first then return #[]
    if 20000000 < last - first then fault "Out of memory in perl:extend"
    return (Array.range (last - first + 1).toNat).map fun (i : Nat) => Value.int (first + i)

/-- A range that opens with one condition and closes with another one. A number is the number of
the record. -/
def flipFlop (id : Nat) (a b : Expr) : Run Value := do
  let holds (e : Expr) : Run Bool := do
    truthOf (← k.scalar e)
  let count := ((← get).flips[id]?).getD 0
  let opens ← if count == 0 then holds a else pure true
  if !opens then return .text ""
  let closes ← holds b
  modify fun w => { w with flips := w.flips.insert id (if closes then 0 else count + 1) }
  return .text (Text.naturalText (count + 1) ++ (if closes then "E0" else ""))

def writeExpr (how : String) (handle : Option Expr) (args : List Expr) : Run Value := do
  let h ← match handle with
    | none => pure (some (← get).selected)
    | some e => handleOf k e
  let vs ← valuesOf k args
  let text ← if how == "printf" then do
      let format ← textOf (vs.getD 0 .absent)
      let pairs ← (vs.toList.drop 1).mapM fun v => do return (← textOf v, ← numberOf v)
      pure (String.ofList (formatText format.toList pairs.toArray))
    else do
      let gap ← textOf (← shared "main::,")
      let tail ← textOf (← shared "main::\\")
      let ss ← textsOf vs.toList
      let s := gap.intercalate ss ++ (if how == "say" then "\n" else "")
      pure (s ++ tail)
  match h with
  | some h => return ofBool (← writeTo h text)
  | none => return .text ""

/-- Runs something and keeps its ending from going further. -/
def tried (body : Run (Array Value)) (want : Option Bool) : Run (Array Value) := fun w =>
  let depth := w.restores.length
  match body w with
  | (.ok vs, v) =>
    match setShared "main::@" (.text "") v with
    | (_, v) => (.ok vs, v)
  | (.error (.die e), v) =>
    let (_, v) := goBackTo depth v.restores v
    let v := { v with
      scope := w.scope, arguments := w.arguments, want := w.want, package := w.package
      depth := w.depth, topic := w.topic }
    match setShared "main::@" e v with
    | (_, v) => (.ok (if want == some true then #[] else #[.absent]), v)
  | (.error s, v) => (.error s, v)

/-- What a text is as a program, with the place of faults. -/
def tryText (e : Expr) (visible : Visible) (package : String) (want : Option Bool) :
    Run (Array Value) := do
  let text ← textOf (← k.scalar e)
  let line := (← get).line
  let file := (← get).file
  let body : Run (Array Value) := do
    modify fun w => { w with file := "(eval 1)" }
    let vs ← runText k text visible package "(eval 1)" want
    modify fun w => { w with file, line }
    return vs
  let vs ← tried (inBlock body) want
  modify fun w => { w with file, line }
  return vs

def placeOf (e : Expr) : Run Nat := do
  match e with
  | .var .scalar n => cellOf n
  | .declare .my .scalar id => declareOwnVar .scalar id
  | .item a i =>
    let id ← k.array a
    itemCell id (← indexOf k i)
  | .entry h key =>
    let id ← k.hash h
    entryCell id (← keyOf k key)
  | .localized e =>
    localize e
    k.place e
  | .list [e] => k.place e
  | .assign t _ =>
    let _ ← k.scalar e
    match t with
    | .declare .my .scalar id => ownPlace .scalar id
    | t => k.place t
  | e => newCell (← k.scalar e)

def arrayAt (e : Expr) : Run Nat := do
  match e with
  | .var .array n => arrayOf n
  | .declare .my .array id => declareOwnVar .array id
  | .deref .array e => derefArray k e
  | e => newArray (← k.list e)

def hashAt (e : Expr) : Run Nat := do
  match e with
  | .var .hash n => hashOf n
  | .declare .my .hash id => declareOwnVar .hash id
  | .deref .hash e => derefHash k e
  | e =>
    let h ← newHash
    fillHash h (← k.list e).toList
    return h

def cellsOf (e : Expr) : Run (Array Nat) := do
  match e with
  | .var .array _ | .deref .array _ => arrayCells (← k.array e)
  | .var .scalar _ | .deref .scalar _ | .declare _ .scalar _ => return #[← k.place e]
  | .list es =>
    let parts ← es.mapM k.cells
    return parts.toArray.flatMap id
  | e => (← k.list e).mapM newCell

def referTo (e : Expr) : Run (Array Value) := do
  match e with
  | .var .array _ | .deref .array _ | .declare _ .array _ => return #[.ref (.array (← k.array e))]
  | .var .hash _ | .deref .hash _ | .declare _ .hash _ => return #[.ref (.hash (← k.hash e))]
  | .deref .code e => return #[← k.scalar e]
  | .handleNamed n => return #[.ref (.handle (← handleNamed n))]
  | .list es =>
    let parts ← es.mapM fun e => k.list (.refer e)
    return parts.toArray.flatMap id
  | .closure _ _ => return #[.ref (.scalar (← newCell (← k.scalar e)))]
  | e => return #[.ref (.scalar (← k.place e))]

def wanted : Run (Option Bool) := do
  return (← get).want

def evalScalar (e : Expr) : Run Value := do
  let lastOf (r : Run (Array Value)) : Run Value := do
    return (← r).back?.getD .absent
  match e with
  | .constant v => return v
  | .var .scalar n => getCell (← cellOf n)
  | .var .array _ | .deref .array _ => return .int (← arrayCells (← k.array e)).size
  | .var .hash _ | .deref .hash _ =>
    let id ← k.hash e
    return .int ((← get).hashes.getD id {}).entries.size
  | .var .code _ => return .absent
  | .pieces es => return .text (← piecesText k es "")
  | .woven _ => return .text (← piecesText k [e] "")
  | .item a i =>
    let id ← k.array a
    arrayItem id (← indexOf k i)
  | .entry h key =>
    let id ← k.hash h
    hashEntry id (← keyOf k key)
  | .deref .scalar e => getCell (← derefScalar k e)
  | .deref .code e => k.scalar e
  | .lastIndex a => return .int ((← arrayCells (← k.array a)).size - 1 : Int)
  | .declare _ .scalar _ => getCell (← k.place e)
  | .declare _ .array _ => return .int (← arrayCells (← k.array e)).size
  | .declare _ .hash _ =>
    let _ ← k.hash e
    return .int 0
  | .declare _ .code _ => return .absent
  | .localized inner =>
    if isListTarget inner then
      localize inner
      k.scalar inner
    else getCell (← k.place e)
  | .list es =>
    match es.reverse with
    | [] => return .absent
    | last :: before =>
      for e in before.reverse do
        let _ ← k.scalar e
      k.scalar last
  | .assign t v =>
    let x ← k.scalar v
    assignScalar k t x
    return x
  | .assignList t v => return .int (← assignList k t v)
  | .update op t v =>
    if isArrayExpr t then
      let a ← k.array t
      let vs ← k.list v
      pushValues a vs
      return .int vs.size
    let x ← k.scalar v
    let c ← k.place t
    let old ← getCell c
    let own ← pure none
    let new ← match own with
      | some r => pure r
      | none => operate op old x
    setCell c new
    return new
  | .updateLazy op t v =>
    if isArrayExpr t then
      let a ← k.array t
      let full := !(← arrayCells a).isEmpty
      if (op == .and) == full then fillArray a (← k.list v)
      return .int (← arrayCells a).size
    let c ← k.place t
    let old ← getCell c
    let go ← match op with
      | .and => truthOf old
      | .or => do
        let b ← truthOf old
        pure (!b)
      | .otherwise => pure (old matches .absent)
    if go then
      let x ← k.scalar v
      setCell c x
      return x
    else return old
  | .binary op a b =>
    let x ← k.scalar a
    let y ← k.scalar b
    operate op x y
  | .lazy op a b =>
    let x ← k.scalar a
    match op with
    | .and => if ← truthOf x then k.scalar b else return x
    | .or => if ← truthOf x then return x else k.scalar b
    | .otherwise => if (x matches .absent) then k.scalar b else return x
  | .xor a b =>
    let x ← truthOf (← k.scalar a)
    let y ← truthOf (← k.scalar b)
    return ofBool (x != y)
  | .unary .not e =>
    return ofBool (!(← truthOf (← k.scalar e)))
  | .unary .negate e => negated (← k.scalar e)
  | .unary .complement e =>
    let n ← numberOf (← k.scalar e)
    return .int (twoTo 64 - 1 - n.toWord : Nat)
  | .choice c a b => if ← truthOf (← k.scalar c) then k.scalar a else k.scalar b
  | .range id a b => flipFlop k id a b
  | .repeatList e n => operate .repeated (← k.scalar e) (← k.scalar n)
  | .step before up e =>
    let c ← k.place e
    let old ← getCell c
    let new ← if up then increased old else operate .sub old (.int 1)
    setCell c new
    if before then return new
    return old
  | .match_ t p flags => lastOf (matchExpr k t p flags false)
  | .substitute t p r flags => substituteExpr k t p r flags
  | .transliterate t a b flags => transliterateExpr k t a b flags
  | .readLine h =>
    match ← handleOf k h with
    | some h =>
      match ← readFrom h with
      | some s => return .text s
      | none => return .absent
    | none => return .absent
  | .call n args plain => lastOf (callNamed k n args plain (some false))
  | .callRef f args =>
    let f ← codeOf (← k.scalar f)
    lastOf (k.call f (← argumentCells k args) (some false))
  | .method o n args => lastOf (callMethod k (← k.scalar o) n args (some false))
  | .builtin n args => lastOf (function k n args false)
  | .sorted by_ e => return .int (← sortedBy k by_ (← k.list e)).size
  | .mapped _ _ => return .int (← k.list e).size
  | .filtered f e =>
    let cells ← k.cells e
    let kept ← cells.filterM fun c => do truthOf (← withTopic c (k.scalar f))
    return .int kept.size
  | .write how h args => writeExpr k how h args
  | .newArray es => return .ref (.array (← newArray (← valuesOf k es)))
  | .newHash es =>
    let h ← newHash
    fillHash h (← valuesOf k es).toList
    return .ref (.hash h)
  | .closure n body =>
    let w ← get
    let f := w.closures.size
    set { w with closures := w.closures.push ⟨n, w.package, body, w.scope⟩ }
    return .ref (.code f)
  | .refer e => lastOf (referTo k e)
  | .handleNamed n => return .ref (.handle (← handleNamed n))
  | .do_ body => lastOf (k.block body (some false))
  | .tryText e visible package => lastOf (tryText k e visible package (some false))
  | .return_ e =>
    match e, ← wanted with
    | some e, some true => throw (.return_ (← k.list e))
    | _, _ => throw (.return_ #[])
  | .items _ _ | .entries _ _ | .picked _ _ => lastOf (k.list e)

def evalList (e : Expr) : Run (Array Value) := do
  match e with
  | .list es => valuesOf k es
  | .var .array _ | .deref .array _ | .declare _ .array _ => arrayValues (← k.array e)
  | .var .hash _ | .deref .hash _ | .declare _ .hash _ => hashPairs (← k.hash e)
  | .items a is =>
    let id ← k.array a
    (← k.list is).mapM fun i => do arrayItem id (← numberOf i).toInt
  | .lazy op a b =>
    let x ← k.scalar a
    match op with
    | .and => if ← truthOf x then k.list b else return #[x]
    | .or => if ← truthOf x then return #[x] else k.list b
    | .otherwise => if (x matches .absent) then k.list b else return #[x]
  | .range _ a b => rangeValues (← k.scalar a) (← k.scalar b)
  | .match_ t p flags => matchExpr k t p flags true
  | .method o n args => callMethod k (← k.scalar o) n args (some true)
  | .builtin n args => function k n args true
  | .sorted by_ e => sortedBy k by_ (← k.list e)
  | .mapped f e =>
    let cells ← k.cells e
    let parts ← cells.mapM fun c => withTopic c (k.list f)
    return parts.flatMap id_
  | .do_ body => k.block body (some true)
  | e => return #[← k.scalar e]
where
  id_ (vs : Array Value) : Array Value := vs

/-- Evaluates an expression whose value does not count. -/
def discard (e : Expr) : Run Unit := do
  let _ ← k.scalar e

/-- How a loop goes on. -/
inductive Turn where
  | on
  | out
  | again
  deriving DecidableEq

/-- Runs the body of a loop once. -/
def turn (label : Option String) (body : Run Unit) : Run Turn := fun w =>
  match inBlock body w with
  | (.ok _, v) => (.ok .on, v)
  | (.error (.leap how l), v) =>
    if l.isNone || l == label then
      (.ok (match how with
        | .next => .on
        | .last => .out
        | .redo => .again), v)
    else (.error (.leap how l), v)
  | (.error s, v) => (.error s, v)

/-- Runs the body of a loop until it does not ask for another time. -/
def turnFully (label : Option String) (body : Run Unit) : Nat → Run Bool
  | 0 => throw .stuck
  | n + 1 => do
    tick
    match ← turn label body with
    | .on => return true
    | .out => return false
    | .again => turnFully label body n

/-- Makes a scalar stand for the variable of a loop. -/
def bindLoop : Run Unit :=
  return

/-- Runs a body for one scalar after the other. -/
def eachCell (label : Option String) (var : Expr) (body : Run Unit) : List Nat → Run Unit
  | [] => return
  | _ :: rest => do
    let go ← turnFully label (do
      bindLoop
      body) repetitions
    if go then eachCell label var body rest

def loopOver (label : Option String) (var es : Expr) (body : Run Unit) : Run Unit := do
  inBlock do
    let cells ← k.cells es
    eachCell label var body cells.toList

def truthOfExpr (e : Expr) : Run Bool := do
  truthOf (← k.scalar e)

def setLine (n : Nat) : Run Unit :=
  modify fun w => { w with line := n }

/-- The body of a block, with the match before it put back afterwards. -/
def runBody (body : List Statement) : Run Unit := do
  let m := (← get).matched
  let _ ← k.block body none
  modify fun w => { w with matched := m }

def execute (s : Statement) : Run Unit := do
  match s with
  | .nothing => return
  | .package n => modify fun w => { w with package := n }
  | .expr line e =>
    tick
    setLine line
    discard k e
  | .block label body =>
    let _ ← turnFully label (runBody k body) repetitions
  | .while_ line label negated test body after =>
    inBlock (repeatWhile .stuck repetitions (do
      setLine line
      let go ← match test with
        | some e => truthOfExpr k e
        | none => pure true
      if go == negated then return false
      let more ← turnFully label (runBody k body) repetitions
      if more && !after.isEmpty then runBody k after
      return more))
  | .doWhile line negated body test =>
    repeatWhile .stuck repetitions (do
      tick
      let _ ← k.block body none
      setLine line
      return (← truthOfExpr k test) != negated)
  | .each line label var es body =>
    setLine line
    loopOver k label var es (runBody k body)

def valueOfLast (s : Statement) (want : Option Bool) : Run (Array Value) := do
  match s with
  | .expr line e =>
    tick
    setLine line
    match want with
    | some true => k.list e
    | some false => return #[← k.scalar e]
    | none =>
      discard k e
      return #[]
  | .block label body =>
    if label.isNone then
      fun w => match inBlock (k.block body want) w with
        | (.error (.leap .last none), v) => (.ok #[], v)
        | (.error (.leap .next none), v) => (.ok #[], v)
        | r => r
    else
      execute k s
      return #[]
  | s =>
    execute k s
    return #[]

/-- Statements one after the other; the value of the last one. -/
def runStatements (want : Option Bool) : List Statement → Run (Array Value)
  | [] => return #[]
  | [s] => valueOfLast k s want
  | s :: rest => do
    execute k s
    runStatements want rest

end

def evaluator : Nat → Evaluator
  | 0 =>
    { scalar := fun _ => throw .stuck, list := fun _ => throw .stuck
      cells := fun _ => throw .stuck, place := fun _ => throw .stuck
      array := fun _ => throw .stuck, hash := fun _ => throw .stuck
      block := fun _ _ => throw .stuck, call := fun _ _ _ => throw .stuck }
  | n + 1 =>
    { scalar := fun e => evalScalar (evaluator n) e
      list := fun e => evalList (evaluator n) e
      cells := fun e => cellsOf (evaluator n) e
      place := fun e => placeOf (evaluator n) e
      array := fun e => arrayAt (evaluator n) e
      hash := fun e => hashAt (evaluator n) e
      block := fun body want => inBlock (runStatements (evaluator n) want body)
      call := fun f args want => callCode (evaluator n) f args want }

end Flowboard.Sigil
