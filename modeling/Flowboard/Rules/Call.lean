import Flowboard.Rules.State
import Flowboard.Time.Calendar

/-! How programs of rules run on the files that they are called with. -/
namespace Flowboard.Rules

def keyOf (cells : List Cell) : Run String := do
  let parts ← cells.mapM fun c => textOf c
  let gap := globalText (← get) "SUBSEP"
  return String.ofList (gap.intercalate parts)

def arithmetic (op : Arithmetic) (x y : Float) : Float :=
  match op with
  | .add => x + y
  | .sub => x - y
  | .mul => x * y
  | .div => x / y
  | .mod => remainder x y
  | .pow => Float.pow x y

/-- The next operand that is a file, or the input if there is none. -/
def openNext (run : Runner) : Nat → Run Bool
  | 0 => return false
  | fuel + 1 => do
    let w ← get
    let count := (wholeOf (global w "ARGC").toNumber).toNat
    if count ≤ w.place then
      if w.anyFile then return false
      else
        set { w with anyFile := true, current := some w.standard }
        return true
    else
      let id ← arrayOf "ARGV"
      let key := Text.naturalText w.place
      modify fun w => { w with place := w.place + 1 }
      let operand ← match ((← get).arrays.getD id {}).entries[key]? with
        | some (c, _) => textOf c
        | none => pure []
      let name := operand.takeWhile (· != '=')
      let isName := name.head?.any (fun c => c.isAlpha || c == '_') &&
        name.all fun c => c.isAlphanum || c == '_'
      if operand.isEmpty then openNext run fuel
      else if isName && name.length < operand.length then
        let value := operand.drop (name.length + 1)
        let value := ((readText (value.length + 2) [] (value ++ ['"'])).map (·.1)).getD value
        setVariable (String.ofList name) (.ofInput value)
        openNext run fuel
      else
        let path := String.ofList operand
        setGlobal "FILENAME" (.text operand)
        setGlobal "FNR" (.number 0.0)
        if path = "-" then
          modify fun w => { w with anyFile := true, current := some w.standard }
          return true
        else
          deliverAll run false
          match (← get).files.read path with
          | .ok bytes =>
            modify fun w => { w with anyFile := true, current := some (Text.octets bytes) }
            return true
          | .error e => throw (.fatal ("cannot open " ++ path ++ " (" ++ e.reason ++ ")"))

def nextRecord (run : Runner) : Nat → Run (Option (List Char))
  | 0 => return none
  | fuel + 1 => do
    let w ← get
    match w.current with
    | none =>
      if ← openNext run (w.place + 1000) then nextRecord run fuel else return none
    | some text =>
      match readRecord (globalText w "RS") text with
      | some (record, rest) =>
        set { w with current := some rest }
        let count (name : String) : Run Unit := do
          setGlobal name (.number ((global (← get) name).toNumber + 1.0))
        count "NR"
        count "FNR"
        return some record
      | none =>
        if w.endless && w.anyFile then throw .stuck
        set { w with current := none }
        nextRecord run fuel

def emit (outlet : Option (Outlet × String)) (text : List Char) : Run Unit :=
  match outlet with
  | none => modify fun w => { w with pending := text :: w.pending }
  | some (o, name) => writeTo o name text

mutual

/-- The value of an expression. Each level uses up one of the fuel. -/
def eval (run : Runner) : Nat → Expr → Run Cell
  | 0, _ => throw .stuck
  | fuel + 1, e => do
    let value := eval run fuel
    match e with
    | .number x => return .number x
    | .text s => return .text s
    | .variable name =>
      match ← slot? name with
      | some (.scalar c) => return c
      | _ => return .unset
    | .field e => getField (wholeOf (← value e).toNumber).toNat
    | .element name keys =>
      let key ← keyOf (← keys.mapM value)
      element (← arrayOf name) key
    | .assign target e =>
      let c ← value e
      store run fuel target c
      return c
    | .update op target e =>
      let y := (← value e).toNumber
      let x := (← value target).toNumber
      let c := Cell.number (arithmetic op x y)
      store run fuel target c
      return c
    | .step before by_ target =>
      let x := (← value target).toNumber
      store run fuel target (.number (x + by_))
      return .number (if before then x + by_ else x)
    | .choice test a b => if (← value test).holds then value a else value b
    | .either a b =>
      if (← value a).holds then return ofBool true else return ofBool (← value b).holds
    | .both a b =>
      if (← value a).holds then return ofBool (← value b).holds else return ofBool false
    | .matches_ wanted e p =>
      let s ← textOf (← value e)
      let r ← expression run fuel p
      return ofBool ((r.find? false s).isSome == wanted)
    | .compare op a b =>
      let x ← value a
      let y ← value b
      return ofBool (x.compare (← conversion) op y)
    | .join a b =>
      let x ← textOf (← value a)
      let y ← textOf (← value b)
      return .text (x ++ y)
    | .arithmetic op a b =>
      let x := (← value a).toNumber
      let y := (← value b).toNumber
      if op = .div && y == 0.0 then
        return .number (x / y)
      return .number (arithmetic op x y)
    | .negative e => return .number (-(← value e).toNumber)
    | .plus e => return .number (← value e).toNumber
    | .not e => return ofBool (!(← value e).holds)

def expression (run : Runner) : Nat → Expr → Run Utility.Regex
  | 0, _ => throw .stuck
  | fuel + 1, e => return patternOf (← textOf (← eval run fuel e))

/-- Gives something that can be assigned to a value. -/
def store (run : Runner) : Nat → Expr → Cell → Run Unit
  | 0, _, _ => throw .stuck
  | fuel + 1, target, c => do
    match target with
    | .variable name => setVariable name c
    | .field e => setField (wholeOf (← eval run fuel e).toNumber).toNat c
    | .element name keys =>
      let key ← keyOf (← keys.mapM (eval run fuel))
      putElement (← arrayOf name) key c
    | _ => return

def execute (run : Runner) : Nat → Statement → Run Unit
  | 0, _ => throw .stuck
  | fuel + 1, s => do
    tick
    let value := eval run fuel
    let place (o : Option (Outlet × Expr)) : Run (Option (Outlet × String)) := match o with
      | none => return none
      | some (kind, e) => do
        let c ← value e
        return some (kind, String.ofList (← textOf c))
    match s with
    | .value e =>
      let _ ← value e
      return
    | .print args outlet =>
      let w ← get
      let format := globalText w "OFMT"
      let text ← match args with
        | [] => pure w.record
        | args => do
          let cells ← args.mapM value
          let gap := globalText (← get) "OFS"
          pure (gap.intercalate (cells.map (·.toText format)))
      let to_ ← place outlet
      emit to_ (text ++ globalText (← get) "ORS")
    | .block ss => executeAll run fuel ss

def executeAll (run : Runner) : Nat → List Statement → Run Unit
  | _, [] => return
  | 0, _ => throw .stuck
  | fuel + 1, s :: rest => do
    execute run fuel s
    executeAll run fuel rest

end

/-- How deep expressions and calls may be. -/
def depthOfCalls : Nat := 20000

/-- Whether the rule at a place applies to the record; a range stays open until its last record. -/
def applies (run : Runner) (place : Nat) : Pattern → Run Bool
  | .end_ => return false
  | .always => return true
  | .when e => do
    let c ← eval run depthOfCalls e
    return c.holds
  | .range first last => do
    let inside := (← get).ranges.contains place
    let starts ← if inside then pure true else do
      let c ← eval run depthOfCalls first
      pure c.holds
    if starts then
      let c ← eval run depthOfCalls last
      modify fun w =>
        let others := w.ranges.filter (· != place)
        { w with ranges := if c.holds then others else place :: others }
    return starts

def act (run : Runner) (r : Rule) : Run Unit :=
  match r.action with
  | some s => execute run depthOfCalls s
  | none => execute run depthOfCalls (.print [] none)

def actAll (run : Runner) : List Rule → Run Unit
  | [] => return
  | r :: rest => do
    act run r
    actAll run rest

def onRecord (run : Runner) : Nat → List Rule → Run Unit
  | _, [] => return
  | place, r :: rest => do
    if ← applies run place r.pattern then act run r
    onRecord run (place + 1) rest

/-- Reads one record and applies the rules to it; false at the end of the records. -/
def stepRecord (run : Runner) (rules : List Rule) : Run Bool := do
  match ← nextRecord run 1000000 with
  | none => return false
  | some record =>
    setRecord record
    fun w => match onRecord run 0 rules w with
      | (.error e, w) => (.error e, w)
      | (.ok _, w) => (.ok true, w)

/-- Runs a whole program: all records, and what stands at the end. -/
def runAll (run : Runner) : Run Unit := do
  let rules := (← get).program.rules
  let last := rules.filter fun r => r.pattern matches .end_
  let main := rules.filter fun r => !(r.pattern matches .end_)
  if !rules.isEmpty then repeatWhile .stuck repetitions (stepRecord run main)
  actAll run last
  deliverAll run true

/-- The variables that every program has. -/
def startVariables (count : Nat) : List (String × Cell) :=
  let text (s : String) : Cell := .text s.toList
  [("FS", text " "), ("OFS", text " "), ("ORS", text "\n"), ("RS", text "\n"),
   ("SUBSEP", text "\x1c"), ("CONVFMT", text "%.6g"), ("OFMT", text "%.6g"),
   ("NR", .number 0.0), ("FNR", .number 0.0), ("NF", .number 0.0), ("RSTART", .number 0.0),
   ("RLENGTH", .number (-1.0)), ("FILENAME", .unset), ("ARGC", ofNat count)]

/-- An array of values by their keys. -/
def dictionaryOf (entries : List (String × Cell)) : Dictionary :=
  entries.foldl (fun d (k, c) =>
    { entries := d.entries.insert k (c, d.clock + 1), clock := d.clock + 1 }) {}

def startWorld (c : Utility.Call) (program : Program) (operands : List String) : World :=
  let operands := c.name :: operands
  let argv := dictionaryOf ((operands.zip (List.range operands.length)).map fun (a, n) =>
    (Text.naturalText n, Cell.ofInput a.toList))
  let environ := dictionaryOf (c.environment.map fun (k, v) => (k, Cell.ofInput v.toList))
  let given := startVariables operands.length
  let globals := given.foldl (fun g (n, v) => g.insert n (Slot.scalar v))
    ({} : Std.HashMap String Slot)
  let standard := c.input.text
  { program
    name := c.name
    globals := (globals.insert "ARGV" (.array 0)).insert "ENVIRON" (.array 1)
    arrays := #[argv, environ]
    files := c.files
    standard
    endless := c.input.endless }

/-- What a program of rules does when it is called: the first argument is its text, and the others are
its operands. -/
def perform (run : Runner) (c : Utility.Call) : Utility.Effect :=
  match Program.read (c.args.headD "").toList with
  | .error e => { errors := (c.name ++ ": " ++ e ++ "\n").toList, status := .ofInt 2 }
  | .ok program =>
    let (result, w) := runAll run (startWorld c program (c.args.drop 1))
    let effect (errors : List Char) (status : Int) (tail : Tail) : Utility.Effect :=
      { output := { text := w.flush.output.reverse.flatten, tail }
        errors := w.errors.reverse.flatten ++ errors
        status := .ofInt status
        millis := w.millis
        files := some w.files
        waited := !program.rules.isEmpty }
    match result with
    | .ok _ => effect [] w.code .ends
    | .error (.fatal m) => effect (c.name ++ ": " ++ m ++ "\n").toList 2 .ends
    | .error .stuck =>
      -- one that has written much goes on with it
      let last := w.flush.output.headD []
      effect [] 0 (if 10000 < w.pending.length && !last.isEmpty then .repeats last else .hangs)

end Flowboard.Rules
