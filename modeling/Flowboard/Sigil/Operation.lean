import Flowboard.Sigil.State

/-! What is done with values: how objects turn into texts and numbers, operators, and patterns. -/
namespace Flowboard.Sigil

/-- How expressions are evaluated: as one value, as a list, as places that can be changed. -/
structure Evaluator where
  scalar : Expr → Run Value
  list : Expr → Run (Array Value)
  /-- the scalars of a list; new ones for values that have no place -/
  cells : Expr → Run (Array Nat)
  place : Expr → Run Nat
  array : Expr → Run Nat
  hash : Expr → Run Nat
  block : List Statement → Option Bool → Run (Array Value)
  call : Nat → Array Nat → Option Bool → Run (Array Value)

/-- The packages in which a method of a package is looked for. -/
def ancestry (w : World) : Nat → String → List String
  | 0, _ => []
  | fuel + 1, package =>
    let parents := match w.lists[package ++ "::ISA"]? with
      | some a => (w.arrays.getD a #[]).toList.filterMap fun c =>
          match w.cells.getD c .absent with
          | .text s => some s
          | _ => none
      | none => []
    package :: parents.flatMap (ancestry w fuel)

def findMethod (package name : String) : Run (Option Nat) := do
  let w ← get
  return (ancestry w 20 package).findSome? fun p => w.routines[p ++ "::" ++ name]?

def Target.kind : Target → String
  | .scalar _ => "SCALAR"
  | .array _ => "ARRAY"
  | .hash _ => "HASH"
  | .code _ => "CODE"
  | .handle _ => "GLOB"

/-- The address of something, which tells it from everything else. -/
def Target.address : Target → Nat
  | .scalar n => 0x55d0c0000000 + 24 * n
  | .array n => 0x55d0c4000000 + 24 * n
  | .hash n => 0x55d0c8000000 + 24 * n
  | .code n => 0x55d0cc000000 + 24 * n
  | .handle n => 0x55d0ce000000 + 24 * n

def Target.text (w : World) (t : Target) : String :=
  let kind := match t with
    | .scalar c =>
      match w.cells.getD c .absent with
      | .ref _ => "REF"
      | _ => "SCALAR"
    | t => t.kind
  let address := kind ++ "(0x" ++ String.ofList (Nat.toDigits 16 t.address) ++ ")"
  match w.blessed[t]? with
  | some p => p ++ "=" ++ address
  | none => address

section
variable (k : Evaluator)

def callValues (f : Nat) (args : List Value) (want : Option Bool) : Run (Array Value) := do
  let cells ← args.mapM newCell
  k.call f cells.toArray want

def plainText (w : World) (v : Value) : String :=
  match v with
  | .absent => ""
  | .text s => s
  | .int n => Text.integerText n
  | .float x => floatText x
  | .dual _ s => s
  | .ref t =>
    match t, w.blessed[t]? with
    | .scalar c, some "Regexp" =>
      match w.cells.getD c .absent with
      | .text s => s
      | _ => ""
    | t, _ => t.text w

def textOf (v : Value) : Run String := do
  match v with
  | .text s => return s
  | .int n => return Text.integerText n
  | v => return plainText (← get) v

def numberOf (v : Value) : Run Number := do
  match v with
  | .absent => return .int 0
  | .int n => return .int n
  | .float x => return .float x
  | .text s => return textNumber s
  | .dual n _ => return .int n
  | .ref t => return .int t.address

def plainTruth (v : Value) : Bool :=
  match v with
  | .absent => false
  | .text s => s != "" && s != "0"
  | .int n => n != 0
  | .float x => x != 0.0
  | .dual n _ => n != 0
  | .ref _ => true

def truthOf (v : Value) : Run Bool := do
  return plainTruth v

def ofBool (b : Bool) : Value :=
  if b then .int 1 else .text ""

/-- What an ordering means for a comparison. -/
def Binary.holds (op : Binary) (o : Option Ordering) : Value :=
  match op, o with
  | .numCompare, none => .absent
  | .numCompare, some o | .textCompare, some o =>
    .int (match o with
      | .lt => -1
      | .eq => 0
      | .gt => 1)
  | .numNe, none => .int 1
  | _, none => .text ""
  | .numLt, some o | .textLt, some o => ofBool (o == .lt)
  | .numLe, some o | .textLe, some o => ofBool (o != .gt)
  | .numGt, some o | .textGt, some o => ofBool (o == .gt)
  | .numGe, some o | .textGe, some o => ofBool (o != .lt)
  | .numEq, some o | .textEq, some o => ofBool (o == .eq)
  | .numNe, some o | .textNe, some o => ofBool (o != .eq)
  | _, _ => .text ""

def Binary.comparesTexts (op : Binary) : Bool :=
  op matches .textLt | .textLe | .textGt | .textGe | .textEq | .textNe | .textCompare

def operate (op : Binary) (a b : Value) : Run Value := do
  let texts : Run (String × String) := do
    let s ← textOf a
    let t ← textOf b
    return (s, t)
  match op with
  | .concat =>
    let (s, t) ← texts
    return .text (s ++ t)
  | .repeated =>
    let s ← textOf a
    let n ← numberOf b
    return .text (repeatText s n.toInt)
  | op =>
    if op.comparesTexts then
      let (s, t) ← texts
      return op.holds (some (compareTexts s t))
    else
      let x ← numberOf a
      let y ← numberOf b
      match op with
      | .mul => return (exactly (· * ·) (· * ·) x y).toValue
      | .div =>
        if y.toFloat == 0.0 then fault "Illegal division by zero"
        match x.whole?, y.whole? with
        | some m, some n =>
          if n != 0 && Int.emod m n == 0 then return .int (Int.tdiv m n)
          else return .float (x.toFloat / y.toFloat)
        | _, _ => return .float (x.toFloat / y.toFloat)
      | .pow => return (power x y).toValue
      | op => return op.holds (x.compare y)

def negated (v : Value) : Run Value := do
  let n ← numberOf v
  return (exactly (· - ·) (· - ·) (.int 0) n).toValue

/-- One more; a text of letters goes to the next one. -/
def increased (v : Value) : Run Value := do
  let n ← numberOf v
  return (exactly (· + ·) (· + ·) n (.int 1)).toValue

def remember (text : Array Char) (groups : Search.Groups) (p : Search.Compiled) : Run Unit := do
  modify fun w => { w with matched := { text, groups, count := p.groups } }
  if !p.names.isEmpty then
    let h ← sharedHash "main::+"
    clearHash h
    let m := (← get).matched
    for (name, n) in p.names do
      match m.group n with
      | .absent => pure ()
      | v =>
        let c ← entryCell h name
        setCell c v

def searchIn (text : Array Char) (p : Search.Compiled) (anchored : Bool) (start : Nat)
    (ending : Search.Ending) : Run (Option (Nat × Search.Groups)) := do
  if text.size < start then return none
  let tries := if anchored then 1 else text.size + 1 - start
  match Search.searchFrom text p.pattern p.groups tries start ending Search.patience with
  | (.found last groups, _) => return some (last, groups)
  | (.failed, _) => return none
  | (.tired, _) => throw .stuck

/-- The pattern of a text; one that starts where the last match ended is marked. -/
def patternFor (text : String) (flags : List Char) : Run (Search.Compiled × Bool) := do
  match text.toList with
  | '\\' :: 'G' :: rest => return (← compiled (String.ofList rest) flags, true)
  | _ => return (← compiled text flags, false)

def firstOf (groups : Search.Groups) (last : Nat) : Nat :=
  ((groups[0]?).join.map (·.1)).getD last

def groupValues (m : Match) : List Value :=
  (List.range m.count).map fun i => m.group (i + 1)

def matchesIn (text : Array Char) (p : Search.Compiled) (anchored : Bool) :
    Nat → Nat → Search.Ending → Array (Nat × Search.Groups) → Run (Array (Nat × Search.Groups))
  | 0, _, _, done => return done
  | fuel + 1, start, ending, done => do
    match ← searchIn text p anchored start ending with
    | none => return done
    | some (last, groups) =>
      let first := firstOf groups last
      let ending := if first == last then Search.Ending.further else .anywhere
      matchesIn text p anchored fuel last ending (done.push (last, groups))

/-- Tests a scalar against a pattern. -/
def matchCell (cell : Nat) (pattern : String) (flags : List Char) (list : Bool) :
    Run (Array Value) := do
  let subject ← textOf (← getCell cell)
  let text := subject.toList.toArray
  let (p, anchored) ← patternFor pattern flags
  let failed : Array Value := if list then #[] else #[.text ""]
  if flags.contains 'g' then
    let start := ((← get).positions[cell]?).getD 0
    if list then
      let found ← matchesIn text p anchored (text.size + 2) start .anywhere #[]
      match found.back? with
      | none => return #[]
      | some (_, groups) =>
        remember text groups p
        modify fun w => { w with positions := w.positions.erase cell }
        return found.flatMap fun (_, groups) =>
          let m : Match := { text, groups, count := p.groups }
          if p.groups == 0 then #[m.group 0] else (groupValues m).toArray
    else
      -- an empty match does not come twice at the same place
      let w ← get
      let stays := (w.positions[cell]?).isSome && w.matched.text == text &&
        ((w.matched.groups[0]?).join.any fun (a, b) => a == b && b == start)
      let ending := if stays then Search.Ending.further else .anywhere
      match ← searchIn text p anchored start ending with
      | none =>
        if !(flags.contains 'c') then
          modify fun w => { w with positions := w.positions.erase cell }
        return failed
      | some (last, groups) =>
        remember text groups p
        modify fun w => { w with positions := w.positions.insert cell last }
        return #[.int 1]
  else
    let before := ((← get).positions[cell]?).getD 0
    let start := if anchored then before else 0
    match ← searchIn text p anchored start .anywhere with
    | none => return failed
    | some (_, groups) =>
      remember text groups p
      let m := (← get).matched
      if list then
        return if p.groups == 0 then #[.int 1] else (groupValues m).toArray
      else return #[.int 1]

/-- Puts something in the place of matches; the new text and how many there were. -/
def substituteIn (text : Array Char) (p : Search.Compiled) (anchored every : Bool)
    (put : Run String) :
    Nat → Nat → Nat → Search.Ending → List Char → Nat → Run (List Char × Nat)
  | 0, _, _, _, done, n => return (done, n)
  | fuel + 1, copied, start, ending, done, n => do
    match ← searchIn text p anchored start ending with
    | none => return (done ++ (text.extract copied text.size).toList, n)
    | some (last, groups) =>
      let first := firstOf groups last
      remember text groups p
      let s ← put
      let done := done ++ (text.extract copied first).toList ++ s.toList
      if !every then return (done ++ (text.extract last text.size).toList, n + 1)
      let ending := if first == last then Search.Ending.further else .anywhere
      substituteIn text p anchored every put fuel last last ending done (n + 1)

end

end Flowboard.Sigil
