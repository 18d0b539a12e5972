import Flowboard.Script.Builtin

/-! Which objects a running script can still get at, and what happens to those that somebody asks
about once it cannot. -/
namespace Flowboard.Script

/-- What is still to be looked at: a value, or the variables of a scope. -/
inductive Holder where
  | value (v : Value)
  | scope (place : Nat)

def Exit.holds : Exit → List Holder
  | .raise v => [.value v]
  | .give v => [.value v]
  | _ => []

def Frame.holds : Frame → List Holder
  | .each it _ _ _ => [.value it]
  | .resume e => e.holds
  | .using m => [.value m]
  | .delegate it _ => [.value it]
  | _ => []

def Dict.holds (d : Dict) : List Holder :=
  d.entries.foldl (fun held e =>
    match e with
    | some (k, v) => .value v :: .value k :: held
    | none => held) []

def Iterator.holds : Iterator → List Holder
  | .values xs => xs.map .value
  | .elements list _ => [.value (.ref list)]
  | .endless next step => [.value next, .value step]
  | .mapped f sources => .value f :: sources.map .value
  | .zipped sources fill => sources.map .value ++ (fill.map Holder.value).toList
  | .enumerated _ source => [.value source]
  | .chained sources => sources.map .value
  | .cycled all left => all.map .value ++ left.map .value
  | .sliced _ _ _ source => [.value source]
  | .entries _ dict _ _ => [.value (.ref dict)]
  | .indexed object _ => [.value object]
  | .generator [] _ _ _ => []
  | .generator frames scope _ _ => .scope scope :: frames.flatMap Frame.holds
  | .counting _ _ _ | .running _ | .done => []

def Obj.holds : Obj → List Holder
  | .list xs _ => xs.foldl (fun held v => .value v :: held) []
  | .dict d kind =>
    match kind with
    | .supplied factory => .value factory :: d.holds
    | _ => d.holds
  | .set d _ => d.holds
  | .function f =>
    .scope f.scope :: f.attributes.holds ++ f.notes.holds ++ f.params.flatMap fun p =>
      (p.standard.map Holder.value).toList
  | .type c => .value c.kind :: (c.ancestors ++ c.bases).map .value ++ c.attributes.holds
  | .object cls attributes base => .value cls :: .value base :: attributes.holds
  | .iterator it => it.holds
  | .wrapped _ f setter => [.value f, .value setter]
  | .curried f args named => .value f :: args.map .value ++ named.map fun (_, v) => .value v
  | .file f => [.value f.name]
  | .octets _ => []
  | .window w => [.value w.source]
  | .view "variables" i => [.scope i]
  | .view _ i => [.value (.ref i)]
  | .above cls self => [.value cls, .value self]

def Value.parts : Value → List Value
  | .tuple xs => xs
  | .slice a b c => [a, b, c]
  | .method self _ => [self]
  | .bound self f => [self, f]
  | _ => []

/-- The objects and scopes that have been met. -/
structure Marks where
  objects : ByteArray
  scopes : ByteArray
  /-- how many have been met -/
  met : Nat := 0

def Marks.none (w : World) : Marks :=
  ⟨⟨Array.replicate w.heap.size 0⟩, ⟨Array.replicate w.scopes.size 0⟩, 0⟩

/-- Whether a place has been met. -/
def isMarked (marks : ByteArray) (i : Nat) : Bool :=
  if h : i < marks.size then marks[i] == 1 else false

def Marks.hasObject (m : Marks) (i : Nat) : Bool :=
  isMarked m.objects i

def mark (marks : ByteArray) (i : Nat) : ByteArray :=
  if h : i < marks.size then marks.set i 1 h else marks

/-- Meets all that some holders hold, and what that holds in turn. -/
def reach (w : World) : Nat → Marks → List Holder → Marks
  | 0, m, _ => m
  | _, m, [] => m
  | fuel + 1, m, .scope i :: rest =>
    if isMarked m.scopes i then reach w fuel m rest
    else
      let m := { m with scopes := mark m.scopes i, met := m.met + 1 }
      match w.scopes[i]? with
      | none => reach w fuel m rest
      | some s =>
        let held := s.bindings.fold (fun held _ v => Holder.value v :: held) rest
        let held := match s.keeper with
          | some v => .value v :: held
          | none => held
        reach w fuel m (if s.ofModule then held else .scope s.parent :: held)
  | fuel + 1, m, .value v :: rest =>
    match v with
    | .ref i =>
      if isMarked m.objects i then reach w fuel m rest
      else
        let m := { m with objects := mark m.objects i, met := m.met + 1 }
        let more := if w.detained.isEmpty then [] else
          ((w.detained.lookup i).getD []).map Holder.value
        match w.heap[i]? with
        | some o => reach w fuel m (more ++ o.holds ++ rest)
        | none => reach w fuel m rest
    | v => reach w fuel m (v.parts.map .value ++ rest)

/-- How far the search for what is left goes. -/
def reachLimit : Nat := 100000000

/-- Where a search for what is left starts: the variables of the calls that are under way and of the
modules, and what waits for its turn. -/
def World.roots (w : World) : List Holder :=
  let scopes := w.scope :: (w.calls.map Call.scope ++ w.modules.toList.map (·.2))
  let values := w.handling ++ w.held ++ w.atExit.flatMap (fun (f, args) => f :: args) ++
    w.handlers.map (·.2) ++ [w.sent, w.returned] ++ w.thrown.toList ++
    w.shared.toList.map (·.2)
  scopes.map .scope ++ values.map .value

/-- What can still be got at from some holders beside the usual ones. -/
def World.alive (w : World) (more : List Holder) : Marks :=
  reach w reachLimit (.none w) (more ++ w.roots)

/-- Of some objects that cannot be got at, the first that no other one of them leads to and that does
not lead back to itself. -/
def firstGone? (w : World) (alive : Marks) (gone : List Nat) : Option Nat :=
  let led := gone.map fun i =>
    let held := match w.heap[i]? with
      | some o => o.holds
      | none => []
    (i, reach w reachLimit alive held)
  gone.find? fun i => led.all fun (_, m) => !m.hasObject i

/-- Somebody asks about the end of an object. -/
def watch (i : Nat) : Action Unit :=
  modify fun w =>
    if w.watched.any (·.1 == i) then w else { w with watched := (i, w.depth) :: w.watched }

/-- An object of a class that has a rule for the end of its objects is watched. -/
def watchNew (type v : Value) : Action Unit := do
  if (← get).endings then
    match v with
    | .ref i => if (← findIn "__del__" (← lineage type)).isSome then watch i
    | _ => return

/-- Objects that may be in use outside of a call that ends are not asked about inside of others. -/
def raiseWatched : Action Unit :=
  modify fun w =>
    if w.watched.isEmpty then w
    else { w with watched := w.watched.map fun (i, d) => (i, min d w.depth) }

/-- A piece of work during which a value stays. -/
def holding {α : Type} (v : Value) (work : Action α) : Action α := do
  let held := (← get).held
  modify fun w => { w with held := v :: held }
  try
    let a ← work
    modify fun w => { w with held }
    return a
  catch e =>
    modify fun w => { w with held }
    throw e

def endsWithWork (frames : List Frame) : Bool :=
  frames.any fun
    | .attempt _ _ final => !final.isEmpty
    | .final _ => true
    | .using _ => true
    | _ => false

/-- A name of the scope at hand loses its value. -/
def dropName (name : String) : Action Unit := do
  let w ← get
  if !w.watched.isEmpty then
    let i := scopeFor w.scopes name w.scope
    match (w.scopes[i]?).bind fun s => s.bindings.get? name with
    | some v => Action.dropped v
    | none => return

/-- An item of a list or a mapping goes away. -/
def dropItem (v : Value) : Action Unit := do
  if !(← get).watched.isEmpty then
    let _ ← Action.object? v
    return

/-- What an object that is gone does at its end; what it raises is nobody's business. -/
def endObject (k : Calls) (alive : Marks) (i : Nat) : Action Unit := do
  let quietly (work : Action Unit) : Action Unit :=
    tryCatch work fun s =>
      match s with
      | .raise _ => return
      | s => throw s
  modify fun w => { w with watched := w.watched.filter (·.1 ≠ i) }
  match (← get).heap[i]? with
  | some (.iterator (.generator _ _ _ _)) => quietly do
    let _ ← callMethod k (.ref i) "close" [] []
  | _ =>
    match ← special? (.ref i) "__del__" with
    | some f => quietly do
      let _ ← k.call f [] []
    | none => pure ()
  let w ← get
  let own := w.lookers.filter (·.1 = i)
  set { w with lookers := w.lookers.filter (·.1 ≠ i) }
  own.forM fun (_, j) => bindMember j "_place" (.int (-1))
  own.forM fun (_, j) => do
    if alive.hasObject j then
      match (← get).heap[j]? with
      | some (.object _ attributes _) =>
        match attributes.named? "__callback__" with
        | some .none | none => pure ()
        | some f => quietly do
          let _ ← k.call f [.ref j] []
      | _ => pure ()

/-- Ends the watched objects that came up in calls at least so deep and that cannot be got at any
more, also not from some holders. -/
def settle (k : Calls) (least : Nat) (holders : List Holder) : Nat → Action Unit
  | 0 => return
  | fuel + 1 => do
    let w ← get
    let asked := w.watched.filter fun (_, d) => least ≤ d
    if asked.isEmpty then return
    let alive := w.alive holders
    set { w with
      sweeps := w.sweeps + 1
      sweepAt := if w.sweeps < 500 then w.steps else w.steps - alive.met / 8 }
    let gone := (asked.map (·.1)).filter fun i => !alive.hasObject i
    match firstGone? w alive gone.mergeSort with
    | none => return
    | some i =>
      -- the end of one object is a call in which the others are left alone
      raiseWatched
      endObject k alive i
      modify fun w =>
        { w with watched := w.watched.map fun (j, d) =>
            (j, max d ((asked.lookup j).getD 0)) }
      settle k least holders fuel

/-- How many objects end at one place at most. -/
def settleLimit : Nat := 100000

/-- After a step: ends what is gone, unless it is too early to look again. -/
def settleAfter (k : Calls) (frames : List Frame) (values : List Value) : Action Unit := do
  let w ← get
  if (w.sweeps < 500 || w.steps ≤ w.sweepAt) && w.threads.all (·.ended) then
    settle k w.depth (frames.flatMap Frame.holds ++ values.map .value) settleLimit

/-- At the end of a call: ends what was of use in it only. What is left may be in use outside. -/
def settleCall (k : Calls) (least : Nat) (values : List Value) : Action Unit := do
  let w ← get
  if (w.sweeps < 500 || w.steps ≤ w.sweepAt) && w.threads.all (·.ended) then
    settle k least (values.map .value) settleLimit
  raiseWatched

/-- Keeps what the variables of a call hold that an exception ends. -/
def detain : Action Unit := do
  return

/-- Ends all watched objects that cannot be got at, also those that lead back to themselves: how
many there were. -/
def collect (k : Calls) : Nat → Action Nat
  | 0 => return 0
  | fuel + 1 => do
    settle k 0 [] settleLimit
    let w ← get
    let alive := w.alive []
    let gone := (w.watched.map (·.1)).filter fun i => !alive.hasObject i
    match gone.mergeSort with
    | [] => return 0
    | i :: _ =>
      endObject k alive i
      return (← collect k fuel) + 1

/-- At the end of a script first those objects end that cannot be got at any more, and then all others
in the order in which they were made; nobody is told about it. -/
def settleEnd (k : Calls) : Action Unit := do
  if (← get).watched.isEmpty then return
  modify fun w => { w with scope := 0, depth := 0, calls := [], handling := [], held := [] }
  let _ ← collect k settleLimit
  modify fun w => { w with lookers := [] }
  finish settleLimit
where
  finish : Nat → Action Unit
    | 0 => return
    | fuel + 1 => do
      let w ← get
      match (w.watched.map (·.1)).mergeSort with
      | [] => return
      | i :: _ =>
        endObject k (.none w) i
        finish fuel

end Flowboard.Script
