import Flowboard.Script.Math

/-! Calls that are made beside the script. Only one of them goes on at a time, up to where it has to
wait. The script itself never stops in the middle: where it has to wait, the threads go on. -/
namespace Flowboard.Script

/-- The signals that do nothing unless the script says otherwise. -/
def quietSignals : List Int :=
  [13, 17, 18]

/-- A signal comes. -/
def deliver (k : Calls) (n : Int) : Action Unit := do
  let handler := (← get).handlers.lookup n
  let kill : Action Unit := do
    modify fun w => { w with killer := n.toNat }
    throw .killed
  if n = 9 then kill
  else if n = 19 then throw .never
  else
    match handler with
    | some (.int 1) => return
    | some (.int _) => if quietSignals.contains n then return else kill
    | some f =>
      let _ ← k.call f [.int n, ← frameObject (stations (← get))] []
      return
    | none =>
      if n = 2 then Action.raiseWith "KeyboardInterrupt" []
      else if quietSignals.contains n then return
      else kill

/-- The signals that come up to a moment. -/
def deliverUntil (k : Calls) (finish : Nat) : Nat → Action Unit
  | 0 => return
  | fuel + 1 => do
    let w ← get
    match w.coming with
    | (t, n) :: rest =>
      if t ≤ finish then
        set { w with clock := max w.clock t, coming := rest }
        deliver k n
        deliverUntil k finish fuel
    | [] =>
      match w.alarm with
      | some t =>
        if t ≤ finish then
          set { w with
            clock := max w.clock t
            alarm := if w.interval = 0 then none else some (t + w.interval) }
          deliver k 14
          deliverUntil k finish fuel
      | none => return

/-- Time goes by, in microseconds; signals may come on the way. -/
def pass (k : Calls) (micros : Nat) : Action Unit := do
  let finish := (← get).clock + micros
  deliverUntil k finish 1000
  modify fun w => { w with clock := max w.clock finish }
  settleLate

def microseconds (x : Float) : Nat :=
  ((truncated? (x * 1000000.0)).getD 0).toNat

def startSeconds : Float :=
  (floatOfInt? startOfRuns).getD 0.0

/-- The time since the start, in seconds. -/
def elapsed : Action Float := do
  return (floatOfInt? (← get).clock).getD 0.0 / 1000000.0

/-- A world as the one who goes on in it sees it: what belongs to a call comes from the world in
which the call was. -/
def World.seenFrom (w own : World) : World :=
  { w with
    scope := own.scope, depth := own.depth, handling := own.handling, sent := own.sent
    thrown := own.thrown, returned := own.returned, body := own.body, thread := own.thread
    replay := own.replay }

/-- Lets a thread start, or go on after a wait that gave `result`. -/
def resumeThread (k : Calls) (n : Nat) (result : Bool) : Action Unit := do
  let own ← get
  match own.threads[n]? with
  | none => return
  | some t =>
    let start : World := match t.origin with
      | some w => { w with replay := t.resumed ++ [(own, result)] }
      | none =>
        { own with scope := 0, depth := 0, handling := [], thread := some n, replay := [] }
    let kept : Thread World := match t.origin with
      | some _ => { t with resumed := t.resumed ++ [(own, result)] }
      | none => { t with origin := some start }
    let leave (w : World) (t : Thread World) (queue : List Nat) : Action Unit :=
      set { w.seenFrom own with threads := w.threads.setIfInBounds n t, queue }
    set start
    try
      let _ ← k.call t.function [] []
      let w ← get
      leave w { kept with ended := true, origin := none, resumed := [] } (w.queue.erase n)
    catch
      | .paused w ready deadline =>
        leave w { kept with ready, deadline } (w.queue.erase n ++ [n])
      | .raise e =>
        let w ← get
        leave w { kept with ended := true, origin := none, resumed := [] } (w.queue.erase n)
        if ← isInstance e (.builtin "SystemExit") then return else throw (.raise e)
      | s => throw s

def isReady (k : Calls) (ready : Value) : Action Bool := do
  match ready with
  | .none => return false
  | f => truth k (← k.call f [] [])

/-- The first of some threads that can go on, and what its wait gives. -/
def nextThread? (k : Calls) : List Nat → Action (Option (Nat × Bool))
  | [] => return none
  | n :: rest => do
    let w ← get
    match w.threads[n]? with
    | none => nextThread? k rest
    | some t =>
      if ← isReady k t.ready then return some (n, true)
      else if t.deadline.any (· ≤ w.clock) then return some (n, false)
      else nextThread? k rest

/-- The script waits until something is true, or until a moment has come; the threads go on
meanwhile. -/
def waitOutside (k : Calls) (ready : Value) (deadline : Option Nat) : Nat → Action Bool
  | 0 => throw .never
  | fuel + 1 => do
    if ← isReady k ready then return true
    else
      match ← nextThread? k (← get).queue with
      | some (n, result) =>
        resumeThread k n result
        waitOutside k ready deadline fuel
      | none =>
        let w ← get
        let others : List Nat := w.queue.filterMap fun n =>
          (w.threads[n]?).bind fun (t : Thread World) => t.deadline
        let least := others.foldl (fun (m : Option Nat) t => some (match m with
          | some m => min m t
          | none => t)) none
        match least, deadline with
        | some t, some d =>
          if t ≤ d then
            pass k (t - w.clock)
            waitOutside k ready deadline fuel
          else
            pass k (d - w.clock)
            return false
        | some t, none =>
          pass k (t - w.clock)
          waitOutside k ready deadline fuel
        | none, some d =>
          pass k (d - w.clock)
          return false
        | none, none => throw .never

/-- How often a script that waits looks for threads. -/
def waitLimit : Nat := 1000000

/-- Waits until something is true, or for some microseconds; the answer is whether it is true. -/
def await (k : Calls) (ready : Value) (micros : Option Nat) : Action Bool := do
  let w ← get
  let deadline := micros.map (w.clock + ·)
  match w.thread with
  | none => waitOutside k ready deadline waitLimit
  | some _ =>
    if ← isReady k ready then return true
    else
      let w ← get
      match w.replay with
      | (next, result) :: rest =>
        set { next.seenFrom w with replay := rest }
        return result
      | [] => throw (.paused w ready deadline)

def threadFunction (k : Calls) (name : String) (args : List Value) : Action Value := do
  match name, args with
  | "start", [f] =>
    let n := (← get).threads.size
    modify fun w => { w with threads := w.threads.push { function := f } }
    resumeThread k n true
    return .int n
  | "wait", [ready, seconds] =>
    let micros ← match seconds with
      | .none => pure none
      | v => pure (some (microseconds (← floatOf k v)))
    return .bool (← await k ready micros)
  | "current", [] =>
    return match (← get).thread with
      | some n => .int n
      | none => .int (-1)
  | name, _ => noMember (.module "_threads") name

end Flowboard.Script
