import Flowboard.Script.Tree

/-! Statements in which a call is only interrupted at their start: what an expression needs before
an interruption inside of it is kept in variables. -/
namespace Flowboard.Script

/-- An expression's parts in the order of their evaluation, and how it is put together again. -/
def Expr.parts : Expr → List Expr × (List Expr → Expr)
  | .joined es => (es, .joined)
  | .formatted e c none => ([e], fun es => .formatted (es.headD e) c none)
  | .formatted e c (some f) =>
    ([e, f], fun es => .formatted (es.headD e) c (some (es[1]?.getD f)))
  | .tuple es => (es, .tuple)
  | .list es => (es, .list)
  | .set es => (es, .set)
  | .dict pairs =>
    (pairs.flatMap fun
      | (some a, b) => [a, b]
      | (none, b) => [b],
     fun es =>
      let (done, _) := pairs.foldl (fun (done, es) (key, _) =>
        match key, es with
        | some _, a :: b :: rest => ((some a, b) :: done, rest)
        | none, b :: rest => ((none, b) :: done, rest)
        | _, rest => (done, rest)) (([] : List (Option Expr × Expr)), es)
      .dict done.reverse)
  | .unary op e => ([e], fun es => .unary op (es.headD e))
  | .binary op a b => ([a, b], fun es => .binary op (es.headD a) (es[1]?.getD b))
  | .compare a rest =>
    (a :: rest.map (·.2), fun es => .compare (es.headD a) ((rest.map (·.1)).zip (es.drop 1)))
  | .call f args =>
    (f :: args.map fun
      | .one e => e
      | .spread e => e
      | .named _ e => e
      | .namedSpread e => e,
     fun es => .call (es.headD f) ((args.zip (es.drop 1)).map fun (a, e) =>
      match a with
      | .one _ => .one e
      | .spread _ => .spread e
      | .named n _ => .named n e
      | .namedSpread _ => .namedSpread e))
  | .attribute e n => ([e], fun es => .attribute (es.headD e) n)
  | .index e i => ([e, i], fun es => .index (es.headD e) (es[1]?.getD i))
  | .slice a b c =>
    ([a, b, c].filterMap id, fun es =>
      let (done, _) := [a, b, c].foldl (fun (done, es) part =>
        match part, es with
        | some _, e :: rest => (some e :: done, rest)
        | _, rest => (none :: done, rest)) (([] : List (Option Expr)), es)
      match done with
      | [c, b, a] => .slice a b c
      | _ => .slice a b c)
  | .starred e => ([e], fun es => .starred (es.headD e))
  | .assign n e => ([e], fun es => .assign n (es.headD e))
  | .yield (some e) => ([e], fun es => .yield es.head?)
  | .yieldFrom e => ([e], fun es => .yieldFrom (es.headD e))
  | .await e => ([e], fun es => .await (es.headD e))
  | .both a b => ([a, b], fun es => .both (es.headD a) (es[1]?.getD b))
  | .either a b => ([a, b], fun es => .either (es.headD a) (es[1]?.getD b))
  | .choice c a b => ([c, a, b], fun es => .choice (es.headD c) (es[1]?.getD a) (es[2]?.getD b))
  | e => ([], fun _ => e)

/-- How deep expressions and statements are looked into. -/
def liftDepth : Nat := 200

def Expr.interrupts : Nat → Expr → Bool
  | 0, _ => false
  | fuel + 1, e =>
    match e with
    | .yield _ => true
    | .yieldFrom _ => true
    | .await _ => true
    | .comprehension .generator _ _ (.each _ e _ :: _) => e.interrupts fuel
    | .comprehension _ element value clauses =>
      element.interrupts fuel || value.any (interrupts fuel) || clauses.any fun
        | .each _ e waits => waits || e.interrupts fuel
        | .test c => c.interrupts fuel
    | e => e.parts.1.any (interrupts fuel)

/-- Work that needs new variables. -/
abbrev Lifting := StateM Nat

def newVariable : Lifting String :=
  modifyGet fun n => (".kept" ++ toString n, n + 1)

def assignTo (name : String) (e : Expr) : Stmt :=
  .assign [.name name] e

def keep (e : Expr) : Lifting (List Stmt × Expr) := do
  match e with
  | .constant _ => return ([], e)
  | e =>
    let t ← newVariable
    return ([assignTo t e], .name t)

/-- A loop over values that have to be waited for. -/
def waitingLoop (it : String) (target iterable : Expr) (body otherwise : List Stmt) : List Stmt :=
  let call (e : Expr) (name : String) : Expr := .call (.attribute e name) []
  [assignTo it (call iterable "__aiter__"),
   .loop (.constant (.bool true))
    (.attempt [.assign [target] (.await (call (.name it) "__anext__"))]
      [.mk (some (.name "StopAsyncIteration")) none (otherwise ++ [.leave])] [] [] :: body) []]

mutual

/-- The statements that come before an expression, and what is left of it. -/
def liftExpr : Nat → Expr → Lifting (List Stmt × Expr)
  | 0, e => return ([], e)
  | fuel + 1, e => do
    if !e.interrupts liftDepth then return ([], e)
    match e with
    | .both a b =>
      let (before, a) ← liftExpr fuel a
      let t ← newVariable
      let (inside, b) ← liftExpr fuel b
      return (before ++ [assignTo t a, .choice (.name t) (inside ++ [assignTo t b]) []], .name t)
    | .either a b =>
      let (before, a) ← liftExpr fuel a
      let t ← newVariable
      let (inside, b) ← liftExpr fuel b
      return (before ++ [assignTo t a, .choice (.name t) [] (inside ++ [assignTo t b])], .name t)
    | .choice c a b =>
      let (before, c) ← liftExpr fuel c
      let t ← newVariable
      let (yes, a) ← liftExpr fuel a
      let (no, b) ← liftExpr fuel b
      return (before ++ [.choice c (yes ++ [assignTo t a]) (no ++ [assignTo t b])], .name t)
    | .comprehension kind element value clauses =>
      let t ← newVariable
      let start : Expr := match kind with
        | .set => .call (.name "set") []
        | .dict => .dict []
        | _ => .list []
      let (before, element) ← liftExpr fuel element
      let (more, last) ← match value with
        | some v => do
          let (ss, v) ← liftExpr fuel v
          pure (ss, Stmt.assign [.index (.name t) element] v)
        | none =>
          let name := if kind = .set then "add" else "append"
          pure ([], Stmt.expr (.call (.attribute (.name t) name) [.one element]))
      let loops ← liftClauses fuel clauses (before ++ more ++ [last])
      return (assignTo t start :: loops,
        if kind = .generator then .call (.name "iter") [.one (.name t)] else .name t)
    | e =>
      let (es, build) := e.parts
      let (before, es) ← liftAll fuel es
      match e with
      | .yield _ | .yieldFrom _ | .await _ =>
        let (more, name) ← keep (build es)
        return (before ++ more, name)
      | _ => return (before, build es)

/-- The same for expressions that are evaluated one after the other. -/
def liftAll : Nat → List Expr → Lifting (List Stmt × List Expr)
  | 0, es => return ([], es)
  | _, [] => return ([], [])
  | fuel + 1, e :: es => do
    let (before, e) ← liftExpr fuel e
    if es.any (Expr.interrupts liftDepth) then
      let (kept, e) ← match e with
        | .starred e => do
          let (ss, e) ← keep e
          pure (ss, Expr.starred e)
        | e => keep e
      let (after, es) ← liftAll fuel es
      return (before ++ kept ++ after, e :: es)
    else return (before, e :: es)

/-- The loops of a comprehension around its innermost statements. -/
def liftClauses : Nat → List Clause → List Stmt → Lifting (List Stmt)
  | 0, _, body => return body
  | _, [], body => return body
  | fuel + 1, .test c :: rest, body => do
    let (before, c) ← liftExpr fuel c
    return before ++ [.choice c (← liftClauses fuel rest body) []]
  | fuel + 1, .each target e waits :: rest, body => do
    let (before, e) ← liftExpr fuel e
    let inner ← liftClauses fuel rest body
    if waits then return before ++ waitingLoop (← newVariable) target e inner []
    else return before ++ [.each target e inner []]

end

/-- An expression whose parts are not interrupted; it may be interrupted itself. -/
def liftOuter (e : Expr) : Lifting (List Stmt × Expr) := do
  match e with
  | .yield (some _) | .yieldFrom _ | .await _ =>
    let (es, build) := e.parts
    let (before, es) ← liftAll liftDepth es
    return (before, build es)
  | .yield none => return ([], e)
  | e => liftExpr liftDepth e

mutual

/-- Statements in which expressions are not interrupted inside. -/
def liftStmts : Nat → List Stmt → Lifting (List Stmt)
  | 0, ss => return ss
  | _, [] => return []
  | fuel + 1, s :: ss => do
    let first ← liftStmt fuel s
    return first ++ (← liftStmts fuel ss)

def liftStmt : Nat → Stmt → Lifting (List Stmt)
  | 0, s => return [s]
  | fuel + 1, s => do
    match s with
    | .expr e => do
      let (before, e) ← liftOuter e
      return before ++ [.expr e]
    | .assign targets e => do
      let (before, e) ← liftOuter e
      return before ++ [.assign targets e]
    | .augment target op e => do
      let (before, e) ← liftExpr liftDepth e
      return before ++ [.augment target op e]
    | .annotate target type (some e) => do
      let (before, e) ← liftExpr liftDepth e
      return before ++ [.annotate target type (some e)]
    | .give (some e) => do
      let (before, e) ← liftExpr liftDepth e
      return before ++ [.give (some e)]
    | .raise (some e) cause => do
      let (before, e) ← liftExpr liftDepth e
      return before ++ [.raise (some e) cause]
    | .assert e message => do
      let (before, e) ← liftExpr liftDepth e
      return before ++ [.assert e message]
    | .choice c yes no => do
      let (before, c) ← liftExpr liftDepth c
      return before ++ [.choice c (← liftStmts fuel yes) (← liftStmts fuel no)]
    | .loop c body otherwise => do
      let (before, c') ← liftExpr liftDepth c
      let body ← liftStmts fuel body
      let otherwise ← liftStmts fuel otherwise
      if before.isEmpty then return [.loop c body otherwise]
      else
        return [.loop (.constant (.bool true))
          (before ++ [.choice c' [] (otherwise ++ [.leave])] ++ body) []]
    | .each target e body otherwise => do
      let (before, e) ← liftExpr liftDepth e
      return before ++ [.each target e (← liftStmts fuel body) (← liftStmts fuel otherwise)]
    | .attempt body handlers otherwise final => do
      let handlers ← handlers.mapM fun
        | .mk kind name body => do return Handler.mk kind name (← liftStmts fuel body)
      return [.attempt (← liftStmts fuel body) handlers (← liftStmts fuel otherwise)
        (← liftStmts fuel final)]
    | .using manager target body => do
      let (before, manager) ← liftExpr liftDepth manager
      return before ++ [.using manager target (← liftStmts fuel body)]
    | .select subject cases => do
      let (before, subject) ← liftExpr liftDepth subject
      let cases ← cases.mapM fun
        | .mk pattern guard body => do return Case.mk pattern guard (← liftStmts fuel body)
      return before ++ [.select subject cases]
    | s => return [s]

end

/-- The body of a function in which a call is only interrupted between statements. -/
def lifted (body : List Stmt) : List Stmt :=
  ((liftStmts liftDepth body).run 0).1

end Flowboard.Script
