import Flowboard.Prototype.Reader
import Flowboard.Text.Integer

/-! Functions as code for a machine with a stack, and how programs are turned into it. -/
namespace Flowboard.Prototype

/-- A value that stands in a program. -/
inductive Literal where
  | undefined
  | null
  | bool (b : Bool)
  | number (x : Float)
  | bigint (n : Int)
  | text (s : String)
  /-- no value yet, or no element -/
  | hole
  deriving Inhabited

/-- One step of a function. Places of jumps are labels until the code is finished. -/
inductive Op where
  | push (v : Literal)
  | pop
  | dup
  /-- a variable some scopes further out, by its place there -/
  | get (depth index : Nat) (name : String)
  | put (depth index : Nat) (name : String)
  /-- gives a variable its first value -/
  | init (depth index : Nat)
  | getGlobal (name : String)
  | typeGlobal (name : String)
  | putGlobal (name : String)
  /-- refuses to change a constant -/
  | refuse (name : String)
  | enter (start : Array Literal)
  | leave
  | getMember (name : String)
  | getIndex
  | setMember (name : String)
  /-- takes arguments, the function and what it is called on -/
  | call (count : Nat) (shown : String)
  | callAll (shown : String)
  | new (count : Nat) (shown : String)
  | newAll (shown : String)
  | superCall
  | array
  | append
  | appendAll (shown : String)
  | object
  | define (name : String)
  | defineIndex (kind : MemberKind) (shown : Bool)
  | copyAll
  | function (id : Nat)
  /-- makes a class from its parent, if it has one, and its constructor -/
  | classFrom (id : Nat) (name : String) (hasParent : Bool)
  | field (isStatic : Bool)
  | runBlock
  | jump (label : Nat)
  | jumpIfFalse (label : Nat)
  | jumpIfTrue (label : Nat)
  /-- keeps the value if it jumps, and drops it if not -/
  | jumpOrPopFalse (label : Nat)
  | jumpOrPopTrue (label : Nat)
  | jumpOrPopPresent (label : Nat)
  /-- drops as many values if the last is missing, puts `undefined` there and jumps -/
  | jumpIfMissing (count label : Nat)
  /-- drops `undefined` and goes on, or keeps the value and jumps -/
  | jumpUnlessUndefined (label : Nat)
  | unary (op : String)
  | binary (op : String)
  | toText
  | toKey
  | iterate (shown : String)
  /-- the next value, or a jump -/
  | next (label : Nat)
  | nextResult (label : Nat)
  /-- the next value of an iterator that is given one -/
  | passOn (label : Nat)
  | give
  | throw
  | guard (label : Nat) (final : Bool)
  | unguard
  | yield
  | await
  | this
  | newTarget
  | arguments
  | argument (i : Nat)
  | argumentsFrom (i : Nat)
  | join (count : Nat)
  | template (parts raw : List String)
  | regex (source flags : String)
  | nothing
  deriving Inhabited

/-- A function as code. -/
structure Code where
  name : String
  /-- how many arguments it expects -/
  arity : Nat
  ops : Array Op
  arrow : Bool := false
  async : Bool := false
  generator : Bool := false
  method : Bool := false
  strict : Bool := false
  /-- it builds an object of a class -/
  constructs : Bool := false
  derived : Bool := false
  deriving Inhabited

/-- What has to be undone when a jump leaves a part of a function. -/
inductive Control where
  | labelled (names : List String) (exit : Nat)
  | scope
  | handler
  | final (body : List Statement) (scopes : List (List (String × Binding)))

structure Building where
  codes : Array Code := #[]
  ops : Array Op := #[]
  labels : Array Nat := #[]
  scopes : List (List (String × Binding)) := []
  controls : List Control := []
  usesArguments : Bool := false
  strict : Bool := false
  /-- where a chain of optional parts ends -/
  chainEnd : Nat := 0

abbrev Compiling := StateT Building (Except String)

def emit (op : Op) : Compiling Unit :=
  modify fun b => { b with ops := b.ops.push op }

def newLabel : Compiling Nat :=
  modifyGet fun b => (b.labels.size, { b with labels := b.labels.push 0 })

def place (label : Nat) : Compiling Unit :=
  modify fun b => { b with labels := b.labels.set! label b.ops.size }

/-- An operation with the places of labels for them. -/
def Op.resolved (labels : Array Nat) (op : Op) : Op :=
  let at_ (l : Nat) : Nat := labels.getD l 0
  match op with
  | .jump l => .jump (at_ l)
  | .jumpIfFalse l => .jumpIfFalse (at_ l)
  | .jumpIfTrue l => .jumpIfTrue (at_ l)
  | .jumpOrPopFalse l => .jumpOrPopFalse (at_ l)
  | .jumpOrPopTrue l => .jumpOrPopTrue (at_ l)
  | .jumpOrPopPresent l => .jumpOrPopPresent (at_ l)
  | .jumpIfMissing n l => .jumpIfMissing n (at_ l)
  | .jumpUnlessUndefined l => .jumpUnlessUndefined (at_ l)
  | .next l => .next (at_ l)
  | .nextResult l => .nextResult (at_ l)
  | .passOn l => .passOn (at_ l)
  | .guard l f => .guard (at_ l) f
  | op => op

/-- The names in a pattern. Each level uses up one of the fuel. -/
def Pattern.names : Nat → Pattern → List String
  | 0, _ => []
  | fuel + 1, p =>
    match p with
    | .name n => [n]
    | .place _ => []
    | .array items => items.flatMap fun (i : PatternItem) => match i with
      | .one p | .rest p => p.names fuel
      | .hole => []
    | .object parts rest =>
      (parts.flatMap fun (.mk _ p) => p.names fuel) ++ ((rest.map (·.names fuel)).getD [])
    | .withDefault p _ => p.names fuel

def blockNames (ss : List Statement) : List (String × Binding) :=
  ss.flatMap fun (s : Statement) => match s with
    | .declare kind parts =>
      if kind = .wide then []
      else parts.flatMap fun (.mk p _) => (p.names 100).map (·, kind)
    | .class_ name _ => [(name, .narrow)]
    | .function name _ => [(name, .wide)]
    | _ => []

/-- What statements bind in the whole function. -/
def wideNames : Nat → List Statement → List String
  | 0, _ => []
  | fuel + 1, ss =>
    ss.flatMap fun (s : Statement) => match s with
      | .declare .wide parts => parts.flatMap fun (.mk p _) => p.names 100
      | .function name _ => [name]
      | .guarded body catcher last =>
        wideNames fuel body ++ ((catcher.map fun (.mk _ b) => wideNames fuel b).getD []) ++
          wideNames fuel (last.getD [])
      | .labelled _ s => wideNames fuel [s]
      | _ => []

def distinct (names : List (String × Binding)) : List (String × Binding) :=
  names.foldl (fun done n => if done.any (·.1 == n.1) then done else done ++ [n]) []

def resolve? (scopes : List (List (String × Binding))) (name : String) :
    Option (Nat × Nat × Binding) :=
  let rec go (depth : Nat) : List (List (String × Binding)) → Option (Nat × Nat × Binding)
    | [] => none
    | scope :: rest =>
      match scope.findIdx? (·.1 == name) with
      | some i => some (depth, i, (scope[i]?.map (·.2)).getD .wide)
      | none => go (depth + 1) rest
  go 0 scopes

/-- How an expression is called in messages. -/
def Expr.shown : Nat → Expr → String
  | 0, _ => "(intermediate value)"
  | fuel + 1, e =>
    match e with
    | .name n => n
    | .this => "this"
    | .member e n _ => e.shown fuel ++ "." ++ n
    | .index e (.text s) _ => e.shown fuel ++ "." ++ s
    | .index e i _ => e.shown fuel ++ "[" ++ i.shown fuel ++ "]"
    | .call f _ _ => f.shown fuel ++ "(...)"
    | .chain e | .group e => e.shown fuel
    | .constant w => w
    | .object [] => "\x7b\x7d"
    | .unary "void" e => "(void " ++ e.shown fuel ++ ")"
    | .text s => "\"" ++ s ++ "\""
    | .number x =>
      let n := x.toUInt64.toNat
      if n.toUInt64.toFloat == x then Text.naturalText n else "(intermediate value)"
    | _ => "(intermediate value)"

def getName (n : String) : Compiling Unit := do
  if n == "undefined" then
    emit (.push .undefined)
    return
  match resolve? (← get).scopes n with
  | some (d, i, _) =>
    if n == "arguments" then modify fun b => { b with usesArguments := true }
    emit (.get d i n)
  | none => emit (.getGlobal n)

/-- Changes a variable to the value on top, which is dropped. -/
def putName (n : String) : Compiling Unit := do
  match resolve? (← get).scopes n with
  | some (_, _, .fixed) => emit (.refuse n)
  | some (d, i, _) => emit (.put d i n)
  | none => emit (.putGlobal n)

/-- Gives a variable its first value. -/
def initName (n : String) : Compiling Unit := do
  match resolve? (← get).scopes n with
  | some (d, i, _) => emit (.init d i)
  | none => emit (.putGlobal n)

def enterScope (names : List (String × Binding)) : Compiling Unit := do
  let start := names.map fun (n : String × Binding) =>
    if n.2 = .wide then Literal.undefined else .hole
  emit (.enter start.toArray)
  modify fun b => { b with scopes := names :: b.scopes, controls := .scope :: b.controls }

def leaveScope : Compiling Unit := do
  emit .leave
  modify fun b => { b with scopes := b.scopes.tail, controls := b.controls.tail }

def pushControl (c : Control) : Compiling Unit :=
  modify fun b => { b with controls := c :: b.controls }

def popControl : Compiling Unit :=
  modify fun b => { b with controls := b.controls.tail }

/-- Whether a function or class without a name gets the name that it is bound to. -/
def withName (e : Expr) : Expr :=
  e

/-- What gets a value: new variables, or ones that are there. -/
inductive Aim where
  | fresh
  | change
  deriving DecidableEq

def logicalJump (op : String) (label : Nat) : Op :=
  if op == "&&" then .jumpOrPopFalse label
  else if op == "||" then .jumpOrPopTrue label
  else .jumpOrPopPresent label

/-- Whether a body asks for the stricter rules. -/
def isStrict : List Statement → Bool
  | .value (.text "use strict") :: _ => true
  | .value (.text _) :: rest => isStrict rest
  | _ => false

mutual

/-- Code that puts the value of an expression on the stack. -/
def compileExpr : Nat → Expr → Compiling Unit
  | 0, _ => throw "too deep"
  | fuel + 1, e => do
    match e with
    | .number x => emit (.push (.number x))
    | .bigint n => emit (.push (.bigint n))
    | .text s => emit (.push (.text s))
    | .regex s f => emit (.regex s f)
    | .template parts values =>
      for (p, v) in parts.zip values do
        emit (.push (.text p))
        compileExpr fuel v
        emit .toText
      match parts.drop values.length with
      | p :: _ => emit (.push (.text p))
      | [] => pure ()
      emit (.join (parts.length + values.length))
    | .tagged tag parts raw values =>
      compileCallee fuel tag
      emit (.template parts raw)
      for v in values do compileExpr fuel v
      emit (.call (values.length + 1) (tag.shown 20))
    | .name n => getName n
    | .constant w =>
      emit (.push (if w == "null" then .null else .bool (w == "true")))
    | .this => emit .this
    | .newTarget => emit .newTarget
    | .array items => compileItems fuel items
    | .object members =>
      emit .object
      for m in members do compileMember fuel m
    | .function f => compileFunctionValue fuel f
    | .class_ name parent members => compileClass fuel name parent members
    | .unary "typeof" (.name n) =>
      match resolve? (← get).scopes n with
      | some _ =>
        getName n
        emit (.unary "typeof")
      | none => if n == "undefined" then emit (.push (.text n)) else emit (.typeGlobal n)
    | .unary "delete" e =>
      compileExpr fuel e
      emit .pop
      emit (.push (.bool true))
    | .unary "void" e =>
      compileExpr fuel e
      emit .pop
      emit (.push .undefined)
    | .unary "-" (.number x) => emit (.push (.number (-x)))
    | .unary op e =>
      compileExpr fuel e
      emit (.unary op)
    | .update .. | .assignWith .. => throw "too deep"
    | .binary op a b =>
      compileExpr fuel a
      compileExpr fuel b
      emit (.binary op)
    | .logical op a b =>
      let l ← newLabel
      compileExpr fuel a
      emit (logicalJump op l)
      compileExpr fuel b
      place l
    | .assign p e =>
      match p with
      | .place (.member o n _) =>
        compileExpr fuel o
        compileExpr fuel e
        emit (.setMember n)
      | p =>
        compileExpr fuel e
        emit .dup
        bindPattern fuel .change (e.shown 20) p
    | .choice test a b =>
      let no ← newLabel
      let after ← newLabel
      compileExpr fuel test
      emit (.jumpIfFalse no)
      compileExpr fuel a
      emit (.jump after)
      place no
      compileExpr fuel b
      place after
    | .call f args optional =>
      compileCallee fuel f
      if optional then emit (.jumpIfMissing 2 (← get).chainEnd)
      let shown := f.shown 20
      if args.all fun (i : Item) => match i with | .one _ => true | _ => false then
        for i in args do
          match i with
          | .one e => compileExpr fuel e
          | _ => pure ()
        emit (.call args.length shown)
      else
        compileItems fuel args
        emit (.callAll shown)
    | .new f args =>
      compileExpr fuel f
      let shown := f.shown 20
      if args.all fun (i : Item) => match i with | .one _ => true | _ => false then
        for i in args do
          match i with
          | .one e => compileExpr fuel e
          | _ => pure ()
        emit (.new args.length shown)
      else
        compileItems fuel args
        emit (.newAll shown)
    | .member o n optional =>
      compileExpr fuel o
      if optional then emit (.jumpIfMissing 1 (← get).chainEnd)
      emit (.getMember n)
    | .index o i optional =>
      compileExpr fuel o
      if optional then emit (.jumpIfMissing 1 (← get).chainEnd)
      compileExpr fuel i
      emit .getIndex
    | .chain e =>
      let outer := (← get).chainEnd
      let l ← newLabel
      modify fun b => { b with chainEnd := l }
      compileExpr fuel e
      place l
      modify fun b => { b with chainEnd := outer }
    | .sequence a b =>
      compileExpr fuel a
      emit .pop
      compileExpr fuel b
    | .yield false e =>
      match e with
      | some e => compileExpr fuel e
      | none => emit (.push .undefined)
      emit .yield
    | .yield true e =>
      compileExpr fuel (e.getD (.name "undefined"))
      emit (.iterate "")
      emit (.push .undefined)
      let again ← newLabel
      let after ← newLabel
      place again
      emit (.passOn after)
      emit .yield
      emit (.jump again)
      place after
    | .await e =>
      compileExpr fuel e
      emit .await
    | .group e => compileExpr fuel e

/-- The function to be called, below it what it is called on. -/
def compileCallee : Nat → Expr → Compiling Unit
  | 0, _ => throw "too deep"
  | fuel + 1, f => do
    match f with
    | .member o n optional =>
      compileExpr fuel o
      if optional then emit (.jumpIfMissing 1 (← get).chainEnd)
      emit .dup
      emit (.getMember n)
    | .index o i optional =>
      compileExpr fuel o
      if optional then emit (.jumpIfMissing 1 (← get).chainEnd)
      emit .dup
      compileExpr fuel i
      emit .getIndex
    | .group (.member o n c) => compileCallee fuel (.member o n c)
    | .group (.chain (.member o n _)) =>
      let outer := (← get).chainEnd
      let missing ← newLabel
      let after ← newLabel
      modify fun b => { b with chainEnd := missing }
      compileExpr fuel o
      emit (.jumpIfMissing 1 missing)
      emit .dup
      emit (.getMember n)
      emit (.jump after)
      place missing
      emit (.push .undefined)
      place after
      modify fun b => { b with chainEnd := outer }
    | f =>
      emit (.push .undefined)
      compileExpr fuel f

def compileItems : Nat → List Item → Compiling Unit
  | 0, _ => throw "too deep"
  | fuel + 1, items => do
    emit .array
    for i in items do
      match i with
      | .one e =>
        compileExpr fuel e
        emit .append
      | .spread e =>
        compileExpr fuel e
        emit (.appendAll (e.shown 20))
      | .hole =>
        emit (.push .hole)
        emit .append

def compileKey : Nat → Key → Compiling Unit
  | 0, _ => throw "too deep"
  | fuel + 1, k => do
    match k with
    | .name s => emit (.push (.text s))
    | .computed e =>
      compileExpr fuel e
      emit .toKey

def compileMember : Nat → Member → Compiling Unit
  | 0, _ => throw "too deep"
  | fuel + 1, m => do
    match m with
    | .spread e =>
      compileExpr fuel e
      emit .copyAll
    | .mk (.name s) .value (some e) _ =>
      compileExpr fuel (withName e)
      emit (.define s)
    | .mk k kind e _ =>
      compileKey fuel k
      compileExpr fuel (e.getD (.name "undefined"))
      emit (.defineIndex kind true)

/-- Gives the value on top to a pattern and drops it. -/
def bindPattern : Nat → Aim → String → Pattern → Compiling Unit
  | 0, _, _, _ => throw "too deep"
  | _ + 1, aim, _, p => do
    match p with
    | .name n => if aim = .fresh then initName n else putName n
    | _ => throw "Invalid destructuring assignment target"

def compileFunction : Nat → Function → Bool → Bool → Compiling Nat
  | 0, _, _, _ => throw "too deep"
  | fuel + 1, .mk name params body arrow async generator method, constructs, derived => do
    let outer ← get
    let strict := outer.strict || isStrict body
    let paramNames := params.flatMap fun (i : PatternItem) => match i with
      | .one p | .rest p => p.names 100
      | .hole => []
    let own : List (String × Binding) := if arrow then [] else [("arguments", .wide)]
    let bound := blockNames body
    let wide := (wideNames 200 body).filter fun n => !bound.any fun b => b.1 == n && b.2 != .wide
    let names := distinct (own ++ paramNames.map (·, .wide) ++ wide.map (·, .wide) ++ bound)
    -- a block's own binding counts more than one without a value
    let start := names.map fun (n : String × Binding) =>
      if n.2 = .wide then Literal.undefined else .hole
    set { outer with
      ops := #[Op.enter start.toArray, .nothing, .nothing], labels := #[]
      scopes := names :: outer.scopes, controls := [], usesArguments := false, strict }
    for (i, k) in params.zipIdx do
      match i with
      | .one p =>
        emit (.argument k)
        bindPattern fuel .fresh "argument" p
      | .rest p =>
        emit (.argumentsFrom k)
        bindPattern fuel .fresh "(intermediate value)" p
      | .hole => pure ()
    hoist fuel body
    for s in body do compileStatement fuel [] s
    emit (.push .undefined)
    emit .give
    let b ← get
    let ops := if b.usesArguments && !arrow then
        (b.ops.set! 1 .arguments).set! 2 (.init 0 0)
      else b.ops
    let plain := params.takeWhile fun (i : PatternItem) => match i with
      | .one (.withDefault ..) | .rest _ | .hole => false
      | .one _ => true
    let code : Code :=
      { name, arity := plain.length, ops := ops.map (Op.resolved b.labels), arrow, async, generator
        method, strict, constructs, derived }
    set { outer with
      codes := b.codes.push code
      usesArguments := outer.usesArguments || (arrow && b.usesArguments) }
    return b.codes.size

/-- A function as a value. One with a name of its own can call itself. -/
def compileFunctionValue : Nat → Function → Compiling Unit
  | 0, _ => throw "too deep"
  | fuel + 1, f => do
    let .mk name _ _ arrow _ _ method := f
    if name == "" || arrow || method then
      let id ← compileFunction fuel f false false
      emit (.function id)
    else
      enterScope [(name, .wide)]
      let id ← compileFunction fuel f false false
      emit (.function id)
      emit .dup
      emit (.init 0 0)
      leaveScope

/-- The functions of a block are there from its start. -/
def hoist : Nat → List Statement → Compiling Unit
  | 0, _ => throw "too deep"
  | fuel + 1, ss => do
    for s in ss do
      match s with
      | .function name f =>
        let id ← compileFunction fuel f false false
        emit (.function id)
        initName name
      | _ => pure ()

def compileClass : Nat → String → Option Expr → List Member → Compiling Unit
  | 0, _, _, _ => throw "too deep"
  | fuel + 1, given, parent, members => do
    let name := if given.startsWith "\x00" then (given.drop 1).toString else given
    let strict := (← get).strict
    enterScope [(name, .narrow)]
    match parent with
    | some p => compileExpr fuel p
    | none => pure ()
    modify fun b => { b with strict := true }
    let constructor? := members.findSome? fun (m : Member) => match m with
      | .mk (.name "constructor") .method (some (.function f)) false => some f
      | _ => none
    let id ← match constructor? with
      | some (.mk _ ps body arrow async gen method) =>
        compileFunction fuel (.mk name ps body arrow async gen method) true parent.isSome
      | none =>
        let b ← get
        let ops : Array Op := if parent.isSome then
            #[.argumentsFrom 0, .superCall, .give]
          else #[.push .undefined, .give]
        let code : Code :=
          { name, arity := 0, ops, strict := true, constructs := true, derived := parent.isSome }
        set { b with codes := b.codes.push code }
        pure b.codes.size
    emit (.classFrom id name parent.isSome)
    if name != "" then
      emit .dup
      emit (.init 0 0)
    for m in members do
      match m with
      | .mk (.name "constructor") .method _ false => pure ()
      | .mk k kind value isStatic =>
        match kind with
        | .field =>
          compileKey fuel k
          let n := match k with
            | .name s => s
            | .computed _ => ""
          let body : Expr := withName (value.getD (.name "undefined"))
          let id ← compileFunction fuel
            (.mk n [] [.give (some body)] false false false true) false false
          emit (.function id)
          emit (.field isStatic)
        | .block =>
          compileExpr fuel (value.getD (.name "undefined"))
          emit .runBlock
        | _ =>
          emit .dup
          unless isStatic do emit (.getMember "prototype")
          compileKey fuel k
          compileExpr fuel (value.getD (.name "undefined"))
          emit (.defineIndex kind false)
          emit .pop
      | .spread _ => pure ()
    modify fun b => { b with strict }
    leaveScope

/-- Undoes what lies between here and the part that a jump goes to. `held` says that a value lies
on top. -/
def unwind : Nat → Bool → (Control → Bool) → List Control → Compiling Unit
  | 0, _, _, _ => throw "too deep"
  | _, _, _, [] => pure ()
  | fuel + 1, held, stops, c :: rest => do
    if stops c then return
    match c with
    | .scope => emit .leave
    | .handler => emit .unguard
    | .final body scopes =>
      emit .unguard
      let b ← get
      set { b with controls := rest, scopes }
      compileBlock fuel body
      modify fun b' => { b' with controls := b.controls, scopes := b.scopes }
    | _ => pure ()
    unwind fuel held stops rest

def compileBlock : Nat → List Statement → Compiling Unit
  | 0, _ => throw "too deep"
  | fuel + 1, ss => do
    let names := distinct (blockNames ss)
    if names.isEmpty then
      for s in ss do compileStatement fuel [] s
    else
      enterScope names
      hoist fuel ss
      -- functions are seen outside too, unless the rules are strict
      unless (← get).strict do
        for s in ss do
          match s with
          | .function name _ =>
            match resolve? (← get).scopes.tail name with
            | some (d, i, .wide) =>
              getName name
              emit (.init (d + 1) i)
            | _ => pure ()
          | _ => pure ()
      for s in ss do compileStatement fuel [] s
      leaveScope

/-- Code for a statement with labels in front of it. -/
def compileStatement : Nat → List String → Statement → Compiling Unit
  | 0, _, _ => throw "too deep"
  | fuel + 1, names, s => do
    match s with
    | .value e =>
      compileExpr fuel e
      emit .pop
    | .declare _ parts =>
      for .mk p e in parts do
        match e with
        | some e =>
          compileExpr fuel (match p with | .name _ => withName e | _ => e)
          bindPattern fuel .fresh (e.shown 20) p
        | none =>
          throw "Missing initializer in destructuring declaration"
    | .function .. => pure ()
    | .class_ name e =>
      compileExpr fuel e
      initName name
    | .give e =>
      match e with
      | some e => compileExpr fuel e
      | none => emit (.push .undefined)
      unwind fuel true (fun _ => false) (← get).controls
      emit .give
    | .guarded body catcher last => compileGuarded fuel body catcher last
    | .labelled l s =>
      let after ← newLabel
      pushControl (.labelled (l :: names) after)
      compileStatement fuel [] s
      popControl
      place after

def compileGuarded :
    Nat → List Statement → Option Catcher → Option (List Statement) → Compiling Unit
  | 0, _, _, _ => throw "too deep"
  | fuel + 1, body, catcher, last => do
    match last, catcher with
    | some last, _ =>
      let failed ← newLabel
      let after ← newLabel
      emit (.guard failed true)
      pushControl (.final last (← get).scopes)
      match catcher with
      | some _ => compileGuarded fuel body catcher none
      | none => compileBlock fuel body
      popControl
      emit .unguard
      compileBlock fuel last
      emit (.jump after)
      place failed
      -- what was thrown lies below while the last part runs
      compileBlock fuel last
      emit .throw
      place after
    | none, some (.mk p handler) =>
      let failed ← newLabel
      let after ← newLabel
      emit (.guard failed false)
      pushControl .handler
      compileBlock fuel body
      popControl
      emit .unguard
      emit (.jump after)
      place failed
      match p with
      | none =>
        emit .pop
        compileBlock fuel handler
      | some p =>
        enterScope ((p.names 100).map (·, .narrow))
        bindPattern fuel .fresh "(intermediate value)" p
        compileBlock fuel handler
        leaveScope
      place after
    | none, none => compileBlock fuel body

end

/-- How deep programs may be nested. -/
def nesting : Nat := 100000

/-- The value of the last statement as the result, where it is an expression. -/
def givingLast (ss : List Statement) : List Statement :=
  match ss.reverse with
  | .value e :: rest => (.give (some e) :: rest).reverse
  | _ => ss

/-- The codes of a program after those that are there; the last one is its main part. -/
def compileProgram (codes : Array Code) (params : List String) (ss : List Statement) :
    Except String (Array Code) :=
  let f : Function := .mk "" (params.map fun p => .one (.name p)) ss false false false false
  match (compileFunction nesting f false false).run { codes } with
  | .ok (_, b) => .ok b.codes
  | .error m => .error m

end Flowboard.Prototype
