import Flowboard.Script.Fault

/-! What is wrong with a script that cannot be read, or that says what it must not say. -/
namespace Flowboard.Script

/-- How an expression is called in messages. -/
def Expr.title : Expr → String
  | .constant .none => "None"
  | .constant (.bool true) => "True"
  | .constant (.bool false) => "False"
  | .constant .ellipsis => "ellipsis"
  | .constant _ => "literal"
  | .name _ => "name"
  | .joined _ => "f-string expression"
  | .formatted _ _ _ => "f-string expression"
  | .tuple _ => "tuple"
  | .list _ => "list"
  | .set _ => "set display"
  | .dict _ => "dict literal"
  | .unary _ _ => "expression"
  | .binary _ _ _ => "expression"
  | .compare _ _ => "comparison"
  | .both _ _ => "expression"
  | .either _ _ => "expression"
  | .choice _ _ _ => "conditional expression"
  | .lambda _ _ => "lambda"
  | .call _ _ => "function call"
  | .attribute _ _ => "attribute"
  | .index _ _ => "subscript"
  | .slice _ _ _ => "slice"
  | .comprehension .list _ _ _ => "list comprehension"
  | .comprehension .set _ _ _ => "set comprehension"
  | .comprehension .dict _ _ _ => "dict comprehension"
  | .comprehension .generator _ _ _ => "generator expression"
  | .starred _ => "starred"
  | .yield _ => "yield expression"
  | .yieldFrom _ => "yield expression"
  | .await _ => "await expression"
  | .assign _ _ => "named expression"

/-- Whether an expression binds more tightly than comparisons, so that one can be told from the
target of an assignment. -/
def Expr.isTight : Expr → Bool
  | .unary "not" _ => false
  | .compare _ _ => false
  | .both _ _ => false
  | .either _ _ => false
  | .choice _ _ _ => false
  | .lambda _ _ => false
  | .assign _ _ => false
  | _ => true

/-- The part of a target that nothing can be assigned to. -/
def Expr.badTarget? : Expr → Option Expr
  | .name _ => none
  | .attribute _ _ => none
  | .index _ _ => none
  | .starred e => e.badTarget?
  | .tuple es => firstBad es
  | .list es => firstBad es
  | e => some e
where
  firstBad : List Expr → Option Expr
    | [] => none
    | e :: es => (e.badTarget?).or (firstBad es)

/-- What is wrong with a target of several that are assigned one value. -/
def targetFault? (alone : Bool) (target : Expr) : Option String :=
  match target with
  | .name "__debug__" => some "cannot assign to __debug__"
  | .starred _ => some "starred assignment target must be in a list or tuple"
  | target =>
    match target.badTarget? with
    | none =>
      let inner : List Expr := match target with
        | .tuple es => es
        | .list es => es
        | _ => []
      let stars := inner.filter fun
        | .starred _ => true
        | _ => false
      if 1 < stars.length then some "multiple starred expressions in assignment" else none
    | some bad =>
      let constant := match bad with
        | .constant .none => true
        | .constant (.bool _) => true
        | _ => false
      let whole := match target with
        | .tuple _ => false
        | .list _ => false
        | .comprehension .generator _ _ _ => false
        | e => e.isTight
      if alone && whole && !constant then
        some ("cannot assign to " ++ bad.title ++
          " here. Maybe you meant '==' instead of '='?")
      else some ("cannot assign to " ++ bad.title)

def argumentsFault? : List String → Bool → Bool → List Argument → Option String
  | _, _, _, [] => none
  | names, named, spread, .one e :: rest =>
    if spread then some "positional argument follows keyword argument unpacking"
    else if named then some "positional argument follows keyword argument"
    else
      match e with
      | .comprehension .generator _ _ _ => argumentsFault? names named spread rest
      | _ => argumentsFault? names named spread rest
  | names, named, spread, .spread _ :: rest =>
    if spread then some "iterable argument unpacking follows keyword argument unpacking"
    else argumentsFault? names named spread rest
  | names, _, spread, .named n _ :: rest =>
    if n = "None" || n = "True" || n = "False" || n = "__debug__" then
      some ("cannot assign to " ++ n)
    else if names.contains n then some ("keyword argument repeated: " ++ n)
    else argumentsFault? (n :: names) true spread rest
  | names, named, _, .namedSpread _ :: rest => argumentsFault? names named true rest

def paramsFault? (params : List Param) : Option String :=
  let names := params.map Param.name
  let twice := names.zipIdx.find? fun (n, i) => (names.take i).contains n
  let places := params.filter fun p => p.taking.byPlace
  let late := places.dropWhile fun p => p.default?.isNone
  if late.any fun p => p.default?.isNone then
    some "non-default argument follows default argument"
  else if names.contains "__debug__" then some "cannot assign to __debug__"
  else twice.map fun (n, _) => "duplicate argument '" ++ n ++ "' in function definition"

/-- Where an expression stands. -/
structure Surroundings where
  inFunction : Bool := false
  /-- in a function that can wait -/
  inWaiting : Bool := false
  inLoop : Bool := false
  inClass : Bool := false

mutual

/-- What is wrong with an expression in its place. -/
def Expr.fault? (s : Surroundings) : Expr → Option String
  | .constant _ => none
  | .name _ => none
  | .joined es => exprsFault? s es
  | .formatted e _ spec =>
    (e.fault? s).or (match spec with
      | some e => e.fault? s
      | none => none)
  | .tuple es => exprsFault? s es
  | .list es => exprsFault? s es
  | .set es => exprsFault? s es
  | .dict pairs => pairsFault? s pairs
  | .unary _ e => e.fault? s
  | .binary _ a b => (a.fault? s).or (b.fault? s)
  | .compare a rest => (a.fault? s).or (comparedFault? s rest)
  | .both a b => (a.fault? s).or (b.fault? s)
  | .either a b => (a.fault? s).or (b.fault? s)
  | .choice c a b => ((c.fault? s).or (a.fault? s)).or (b.fault? s)
  | .lambda params body =>
    (paramsFault? params).or (body.fault? { s with inFunction := true, inWaiting := false })
  | .call f args => ((f.fault? s).or (argumentsFault? [] false false args)).or (argsFault? s args)
  | .attribute e _ => e.fault? s
  | .index e i => (e.fault? s).or (i.fault? s)
  | .slice a b c => ((partFault? s a).or (partFault? s b)).or (partFault? s c)
  | .comprehension _ e v clauses =>
    let waits := clauses.any fun
      | .each _ _ waits => waits
      | _ => false
    if waits && !s.inWaiting then
      some "asynchronous comprehension outside of an asynchronous function"
    else ((e.fault? s).or (partFault? s v)).or (clausesFault? s clauses)
  | .starred e => e.fault? s
  | .yield e => if s.inFunction then partFault? s e else some "'yield' outside function"
  | .yieldFrom e =>
    if s.inWaiting then some "'yield from' inside async function"
    else if s.inFunction then e.fault? s
    else some "'yield' outside function"
  | .await e =>
    if s.inWaiting then e.fault? s
    else if s.inFunction then some "'await' outside async function"
    else some "'await' outside function"
  | .assign _ e => e.fault? s

def exprsFault? (s : Surroundings) : List Expr → Option String
  | [] => none
  | e :: es => (e.fault? s).or (exprsFault? s es)

def partFault? (s : Surroundings) : Option Expr → Option String
  | none => none
  | some e => e.fault? s

def pairsFault? (s : Surroundings) : List (Option Expr × Expr) → Option String
  | [] => none
  | (none, v) :: rest => (v.fault? s).or (pairsFault? s rest)
  | (some k, v) :: rest => ((k.fault? s).or (v.fault? s)).or (pairsFault? s rest)

def comparedFault? (s : Surroundings) : List (String × Expr) → Option String
  | [] => none
  | (_, e) :: rest => (e.fault? s).or (comparedFault? s rest)

def argsFault? (s : Surroundings) : List Argument → Option String
  | [] => none
  | .one e :: rest => (e.fault? s).or (argsFault? s rest)
  | .spread e :: rest => (e.fault? s).or (argsFault? s rest)
  | .named _ e :: rest => (e.fault? s).or (argsFault? s rest)
  | .namedSpread e :: rest => (e.fault? s).or (argsFault? s rest)

def clausesFault? (s : Surroundings) : List Clause → Option String
  | [] => none
  | .each t e _ :: rest => ((t.fault? s).or (e.fault? s)).or (clausesFault? s rest)
  | .test e :: rest => (e.fault? s).or (clausesFault? s rest)

end

/-- What is wrong with a value that must not be starred. -/
def valueFault? (s : Surroundings) : Expr → Option String
  | .starred _ => some "can't use starred expression here"
  | e => e.fault? s

/-- What is wrong with a statement, apart from those in it. -/
def Stmt.fault? (s : Surroundings) : Stmt → Option String
  | .expr e => valueFault? s e
  | .assign targets value =>
    let alone := targets.length = 1
    ((targets.findSome? (targetFault? alone)).or (exprsFault? s targets)).or (valueFault? s value)
  | .define _ params _ decorators _ _ => (paramsFault? params).or (exprsFault? s decorators)
  | _ => none

def endsExpr : Token → Bool
  | .name s => !keywords.contains s || ["False", "None", "True"].contains s
  | .number _ => true
  | .literal _ => true
  | .op s => [")", "]", "\x7d", "..."].contains s
  | _ => false

/-- Whether an expression can start with a token behind another one. -/
def startsAfter : Token → Bool
  | .name s => !keywords.contains s || ["False", "None", "True", "lambda"].contains s
  | .number _ => true
  | .literal _ => true
  | .op s => s == "\x7b" || s == "~"
  | _ => false

/-- Two expressions in brackets with nothing between them. -/
def missingComma? : List Mark → Option Mark
  | a :: b :: rest =>
    let textAfterName := match a.token, b.token with
      | .name n, .literal _ => ! ["False", "None", "True"].contains n
      | _, _ => false
    if 0 < a.depth && 0 < b.depth && endsExpr a.token && startsAfter b.token && !textAfterName
    then some a
    else missingComma? (b :: rest)
  | _ => none

/-- The tokens up to the end of the brackets around the first one. -/
def sameGroup (depth : Nat) (ms : List Mark) : List Mark :=
  (ms.takeWhile fun m => depth ≤ m.depth).filter fun m => m.depth = depth

/-- A choice without its other value. -/
def missingElse? (before : List Mark) : List Mark → Option Mark
  | [] => none
  | m :: rest =>
    if m.token = .name "if" then
      let back := sameGroup m.depth before
      let back := back.takeWhile fun b => b.token != .op "=" && b.token != .op ","
      let isClause := back.any fun b => b.token == .name "for"
      let after := (sameGroup m.depth rest).takeWhile fun b => b.token != .op ","
      let value := match back with
        | b :: _ => endsExpr b.token
        | [] => before.head?.any fun b => endsExpr b.token
      let hasElse := after.any fun b => b.token == .name "else"
      let more := (rest.head?).any fun r => startsExpr r.token
      if !isClause && value && !hasElse && more then (back.getLast?).or (some m)
      else missingElse? (m :: before) rest
    else missingElse? (m :: before) rest

/-- What is wrong with braces around pairs. -/
def badPairs? : List Mark → Option String
  | [] => none
  | m :: rest =>
    if m.token = .op "\x7b" then
      let inside := rest.takeWhile fun b => m.depth < b.depth
      let top := inside.filter fun b => b.depth = m.depth + 1
      let groups := (top.map (·.token)).splitBy fun a b => a != .op "," && b != .op ","
      let pieces := groups.filter fun g => g != [.op ","]
      let hasColon (g : List Token) : Bool := g.contains (.op ":") || g.contains (.op "**")
      let lambda (g : List Token) : Bool := g.contains (.name "lambda")
      if pieces.any lambda then badPairs? rest
      else if (pieces.head?).any hasColon then
        if pieces.any fun g => g.getLast? = some (.op ":") then
          some "expression expected after dictionary key and ':'"
        else if pieces.any fun g => ((g.dropWhile (· != .op ":")).drop 1).head? == some (.op "*")
        then some "cannot use a starred expression in a dictionary value"
        else if pieces.any fun g => !hasColon g then some "':' expected after dictionary key"
        else badPairs? rest
      else badPairs? rest
    else badPairs? rest

/-- A generator among other arguments without parentheses of its own. -/
def badGenerator? : List Mark → Bool
  | [] => false
  | m :: rest =>
    (m.token == .op "(" &&
      (let inside := rest.takeWhile fun b => m.depth < b.depth
       let top := inside.filter fun b => b.depth = m.depth + 1
       top.any (fun b => b.token == .name "for") && top.any fun b => b.token == .op ",")) ||
      badGenerator? rest

/-- Why tokens cannot be read, and at which one. -/
def unreadable (ms : List Mark) : String × Option Mark :=
  let star := ms.zipIdx.any fun (m, i) =>
    m.token == .op "*" && ((ms.drop (i - 1)).head?.any fun b => b.token == .op "(") && 0 < i &&
      !((ms.drop (i - 2)).head?.any fun b => 1 < i && endsExpr b.token) &&
      !((ms.drop i).takeWhile fun b => m.depth ≤ b.depth).any fun b => b.token == .op ","
  if badGenerator? ms then ("Generator expression must be parenthesized", ms.head?)
  else
    match missingComma? ms with
    | some m => ("invalid syntax. Perhaps you forgot a comma?", some m)
    | none =>
      match missingElse? [] ms with
      | some m => ("expected 'else' after 'if' expression", some m)
      | none =>
        match badPairs? ms with
        | some message => (message, ms.head?)
        | none =>
          if star then ("cannot use starred expression here", ms.head?)
          else ("invalid syntax", ms.head?)

/-- A line with the blocks that it opens and closes before it. -/
structure SourceLine where
  opened : Bool
  closed : Nat
  marks : List Mark

def sourceLines (ms : List Mark) : List SourceLine :=
  let step (acc : List SourceLine × SourceLine) (m : Mark) : List SourceLine × SourceLine :=
    let (done, line) := acc
    match m.token with
    | .newline => (line :: done, ⟨false, 0, []⟩)
    | .indent => (done, { line with opened := true })
    | .dedent => (done, { line with closed := line.closed + 1 })
    | _ => (done, { line with marks := m :: line.marks })
  let (done, last) := ms.foldl step ([], ⟨false, 0, []⟩)
  let all := if last.marks.isEmpty && last.closed = 0 then done else last :: done
  (all.map fun l => { l with marks := l.marks.reverse }).reverse

/-- A block that is open. -/
structure OpenBlock where
  /-- the first word of its first line -/
  word : String
  line : Nat
  surroundings : Surroundings

/-- Where the colon stands behind which a block follows. -/
def colonPlace : Nat → Nat → List Mark → Option Nat
  | _, _, [] => none
  | i, lambdas, m :: ms =>
    if m.depth = 0 && m.token == .name "lambda" then colonPlace (i + 1) (lambdas + 1) ms
    else if m.depth = 0 && m.token == .op ":" then
      if lambdas = 0 then some i else colonPlace (i + 1) (lambdas - 1) ms
    else colonPlace (i + 1) lambdas ms

def blockWords : List String :=
  ["if", "elif", "else", "while", "for", "try", "except", "finally", "with", "def", "class",
   "async"]

/-- The surroundings in a block behind a word. -/
def Surroundings.inside (s : Surroundings) (word : String) (waits : Bool) : Surroundings :=
  match word with
  | "def" => { inFunction := true, inWaiting := waits }
  | "class" => { inClass := true }
  | "for" => { s with inLoop := true }
  | "while" => { s with inLoop := true }
  | _ => s

/-- Reads the first line of a block as if its block were empty. -/
def readHead (word : String) (ts : List Token) : Option (List Stmt) :=
  let body : List Token := [.op ":", .name "pass", .newline]
  let rest := ts.drop 1
  let whole := match word with
    | "elif" => .name "if" :: rest ++ body
    | "except" => .name "try" :: body ++ ts ++ body
    | "else" => .name "if" :: .name "x" :: body ++ ts ++ body
    | "finally" => .name "try" :: body ++ ts ++ body
    | "try" => ts ++ body ++ .name "finally" :: body
    | "match" => [.name "match"] ++ rest ++ [.op ":", .newline, .indent, .name "case",
        .name "_"] ++ body ++ [.dedent]
    | "case" => [.name "match", .name "x", .op ":", .newline, .indent] ++ ts ++ body ++ [.dedent]
    | _ => ts ++ body
  match readStmts (40 * whole.length + 400) whole with
  | some (ss, []) => some ss
  | _ => none

/-- What is wrong with statements on one line. -/
def lineFault? (s : Surroundings) (ms : List Mark) : Option Fault :=
  let place (m : Option Mark) : Nat × Nat := ((m.or ms.head?).map fun m =>
    (m.line, m.column)).getD (1, 1)
  let fault (message : String) (m : Option Mark) : Option Fault :=
    let (line, column) := place m
    some ⟨"SyntaxError", message, line, column⟩
  let ts := ms.map (·.token)
  match readLine (40 * ts.length + 400) (ts ++ [.newline]) with
  | some (ss, []) =>
    match ss.findSome? (Stmt.fault? s) with
    | some message => fault message none
    | none => none
  | _ =>
    let trailing := ts.head? = some (.name "from") && ts.getLast? = some (.op ",") &&
      ts.contains (.name "import")
    if trailing then fault "trailing comma not allowed without surrounding parentheses" none
    else
      let (message, m) := unreadable ms
      fault message m

/-- What is wrong with the first line of a block. -/
def headFault? (s : Surroundings) (word : String) (head : List Mark) (colon : Bool) :
    Option Fault :=
  let at_ (m : Option Mark) (message : String) : Option Fault :=
    let (line, column) := ((m.or head.head?).map fun m => (m.line, m.column)).getD (1, 1)
    some ⟨"SyntaxError", message, line, column⟩
  let ts := head.map (·.token)
  match readHead word ts with
  | some ss =>
    if !colon then at_ head.getLast? "expected ':'"
    else
      let waits := ts.head? = some (.name "async")
      if waits && word ≠ "def" && !s.inWaiting then
        at_ none ("'async " ++ word ++ "' outside async function")
      else
        match ss.findSome? (Stmt.fault? s) with
        | some message => at_ none message
        | none => none
  | none =>
    match head.find? fun m => m.depth = 0 && m.token == .op "=" with
    | some m => at_ (some m) "invalid syntax"
    | none =>
      let (message, m) := unreadable head
      at_ m message

/-- What is wrong with the lines of a script. `waiting` is the start of a block that has no line
yet, and `attempt` a block of statements that still needs its handlers. -/
def linesFault? : Nat → List OpenBlock → Option OpenBlock → Option Nat → List SourceLine →
    Option Fault
  | 0, _, _, _, _ => none
  | _, _, none, none, [] => none
  | fuel + 1, blocks, waiting, attempt, l :: rest =>
    let line := (l.marks.head?.map (·.line)).getD 1
    let column := (l.marks.head?.map (·.column)).getD 1
    let blocks := waiting.toList ++ blocks
    let left := blocks.take l.closed
    let blocks := blocks.drop l.closed
    let attempt := match left.getLast? with
      | some b => if b.word = "try" then some b.line else none
      | none => attempt
    let s := (blocks.head?.map (·.surroundings)).getD {}
    let first := match l.marks.head?.map (·.token) with
      | some (.name n) => n
      | _ => ""
    if l.marks.isEmpty then linesFault? fuel blocks none attempt rest
    else if attempt.isSome && first ≠ "except" && first ≠ "finally" then
      some ⟨"SyntaxError", "expected 'except' or 'finally' block", line, column⟩
    else
      let soft := (first = "match" || first = "case") &&
        (l.marks.getLast?.map (·.token)) = some (.op ":") ||
        (first = "case" && (blocks.head?.map (·.word)) = some "match")
      if first = "@" then
        match lineFault? s (l.marks.drop 1) with
        | some f => some f
        | none =>
          some ⟨"SyntaxError", "invalid syntax", line + 1, 1⟩
      else if blockWords.contains first || soft then
        let colon := colonPlace 0 0 l.marks
        let head := match colon with
          | some i => l.marks.take i
          | none => l.marks
        if ["elif", "else", "except", "finally"].contains first then some ⟨"SyntaxError", "invalid syntax", line, column⟩
        else
          match headFault? s first head colon.isSome with
          | some f => some f
          | none =>
            let waits := first = "async"
            let inner := s.inside first waits
            let body := l.marks.drop ((colon.getD 0) + 1)
            if body.isEmpty then
              linesFault? fuel blocks (some ⟨first, line, inner⟩) none rest
            else
              match lineFault? inner body with
              | some f => some f
              | none =>
                let attempt := if first = "try" then some line else none
                linesFault? fuel blocks none attempt rest
      else
        match lineFault? s l.marks with
        | some f => some f
        | none => linesFault? fuel blocks none none rest
  | _, _, _, _, _ => none

def statementsFault? (source : List Char) : Option Fault :=
  match examine source (4 * source.length + 10) { lexer := { rest := source } } with
  | .error f => some f
  | .ok ms =>
    let lines := sourceLines ms
    match linesFault? (lines.length + 1) [] none none lines with
    | some f => some f
    | none =>
      if (read source).isSome then none else some ⟨"SyntaxError", "invalid syntax", 1, 1⟩

def expressionFault? (source : List Char) : Option Fault :=
  if source.isEmpty then some ⟨"SyntaxError", "invalid syntax", 0, 0⟩
  else
    match examine source (4 * source.length + 10) { lexer := { rest := source } } with
    | .error f => some f
    | .ok ms =>
      let ms := ms.filter fun m => m.token != .newline
      if ms.any fun m => m.token == .indent then
        some ⟨"IndentationError", "unexpected indent", 1, 1⟩
      else
        match readExpression source with
        | some e => (valueFault? {} e).map fun message =>
            let (line, column) := (ms.head?.map fun m => (m.line, m.column)).getD (1, 1)
            ⟨"SyntaxError", message, line, column⟩
        | none =>
          let (message, m) := unreadable ms
          let (line, column) := ((m.or ms.head?).map fun m => (m.line, m.column)).getD (1, 1)
          some ⟨"SyntaxError", message, line, column⟩

end Flowboard.Script
