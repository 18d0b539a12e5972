import Flowboard.Script.Escape
import Flowboard.Script.Lift
import Flowboard.Script.Number
import Flowboard.Script.Straight
import Flowboard.Script.Token
import Flowboard.Script.Tree

/-! Scripts as statements. -/
namespace Flowboard.Script

def numberOf? (s : String) : Option Constant :=
  let cs := s.toList.filter (· != '_')
  let based (base : Nat) (ds : List Char) : Option Constant :=
    (Text.naturalIn? base ds).map fun n => .int n
  match cs with
  | '0' :: 'x' :: ds => based 16 ds
  | '0' :: 'X' :: ds => based 16 ds
  | '0' :: 'o' :: ds => based 8 ds
  | '0' :: 'O' :: ds => based 8 ds
  | '0' :: 'b' :: ds => based 2 ds
  | '0' :: 'B' :: ds => based 2 ds
  | cs =>
    if cs.getLast? = some 'j' then (floatOf? cs.dropLast).map .imaginary
    else
      match Text.natural? cs with
      | some n => some (.int n)
      | none => (floatOf? cs).map .float

def Literal.text? (l : Literal) : Option (List Char) :=
  if l.raw then some l.body else unescape? l.bytes (l.body.length + 1) l.body

/-- A part of a formatted text. -/
inductive Segment where
  | text (s : List Char)
  /-- an expression with its conversion and its format -/
  | field (source : List Char) (conversion : Option Char) (spec : Option (List Segment))
  deriving Repr

/-- Where the expression of a field ends: its text backwards, and what follows. -/
def takeSource : Nat → Nat → List Char → List Char → List Char × List Char
  | 0, _, done, s => (done.reverse, s)
  | _, _, done, [] => (done.reverse, [])
  | fuel + 1, depth, done, c :: s =>
    if c = '\'' ∨ c = '"' then
      let inside := s.takeWhile (· != c)
      let rest := s.drop inside.length
      takeSource fuel depth (c :: (inside.reverse ++ c :: done)) (rest.drop 1)
    else if c = '(' ∨ c = '[' ∨ c = '{' then takeSource fuel (depth + 1) (c :: done) s
    else if depth = 0 then
      match c, s with
      | '!', '=' :: s => takeSource fuel 0 ('=' :: '!' :: done) s
      | '=', '=' :: s => takeSource fuel 0 ('=' :: '=' :: done) s
      | '<', '=' :: s => takeSource fuel 0 ('=' :: '<' :: done) s
      | '>', '=' :: s => takeSource fuel 0 ('=' :: '>' :: done) s
      | c, s =>
        if c = '}' ∨ c = ':' ∨ c = '!' then (done.reverse, c :: s)
        else takeSource fuel 0 (c :: done) s
    else if c = ')' ∨ c = ']' ∨ c = '}' then takeSource fuel (depth - 1) (c :: done) s
    else takeSource fuel depth (c :: done) s

/-- A format up to its closing brace, and what follows. -/
def takeSpec : Nat → List Char → List Char → List Char × List Char
  | depth, done, c :: s =>
    if c = '{' then takeSpec (depth + 1) (c :: done) s
    else if c = '}' then
      if depth = 0 then (done.reverse, c :: s) else takeSpec (depth - 1) (c :: done) s
    else takeSpec depth (c :: done) s
  | _, done, [] => (done.reverse, [])

def segments (raw : Bool) : Nat → List Char → List Char → Option (List Segment)
  | 0, _, _ => none
  | fuel + 1, done, s => do
    let text (_ : Unit) : Option (List Segment) := if done.isEmpty then some []
      else if raw then some [Segment.text done.reverse]
      else (unescape? false (done.length + 1) done.reverse).map fun s => [Segment.text s]
    match s with
    | [] => text ()
    | '\\' :: 'N' :: '{' :: s =>
      if raw then segments raw fuel ('N' :: '\\' :: done) ('{' :: s)
      else
        let name := s.takeWhile (· != '}')
        segments raw fuel ('}' :: (name.reverse ++ '{' :: 'N' :: '\\' :: done))
          (s.drop (name.length + 1))
    | '{' :: '{' :: s => segments raw fuel ('{' :: done) s
    | '}' :: '}' :: s => segments raw fuel ('}' :: done) s
    | '}' :: _ => none
    | '{' :: s =>
      let (source, rest) := takeSource (s.length + 1) 0 [] s
      let (conversion, rest) := match rest with
        | '!' :: c :: rest => (some c, rest)
        | rest => (none, rest)
      let (spec, rest) ← match rest with
        | ':' :: rest =>
          let (spec, rest) := takeSpec 0 [] rest
          (segments raw fuel [] spec).map fun spec => (some spec, rest)
        | rest => some (none, rest)
      match rest with
      | '}' :: rest =>
        let trimmed := (source.reverse.dropWhile (· == ' ')).reverse
        let (shown, source, conversion) : List Segment × List Char × Option Char :=
          if trimmed.getLast? = some '=' ∧ trimmed.dropLast.getLast? ≠ some '=' then
            ([.text source], trimmed.dropLast,
              if conversion.isNone && spec.isNone then some 'r' else conversion)
          else ([], source, conversion)
        let before ← text ()
        (segments raw fuel [] rest).map fun more =>
          before ++ shown ++ .field source conversion spec :: more
      | _ => none
    | '\\' :: c :: s => segments raw fuel (c :: '\\' :: done) s
    | c :: s => segments raw fuel (c :: done) s

/-- Operators between two operands, by how loosely they bind. -/
def operatorLevel? (op : String) : Option Nat :=
  match op with
  | "|" => some 1
  | "^" => some 2
  | "&" => some 3
  | "<<" | ">>" => some 4
  | "+" | "-" => some 5
  | "*" | "/" | "//" | "%" | "@" => some 6
  | _ => none

def comparison? : List Token → Option (String × List Token)
  | .op op :: ts =>
    if ["<", ">", "<=", ">=", "==", "!="].contains op then some (op, ts) else none
  | .name "in" :: ts => some ("in", ts)
  | .name "not" :: .name "in" :: ts => some ("not in", ts)
  | .name "is" :: .name "not" :: ts => some ("is not", ts)
  | .name "is" :: ts => some ("is", ts)
  | _ => none

def startsExpr : Token → Bool
  | .name s => !keywords.contains s ||
      ["False", "None", "True", "lambda", "not", "yield", "await"].contains s
  | .number _ => true
  | .literal _ => true
  | .op s => ["(", "[", "\x7b", "-", "+", "~", "*", "..."].contains s
  | _ => false

/-- The number of parameters before a slash right behind a comma at the depth of the first token, if
there is one; `comma` says that one came right before. -/
def slashPlace? : Nat → Nat → Bool → List Token → Option Nat
  | _, _, _, [] => none
  | depth, n, comma, .op op :: ts =>
    if depth = 0 ∧ comma ∧ op = "/" then some n
    else if depth = 0 ∧ op = "," then slashPlace? 0 (n + 1) true ts
    else if ["(", "[", "\x7b"].contains op then slashPlace? (depth + 1) n false ts
    else if [")", "]", "\x7d"].contains op then
      if depth = 0 then none else slashPlace? (depth - 1) n false ts
    else slashPlace? depth n false ts
  | depth, n, _, .newline :: ts => if depth = 0 then none else slashPlace? depth n false ts
  | depth, n, _, _ :: ts => slashPlace? depth n false ts

/-- Parameters, of which those before a slash take no argument by name. -/
def placedParams (ts : List Token) (ps : List Param) : List Param :=
  match slashPlace? 0 0 false ts with
  | none => ps
  | some n => (ps.take n).map (fun
      | .mk name d .one note => .mk name d .placed note
      | p => p) ++ ps.drop n

def startsClause : List Token → Bool
  | .name "for" :: _ => true
  | .name "async" :: .name "for" :: _ => true
  | _ => false

def tupleOf (es : List Expr) (comma : Bool) : Expr :=
  match es, comma with
  | [e], false => e
  | es, _ => .tuple es

mutual

def readExpr : Nat → List Token → Option (Expr × List Token)
  | 0, _ => none
  | fuel + 1, .name "lambda" :: ts => do
    let (params, ts) ← readParams fuel ":" ts
    let (body, ts) ← readExpr fuel ts
    some (.lambda params body, ts)
  | fuel + 1, .name "yield" :: ts => readYield fuel ts
  | fuel + 1, .name name :: .op ":=" :: ts => do
    let (e, ts) ← readExpr fuel ts
    some (.assign name e, ts)
  | fuel + 1, ts => do
    let (a, ts) ← readOr fuel ts
    match ts with
    | .name "if" :: ts =>
      let (c, ts) ← readOr fuel ts
      match ts with
      | .name "else" :: ts =>
        let (b, ts) ← readExpr fuel ts
        some (.choice c a b, ts)
      | _ => none
    | ts => some (a, ts)

def readYield : Nat → List Token → Option (Expr × List Token)
  | 0, _ => none
  | fuel + 1, ts =>
    match ts with
    | .name "from" :: ts => do
      let (e, ts) ← readExpr fuel ts
      some (.yieldFrom e, ts)
    | t :: ts =>
      if startsExpr t then do
        let (e, ts) ← readExprs fuel (t :: ts)
        some (.yield (some e), ts)
      else some (.yield none, t :: ts)
    | [] => some (.yield none, [])

def readOr : Nat → List Token → Option (Expr × List Token)
  | 0, _ => none
  | fuel + 1, ts => do
    let (a, ts) ← readAnd fuel ts
    match ts with
    | .name "or" :: ts =>
      let (b, ts) ← readOr fuel ts
      some (.either a b, ts)
    | ts => some (a, ts)

def readAnd : Nat → List Token → Option (Expr × List Token)
  | 0, _ => none
  | fuel + 1, ts => do
    let (a, ts) ← readNot fuel ts
    match ts with
    | .name "and" :: ts =>
      let (b, ts) ← readAnd fuel ts
      some (.both a b, ts)
    | ts => some (a, ts)

def readNot : Nat → List Token → Option (Expr × List Token)
  | 0, _ => none
  | fuel + 1, .name "not" :: ts => do
    let (e, ts) ← readNot fuel ts
    some (.unary "not" e, ts)
  | fuel + 1, ts => do
    let (a, ts) ← readBinary fuel 1 ts
    match ← readCompared fuel ts with
    | ([], ts) => some (a, ts)
    | (rest, ts) => some (.compare a rest, ts)

def readCompared : Nat → List Token → Option (List (String × Expr) × List Token)
  | 0, _ => none
  | fuel + 1, ts =>
    match comparison? ts with
    | none => some ([], ts)
    | some (op, ts) => do
      let (b, ts) ← readBinary fuel 1 ts
      let (rest, ts) ← readCompared fuel ts
      some ((op, b) :: rest, ts)

/-- Operands with operators between them that bind at least as tightly as `least`. -/
def readBinary : Nat → Nat → List Token → Option (Expr × List Token)
  | 0, _, _ => none
  | fuel + 1, least, ts => do
    let (a, ts) ← readUnary fuel ts
    readMore fuel least a ts

def readMore : Nat → Nat → Expr → List Token → Option (Expr × List Token)
  | 0, _, _, _ => none
  | fuel + 1, least, a, ts =>
    match ts with
    | .op op :: rest =>
      match operatorLevel? op with
      | some level =>
        if least ≤ level then do
          let (b, ts) ← readBinary fuel (level + 1) rest
          readMore fuel least (.binary op a b) ts
        else some (a, ts)
      | none => some (a, ts)
    | ts => some (a, ts)

def readUnary : Nat → List Token → Option (Expr × List Token)
  | 0, _ => none
  | fuel + 1, .op op :: ts =>
    if op = "-" ∨ op = "+" ∨ op = "~" then do
      let (e, ts) ← readUnary fuel ts
      some (.unary op e, ts)
    else readPower fuel (.op op :: ts)
  | fuel + 1, ts => readPower fuel ts

def readPower : Nat → List Token → Option (Expr × List Token)
  | 0, _ => none
  | fuel + 1, ts => do
    let (waits, ts) := match ts with
      | .name "await" :: ts => (true, ts)
      | ts => (false, ts)
    let (a, ts) ← readAtom fuel ts
    let (a, ts) ← readPostfix fuel a ts
    let a := if waits then Expr.await a else a
    match ts with
    | .op "**" :: ts =>
      let (b, ts) ← readUnary fuel ts
      some (.binary "**" a b, ts)
    | ts => some (a, ts)

/-- Calls, attributes and indices behind an expression. -/
def readPostfix : Nat → Expr → List Token → Option (Expr × List Token)
  | 0, _, _ => none
  | fuel + 1, e, ts =>
    match ts with
    | .op "." :: .name name :: ts => readPostfix fuel (.attribute e name) ts
    | .op "(" :: ts => do
      let (args, ts) ← readArguments fuel ts
      readPostfix fuel (.call e args) ts
    | .op "[" :: ts => do
      let (i, comma, ts) ← readIndices fuel ts
      readPostfix fuel (.index e (tupleOf i comma)) ts
    | ts => some (e, ts)

/-- Indices up to the closing bracket, and whether a comma stands among them. -/
def readIndices : Nat → List Token → Option (List Expr × Bool × List Token)
  | 0, _ => none
  | fuel + 1, ts => do
    let (i, ts) ← readIndex fuel ts
    match ts with
    | .op "]" :: ts => some ([i], false, ts)
    | .op "," :: .op "]" :: ts => some ([i], true, ts)
    | .op "," :: ts =>
      let (rest, _, ts) ← readIndices fuel ts
      some (i :: rest, true, ts)
    | _ => none

def readIndex : Nat → List Token → Option (Expr × List Token)
  | 0, _ => none
  | fuel + 1, ts => do
    let optional (ts : List Token) : Option (Option Expr × List Token) :=
      match ts with
      | .op ":" :: _ => some (none, ts)
      | .op "]" :: _ => some (none, ts)
      | .op "," :: _ => some (none, ts)
      | ts => (readExpr fuel ts).map fun (e, ts) => (some e, ts)
    let (a, ts) ← optional ts
    match ts with
    | .op ":" :: ts =>
      let (b, ts) ← optional ts
      match ts with
      | .op ":" :: ts =>
        let (c, ts) ← optional ts
        some (.slice a b c, ts)
      | ts => some (.slice a b none, ts)
    | ts => a.map fun a => (a, ts)

/-- Arguments up to the closing parenthesis. -/
def readArguments : Nat → List Token → Option (List Argument × List Token)
  | 0, _ => none
  | fuel + 1, ts =>
    match ts with
    | .op ")" :: ts => some ([], ts)
    | ts => do
      let (a, ts) ← match ts with
        | .op "*" :: ts => (readExpr fuel ts).map fun (e, ts) => (Argument.spread e, ts)
        | .op "**" :: ts => (readExpr fuel ts).map fun (e, ts) => (Argument.namedSpread e, ts)
        | .name name :: .op "=" :: ts =>
          (readExpr fuel ts).map fun (e, ts) => (Argument.named name e, ts)
        | ts => do
          let (e, ts) ← readExpr fuel ts
          if startsClause ts then
            let (clauses, ts) ← readClauses fuel ts
            some (Argument.one (.comprehension .generator e none clauses), ts)
          else some (Argument.one e, ts)
      match ts with
      | .op "," :: ts =>
        let (rest, ts) ← readArguments fuel ts
        some (a :: rest, ts)
      | .op ")" :: ts => some ([a], ts)
      | _ => none

def readClauses : Nat → List Token → Option (List Clause × List Token)
  | 0, _ => none
  | fuel + 1, ts =>
    match ts with
    | .name "async" :: .name "for" :: ts => readClause fuel true ts
    | .name "for" :: ts => readClause fuel false ts
    | .name "if" :: ts => do
      let (e, ts) ← readCondition fuel ts
      let (rest, ts) ← readClauses fuel ts
      some (.test e :: rest, ts)
    | ts => some ([], ts)

/-- A clause after its first word, and those behind it. -/
def readClause : Nat → Bool → List Token → Option (List Clause × List Token)
  | 0, _, _ => none
  | fuel + 1, waits, ts => do
    let (target, ts) ← readTargets fuel ts
    match ts with
    | .name "in" :: ts =>
      let (e, ts) ← readOr fuel ts
      let (rest, ts) ← readClauses fuel ts
      some (.each target e waits :: rest, ts)
    | _ => none

/-- A condition that may be a function, but no choice. -/
def readCondition : Nat → List Token → Option (Expr × List Token)
  | 0, _ => none
  | fuel + 1, ts =>
    match ts with
    | .name "lambda" :: _ => readExpr fuel ts
    | .name name :: .op ":=" :: ts => do
      let (e, ts) ← readOr fuel ts
      some (.assign name e, ts)
    | ts => readOr fuel ts

/-- Targets of a loop with commas between them, up to `in`. -/
def readTargets : Nat → List Token → Option (Expr × List Token)
  | 0, _ => none
  | fuel + 1, ts => do
    let (es, comma, ts) ← readTargetList fuel ts
    some (tupleOf es comma, ts)

def readTargetList : Nat → List Token → Option (List Expr × Bool × List Token)
  | 0, _ => none
  | fuel + 1, ts => do
    let (t, ts) ← match ts with
      | .op "*" :: ts => (readBinary fuel 1 ts).map fun (e, ts) => (Expr.starred e, ts)
      | ts => readBinary fuel 1 ts
    match ts with
    | .op "," :: .name "in" :: ts => some ([t], true, .name "in" :: ts)
    | .op "," :: ts =>
      let (rest, _, ts) ← readTargetList fuel ts
      some (t :: rest, true, ts)
    | ts => some ([t], false, ts)

/-- Expressions with commas between them, which together are a tuple. -/
def readExprs : Nat → List Token → Option (Expr × List Token)
  | 0, _ => none
  | fuel + 1, ts => do
    let (es, comma, ts) ← readExprList fuel ts
    some (tupleOf es comma, ts)

def readExprList : Nat → List Token → Option (List Expr × Bool × List Token)
  | 0, _ => none
  | fuel + 1, ts => do
    let (e, ts) ← match ts with
      | .op "*" :: ts => (readBinary fuel 1 ts).map fun (e, ts) => (Expr.starred e, ts)
      | ts => readExpr fuel ts
    match ts with
    | .op "," :: t :: ts =>
      if startsExpr t then
        let (rest, _, ts) ← readExprList fuel (t :: ts)
        some (e :: rest, true, ts)
      else some ([e], true, t :: ts)
    | .op "," :: [] => some ([e], true, [])
    | ts => some ([e], false, ts)

def readParams : Nat → String → List Token → Option (List Param × List Token)
  | 0, _, _ => none
  | fuel + 1, close, ts => do
    let (ps, rest) ← readParamsFrom fuel close .one ts
    some (placedParams ts ps, rest)

def readParamsFrom : Nat → String → Taking → List Token → Option (List Param × List Token)
  | 0, _, _, _ => none
  | fuel + 1, close, taking, ts =>
    let more (p : List Param) (taking : Taking) (ts : List Token) : Option (List Param × List Token) :=
      match ts with
      | .op "," :: ts => (readParamsFrom fuel close taking ts).map fun (ps, ts) => (p ++ ps, ts)
      | .op c :: ts => if c = close then some (p, ts) else none
      | _ => none
    -- what stands behind a colon tells the type
    let typed (ts : List Token) : Option (Option Expr × List Token) :=
      match ts with
      | .op ":" :: rest =>
        if close = ":" then some (none, ts)
        else
          match rest with
          | .op "*" :: rest => (readExpr fuel rest).map fun (e, ts) => (some (.starred e), ts)
          | rest => (readExpr fuel rest).map fun (e, ts) => (some e, ts)
      | ts => some (none, ts)
    match ts with
    | .op "*" :: .name name :: ts => do
      let (note, ts) ← typed ts
      more [.mk name none .rest note] .named ts
    | .op "*" :: ts => more [] .named ts
    | .op "**" :: .name name :: ts => do
      let (note, ts) ← typed ts
      more [.mk name none .namedRest note] .named ts
    | .op "/" :: ts => more [] taking ts
    | .name name :: ts => do
      let (note, ts) ← typed ts
      match ts with
      | .op "=" :: ts =>
        let (e, ts) ← readExpr fuel ts
        more [.mk name (some e) taking note] taking ts
      | ts => more [.mk name none taking note] taking ts
    | .op c :: ts => if c = close then some ([], ts) else none
    | _ => none

/-- Literals one after the other, which together are one text. -/
def readLiterals : Nat → List Token → Option ((List Expr × Bool) × List Token)
  | 0, _ => none
  | fuel + 1, .literal l :: ts => do
    let parts ← if l.formatted then do
        let segs ← segments l.raw (l.body.length + 1) [] l.body
        readSegments fuel segs
      else l.text?.map fun s => [Expr.constant (.str (.ofList s))]
    let ((rest, bytes), ts) ← readLiterals fuel ts
    some ((parts ++ rest, l.bytes || bytes), ts)
  | _, ts => some (([], false), ts)

def readSegments : Nat → List Segment → Option (List Expr)
  | 0, _ => none
  | _, [] => some []
  | fuel + 1, .text s :: rest => do
    let more ← readSegments fuel rest
    some (.constant (.str (.ofList s)) :: more)
  | fuel + 1, .field source conversion spec :: rest => do
    let (e, left) ← readExprs fuel (tokens ('(' :: source ++ [')']))
    if left ≠ [.newline] || source.contains '\\' then none
    else
      let spec ← match spec with
        | none => some none
        | some segs => do
          let parts ← readSegments fuel segs
          some (some (Expr.joined parts))
      let more ← readSegments fuel rest
      some (.formatted e conversion spec :: more)

def readAtom : Nat → List Token → Option (Expr × List Token)
  | 0, _ => none
  | fuel + 1, ts =>
    match ts with
    | .name "None" :: ts => some (.constant .none, ts)
    | .name "True" :: ts => some (.constant (.bool true), ts)
    | .name "False" :: ts => some (.constant (.bool false), ts)
    | .op "..." :: ts => some (.constant .ellipsis, ts)
    | .name s :: ts => if keywords.contains s then none else some (.name s, ts)
    | .number s :: ts => (numberOf? s).map fun c => (.constant c, ts)
    | .literal l :: ts => do
      let ((parts, bytes), ts) ← readLiterals fuel (.literal l :: ts)
      let texts := parts.map fun
        | .constant (.str s) => some s
        | _ => none
      if bytes then
        let octets := (String.join (texts.filterMap id)).toList.map fun c => UInt8.ofNat c.toNat
        some (.constant (.bytes octets), ts)
      else if texts.all Option.isSome then
        some (.constant (.str (String.join (texts.filterMap id))), ts)
      else some (.joined parts, ts)
    | .op "(" :: .op ")" :: ts => some (.tuple [], ts)
    | .op "(" :: ts => do
      let (es, comma, ts) ← readExprList fuel ts
      match es, ts with
      | [e], .name _ :: _ =>
        let (clauses, ts) ← readClauses fuel ts
        match clauses, ts with
        | _ :: _, .op ")" :: ts => some (.comprehension .generator e none clauses, ts)
        | _, _ => none
      | es, .op ")" :: ts => some (tupleOf es comma, ts)
      | _, _ => none
    | .op "[" :: .op "]" :: ts => some (.list [], ts)
    | .op "[" :: ts => do
      let (es, _, ts) ← readExprList fuel ts
      match es, ts with
      | [e], .name _ :: _ =>
        let (clauses, ts) ← readClauses fuel ts
        match clauses, ts with
        | _ :: _, .op "]" :: ts => some (.comprehension .list e none clauses, ts)
        | _, _ => none
      | es, .op "]" :: ts => some (.list es, ts)
      | _, _ => none
    | .op "\x7b" :: .op "\x7d" :: ts => some (.dict [], ts)
    | .op "\x7b" :: .op "**" :: ts => do
      let (pairs, ts) ← readPairs fuel (.op "**" :: ts)
      some (.dict pairs, ts)
    | .op "\x7b" :: ts => do
      let (es, _, after) ← readExprList fuel ts
      match es, after with
      | [k], .op ":" :: rest =>
        let (v, rest) ← readExpr fuel rest
        match rest with
        | .name "for" :: _ =>
          let (clauses, ts) ← readClauses fuel rest
          match ts with
          | .op "\x7d" :: ts => some (.comprehension .dict k (some v) clauses, ts)
          | _ => none
        | .op "," :: rest =>
          let (pairs, ts) ← readPairs fuel rest
          some (.dict ((some k, v) :: pairs), ts)
        | .op "\x7d" :: ts => some (.dict [(some k, v)], ts)
        | _ => none
      | [e], .name _ :: _ =>
        let (clauses, ts) ← readClauses fuel after
        match clauses, ts with
        | _ :: _, .op "\x7d" :: ts => some (.comprehension .set e none clauses, ts)
        | _, _ => none
      | es, .op "\x7d" :: ts => some (.set es, ts)
      | _, _ => none
    | _ => none

/-- The pairs of a mapping up to its closing brace. -/
def readPairs : Nat → List Token → Option (List (Option Expr × Expr) × List Token)
  | 0, _ => none
  | _, .op "\x7d" :: ts => some ([], ts)
  | fuel + 1, ts => do
    let (pair, ts) ← match ts with
      | .op "**" :: ts => (readBinary fuel 1 ts).map fun (e, ts) => ((none, e), ts)
      | ts => do
        let (k, ts) ← readExpr fuel ts
        match ts with
        | .op ":" :: ts => (readExpr fuel ts).map fun (v, ts) => ((some k, v), ts)
        | _ => none
    match ts with
    | .op "," :: ts =>
      let (rest, ts) ← readPairs fuel ts
      some (pair :: rest, ts)
    | .op "\x7d" :: ts => some ([pair], ts)
    | _ => none

end

def signedNumber? : List Token → Option (Expr × List Token)
  | .op "-" :: .number s :: ts => (numberOf? s).map fun c => (.unary "-" (.constant c), ts)
  | .number s :: ts => (numberOf? s).map fun c => (.constant c, ts)
  | _ => none

/-- Names with points behind a name. -/
def readPath : Expr → List Token → Expr × List Token
  | e, .op "." :: .name n :: ts => readPath (.attribute e n) ts
  | e, ts => (e, ts)

mutual

def readOpenPattern : Nat → List Token → Option (Pattern × List Token)
  | 0, _ => none
  | fuel + 1, ts => do
    let (p, ts) ← readPattern fuel ts
    match p, ts with
    | _, .op "," :: _ =>
      let (ps, ts) ← readPatterns fuel ts
      some (.sequence (p :: ps), ts)
    | .rest _, _ => some (.sequence [p], ts)
    | _, _ => some (p, ts)

def readPatterns : Nat → List Token → Option (List Pattern × List Token)
  | 0, _ => none
  | fuel + 1, .op "," :: ts =>
    match ts with
    | .op ":" :: _ | .op ")" :: _ | .op "]" :: _ | .name "if" :: _ => some ([], ts)
    | ts => do
      let (p, ts) ← readPattern fuel ts
      let (ps, ts) ← readPatterns fuel ts
      some (p :: ps, ts)
  | _, ts => some ([], ts)

def readPattern : Nat → List Token → Option (Pattern × List Token)
  | 0, _ => none
  | fuel + 1, ts => do
    let (p, ts) ← readAlternatives fuel ts
    match ts with
    | .name "as" :: .name n :: ts => some (.named p n, ts)
    | ts => some (p, ts)

def readAlternatives : Nat → List Token → Option (Pattern × List Token)
  | 0, _ => none
  | fuel + 1, ts => do
    let (p, ts) ← readClosedPattern fuel ts
    match ts with
    | .op "|" :: ts =>
      match ← readAlternatives fuel ts with
      | (.either ps, ts) => some (.either (p :: ps), ts)
      | (q, ts) => some (.either [p, q], ts)
    | ts => some (p, ts)

def readClosedPattern : Nat → List Token → Option (Pattern × List Token)
  | 0, _ => none
  | fuel + 1, ts =>
    match ts with
    | .op "*" :: .name "_" :: ts => some (.rest none, ts)
    | .op "*" :: .name n :: ts => some (.rest (some n), ts)
    | .name "None" :: ts => some (.same .none, ts)
    | .name "True" :: ts => some (.same (.bool true), ts)
    | .name "False" :: ts => some (.same (.bool false), ts)
    | .name "_" :: ts => some (.anything, ts)
    | .name n :: rest =>
      match readPath (.name n) rest with
      | (e, .op "(" :: ts) => readObjectPattern fuel e ts
      | (.name n, ts) => some (.capture n, ts)
      | (e, ts) => some (.equal e, ts)
    | .literal _ :: _ => (readAtom fuel ts).map fun (e, ts) => (.equal e, ts)
    | .op "(" :: .op ")" :: ts => some (.sequence [], ts)
    | .op "(" :: ts => do
      let (p, ts) ← readOpenPattern fuel ts
      match ts with
      | .op ")" :: ts => some (p, ts)
      | _ => none
    | .op "[" :: .op "]" :: ts => some (.sequence [], ts)
    | .op "[" :: ts => do
      let (p, ts) ← readPattern fuel ts
      let (ps, ts) ← readPatterns fuel ts
      match ts with
      | .op "]" :: ts => some (.sequence (p :: ps), ts)
      | _ => none
    | .op "\x7b" :: ts => do
      let (pairs, rest, ts) ← readPatternPairs fuel ts
      some (.mapping pairs rest, ts)
    | ts => do
      let (e, ts) ← signedNumber? ts
      match ts with
      | .op "+" :: .number s :: ts =>
        (numberOf? s).map fun c => (.equal (.binary "+" e (.constant c)), ts)
      | .op "-" :: .number s :: ts =>
        (numberOf? s).map fun c => (.equal (.binary "-" e (.constant c)), ts)
      | ts => some (.equal e, ts)

def readObjectPattern : Nat → Expr → List Token → Option (Pattern × List Token)
  | 0, _, _ => none
  | fuel + 1, type, ts => do
    match ts with
    | .op ")" :: ts => some (.object type [] [], ts)
    | .name n :: .op "=" :: ts =>
      let (p, ts) ← readPattern fuel ts
      match ← readObjectRest fuel type ts with
      | (.object _ args named, ts) => some (.object type args ((n, p) :: named), ts)
      | _ => none
    | ts =>
      let (p, ts) ← readPattern fuel ts
      match ← readObjectRest fuel type ts with
      | (.object _ args named, ts) => some (.object type (p :: args) named, ts)
      | _ => none

def readObjectRest : Nat → Expr → List Token → Option (Pattern × List Token)
  | 0, _, _ => none
  | fuel + 1, type, ts =>
    match ts with
    | .op "," :: ts => readObjectPattern fuel type ts
    | .op ")" :: ts => some (.object type [] [], ts)
    | _ => none

/-- The pairs of a mapping between braces, and the name for the others. -/
def readPatternPairs :
    Nat → List Token → Option (List (Expr × Pattern) × Option String × List Token)
  | 0, _ => none
  | fuel + 1, ts => do
    let more (ts : List Token) :
        Option (List (Expr × Pattern) × Option String × List Token) :=
      match ts with
      | .op "," :: ts => readPatternPairs fuel ts
      | .op "\x7d" :: ts => some ([], none, ts)
      | _ => none
    match ts with
    | .op "\x7d" :: ts => some ([], none, ts)
    | .op "**" :: .name n :: ts =>
      let (pairs, _, ts) ← more ts
      some (pairs, some n, ts)
    | ts =>
      let (key, ts) ← match ts with
        | .op "-" :: _ => signedNumber? ts
        | ts => do
          let (e, ts) ← readAtom fuel ts
          some (readPath e ts)
      match ts with
      | .op ":" :: ts =>
        let (p, ts) ← readPattern fuel ts
        let (pairs, rest, ts) ← more ts
        some ((key, p) :: pairs, rest, ts)
      | _ => none

end

/-- One handler for all exceptions that gives each of some handlers its part of a group. -/
def groupHandlers (mark : String) (handlers : List Handler) : List Handler :=
  let caught := ".caught" ++ mark
  let state := ".group" ++ mark
  let found := ".found" ++ mark
  let failed := ".failure" ++ mark
  let call (f : Expr) (args : List Expr) : Expr := .call f (args.map .one)
  let method (name : String) (args : List Expr) : Expr :=
    call (.attribute (.name state) name) args
  let module := call (.name "__import__") [.constant (.str "_groups")]
  let one : Handler → List Stmt
    | .mk kind name body =>
      let bound := name.toList.map fun n => Stmt.assign [.name n] (.name found)
      let unbound := name.toList.map fun n => Stmt.delete [.name n]
      [.assign [.name found] (method "take" [kind.getD (.name "BaseException")]),
       .choice (.compare (.name found) [("is not", .constant .none)])
        (bound ++ [.attempt body
          [.mk (some (.name "BaseException")) (some failed)
            [.expr (method "keep" [.name failed])]] [] unbound]) []]
  [.mk (some (.name "BaseException")) (some caught)
    (.assign [.name state] (call (.attribute module "Handling") [.name caught]) ::
      (handlers.map one).flatten ++
      [.assign [.name found] (method "finish" []),
       .choice (.compare (.name found) [("is not", .constant .none)])
        [.raise (some (.name found)) none] []])]

/-- The operators that change a target. -/
def augmentOperator? (op : String) : Option String :=
  if ["+=", "-=", "*=", "/=", "//=", "%=", "**=", "&=", "|=", "^=", ">>=", "<<=", "@="].contains op
  then some (.ofList op.toList.dropLast) else none

def readDotted : List Token → Option (String × List Token)
  | .name a :: .op "." :: ts => (readDotted ts).map fun (b, ts) => (a ++ "." ++ b, ts)
  | .name a :: ts => some (a, ts)
  | _ => none

/-- Names with points, each with the name that it gets. -/
def readModules : Nat → List Token → Option (List (String × String) × List Token)
  | 0, _ => none
  | fuel + 1, ts => do
    let (module, ts) ← readDotted ts
    let (as_, ts) := match ts with
      | .name "as" :: .name n :: ts => (n, ts)
      | ts => ("", ts)
    match ts with
    | .op "," :: ts =>
      let (rest, ts) ← readModules fuel ts
      some ((module, as_) :: rest, ts)
    | ts => some ([(module, as_)], ts)

def readNames : List Token → Option (List String × List Token)
  | .name a :: .op "," :: ts => (readNames ts).map fun (b, ts) => (a :: b, ts)
  | .name a :: ts => some ([a], ts)
  | _ => none

/-- Values behind equals signs; the last one is the value, and the others are targets. -/
def readAssigned : Nat → List Token → Option (List Expr × List Token)
  | 0, _ => none
  | fuel + 1, ts => do
    let (e, ts) ← readExprs fuel ts
    match ts with
    | .op "=" :: ts =>
      let (rest, ts) ← readAssigned fuel ts
      some (e :: rest, ts)
    | ts => some ([e], ts)

def targetsOf : Expr → List Expr
  | .tuple es => es
  | e => [e]

def readSimple : Nat → List Token → Option (Stmt × List Token)
  | 0, _ => none
  | fuel + 1, ts =>
    let optional (ts : List Token) : Option (Option Expr × List Token) :=
      match ts with
      | t :: _ => if startsExpr t then (readExprs fuel ts).map fun (e, ts) => (some e, ts)
        else some (none, ts)
      | [] => some (none, [])
    match ts with
    | .name "pass" :: ts => some (.pass, ts)
    | .name "break" :: ts => some (.leave, ts)
    | .name "continue" :: ts => some (.again, ts)
    | .name "return" :: ts => (optional ts).map fun (e, ts) => (.give e, ts)
    | .name "raise" :: ts => do
      let (e, ts) ← optional ts
      match ts with
      | .name "from" :: ts =>
        let (c, ts) ← readExpr fuel ts
        some (.raise e (some c), ts)
      | ts => some (.raise e none, ts)
    | .name "import" :: ts => (readModules fuel ts).map fun (ms, ts) => (.bring ms, ts)
    | .name "from" :: ts => do
      let (module, ts) ← readDotted (ts.dropWhile (· == .op "."))
      match ts with
      | .name "import" :: .op "*" :: ts => some (.bringFrom module [("*", "")], ts)
      | .name "import" :: ts =>
        let (names, ts) ← readModules fuel ts
        some (.bringFrom module names, ts)
      | _ => none
    | .name "global" :: ts => (readNames ts).map fun (ns, ts) => (.outer true ns, ts)
    | .name "del" :: ts => do
      let (e, ts) ← readExprs fuel ts
      some (.delete (targetsOf e), ts)
    | .name "assert" :: ts => do
      let (e, ts) ← readExpr fuel ts
      match ts with
      | .op "," :: ts =>
        let (m, ts) ← readExpr fuel ts
        some (.assert e (some m), ts)
      | ts => some (.assert e none, ts)
    | ts => do
      let (e, ts) ← readExprs fuel ts
      match ts with
      | .op "=" :: ts =>
        let (rest, ts) ← readAssigned fuel ts
        match rest.getLast? with
        | some value => some (.assign (e :: rest.dropLast) value, ts)
        | none => none
      | .op ":" :: ts =>
        let (type, ts) ← readExpr fuel ts
        match ts with
        | .op "=" :: ts =>
          let (v, ts) ← readExprs fuel ts
          some (.annotate e type (some v), ts)
        | ts => some (.annotate e type none, ts)
      | .op op :: rest =>
        match augmentOperator? op with
        | some op =>
          let (v, ts) ← readExprs fuel rest
          some (.augment e op v, ts)
        | none => some (.expr e, ts)
      | ts => some (.expr e, ts)

/-- Statements on one line, up to its end. -/
def readLine : Nat → List Token → Option (List Stmt × List Token)
  | 0, _ => none
  | fuel + 1, ts => do
    let (s, ts) ← readSimple fuel ts
    match ts with
    | .newline :: ts => some ([s], ts)
    | .op ";" :: .newline :: ts => some ([s], ts)
    | .op ";" :: ts =>
      let (rest, ts) ← readLine fuel ts
      some (s :: rest, ts)
    | _ => none

mutual

/-- The statements of a block behind a colon. -/
def readBlock : Nat → List Token → Option (List Stmt × List Token)
  | 0, _ => none
  | fuel + 1, ts =>
    match ts with
    | .op ":" :: .newline :: .indent :: ts => readStmts fuel ts
    | .op ":" :: ts => readLine fuel ts
    | _ => none

/-- Statements up to the end of their block. -/
def readStmts : Nat → List Token → Option (List Stmt × List Token)
  | 0, _ => none
  | _, [] => some ([], [])
  | _, .dedent :: ts => some ([], ts)
  | fuel + 1, .line n :: ts => do
    let (rest, ts) ← readStmts fuel ts
    some (.mark n :: rest, ts)
  | fuel + 1, ts => do
    let (s, ts) ← readStmt fuel ts
    let (rest, ts) ← readStmts fuel ts
    some (s ++ rest, ts)

def readStmt : Nat → List Token → Option (List Stmt × List Token)
  | 0, _ => none
  | fuel + 1, ts =>
    let one (r : Option (Stmt × List Token)) : Option (List Stmt × List Token) := r.map fun (s, ts) => ([s], ts)
    match ts with
    | .name "if" :: ts => one (readChoice fuel ts)
    | .name "while" :: ts => one do
      let (c, ts) ← readExpr fuel ts
      let (body, ts) ← readBlock fuel ts
      let (otherwise, ts) ← readElse fuel ts
      some (.loop c body otherwise, ts)
    | .name "for" :: ts => one do
      let (target, ts) ← readTargets fuel ts
      match ts with
      | .name "in" :: ts =>
        let (e, ts) ← readExprs fuel ts
        let (body, ts) ← readBlock fuel ts
        let (otherwise, ts) ← readElse fuel ts
        some (.each target e body otherwise, ts)
      | _ => none
    | .name "try" :: ts => one do
      let (body, ts) ← readBlock fuel ts
      let grouped := match ts with
        | .name "except" :: .op "*" :: _ => true
        | _ => false
      let mark := toString ts.length
      let (handlers, ts) ← readHandlers fuel ts
      let handlers := if grouped then groupHandlers mark handlers else handlers
      let (otherwise, ts) ← readElse fuel ts
      let (final, ts) ← match ts with
        | .name "finally" :: ts => readBlock fuel ts
        | ts => some ([], ts)
      some (.attempt body handlers otherwise final, ts)
    | .name "with" :: ts => one (readUsing fuel ts)
    | .name "def" :: ts => one (readDefinition fuel [] false ts)
    | .name "class" :: ts => one (readClass fuel [] ts)
    | .name "async" :: .name "def" :: ts => one (readDefinition fuel [] true ts)
    | .op "@" :: ts => one (readDecorated fuel [] (.op "@" :: ts))
    | .name "match" :: rest =>
      match readSelect fuel rest with
      | some (s, ts) => some ([s], ts)
      | none => readLine fuel ts
    | ts => readLine fuel ts

def readSelect : Nat → List Token → Option (Stmt × List Token)
  | 0, _ => none
  | fuel + 1, ts => do
    let (subject, ts) ← readExprs fuel ts
    match ts with
    | .op ":" :: .newline :: .indent :: .name "case" :: ts =>
      let (cases, ts) ← readCases fuel (.name "case" :: ts)
      some (.select subject cases, ts)
    | _ => none

def readCases : Nat → List Token → Option (List Case × List Token)
  | 0, _ => none
  | _, .dedent :: ts => some ([], ts)
  | fuel + 1, .name "case" :: ts => do
    let (p, ts) ← readOpenPattern fuel ts
    let (guard, ts) ← match ts with
      | .name "if" :: ts => (readExpr fuel ts).map fun (e, ts) => (some e, ts)
      | ts => some (none, ts)
    let (body, ts) ← readBlock fuel ts
    let (rest, ts) ← readCases fuel ts
    some (.mk p guard body :: rest, ts)
  | _, _ => none

def readDecorated : Nat → List Expr → List Token → Option (Stmt × List Token)
  | 0, _, _ => none
  | fuel + 1, ds, ts =>
    match ts with
    | .op "@" :: ts => do
      let (d, ts) ← readExpr fuel ts
      match ts with
      | .newline :: .line _ :: ts => readDecorated fuel (d :: ds) ts
      | .newline :: ts => readDecorated fuel (d :: ds) ts
      | _ => none
    | .name "async" :: .name "def" :: ts => readDefinition fuel ds true ts
    | .name "def" :: ts => readDefinition fuel ds false ts
    | .name "class" :: ts => readClass fuel ds ts
    | _ => none

def readDefinition : Nat → List Expr → Bool → List Token → Option (Stmt × List Token)
  | 0, _, _, _ => none
  | fuel + 1, ds, awaits, ts =>
    match ts with
    | .name name :: .op "(" :: ts => do
      let (params, ts) ← readParams fuel ")" ts
      let (result, ts) ← match ts with
        | .op "->" :: ts => (readExprs fuel ts).map fun (e, ts) => ([("return", e)], ts)
        | ts => some ([], ts)
      let (body, ts) ← readBlock fuel ts
      let notes := params.filterMap fun p => p.note?.map fun e => (p.name, e)
      some (.define name params (lifted body) ds (notes ++ result) awaits, ts)
    | _ => none

def readClass : Nat → List Expr → List Token → Option (Stmt × List Token)
  | 0, _, _ => none
  | fuel + 1, ds, ts =>
    match ts with
    | .name name :: .op "(" :: ts => do
      let (bases, ts) ← readArguments fuel ts
      let (body, ts) ← readBlock fuel ts
      some (.describe name bases body ds, ts)
    | .name name :: ts => do
      let (body, ts) ← readBlock fuel ts
      some (.describe name [] body ds, ts)
    | _ => none

def readChoice : Nat → List Token → Option (Stmt × List Token)
  | 0, _ => none
  | fuel + 1, ts => do
    let (c, ts) ← readExpr fuel ts
    let (yes, ts) ← readBlock fuel ts
    match ts with
    | .name "elif" :: ts =>
      let (no, ts) ← readChoice fuel ts
      some (.choice c yes [no], ts)
    | ts =>
      let (no, ts) ← readElse fuel ts
      some (.choice c yes no, ts)

def readElse : Nat → List Token → Option (List Stmt × List Token)
  | 0, _ => none
  | fuel + 1, ts =>
    match ts with
    | .name "else" :: ts => readBlock fuel ts
    | ts => some ([], ts)

def readHandlers : Nat → List Token → Option (List Handler × List Token)
  | 0, _ => none
  | fuel + 1, ts =>
    match ts with
    | .name "except" :: ts => do
      let ts := match ts with
        | .op "*" :: ts => ts
        | ts => ts
      let (kind, ts) ← match ts with
        | .op ":" :: _ => some (none, ts)
        | ts => (readExprs fuel ts).map fun (e, ts) => (some e, ts)
      let (name, ts) := match ts with
        | .name "as" :: .name n :: ts => (some n, ts)
        | ts => (none, ts)
      let (body, ts) ← readBlock fuel ts
      let (rest, ts) ← readHandlers fuel ts
      some (.mk kind name body :: rest, ts)
    | ts => some ([], ts)

def readUsing : Nat → List Token → Option (Stmt × List Token)
  | 0, _ => none
  | fuel + 1, ts => do
    let (manager, ts) ← readExpr fuel ts
    let (target, ts) ← match ts with
      | .name "as" :: ts => (readBinary fuel 1 ts).map fun (e, ts) => (some e, ts)
      | ts => some (none, ts)
    match ts with
    | .op "," :: ts =>
      let (inner, ts) ← readUsing fuel ts
      some (.using manager target [inner], ts)
    | ts =>
      let (body, ts) ← readBlock fuel ts
      some (.using manager target body, ts)

end

def readTokens (ts : List Token) : Option (List Stmt) :=
  match readStmts (40 * ts.length + 400) ts with
  | some (ss, []) => some ss
  | _ => none

/-- The statements of a script, if it can be read. -/
def read (source : List Char) : Option (List Stmt) :=
  readTokens (tokens source)

/-- The statements of a script with the lines on which they stand. -/
def readNumbered (source : List Char) : Option (List Stmt) :=
  readTokens (numberedTokens source)

def readExpression (source : List Char) : Option Expr :=
  let ts := tokens source
  match readExprs (40 * ts.length + 400) ts with
  | some (e, [.newline]) => some e
  | some (e, []) => some e
  | _ => none

end Flowboard.Script
