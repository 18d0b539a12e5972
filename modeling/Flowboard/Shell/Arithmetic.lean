import Flowboard.Double.Basic
import Flowboard.Text.Integer

/-! Integer expressions of shell scripts, with 64 bits. -/
namespace Flowboard.Shell

/-- What can be assigned to: a variable, or an element of one. -/
structure Cell where
  name : String
  index : Option String := none
  deriving DecidableEq, Repr

/-- An expression. The index of an element stands as it is written. -/
inductive Expr where
  | integer (n : Int)
  | cell (name : String) (index : Option String)
  | unary (op : String) (a : Expr)
  | binary (op : String) (a b : Expr)
  | choice (condition yes no : Expr)
  /-- an assignment; the operator in front of `=` is applied to the old value -/
  | assign (op : String) (name : String) (index : Option String) (value : Expr)
  /-- adds to a variable, and has its old or its new value -/
  | bump (name : String) (index : Option String) (amount : Int) (old : Bool)
  deriving Repr

/-- What is wrong with an expression. -/
inductive ExprFault where
  | malformed
  | divisionByZero
  | illegalNumber (s : String)
  deriving DecidableEq, Repr

def ExprFault.message : ExprFault → String
  | malformed => "arithmetic expression: expecting primary"
  | divisionByZero => "division by zero"
  | illegalNumber s => "Illegal number: " ++ s

def isExprBlank (c : Char) : Bool :=
  c == ' ' || c == '\t' || c == '\n'

def operatorAt? (extended : Bool) : List Char → Option (String × List Char)
  | '<' :: '<' :: '=' :: s => some ("<<=", s)
  | '>' :: '>' :: '=' :: s => some (">>=", s)
  | '<' :: '<' :: s => some ("<<", s)
  | '>' :: '>' :: s => some (">>", s)
  | '<' :: '=' :: s => some ("<=", s)
  | '>' :: '=' :: s => some (">=", s)
  | '<' :: s => some ("<", s)
  | '>' :: s => some (">", s)
  | '=' :: '=' :: s => some ("==", s)
  | '!' :: '=' :: s => some ("!=", s)
  | '=' :: s => some ("=", s)
  | '!' :: s => some ("!", s)
  | '|' :: '|' :: s => some ("||", s)
  | '&' :: '&' :: s => some ("&&", s)
  | '|' :: '=' :: s => some ("|=", s)
  | '&' :: '=' :: s => some ("&=", s)
  | '^' :: '=' :: s => some ("^=", s)
  | '|' :: s => some ("|", s)
  | '&' :: s => some ("&", s)
  | '^' :: s => some ("^", s)
  | '+' :: '=' :: s => some ("+=", s)
  | '-' :: '=' :: s => some ("-=", s)
  | '*' :: '=' :: s => some ("*=", s)
  | '/' :: '=' :: s => some ("/=", s)
  | '%' :: '=' :: s => some ("%=", s)
  | '*' :: '*' :: s => if extended then some ("**", s) else some ("*", '*' :: s)
  | '+' :: '+' :: s => if extended then some ("++", s) else some ("+", '+' :: s)
  | '-' :: '-' :: s => if extended then some ("--", s) else some ("-", '-' :: s)
  | '+' :: s => some ("+", s)
  | '-' :: s => some ("-", s)
  | '*' :: s => some ("*", s)
  | '/' :: s => some ("/", s)
  | '%' :: s => some ("%", s)
  | '~' :: s => some ("~", s)
  | '?' :: s => some ("?", s)
  | ':' :: s => some (":", s)
  | '(' :: s => some ("(", s)
  | ')' :: s => some (")", s)
  | ',' :: s => if extended then some (",", s) else none
  | _ => none

/-- The operator at the start of a text after blanks, and what follows it. -/
def exprOperator? (extended : Bool) (s : List Char) : Option (String × List Char) :=
  operatorAt? extended (s.dropWhile isExprBlank)

/-- How tightly an operator between two operands binds. -/
def binding? (op : String) : Option Nat :=
  match op with
  | "||" => some 1
  | "&&" => some 2
  | "|" => some 3
  | "^" => some 4
  | "&" => some 5
  | "==" | "!=" => some 6
  | "<" | "<=" | ">" | ">=" => some 7
  | "<<" | ">>" => some 8
  | "+" | "-" => some 9
  | "*" | "/" | "%" => some 10
  | _ => none

def assignOperators : List String :=
  ["=", "*=", "/=", "%=", "+=", "-=", "<<=", ">>=", "&=", "^=", "|="]

/-- The value of a numeral, whose start tells its base. -/
def numeral? (extended : Bool) (s : List Char) : Option Int :=
  let value := match s with
    | '0' :: 'x' :: ds => Text.naturalIn? 16 ds
    | '0' :: 'X' :: ds => Text.naturalIn? 16 ds
    | '0' :: d :: ds => Text.naturalIn? 8 (d :: ds)
    | ds =>
      match extended, ds.dropWhile (· != '#') with
      | true, '#' :: digits =>
        (Text.natural? (ds.takeWhile (· != '#'))).bind fun base => Text.naturalIn? base digits
      | _, _ => Text.natural? ds
  value.map fun (n : Nat) => Int.ofNat (if extended then n else min n (twoTo 63 - 1))

mutual

/-- Expressions with commas between them, of which the last one counts. -/
def readComma (extended : Bool) : Nat → List Char → Option (Expr × List Char)
  | 0, _ => none
  | fuel + 1, s =>
    match readAssign extended fuel s with
    | some (a, s) =>
      match exprOperator? extended s with
      | some (",", s) => (readComma extended fuel s).map fun (b, s) => (.binary "," a b, s)
      | _ => some (a, s)
    | none => none

def readAssign (extended : Bool) : Nat → List Char → Option (Expr × List Char)
  | 0, _ => none
  | fuel + 1, s =>
    match readTernary extended fuel s with
    | some (.cell name index, s) =>
      match exprOperator? extended s with
      | some (op, rest) =>
        if assignOperators.contains op then
          (readAssign extended fuel rest).map fun (b, s) =>
            (.assign (.ofList op.toList.dropLast) name index b, s)
        else some (.cell name index, s)
      | none => some (.cell name index, s)
    | r => r

def readTernary (extended : Bool) : Nat → List Char → Option (Expr × List Char)
  | 0, _ => none
  | fuel + 1, s =>
    match readBinary extended fuel 1 s with
    | some (c, s) =>
      match exprOperator? extended s with
      | some ("?", s) =>
        match readAssign extended fuel s with
        | some (yes, s) =>
          match exprOperator? extended s with
          | some (":", s) =>
            (readTernary extended fuel s).map fun (no, s) => (.choice c yes no, s)
          | _ => none
        | none => none
      | _ => some (c, s)
    | none => none

/-- Operands with operators between them that bind at least as tightly as `least`. -/
def readBinary (extended : Bool) : Nat → Nat → List Char → Option (Expr × List Char)
  | 0, _, _ => none
  | fuel + 1, least, s =>
    match readPower extended fuel s with
    | some (a, s) => readMore extended fuel least a s
    | none => none

def readMore (extended : Bool) : Nat → Nat → Expr → List Char → Option (Expr × List Char)
  | 0, _, _, _ => none
  | fuel + 1, least, a, s =>
    match exprOperator? extended s with
    | some (op, rest) =>
      match binding? op with
      | some level =>
        if least ≤ level then
          match readBinary extended fuel (level + 1) rest with
          | some (b, s) => readMore extended fuel least (.binary op a b) s
          | none => none
        else some (a, s)
      | none => some (a, s)
    | none => some (a, s)

def readPower (extended : Bool) : Nat → List Char → Option (Expr × List Char)
  | 0, _ => none
  | fuel + 1, s =>
    match readUnary extended fuel s with
    | some (a, s) =>
      match exprOperator? extended s with
      | some ("**", s) => (readPower extended fuel s).map fun (b, s) => (.binary "**" a b, s)
      | _ => some (a, s)
    | none => none

def readUnary (extended : Bool) : Nat → List Char → Option (Expr × List Char)
  | 0, _ => none
  | fuel + 1, s =>
    match exprOperator? extended s with
    | some ("++", s) =>
      match readUnary extended fuel s with
      | some (.cell name index, s) => some (.bump name index 1 false, s)
      | _ => none
    | some ("--", s) =>
      match readUnary extended fuel s with
      | some (.cell name index, s) => some (.bump name index (-1) false, s)
      | _ => none
    | some ("(", s) =>
      match readComma extended fuel s with
      | some (a, s) =>
        match exprOperator? extended s with
        | some (")", s) => some (a, s)
        | _ => none
      | none => none
    | some (op, s) =>
      if ["+", "-", "!", "~"].contains op then
        (readUnary extended fuel s).map fun (a, s) => (.unary op a, s)
      else none
    | none => readOperand extended fuel (s.dropWhile isExprBlank)

def readOperand (extended : Bool) : Nat → List Char → Option (Expr × List Char)
  | 0, _ => none
  | _ + 1, s =>
    let isPart (c : Char) : Bool := c.isAlphanum || c == '_'
    match s with
    | [] => none
    | c :: _ =>
      if c.isDigit then
        let digits := s.takeWhile fun c => isPart c || (extended && (c == '#' || c == '@'))
        (numeral? extended digits).map fun n => (.integer n, s.drop digits.length)
      else if isPart c then
        let name := s.takeWhile isPart
        let rest := s.drop name.length
        let indexed : Option (Option String × List Char) :=
          some (none, rest)
        match indexed with
        | none => none
        | some (index, rest) =>
          match exprOperator? extended rest with
          | some ("++", s) => some (.bump (.ofList name) index 1 true, s)
          | _ => some (.cell (.ofList name) index, rest)
      else none

end

/-- The expression that a text is; nothing but blanks is zero. -/
def Expr.ofText? (extended : Bool) (s : List Char) : Option Expr :=
  if s.all isExprBlank then some (.integer 0)
  else
    match readComma extended (32 * s.length + 64) s with
    | some (e, rest) => if rest.all isExprBlank then some e else none
    | none => none

/-- The integer of 64 bits with the same lowest bits. -/
def wrap (n : Int) : Int :=
  Int.bmod n (twoTo 64)

def truth (b : Bool) : Int :=
  if b then 1 else 0

def bitwise (f : BitVec 64 → BitVec 64 → BitVec 64) (a b : Int) : Int :=
  (f (BitVec.ofInt 64 a) (BitVec.ofInt 64 b)).toInt

def powerOf (a : Int) (n : Nat) : Int :=
  Nat.repeat (fun p => wrap (a * p)) n 1

/-- Applies an operator to two values. Division goes toward zero. -/
def applyBinary (op : String) (a b : Int) : Except ExprFault Int :=
  match op with
  | "+" => .ok (wrap (a + b))
  | "-" => .ok (wrap (a - b))
  | "*" => .ok (wrap (a * b))
  | "/" => if b = 0 then .error .divisionByZero else .ok (wrap (a.tdiv b))
  | "%" => if b = 0 then .error .divisionByZero else .ok (wrap (a.tmod b))
  | "**" => if b < 0 then .error .malformed else .ok (powerOf a (min b.toNat 4096))
  | "<<" => .ok (wrap (a * (twoTo (b % 64).toNat : Nat)))
  | ">>" => .ok (a / (twoTo (b % 64).toNat : Nat))
  | "&" => .ok (bitwise (· &&& ·) a b)
  | "|" => .ok (bitwise (· ||| ·) a b)
  | "^" => .ok (bitwise (· ^^^ ·) a b)
  | "==" => .ok (truth (a == b))
  | "!=" => .ok (truth (a != b))
  | "<" => .ok (truth (a < b))
  | "<=" => .ok (truth (a ≤ b))
  | ">" => .ok (truth (b < a))
  | ">=" => .ok (truth (b ≤ a))
  | "," => .ok b
  | _ => .error .malformed

/-- How expressions see variables. -/
structure Scope (σ : Type) where
  extended : Bool
  /-- the elements of a variable have keys that are texts -/
  keyed : σ → String → Bool
  get : σ → Cell → String
  set : σ → Cell → String → σ

/-- The value of an expression, and the variables after it. -/
def Expr.value {σ : Type} (scope : Scope σ) : Nat → Expr → σ → Except ExprFault (Int × σ)
  | 0, _, _ => .error .malformed
  | fuel + 1, e, s =>
    let place (name : String) (index : Option String) (s : σ) : Except ExprFault (Cell × σ) :=
      match index with
      | none => .ok ({ name }, s)
      | some i =>
        if scope.keyed s name then .ok ({ name, index := some i }, s)
        else
          match Expr.ofText? scope.extended i.toList with
          | some e => do
            let (n, s) ← e.value scope fuel s
            .ok ({ name, index := some (Text.integerText n) }, s)
          | none => .error .malformed
    let held (cell : Cell) (s : σ) : Except ExprFault (Int × σ) :=
      let text := ((scope.get s cell).toList.dropWhile isExprBlank).reverse.dropWhile isExprBlank
        |>.reverse
      let (negative, digits) := match text with
        | '-' :: ds => (true, ds)
        | '+' :: ds => (false, ds)
        | ds => (false, ds)
      if text.isEmpty then .ok (0, s)
      else
        match numeral? scope.extended digits with
        | some n => .ok (wrap (if negative then -n else n), s)
        | none =>
          if scope.extended then
            match Expr.ofText? true text with
            | some e => e.value scope fuel s
            | none => .error .malformed
          else .error (.illegalNumber (.ofList text))
    match e with
    | .integer n => .ok (wrap n, s)
    | .cell name index => do
      let (spot, s) ← place name index s
      held spot s
    | .unary op a => do
      let (a, s) ← a.value scope fuel s
      match op with
      | "-" => .ok (wrap (-a), s)
      | "!" => .ok (truth (a == 0), s)
      | "~" => .ok (-a - 1, s)
      | _ => .ok (a, s)
    | .binary "&&" a b => do
      let (x, s) ← a.value scope fuel s
      if x = 0 then .ok (0, s)
      else
        let (y, s) ← b.value scope fuel s
        .ok (truth (y != 0), s)
    | .binary "||" a b => do
      let (x, s) ← a.value scope fuel s
      if x ≠ 0 then .ok (1, s)
      else
        let (y, s) ← b.value scope fuel s
        .ok (truth (y != 0), s)
    | .binary op a b => do
      let (x, s) ← a.value scope fuel s
      let (y, s) ← b.value scope fuel s
      let z ← applyBinary op x y
      .ok (z, s)
    | .choice c yes no => do
      let (x, s) ← c.value scope fuel s
      if x ≠ 0 then yes.value scope fuel s else no.value scope fuel s
    | .assign op name index value => do
      let (spot, s) ← place name index s
      let (y, s) ← value.value scope fuel s
      let z ← if op = "" then .ok y
        else do
          let (x, _) ← held spot s
          applyBinary op x y
      .ok (z, scope.set s spot (Text.integerText z))
    | .bump name index amount old => do
      let (spot, s) ← place name index s
      let (x, s) ← held spot s
      let y := wrap (x + amount)
      .ok (if old then x else y, scope.set s spot (Text.integerText y))

def evaluate {σ : Type} (scope : Scope σ) (source : List Char) (s : σ) :
    Except ExprFault (Int × σ) :=
  match Expr.ofText? scope.extended source with
  | some e => e.value scope (source.length + 64) s
  | none => .error .malformed

end Flowboard.Shell
