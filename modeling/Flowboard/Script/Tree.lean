/-! Expressions and statements of scripts. -/
namespace Flowboard.Script

inductive Constant where
  | none
  | ellipsis
  | bool (b : Bool)
  | int (n : Int)
  | float (x : Float)
  | imaginary (x : Float)
  | str (s : String)
  | bytes (b : List UInt8)

/-- What a comprehension makes. -/
inductive Gathering where
  | list
  | set
  | dict
  | generator
  deriving DecidableEq, Repr

/-- How a parameter takes arguments. -/
inductive Taking where
  | one
  /-- an argument that must not have its name -/
  | placed
  /-- all arguments without a name that are left -/
  | rest
  /-- an argument that needs its name -/
  | named
  /-- all arguments with a name that are left -/
  | namedRest
  deriving DecidableEq, Repr

mutual

inductive Expr where
  | constant (c : Constant)
  | name (s : String)
  /-- texts one after the other -/
  | joined (parts : List Expr)
  /-- a value as text, after a conversion and a format -/
  | formatted (e : Expr) (conversion : Option Char) (spec : Option Expr)
  | tuple (es : List Expr)
  | list (es : List Expr)
  | set (es : List Expr)
  /-- pairs; a mapping to take over has no key -/
  | dict (pairs : List (Option Expr × Expr))
  | unary (op : String) (e : Expr)
  | binary (op : String) (a b : Expr)
  | compare (a : Expr) (rest : List (String × Expr))
  | both (a b : Expr)
  | either (a b : Expr)
  | choice (condition yes no : Expr)
  | lambda (params : List Param) (body : Expr)
  | call (f : Expr) (args : List Argument)
  | attribute (e : Expr) (name : String)
  | index (e i : Expr)
  | slice (first last step : Option Expr)
  | comprehension (kind : Gathering) (element : Expr) (value : Option Expr) (clauses : List Clause)
  | starred (e : Expr)
  | yield (e : Option Expr)
  | yieldFrom (e : Expr)
  | await (e : Expr)
  | assign (name : String) (e : Expr)

inductive Argument where
  | one (e : Expr)
  | spread (e : Expr)
  | named (name : String) (e : Expr)
  | namedSpread (e : Expr)

inductive Clause where
  | each (target iterable : Expr) (waits : Bool)
  | test (condition : Expr)

inductive Param where
  | mk (name : String) (default_ : Option Expr) (taking : Taking) (note : Option Expr)

end

def Param.name : Param → String
  | .mk name _ _ _ => name

def Param.default? : Param → Option Expr
  | .mk _ d _ _ => d

def Param.taking : Param → Taking
  | .mk _ _ t _ => t

def Param.note? : Param → Option Expr
  | .mk _ _ _ n => n

/-- Whether a parameter takes an argument by its place. -/
def Taking.byPlace : Taking → Bool
  | .one => true
  | .placed => true
  | _ => false

/-- What a value may look like. -/
inductive Pattern where
  | anything
  | capture (name : String)
  /-- a value equal to another one -/
  | equal (e : Expr)
  /-- one of the constants that are only there once -/
  | same (c : Constant)
  | sequence (ps : List Pattern)
  /-- what the other patterns of a sequence leave -/
  | rest (name : Option String)
  | mapping (pairs : List (Expr × Pattern)) (rest : Option String)
  | object (type : Expr) (args : List Pattern) (named : List (String × Pattern))
  | either (ps : List Pattern)
  | named (p : Pattern) (name : String)

mutual

inductive Stmt where
  /-- what follows stands from a line of the script on -/
  | mark (line : Nat)
  | expr (e : Expr)
  | assign (targets : List Expr) (value : Expr)
  | augment (target : Expr) (op : String) (value : Expr)
  | annotate (target type : Expr) (value : Option Expr)
  | choice (condition : Expr) (yes no : List Stmt)
  | loop (condition : Expr) (body otherwise : List Stmt)
  | each (target iterable : Expr) (body otherwise : List Stmt)
  /-- a function; `notes` are the types of its parameters, and `awaits` says that a call of it can be
  waited for -/
  | define (name : String) (params : List Param) (body : List Stmt) (decorators : List Expr)
      (notes : List (String × Expr)) (awaits : Bool)
  | describe (name : String) (bases : List Argument) (body : List Stmt) (decorators : List Expr)
  | give (e : Option Expr)
  | leave
  | again
  | pass
  /-- modules with the names they get -/
  | bring (modules : List (String × String))
  /-- names of a module with the names they get -/
  | bringFrom (module : String) (names : List (String × String))
  | raise (e cause : Option Expr)
  | attempt (body : List Stmt) (handlers : List Handler) (otherwise final : List Stmt)
  | using (manager : Expr) (target : Option Expr) (body : List Stmt)
  | outer (isGlobal : Bool) (names : List String)
  | assert (e : Expr) (message : Option Expr)
  | delete (targets : List Expr)
  /-- the first case whose pattern fits -/
  | select (subject : Expr) (cases : List Case)

inductive Handler where
  | mk (kind : Option Expr) (name : Option String) (body : List Stmt)

inductive Case where
  | mk (pattern : Pattern) (guard : Option Expr) (body : List Stmt)

end

end Flowboard.Script
