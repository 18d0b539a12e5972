import Flowboard.Order.Dependency
import Flowboard.Text.Quoted

/-! Workflows as programs of assignments and print calls. -/
namespace Flowboard

/-- A line of a program. -/
inductive Statement where
  | assign (name value : String)
  | printName (name : String)
  | printText (text : String)
  deriving DecidableEq, Repr

/-- The line of a statement. -/
def Statement.text : Statement → List Char
  | assign name value => name.toList ++ " = ".toList ++ Text.quote value
  | printName name => "print(".toList ++ name.toList ++ [')']
  | printText text => "print(".toList ++ Text.quote text ++ [')']

/-- A program: its statements, the ids of the nodes in the order they were visited, and the values
that the variables have in the end. -/
structure Program where
  statements : List Statement
  order : List String
  bindings : Table String
  deriving DecidableEq, Repr

/-- The comment on the first line of each program. -/
def Program.header : String :=
  "# Generated Python Code\n"

/-- The text of a program, a line for each statement. -/
def Program.source (p : Program) : String :=
  String.ofList (header.toList ++ p.statements.flatMap fun s => s.text ++ ['\n'])

/-- The names that mean something else than a variable. -/
def reservedNames : List String :=
  ["False", "None", "True", "and", "as", "assert", "async", "await", "break", "class",
   "continue", "def", "del", "elif", "else", "except", "finally", "for", "from", "global",
   "if", "import", "in", "is", "lambda", "nonlocal", "not", "or", "pass", "raise", "return",
   "try", "while", "with", "yield", "print"]

/-- Letters, digits and underscores, and no digit at the start. -/
def hasNameShape : List Char → Bool
  | [] => false
  | c :: rest => (c == '_' || c.isAlpha) && rest.all fun c => c == '_' || c.isAlphanum

/-- Whether a text can name a variable. -/
def isIdentifier (name : String) : Bool :=
  hasNameShape name.toList && !reservedNames.contains name

/-- Why a workflow has no program. -/
inductive CompileError where
  | order (e : OrderError)
  | invalidIdentifier (node name : String)
  deriving DecidableEq, Repr

def CompileError.message : CompileError → String
  | .order .cycle => "Workflow connections contain a cycle"
  | .order (.unknownNode connection node) =>
    "Connection '" ++ connection ++ "' references unknown node '" ++ node ++ "'"
  | .invalidIdentifier node name =>
    "Node '" ++ node ++ "' uses '" ++ name ++
      "' as a variable name, which is not a valid identifier"

namespace Program

/-- The statement of a node, if it has one, where some variables are bound, and the variables that
are bound after it. -/
def emit (bindings : Table String) (n : Node) :
    Except CompileError (Option Statement × Table String) :=
  match n.kind with
  | .assign name value =>
    if isIdentifier name then .ok (some (.assign name value), bindings.insert name value)
    else .error (.invalidIdentifier n.id name)
  | .print message =>
    .ok (some (if bindings.contains message then .printName message else .printText message),
      bindings)
  | .other _ _ => .ok (none, bindings)

/-- The statements of nodes one after the other, and the variables that are bound in the end. -/
def emitAll (bindings : Table String) : List Node →
    Except CompileError (List Statement × Table String)
  | [] => .ok ([], bindings)
  | n :: rest =>
    match emit bindings n with
    | .error e => .error e
    | .ok (statement, bindings) =>
      match emitAll bindings rest with
      | .error e => .error e
      | .ok (statements, bindings) => .ok (statement.toList ++ statements, bindings)

/-- The program of nodes in order. -/
def ofNodes (nodes : List Node) : Except CompileError Program :=
  match emitAll [] nodes with
  | .error e => .error e
  | .ok (statements, bindings) => .ok ⟨statements, nodes.map (·.id), bindings⟩

end Program

/-- The program of a workflow. -/
def Workflow.compile (w : Workflow) (strategy : Strategy) : Except CompileError Program :=
  match w.ordered strategy with
  | .error e => .error (.order e)
  | .ok nodes => Program.ofNodes nodes

/-- The text, the order and the variables of a program. -/
def Program.json (p : Program) : Json :=
  .object
    [("code", .string p.source), ("order", .array (p.order.map .string)),
     ("bindings", .object (p.bindings.map fun (name, value) => (name, .string value)))]

end Flowboard
