import Flowboard.Order.Graph
import Flowboard.Order.Strategy
import Flowboard.Workflow.Basic
import Flowboard.Workflow.Node

/-! The order of nodes on the canvas, from top to bottom, then from left to right, and the order
along their connections. -/
namespace Flowboard

/-- Whether a place comes before another one or has the same coordinates. -/
def Position.le (a b : Position) : Bool :=
  a.y.rank < b.y.rank || (a.y.rank == b.y.rank && a.x.rank ≤ b.x.rank)

/-- Nodes by their places; nodes in the same place keep their order. -/
def spatialOrder (nodes : List Node) : List Node :=
  nodes.mergeSort fun a b => a.position.le b.position

/-- Why the nodes of a workflow have no order. -/
inductive OrderError where
  | unknownNode (connection node : String)
  | cycle
  deriving DecidableEq, Repr

namespace Order

/-- The place of the first node with an id in a list of nodes. -/
def place? (ranked : List Node) (id : String) : Option Nat :=
  ranked.findIdx? (·.id == id)

/-- The places of a connection's ends; of two unknown ends the source is reported. -/
def edge (ranked : List Node) (c : Connection) : Except OrderError Edge :=
  match place? ranked c.sourceNode, place? ranked c.targetNode with
  | none, _ => .error (.unknownNode c.id c.sourceNode)
  | some _, none => .error (.unknownNode c.id c.targetNode)
  | some source, some target => .ok ⟨source, target⟩

/-- The edges of all connections, unless one has an unknown end. -/
def edges (ranked : List Node) : List Connection → Except OrderError (List Edge)
  | [] => .ok []
  | c :: rest =>
    match edge ranked c with
    | .error e => .error e
    | .ok e =>
      match edges ranked rest with
      | .error e => .error e
      | .ok es => .ok (e :: es)

end Order

/-- Nodes along their connections, and where these leave a choice, as they stand on the canvas. That
there is a cycle shows when no node is ready any more; the check for cycles that `checkedOrder` makes
before any node is taken never changes the outcome. -/
def dependencyOrder (nodes : List Node) (connections : List Connection) :
    Except OrderError (List Node) :=
  let ranked := spatialOrder nodes
  match Order.edges ranked connections with
  | .error e => .error e
  | .ok edges =>
    match Graph.linearize? ⟨ranked.length, edges⟩ with
    | none => .error .cycle
    | some order => .ok (order.filterMap (ranked[·]?))

/-- The order of nodes along their connections, if cycles are looked for before nodes are taken. -/
def checkedOrder (cyclic : Graph → Bool) (nodes : List Node) (connections : List Connection) :
    Except OrderError (List Node) :=
  match Order.edges (spatialOrder nodes) connections with
  | .error e => .error e
  | .ok es =>
    if cyclic ⟨nodes.length, es⟩ then .error .cycle
    else (Graph.linearize? ⟨nodes.length, es⟩).elim (.error .cycle)
      fun order => .ok (order.filterMap ((spatialOrder nodes)[·]?))

namespace Workflow

/-- The nodes of a workflow in the order of a strategy. -/
def ordered (w : Workflow) : Strategy → Except OrderError (List Node)
  | .spatial => .ok (spatialOrder w.nodes)
  | .dependency => dependencyOrder w.nodes w.connections

end Workflow

end Flowboard
