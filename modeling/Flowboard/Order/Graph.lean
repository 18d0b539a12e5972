/-! Linear orders of the vertices of a graph that go along its edges. -/
namespace Flowboard

/-- An edge between vertices, which are numbers. -/
structure Edge where
  source : Nat
  target : Nat
  deriving DecidableEq, Repr

/-- A graph with the vertices below `size`. Edges may be parallel and may be loops. -/
structure Graph where
  size : Nat
  edges : List Edge
  deriving Repr

namespace Graph

/-- The number of edges into a vertex. -/
def inDegree (g : Graph) (v : Nat) : Nat :=
  g.edges.countP (·.target == v)

/-- The ends of the edges out of a vertex, one for each edge. -/
def successors (g : Graph) (v : Nat) : List Nat :=
  (g.edges.filter (·.source == v)).map (·.target)

/-- How far an order has come: for each vertex the number of edges into it from vertices that have
not been taken, and the vertices that can be taken, the least one first. -/
structure Queue where
  degrees : List Nat
  ready : List Nat
  deriving DecidableEq, Repr

/-- Puts a number into its place in an increasing list. -/
def enqueue (v : Nat) : List Nat → List Nat
  | [] => [v]
  | w :: rest => if v ≤ w then v :: w :: rest else w :: enqueue v rest

/-- All vertices wait for the edges into them; those without such edges are ready. -/
def start (g : Graph) : Queue where
  degrees := (List.range g.size).map g.inDegree
  ready := (List.range g.size).filter fun v => g.inDegree v == 0

/-- One edge less into a vertex, which becomes ready after the last one. -/
def Queue.release (q : Queue) (v : Nat) : Queue :=
  let d := (q.degrees[v]?).getD 0 - 1
  ⟨q.degrees.set v d, if d = 0 then enqueue v q.ready else q.ready⟩

/-- The queue after its first vertex has been taken, and that vertex. -/
def next? (g : Graph) (q : Queue) : Option (Nat × Queue) :=
  match q.ready with
  | [] => none
  | v :: rest => some (v, (g.successors v).foldl Queue.release { q with ready := rest })

/-- Takes vertices as long as one is ready, at most `fuel` of them. -/
def take (g : Graph) : Nat → Queue → List Nat
  | 0, _ => []
  | fuel + 1, q =>
    match g.next? q with
    | none => []
    | some (v, q) => v :: g.take fuel q

/-- Vertices in an order along the edges, of the ready ones always the least. Only on graphs with a
cycle some are left out, and then there is no order. -/
def linearize? (g : Graph) : Option (List Nat) :=
  let order := g.take g.size g.start
  if order.length = g.size then some order else none

end Graph

end Flowboard
