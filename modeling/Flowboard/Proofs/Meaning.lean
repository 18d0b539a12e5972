import Flowboard.Proofs.Dependency
import Flowboard.Proofs.Reading

/-! What programs mean: what they print, and which values their variables have in the end. -/
namespace Flowboard

open Script

/-- The value that a node gives to a variable, if it gives it one. -/
def Node.gives? (n : Node) (name : String) : Option String :=
  match n.kind with
  | .assign x value => if x = name then some value else none
  | _ => none

/-- The value that the last of some nodes gives to a variable, if one of them does. -/
def lastValue (nodes : List Node) (name : String) : Option String :=
  nodes.reverse.findSome? (·.gives? name)

/-- What a print node prints after some nodes: the value of the variable that its message names, or
the message itself if there is none. -/
def Node.prints? (before : List Node) (n : Node) : Option String :=
  match n.kind with
  | .print message => some ((lastValue before message).getD message)
  | _ => none

/-- Nodes that give a variable a value or print. -/
def Node.acts (n : Node) : Bool :=
  match n.kind with
  | .other _ _ => false
  | _ => true

/-- A statement does what a node is for. -/
def Node.Intends (n : Node) : Statement → Prop
  | .assign name value => n.kind = .assign name value
  | .printName message => n.kind = .print message
  | .printText message => n.kind = .print message

/-- The statements of nodes from the variables before them to those after them. -/
inductive Emits : Table String → List Node → List Statement → Table String → Prop
  | nil {bindings} : Emits bindings [] [] bindings
  | assign {bindings n rest name value statements last} (kind : n.kind = .assign name value)
      (valid : isIdentifier name)
      (more : Emits (bindings.insert name value) rest statements last) :
      Emits bindings (n :: rest) (.assign name value :: statements) last
  | printName {bindings n rest message statements last} (kind : n.kind = .print message)
      (bound : bindings.contains message) (more : Emits bindings rest statements last) :
      Emits bindings (n :: rest) (.printName message :: statements) last
  | printText {bindings n rest message statements last} (kind : n.kind = .print message)
      (free : bindings.contains message = false) (more : Emits bindings rest statements last) :
      Emits bindings (n :: rest) (.printText message :: statements) last
  | other {bindings n rest type properties statements last}
      (kind : n.kind = .other type properties) (more : Emits bindings rest statements last) :
      Emits bindings (n :: rest) statements last

variable {n : Node} {before nodes rest : List Node} {bindings last : Table String}
  {statement : Statement} {statements : List Statement} {name value message : String}
  {w : Workflow} {strategy : Strategy} {p : Program}

theorem emits_of_emitAll (h : Program.emitAll bindings nodes = .ok (statements, last)) :
    Emits bindings nodes statements last := by
  induction nodes generalizing bindings statements with
  | nil =>
    obtain ⟨rfl, rfl⟩ : [] = statements ∧ bindings = last := by simpa [Program.emitAll] using h
    exact .nil
  | cons n rest ih =>
    cases hn : Program.emit bindings n with
    | error e => simp [Program.emitAll, hn] at h
    | ok r =>
      obtain ⟨statement, after⟩ := r
      cases hrest : Program.emitAll after rest with
      | error e => simp [Program.emitAll, hn, hrest] at h
      | ok r =>
        obtain ⟨more, end_⟩ := r
        obtain ⟨rfl, rfl⟩ : statement.toList ++ more = statements ∧ end_ = last := by
          simpa [Program.emitAll, hn, hrest] using h
        have hmore := ih hrest
        cases hk : n.kind with
        | assign name value =>
          by_cases hname : isIdentifier name
          · obtain ⟨rfl, rfl⟩ : some (Statement.assign name value) = statement ∧
                bindings.insert name value = after := by simpa [Program.emit, hk, hname] using hn
            exact .assign hk hname hmore
          · simp [Program.emit, hk, hname] at hn
        | print message =>
          cases hb : bindings.contains message with
          | true =>
            obtain ⟨rfl, rfl⟩ : some (Statement.printName message) = statement ∧
                bindings = after := by simpa [Program.emit, hk, hb] using hn
            exact .printName hk hb hmore
          | false =>
            obtain ⟨rfl, rfl⟩ : some (Statement.printText message) = statement ∧
                bindings = after := by simpa [Program.emit, hk, hb] using hn
            exact .printText hk hb hmore
        | other type properties =>
          obtain ⟨rfl, rfl⟩ : none = statement ∧ bindings = after := by
            simpa [Program.emit, hk] using hn
          exact .other hk hmore

/-- The variables that are bound behind some nodes: each has the value that it was given last, and a
name that it may have. -/
structure Bound (bindings : Table String) (before : List Node) : Prop where
  value : ∀ name, bindings.get? name = lastValue before name
  named : ∀ name, bindings.contains name → isIdentifier name

theorem bound_nil : Bound [] [] :=
  ⟨fun _ => rfl, fun name h => by simp [Table.contains] at h⟩

theorem lastValue_concat (before : List Node) (n : Node) (name : String) :
    lastValue (before ++ [n]) name = (n.gives? name).or (lastValue before name) := by
  simp only [lastValue, List.reverse_append, List.reverse_singleton, List.singleton_append,
    List.findSome?_cons]
  cases n.gives? name <;> rfl

/-- A node that gives a value to a name binds it from there on. -/
theorem Bound.insert (h : Bound bindings before) (kind : n.kind = .assign name value)
    (valid : isIdentifier name) : Bound (bindings.insert name value) (before ++ [n]) where
  value other := by
    rw [lastValue_concat, ← h.value, Node.gives?, kind]
    by_cases hother : other = name
    · simp [hother, Table.get?_insert_self]
    · simp [Ne.symm hother, Table.get?_insert_of_ne _ _ hother]
  named other hother := by
    by_cases heq : other = name
    · exact heq ▸ valid
    · rw [Table.contains_eq_isSome, Table.get?_insert_of_ne _ _ heq,
        ← Table.contains_eq_isSome] at hother
      exact h.named other hother

theorem gives?_of_print (kind : n.kind = .print message) (name : String) :
    n.gives? name = none := by
  simp [Node.gives?, kind]

theorem gives?_of_other {type : String} {properties : Table Json}
    (kind : n.kind = .other type properties) (name : String) : n.gives? name = none := by
  simp [Node.gives?, kind]

theorem Bound.skip (h : Bound bindings before) (hn : ∀ name, n.gives? name = none) :
    Bound bindings (before ++ [n]) where
  value name := by rw [lastValue_concat, hn, Option.none_or, h.value]
  named := h.named

/-- Each node that acts has a statement, and in the order of the nodes. -/
theorem Emits.intended (h : Emits bindings nodes statements last) :
    List.Forall₂ Node.Intends (nodes.filter Node.acts) statements := by
  induction h with
  | nil => exact .nil
  | assign kind valid more ih => simpa [Node.acts, kind] using ⟨kind, ih⟩
  | printName kind bound more ih => simpa [Node.acts, kind] using ⟨kind, ih⟩
  | printText kind free more ih => simpa [Node.acts, kind] using ⟨kind, ih⟩
  | other kind more ih => simpa [Node.acts, kind] using ih

theorem Emits.assign_mem (h : Emits bindings nodes statements last) (hn : n ∈ nodes)
    (hk : n.kind = .assign name value) : .assign name value ∈ statements := by
  induction h with
  | nil => cases hn
  | assign kind valid more ih =>
    obtain rfl | hn := List.mem_cons.mp hn
    · obtain ⟨rfl, rfl⟩ := Kind.assign.inj (kind.symm.trans hk)
      exact List.mem_cons_self
    · exact List.mem_cons_of_mem _ (ih hn)
  | printName kind bound more ih =>
    obtain rfl | hn := List.mem_cons.mp hn
    · simp [kind] at hk
    · exact List.mem_cons_of_mem _ (ih hn)
  | printText kind free more ih =>
    obtain rfl | hn := List.mem_cons.mp hn
    · simp [kind] at hk
    · exact List.mem_cons_of_mem _ (ih hn)
  | other kind more ih =>
    obtain rfl | hn := List.mem_cons.mp hn
    · simp [kind] at hk
    · exact ih hn

/-- After some nodes each name is bound to the last value that they have given it. -/
theorem Emits.bound (h : Emits bindings nodes statements last) (hb : Bound bindings before) :
    Bound last (before ++ nodes) := by
  induction h generalizing before with
  | nil => simpa using hb
  | assign kind valid more ih => simpa using ih (hb.insert kind valid)
  | printName kind bound more ih => simpa using ih (hb.skip (gives?_of_print kind))
  | printText kind free more ih => simpa using ih (hb.skip (gives?_of_print kind))
  | other kind more ih => simpa using ih (hb.skip (gives?_of_other kind))

/-- A name that is printed has been bound by a node, so that it is a proper one. -/
theorem Emits.named (h : Emits bindings nodes statements last) (hb : Bound bindings before) :
    ∀ statement ∈ statements, Named statement := by
  induction h generalizing before with
  | nil => simp
  | assign kind valid more ih =>
    exact List.forall_mem_cons.mpr ⟨valid, ih (hb.insert kind valid)⟩
  | printName kind bound more ih =>
    exact List.forall_mem_cons.mpr ⟨hb.named _ bound, ih hb⟩
  | printText kind free more ih => exact List.forall_mem_cons.mpr ⟨trivial, ih hb⟩
  | other kind more ih => exact ih hb

/-- To run the statements prints what the nodes print, and leaves the bindings that are emitted. -/
theorem Emits.execute (h : Emits bindings nodes statements last) (hb : Bound bindings before) :
    Straight.execute bindings statements =
      some ((nodes.zipIdx before.length).filterMap fun (n, i) =>
        n.prints? ((before ++ nodes).take i), last) := by
  induction h generalizing before with
  | nil => simp [Straight.execute]
  | assign kind valid more ih =>
    have hmore := ih (hb.insert kind valid)
    simpa [Straight.execute, Node.prints?, kind] using hmore
  | printName kind bound more ih =>
    have hmore := ih (hb.skip (gives?_of_print kind))
    rw [Table.contains_eq_isSome] at bound
    obtain ⟨value, hvalue⟩ := Option.isSome_iff_exists.mp bound
    have hlast := hb.value _ ▸ hvalue
    simp only [List.append_assoc, List.singleton_append, List.length_append,
      List.length_singleton] at hmore
    simp [Straight.execute, hvalue, hmore, Node.prints?, kind, hlast]
  | printText kind free more ih =>
    have hmore := ih (hb.skip (gives?_of_print kind))
    rw [Table.contains_eq_isSome, Option.isSome_eq_false_iff, Option.isNone_iff_eq_none,
      hb.value] at free
    simp only [List.append_assoc, List.singleton_append, List.length_append,
      List.length_singleton] at hmore
    simp [Straight.execute, hmore, Node.prints?, kind, free]
  | other kind more ih =>
    have hmore := ih (hb.skip (gives?_of_other kind))
    simpa [Node.prints?, kind] using hmore

/-- A program comes from all nodes in the order that was asked for. -/
theorem compile_eq_ok (h : w.compile strategy = .ok p) :
    ∃ nodes, w.ordered strategy = .ok nodes ∧ p.order = nodes.map (·.id) ∧
      Emits [] nodes p.statements p.bindings := by
  cases hnodes : w.ordered strategy with
  | error e => simp [Workflow.compile, hnodes] at h
  | ok nodes =>
    cases hall : Program.emitAll [] nodes with
    | error e => simp [Workflow.compile, hnodes, Program.ofNodes, hall] at h
    | ok r =>
      obtain ⟨statements, bindings⟩ := r
      obtain rfl : ⟨statements, nodes.map (·.id), bindings⟩ = p := by
        simpa [Workflow.compile, hnodes, Program.ofNodes, hall] using h
      exact ⟨nodes, rfl, rfl, emits_of_emitAll hall⟩

/-- A name that is printed before it has a value and after each of two, the first of which tries to
end its literal and its line. Along the connection the first value comes before all prints. -/
def rebindingWorkflow : Workflow :=
  { Workflow.empty "w" "rebinding" ⟨⟨2024, 2, 29, by decide⟩, 3600, 0, by decide⟩ with
    nodes :=
      [⟨"1", .print "x", .origin, [], []⟩,
       ⟨"2", .assign "x" "\")\nprint(\"\\", .origin, [], []⟩,
       ⟨"3", .print "x", .origin, [], []⟩,
       ⟨"4", .other "note" [], .origin, [], []⟩,
       ⟨"5", .assign "x" "late", .origin, [], []⟩,
       ⟨"6", .print "x", .origin, [], []⟩]
    connections := [⟨"c", "2", "value", "1", "message"⟩] }

/-- What it compiles to from top to bottom. -/
def rebindingProgram : Program :=
  ⟨[.printText "x", .assign "x" "\")\nprint(\"\\", .printName "x", .assign "x" "late",
      .printName "x"],
    ["1", "2", "3", "4", "5", "6"], [("x", "late")]⟩

end Flowboard
