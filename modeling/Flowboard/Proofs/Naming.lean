import Flowboard.Proofs.Meaning
import Flowboard.Proofs.Reachability

/-! When a workflow has no program for want of a proper name, and what its programs along the two
orders of its nodes have in common. -/
namespace Flowboard

open Canvas

/-- A node gives a value to something that cannot be the name of a variable. -/
def Node.Misnames (n : Node) (name : String) : Prop :=
  ∃ value, n.kind = .assign name value ∧ isIdentifier name = false

/-- Of some nodes the first one that misnames a variable. -/
def FirstMisnamed (nodes : List Node) (n : Node) (name : String) : Prop :=
  ∃ before after, nodes = before ++ n :: after ∧ (∀ m ∈ before, ∀ x, ¬ m.Misnames x) ∧
    n.Misnames name

variable {m n : Node} {nodes rest order : List Node} {connections : List Connection}
  {name : String} {bindings : Table String} {w : Workflow} {strategy : Strategy} {e : CompileError}
  {p q : Program}

theorem firstMisnamed_cons : FirstMisnamed (n :: rest) m name ↔
    m = n ∧ n.Misnames name ∨ (∀ x, ¬ n.Misnames x) ∧ FirstMisnamed rest m name := by
  constructor
  · rintro ⟨before, after, hs, hbefore, hm⟩
    cases before with
    | nil =>
      obtain ⟨rfl, rfl⟩ := List.cons.inj hs
      exact Or.inl ⟨rfl, hm⟩
    | cons b before =>
      obtain ⟨rfl, rfl⟩ := List.cons.inj hs
      obtain ⟨hb, hbefore⟩ := List.forall_mem_cons.mp hbefore
      exact Or.inr ⟨hb, before, after, rfl, hbefore, hm⟩
  · rintro (⟨rfl, hm⟩ | ⟨hn, before, after, rfl, hbefore, hm⟩)
    · exact ⟨[], rest, rfl, by simp, hm⟩
    · exact ⟨n :: before, after, rfl, List.forall_mem_cons.mpr ⟨hn, hbefore⟩, hm⟩

theorem exists_firstMisnamed_iff : (∃ n name, FirstMisnamed nodes n name) ↔
    ∃ n ∈ nodes, ∃ name, n.Misnames name := by
  induction nodes with
  | nil => simp [FirstMisnamed]
  | cons n rest ih =>
    simp only [firstMisnamed_cons, List.exists_mem_cons_iff, ← ih]
    constructor
    · rintro ⟨m, name, ⟨rfl, hm⟩ | ⟨-, hrest⟩⟩
      · exact Or.inl ⟨name, hm⟩
      · exact Or.inr ⟨m, name, hrest⟩
    · intro h
      by_cases hn : ∃ name, n.Misnames name
      · obtain ⟨name, hname⟩ := hn
        exact ⟨n, name, Or.inl ⟨rfl, hname⟩⟩
      · obtain ⟨m, name, hrest⟩ := h.resolve_left hn
        exact ⟨m, name, Or.inr ⟨not_exists.mp hn, hrest⟩⟩

theorem emit_eq_error_iff : Program.emit bindings n = .error e ↔
    ∃ name, n.Misnames name ∧ e = .invalidIdentifier n.id name := by
  simp only [Program.emit, Node.Misnames]
  cases n.kind with
  | assign x value => cases hx : isIdentifier x <;> simp [hx, @eq_comm _ x, @eq_comm _ e]
  | print message => simp
  | other type properties => simp

/-- What has been bound before does not matter: only names make the statements of nodes fail. -/
theorem emitAll_eq_error_iff : Program.emitAll bindings nodes = .error e ↔
    ∃ n name, FirstMisnamed nodes n name ∧ e = .invalidIdentifier n.id name := by
  induction nodes generalizing bindings with
  | nil => simp [Program.emitAll, FirstMisnamed]
  | cons n rest ih =>
    simp only [firstMisnamed_cons]
    cases hn : Program.emit bindings n with
    | error e' =>
      obtain ⟨name, hname, rfl⟩ := emit_eq_error_iff.mp hn
      have hone : ∀ x, n.Misnames x → x = name := by
        rintro x ⟨value, hx, -⟩
        obtain ⟨value', hname, -⟩ := hname
        exact (Kind.assign.inj (hx.symm.trans hname)).1
      simp only [Program.emitAll, hn, Except.error.injEq]
      constructor
      · rintro rfl
        exact ⟨n, name, Or.inl ⟨rfl, hname⟩, rfl⟩
      · rintro ⟨m, x, ⟨rfl, hx⟩ | ⟨hproper, -⟩, rfl⟩
        · rw [hone x hx]
        · exact absurd hname (hproper name)
    | ok r =>
      obtain ⟨statement, after⟩ := r
      have hproper : ∀ x, ¬ n.Misnames x := fun x hx => by
        rw [emit_eq_error_iff.mpr ⟨x, hx, rfl⟩] at hn
        cases hn
      have hrest : Program.emitAll bindings (n :: rest) = .error e ↔
          Program.emitAll after rest = .error e := by
        simp only [Program.emitAll, hn]
        cases Program.emitAll after rest <;> simp
      simp [hrest, ih, hproper]

/-- Once there is an order, the first node that misnames a variable is complained about, and nothing
else. -/
theorem compile_eq_error_iff (h : w.ordered strategy = .ok nodes) :
    w.compile strategy = .error e ↔
      ∃ n name, FirstMisnamed nodes n name ∧ e = .invalidIdentifier n.id name := by
  have hall : Program.emitAll [] nodes = .error e ↔ _ := emitAll_eq_error_iff
  rw [← hall, Workflow.compile, h]
  simp only [Program.ofNodes]
  cases Program.emitAll [] nodes <;> simp

/-- Once there is an order, there is no program exactly if some node misnames a variable. -/
theorem fails_iff (h : w.ordered strategy = .ok nodes) :
    (∃ e, w.compile strategy = .error e) ↔ ∃ n ∈ w.nodes, ∃ name, n.Misnames name := by
  have hmem : (∃ n ∈ w.nodes, ∃ name, n.Misnames name) ↔ ∃ n ∈ nodes, ∃ name, n.Misnames name := by
    simp only [(ordered_perm h).mem_iff]
  rw [hmem, ← exists_firstMisnamed_iff]
  constructor
  · rintro ⟨e, he⟩
    obtain ⟨n, name, hfirst, -⟩ := (compile_eq_error_iff h).mp he
    exact ⟨n, name, hfirst⟩
  · rintro ⟨n, name, hfirst⟩
    exact ⟨_, (compile_eq_error_iff h).mpr ⟨n, name, hfirst, rfl⟩⟩

theorem lastValue_isSome_iff : (lastValue nodes name).isSome ↔
    ∃ n ∈ nodes, ∃ value, n.kind = .assign name value := by
  have hgives (n : Node) : (n.gives? name).isSome ↔ ∃ value, n.kind = .assign name value := by
    rw [Node.gives?]
    cases n.kind with
    | assign x value => by_cases hx : x = name <;> simp [hx]
    | print message => simp
    | other type properties => simp
  simp only [lastValue, List.findSome?_isSome_iff, List.mem_reverse, hgives]

/-- A program visits each node once, and binds what nodes give a value to. -/
theorem compile_ok_bound (h : w.compile strategy = .ok p) : ∃ nodes,
    w.ordered strategy = .ok nodes ∧ p.order.Perm (w.nodes.map (·.id)) ∧
      ∀ name, p.bindings.get? name = lastValue nodes name := by
  obtain ⟨nodes, hnodes, horder, hemits⟩ := compile_eq_ok h
  refine ⟨nodes, hnodes, ?_, fun name => by simpa using (hemits.bound bound_nil).value name⟩
  rw [horder]
  exact (ordered_perm hnodes).map _

/-- Whether a workflow has a program, and which names its variables have, depends on its nodes
alone; the order of the nodes decides which name is complained about, and which values the variables
have. Connections count only if they make the order fail. -/
structure Workflow.Outcomes (w : Workflow) : Prop where
  spatial : (∃ e, w.compile .spatial = .error e) ↔ ∃ n ∈ w.nodes, ∃ name, n.Misnames name
  unconnected : ∀ connections, { w with connections }.compile .spatial = w.compile .spatial
  disordered : ∀ e, w.ordered .dependency = .error e → w.compile .dependency = .error (.order e)
  dependency : ∀ nodes, w.ordered .dependency = .ok nodes →
    ((∃ e, w.compile .dependency = .error e) ↔ ∃ e, w.compile .spatial = .error e)
  first : ∀ strategy nodes e, w.ordered strategy = .ok nodes →
    (w.compile strategy = .error e ↔
      ∃ n name, FirstMisnamed nodes n name ∧ e = .invalidIdentifier n.id name)
  visited : ∀ strategy p, w.compile strategy = .ok p → p.order.Perm (w.nodes.map (·.id))
  permuted : ∀ p q, w.compile .spatial = .ok p → w.compile .dependency = .ok q →
    p.order.Perm q.order ∧ ∀ name, p.bindings.contains name = q.bindings.contains name
  bound : ∀ strategy p name, w.compile strategy = .ok p →
    (p.bindings.contains name = true ↔ ∃ n ∈ w.nodes, ∃ value, n.kind = .assign name value) ∧
    ∃ nodes, w.ordered strategy = .ok nodes ∧ p.bindings.get? name = lastValue nodes name

/-- The variables of a program are those that nodes give values to. -/
theorem contains_iff_assigned (h : w.compile strategy = .ok p) : p.bindings.contains name = true ↔
    ∃ n ∈ w.nodes, ∃ value, n.kind = .assign name value := by
  obtain ⟨nodes, hnodes, -, hbound⟩ := compile_ok_bound h
  rw [Table.contains_eq_isSome, hbound, lastValue_isSome_iff]
  simp only [(ordered_perm hnodes).mem_iff]

/-- The two strategies differ in what is complained about first and in the values of variables, not
in whether names are proper. -/
theorem compile_outcomes (w : Workflow) : w.Outcomes where
  spatial := fails_iff rfl
  unconnected _ := rfl
  disordered e h := by rw [Workflow.compile, h]
  dependency nodes h := by
    have hspatial : w.ordered .spatial = .ok (spatialOrder w.nodes) := rfl
    rw [fails_iff h, fails_iff hspatial]
  first strategy nodes e := compile_eq_error_iff
  visited strategy p h := by
    obtain ⟨nodes, -, hvisited, -⟩ := compile_ok_bound h
    exact hvisited
  permuted p q hp hq := by
    obtain ⟨_, -, hvisited, -⟩ := compile_ok_bound hp
    obtain ⟨_, -, hvisited', -⟩ := compile_ok_bound hq
    refine ⟨hvisited.trans hvisited'.symm, fun name => ?_⟩
    rw [Bool.eq_iff_iff, contains_iff_assigned hp, contains_iff_assigned hq]
  bound strategy p name h := by
    obtain ⟨nodes, hnodes, -, hbound⟩ := compile_ok_bound h
    exact ⟨contains_iff_assigned h, nodes, hnodes, hbound name⟩

/-- No node has a proper name, and the one highest on the canvas is the last one along the
connections. -/
def misnamed : Workflow :=
  { chained [lower, upper] with
    nodes := (chained []).nodes.map fun n => { n with kind := .assign (n.id ++ "!") "" } }

/-- The value of the variable depends on the order of the nodes, and so does the name that is
complained about. -/
theorem compile_outcomes_chained :
    (∃ p q, (chained [lower, upper]).compile .spatial = .ok p ∧
      (chained [lower, upper]).compile .dependency = .ok q ∧ p.order.Perm q.order ∧
      p.bindings = [("x", "soon")] ∧ q.bindings = [("x", "late")]) ∧
    misnamed.compile .spatial = .error (.invalidIdentifier "last" "last!") ∧
    misnamed.compile .dependency = .error (.invalidIdentifier "first" "first!") ∧
    ∃ n ∈ misnamed.nodes, ∃ name, n.Misnames name := by
  have hp : (chained [lower, upper]).compile .spatial =
      .ok ⟨[.printText "x", .assign "x" "late", .assign "x" "soon"], ["last", "middle", "first"],
        [("x", "soon")]⟩ := by cbv
  have hq : (chained [lower, upper]).compile .dependency =
      .ok ⟨[.assign "x" "soon", .assign "x" "late", .printName "x"], ["first", "middle", "last"],
        [("x", "late")]⟩ := by cbv
  have hordered : misnamed.ordered .dependency = .ok misnamed.nodes.reverse := by cbv
  have hspatial : misnamed.compile .spatial = .error (.invalidIdentifier "last" "last!") :=
    ((compile_outcomes misnamed).first _ _ _ rfl).mpr
      ⟨_, _, ⟨[], _, by cbv, by simp, _, rfl, by cbv⟩, rfl⟩
  have hdependency : misnamed.compile .dependency =
      .error (.invalidIdentifier "first" "first!") :=
    ((compile_outcomes misnamed).first _ _ _ hordered).mpr
      ⟨_, _, ⟨[], _, rfl, by simp, _, rfl, by cbv⟩, rfl⟩
  exact ⟨⟨_, _, hp, hq, ((compile_outcomes _).permuted _ _ hp hq).1, rfl, rfl⟩, hspatial,
    hdependency, (compile_outcomes misnamed).spatial.mp ⟨_, hspatial⟩⟩

end Flowboard
