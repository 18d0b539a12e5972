import Flowboard.Proofs.Naming

/-! Nodes of types that are not known are idle: what is done to them changes neither the programs
along the order of the canvas nor what is wrong with a workflow. -/
namespace Flowboard

open Canvas

section

variable {α : Type} {le : α → α → Bool}

/-- One element more goes behind all that it does not come before. -/
theorem mergeSort_cons_eq (trans : ∀ a b c, le a b → le b c → le a c)
    (total : ∀ a b, le a b || le b a) (a : α) (l : List α) : (a :: l).mergeSort le =
      (l.mergeSort le).filter (fun b => !le a b) ++ a :: (l.mergeSort le).filter (le a) := by
  obtain ⟨before, after, hcons, hrest, hbefore⟩ := List.mergeSort_cons trans total a l
  have hsorted : (before ++ a :: after).Pairwise (le · ·) :=
    hcons ▸ List.pairwise_mergeSort trans total _
  have hafter : ∀ b ∈ after, le a b :=
    (List.pairwise_cons.mp (List.pairwise_append.mp hsorted).2.1).1
  have hb : before.filter (fun b => !le a b) = before := List.filter_eq_self.mpr hbefore
  have hb' : before.filter (le a) = [] :=
    List.filter_eq_nil_iff.mpr fun b h => by simpa using hbefore b h
  have ha : after.filter (fun b => !le a b) = [] :=
    List.filter_eq_nil_iff.mpr fun b h => by simp [hafter b h]
  have ha' : after.filter (le a) = after := List.filter_eq_self.mpr hafter
  rw [hcons, hrest, List.filter_append, List.filter_append, hb, hb', ha, ha', List.append_nil,
    List.nil_append]

/-- What is left out of a list does not matter for how the rest is sorted, ties included. -/
theorem filter_mergeSort (trans : ∀ a b c, le a b → le b c → le a c)
    (total : ∀ a b, le a b || le b a) (p : α → Bool) (l : List α) :
    (l.mergeSort le).filter p = (l.filter p).mergeSort le := by
  induction l with
  | nil => simp
  | cons a l ih =>
    cases ha : p a with
    | true =>
      rw [List.filter_cons_of_pos ha, mergeSort_cons_eq trans total, mergeSort_cons_eq trans total,
        ← ih]
      simp [List.filter_filter, ha, Bool.and_comm]
    | false =>
      obtain ⟨before, after, hcons, hrest, -⟩ := List.mergeSort_cons trans total a l
      rw [List.filter_cons_of_neg (by simp [ha]), ← ih, hcons, hrest]
      simp [ha]

end

/-- To leave nodes out and to put nodes in order can be done one after the other in either way. -/
theorem filter_spatialOrder (p : Node → Bool) (nodes : List Node) :
    (spatialOrder nodes).filter p = spatialOrder (nodes.filter p) := by
  apply filter_mergeSort
  · exact fun a b c => position_le_trans a.position b.position c.position
  · exact fun a b => position_le_total a.position b.position

/-- A change of one idle node: it is put somewhere, taken away, or becomes another idle node, which
may stand elsewhere on the canvas. -/
inductive Tinkered : List Node → List Node → Prop
  | added {before n after} (idle : n.acts = false) :
      Tinkered (before ++ after) (before ++ n :: after)
  | removed {before n after} (idle : n.acts = false) :
      Tinkered (before ++ n :: after) (before ++ after)
  | altered {before n m after} (idle : n.acts = false) (still : m.acts = false) :
      Tinkered (before ++ n :: after) (before ++ m :: after)

variable {nodes others : List Node} {n : Node} {name : String} {v w : Workflow}

theorem filter_acts_step (h : Tinkered nodes others) :
    others.filter Node.acts = nodes.filter Node.acts := by
  cases h with
  | added idle => simp [idle]
  | removed idle => simp [idle]
  | altered idle still => simp [idle, still]

/-- However many changes are made to idle nodes, the others stay as they are. -/
theorem filter_acts_run (h : Relation.ReflTransGen Tinkered nodes others) :
    others.filter Node.acts = nodes.filter Node.acts := by
  induction h with
  | refl => rfl
  | tail _ hstep ih => exact (filter_acts_step hstep).trans ih

theorem acts_eq_false_iff :
    n.acts = false ↔ ∃ type properties, n.kind = .other type properties := by
  rw [Node.acts]
  cases n.kind <;> simp

/-- Idle nodes add nothing to a program. -/
theorem emitAll_filter (bindings : Table String) (nodes : List Node) :
    Program.emitAll bindings (nodes.filter Node.acts) = Program.emitAll bindings nodes := by
  induction nodes generalizing bindings with
  | nil => rfl
  | cons n rest ih =>
    cases hn : n.acts with
    | true => simp only [List.filter_cons_of_pos hn, Program.emitAll, ih]
    | false =>
      obtain ⟨type, properties, hk⟩ := acts_eq_false_iff.mp hn
      rw [List.filter_cons_of_neg (by simp [hn]), ih]
      simp only [Program.emitAll, Program.emit, hk]
      cases Program.emitAll bindings rest <;> rfl

/-- No idle node misnames a variable. -/
theorem firstMisnamed_filter :
    FirstMisnamed (nodes.filter Node.acts) n name ↔ FirstMisnamed nodes n name := by
  induction nodes with
  | nil => rfl
  | cons m rest ih =>
    cases hm : m.acts with
    | true => simp only [List.filter_cons_of_pos hm, firstMisnamed_cons, ih]
    | false =>
      obtain ⟨type, properties, hk⟩ := acts_eq_false_iff.mp hm
      have hproper : ∀ x, ¬ m.Misnames x := by simp [Node.Misnames, hk]
      simp [List.filter_cons_of_neg, hm, firstMisnamed_cons, ih, hproper]

/-- Along the order of the canvas two workflows do the same: both have the same program, apart from
the ids of idle nodes among those that are visited, or both have none for the same node and name. -/
structure Workflow.ActsLike (w v : Workflow) : Prop where
  acting : (spatialOrder w.nodes).filter Node.acts = (spatialOrder v.nodes).filter Node.acts
  order : ∀ p, w.compile .spatial = .ok p → p.order = (spatialOrder w.nodes).map (·.id)
  program : ∀ p, v.compile .spatial = .ok p → p.order = (spatialOrder v.nodes).map (·.id) ∧
    ∃ q, w.compile .spatial = .ok q ∧ q.source = p.source ∧ q.statements = p.statements ∧
      q.bindings = p.bindings
  misnamed : ∀ n name,
    FirstMisnamed (spatialOrder w.nodes) n name ↔ FirstMisnamed (spatialOrder v.nodes) n name
  error : ∀ e, w.compile .spatial = .error e ↔ v.compile .spatial = .error e

/-- Whatever is done to idle nodes, anywhere in the list and as often as one likes. -/
theorem actsLike_of_tinkered (h : Relation.ReflTransGen Tinkered v.nodes w.nodes) :
    w.ActsLike v := by
  have hacting : (spatialOrder w.nodes).filter Node.acts =
      (spatialOrder v.nodes).filter Node.acts := by
    rw [filter_spatialOrder, filter_spatialOrder, filter_acts_run h]
  have hemits : Program.emitAll [] (spatialOrder w.nodes) =
      Program.emitAll [] (spatialOrder v.nodes) := by
    rw [← emitAll_filter, hacting, emitAll_filter]
  have horder (u : Workflow) (p : Program) (hp : u.compile .spatial = .ok p) :
      p.order = (spatialOrder u.nodes).map (·.id) := by
    obtain ⟨nodes, hnodes, horder, -⟩ := compile_eq_ok hp
    rw [horder, ← Except.ok.inj hnodes]
  have hmisnamed : ∀ n name, FirstMisnamed (spatialOrder w.nodes) n name ↔
      FirstMisnamed (spatialOrder v.nodes) n name := fun n name => by
    rw [← firstMisnamed_filter, hacting, firstMisnamed_filter]
  refine ⟨hacting, horder w, fun p hp => ⟨horder v p hp, ?_⟩, hmisnamed, fun e => ?_⟩
  · have hcompile (u : Workflow) :
        u.compile .spatial = Program.ofNodes (spatialOrder u.nodes) := rfl
    rw [hcompile, Program.ofNodes] at hp
    rw [hcompile, Program.ofNodes, hemits]
    cases hall : Program.emitAll [] (spatialOrder v.nodes) with
    | error e => simp [hall] at hp
    | ok r =>
      simp only [hall, Except.ok.injEq] at hp
      subst hp
      exact ⟨_, rfl, rfl, rfl, rfl⟩
  · rw [compile_eq_error_iff (w := w) rfl, compile_eq_error_iff (w := v) rfl]
    simp only [hmisnamed]

/-- A chain of nodes with a note at the end of the list, which stands beside the first of them. -/
def noted : Workflow :=
  { chained [] with
    nodes := (chained []).nodes ++ [⟨"note", .other "note" [], .origin, [], []⟩] }

/-- Another note stands in front, and the one at the end is an image above all others. -/
def renoted : Workflow :=
  { chained [] with
    nodes := ⟨"new", .other "note" [], .origin, [], []⟩ :: (chained []).nodes ++
      [⟨"image", .other "image" [], ⟨.zero, .ofDouble (.neg .zero)⟩, [], []⟩] }

theorem tinkered_renoted : Relation.ReflTransGen Tinkered noted.nodes renoted.nodes := by
  have hadded : Tinkered noted.nodes (⟨"new", .other "note" [], .origin, [], []⟩ :: noted.nodes) :=
    @Tinkered.added [] _ noted.nodes rfl
  have haltered : Tinkered (⟨"new", .other "note" [], .origin, [], []⟩ :: noted.nodes)
      renoted.nodes :=
    @Tinkered.altered (renoted.nodes.take 4) _ _ [] rfl rfl
  exact .tail (.single hadded) haltered

/-- One note is put in front and the other one becomes an image, and the statements stay the same.
-/
theorem actsLike_of_tinkered_renoted :
    Relation.ReflTransGen Tinkered noted.nodes renoted.nodes ∧
    noted.compile .spatial =
      .ok ⟨[.printText "x", .assign "x" "late", .assign "x" "soon"],
        ["last", "note", "middle", "first"], [("x", "soon")]⟩ ∧
    ∃ q, renoted.compile .spatial = .ok q ∧
      q.statements = [.printText "x", .assign "x" "late", .assign "x" "soon"] ∧
      q.order = ["image", "new", "last", "middle", "first"] := by
  have hp : noted.compile .spatial =
      .ok ⟨[.printText "x", .assign "x" "late", .assign "x" "soon"],
        ["last", "note", "middle", "first"], [("x", "soon")]⟩ := by cbv
  have hlike := actsLike_of_tinkered tinkered_renoted
  obtain ⟨-, q, hq, -, hstatements, -⟩ := hlike.program _ hp
  have hvisited : (spatialOrder renoted.nodes).map (·.id) =
      ["image", "new", "last", "middle", "first"] := by cbv
  exact ⟨tinkered_renoted, hp, q, hq, hstatements, (hlike.order q hq).trans hvisited⟩

end Flowboard
