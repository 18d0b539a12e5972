import Flowboard.Proofs.Dependency

/-! The order of nodes along their connections depends only on which nodes lead to which in one or
more steps. -/
namespace Flowboard

open Canvas Relation

variable {nodes : List Node} {cs ds : List Connection} {a b : String} {v w : Workflow}

/-- Connections along which the same nodes can be reached give the same order. -/
theorem dependencyOrder_congr (hcs : ∀ c ∈ cs, Attached nodes c) (hds : ∀ c ∈ ds, Attached nodes c)
    (h : ∀ i j, TransGen (Link nodes cs) i j ↔ TransGen (Link nodes ds) i j) :
    dependencyOrder nodes cs = dependencyOrder nodes ds := by
  obtain ⟨es, hes⟩ := edges_ok_iff_attached.mpr hcs
  obtain ⟨fs, hfs⟩ := edges_ok_iff_attached.mpr hds
  have hreach : ∀ r s, TransGen (Graph.Arrow ⟨nodes.length, es⟩) r s ↔
      TransGen (Graph.Arrow ⟨nodes.length, fs⟩) r s := by
    intro r s
    constructor
    · intro hrs
      obtain ⟨hr, hs⟩ := lt_of_transGen hes hrs
      exact (reaches_iff_link hfs hr hs).mpr ((h _ _).mp ((reaches_iff_link hes hr hs).mp hrs))
    · intro hrs
      obtain ⟨hr, hs⟩ := lt_of_transGen hfs hrs
      exact (reaches_iff_link hes hr hs).mpr ((h _ _).mpr ((reaches_iff_link hfs hr hs).mp hrs))
  rw [dependencyOrder_of_edges hes, dependencyOrder_of_edges hfs,
    Graph.linearize?_congr (proper_of_edges hes) (proper_of_edges hfs) hreach]

/-- The ends of a chain are ends of connections. -/
theorem known_of_transGen (hcs : ∀ c ∈ cs, Attached nodes c) (h : TransGen (Joined cs) a b) :
    Known nodes a ∧ Known nodes b := by
  induction h with
  | single hl =>
    obtain ⟨c, hc, rfl, rfl⟩ := hl
    exact hcs c hc
  | tail _ hl ih =>
    obtain ⟨c, hc, rfl, rfl⟩ := hl
    exact ⟨ih.1, (hcs c hc).2⟩

/-- Chains of ids say enough about the connections, also whether their ends are known. -/
theorem dependencyOrder_congr_joined (hcs : ∀ c ∈ cs, Attached nodes c)
    (h : ∀ a b, TransGen (Joined cs) a b ↔ TransGen (Joined ds) a b) :
    dependencyOrder nodes cs = dependencyOrder nodes ds := by
  have hds : ∀ c ∈ ds, Attached nodes c := fun c hc =>
    known_of_transGen hcs ((h _ _).mpr (.single ⟨c, hc, rfl, rfl⟩))
  refine dependencyOrder_congr hcs hds fun i j => ?_
  simp only [transGen_link_iff_joined hcs, transGen_link_iff_joined hds, h]

theorem transGen_joined_le (h : ∀ c ∈ cs, TransGen (Joined ds) c.sourceNode c.targetNode) :
    TransGen (Joined cs) ≤ TransGen (Joined ds) :=
  TransGen.closed fun _ _ ⟨c, hc, ha, hb⟩ => ha ▸ hb ▸ h c hc

/-- Two workflows have the same order of nodes along their connections and the same program, or they
have none for the same reason. -/
structure Workflow.Alike (v w : Workflow) : Prop where
  ordered : v.ordered .dependency = w.ordered .dependency
  compiled : v.compile .dependency = w.compile .dependency

/-- The program depends on the connections only through the order. -/
theorem alike_of_ordered (h : v.ordered .dependency = w.ordered .dependency) : v.Alike w :=
  ⟨h, by rw [Workflow.compile, Workflow.compile, h]⟩

/-- Each connection of the one workflow is implied by a chain of connections of the other. -/
theorem alike_of_chains (hn : v.nodes = w.nodes) (hv : ∀ c ∈ v.connections, Attached v.nodes c)
    (hvw : ∀ c ∈ v.connections, TransGen (Joined w.connections) c.sourceNode c.targetNode)
    (hwv : ∀ c ∈ w.connections, TransGen (Joined v.connections) c.sourceNode c.targetNode) :
    v.Alike w := by
  refine alike_of_ordered ?_
  rw [Workflow.ordered, Workflow.ordered, ← hn]
  exact dependencyOrder_congr_joined hv fun a b =>
    ⟨transGen_joined_le hvw a b, transGen_joined_le hwv a b⟩

/-- Which nodes lead to which, in one or more steps, is all that the order and the program depend
on: neither the order of the connections, nor their ids, their slots and how often each is there, nor
a connection between nodes that a chain of others joins makes a difference. -/
theorem alike_of_reachability (v w : Workflow) (hn : v.nodes = w.nodes)
    (hv : ∀ c ∈ v.connections, Attached v.nodes c) :
    ((∀ c ∈ w.connections, Attached w.nodes c) →
      (∀ i j, TransGen (Link v.nodes v.connections) i j ↔
        TransGen (Link w.nodes w.connections) i j) → v.Alike w) ∧
    ((∀ a b, Joined v.connections a b ↔ Joined w.connections a b) → v.Alike w) ∧
    ∀ before c after, v.connections = before ++ after → w.connections = before ++ c :: after →
      TransGen (Joined v.connections) c.sourceNode c.targetNode → v.Alike w := by
  refine ⟨fun hw h => ?_, fun h => ?_, fun before c after hvs hws h => ?_⟩
  · refine alike_of_ordered ?_
    rw [Workflow.ordered, Workflow.ordered]
    rw [← hn] at hw h ⊢
    exact dependencyOrder_congr hv hw h
  · exact alike_of_chains hn hv (fun c hc => .single ((h _ _).mp ⟨c, hc, rfl, rfl⟩))
      fun c hc => .single ((h _ _).mpr ⟨c, hc, rfl, rfl⟩)
  · have hkept : ∀ d ∈ v.connections, d ∈ w.connections := by
      intro d hd
      rw [hvs] at hd
      rw [hws]
      obtain hd | hd := List.mem_append.mp hd <;> simp [hd]
    refine alike_of_chains hn hv (fun d hd => .single ⟨d, hkept d hd, rfl, rfl⟩) fun d hd => ?_
    have hdc : d = c ∨ d ∈ v.connections := by
      rw [hws] at hd
      rw [hvs]
      simpa [or_left_comm] using hd
    obtain rfl | hd := hdc
    · exact h
    · exact .single ⟨d, hd, rfl, rfl⟩

/-- Three nodes that stand on the canvas against the direction of the chain they form. -/
def chained (connections : List Connection) : Workflow :=
  { Workflow.empty "w" "chain"
      ⟨⟨2024, 2, 29, Date.valid_leapDay⟩, 0, 0, Timestamp.clockValid_midnight⟩ with
    nodes :=
      [⟨"last", .print "x", .origin, [], []⟩,
       ⟨"middle", .assign "x" "late", ⟨.zero, ⟨3⟩⟩, [], []⟩,
       ⟨"first", .assign "x" "soon", ⟨.zero, ⟨5⟩⟩, [], []⟩],
    connections }

def upper : Connection :=
  ⟨"1", "middle", "value", "last", "message"⟩

def lower : Connection :=
  ⟨"2", "first", "value", "middle", "value"⟩

def shortcut : Connection :=
  ⟨"3", "first", "value", "last", "message"⟩

def renamed : Connection :=
  { lower with id := "4" }

/-- Neither a shortcut nor another order or id of the connections changes the order of the chain. -/
theorem alike_of_reachability_shortcut :
    (chained [lower, upper]).ordered .dependency = .ok (chained []).nodes.reverse ∧
    (chained [lower, upper]).Alike (chained [upper, renamed, lower]) ∧
    (chained [lower, upper]).Alike (chained [lower, shortcut, upper]) ∧
    (chained [lower, upper]).Alike (chained [upper, shortcut, renamed]) := by
  have hplain : ∀ c ∈ [lower, upper], Attached (chained []).nodes c := by
    simp [Attached, Known, chained, upper, lower]
  have hfull : ∀ c ∈ [upper, shortcut, renamed], Attached (chained []).nodes c := by
    simp [Attached, Known, chained, upper, lower, shortcut, renamed]
  have hchain : TransGen (Joined [lower, upper]) "first" "last" :=
    .tail (.single ⟨lower, by simp, rfl, rfl⟩) ⟨upper, by simp, rfl, rfl⟩
  have htwice : ∀ a b, Joined [lower, upper] a b ↔ Joined [upper, renamed, lower] a b := by
    simp [Joined, upper, lower, renamed, or_comm]
  have hreach : ∀ i j, TransGen (Link (chained []).nodes [lower, upper]) i j ↔
      TransGen (Link (chained []).nodes [upper, shortcut, renamed]) i j := by
    have hle : TransGen (Joined [lower, upper]) ≤ TransGen (Joined [upper, shortcut, renamed]) := by
      refine transGen_joined_le (List.forall_mem_cons.mpr ⟨?_, List.forall_mem_singleton.mpr ?_⟩)
      · exact .single ⟨renamed, by simp, rfl, rfl⟩
      · exact .single ⟨upper, by simp, rfl, rfl⟩
    have hge : TransGen (Joined [upper, shortcut, renamed]) ≤ TransGen (Joined [lower, upper]) := by
      refine transGen_joined_le (List.forall_mem_cons.mpr
        ⟨?_, List.forall_mem_cons.mpr ⟨hchain, List.forall_mem_singleton.mpr ?_⟩⟩)
      · exact .single ⟨upper, by simp, rfl, rfl⟩
      · exact .single ⟨lower, by simp, rfl, rfl⟩
    intro i j
    simp only [transGen_link_iff_joined hplain, transGen_link_iff_joined hfull,
      fun a b => Iff.intro (hle a b) (hge a b)]
  have happly := fun cs => alike_of_reachability (chained [lower, upper]) (chained cs) rfl hplain
  refine ⟨by cbv, (happly _).2.1 htwice, ?_, (happly _).1 hfull hreach⟩
  exact (happly _).2.2 [lower] shortcut [upper] rfl rfl hchain

end Flowboard
