import Flowboard.Proofs.Decoding
import Flowboard.Proofs.Instants
import Flowboard.Proofs.Layout
import Flowboard.Workflow.Document

/-! Workflows and their parts as JSON values: what they are like after they have been read, and that
each is read as itself from its own value. -/
namespace Flowboard

variable {cx inner : Context} {t : Tree} {k m n : Nat}

namespace Context

theorem holds_max_add : cx.Holds (max m n + k) ↔ cx.Holds (m + k) ∧ cx.Holds (n + k) := by
  rw [← Nat.add_max_add_right, holds_max]

end Context

namespace Json

variable {v : Json} {xs : List Json}

/-- A value that has the form of those that are read as parts of something in a context. -/
def PartOf (cx : Context) (v : Json) : Prop :=
  v.Ordered ∧ cx.Holds (v.nesting + 1)

theorem readIn_iff_partOf (h : cx.enter = .ok inner) : v.ReadIn inner ↔ v.PartOf cx :=
  and_congr_right fun _ => Context.holds_of_enter h

theorem holds_nesting_array : cx.Holds ((array xs).nesting + k) ↔
    cx.Holds (1 + k) ∧ ∀ x ∈ xs, cx.Holds (x.nesting + (1 + k)) := by
  rw [nesting, Nat.add_assoc]
  induction xs with
  | nil => simp [nestingItems]
  | cons x xs ih => simp [nestingItems, Context.holds_max_add, ih, and_left_comm]

theorem partOf_array_nil (h : cx.Holds 2) : (array []).PartOf cx :=
  ⟨trivial, h⟩

end Json

namespace Decoder

variable {α : Type} {d : Decoder α}

theorem option_ok {o : Option α} (h : option d cx t = .ok o) : ∀ x ∈ o, d cx t = .ok x := by
  unfold option at h
  split at h
  · obtain rfl := Except.ok.inj h
    simp
  · obtain ⟨x, hx, rfl⟩ := map_eq_ok h
    simpa using hx

theorem list_json_ok {xs : List Json} (h : list json cx t = .ok xs) : (Json.array xs).ReadIn cx := by
  cases t with
  | array ts =>
    rw [list_array] at h
    obtain ⟨inner, hinner, h⟩ := bind_eq_ok h
    exact (Json.readIn_array hinner).mpr (items_ok (json_ok inner) ts 0 xs h)
  | _ => simp [list] at h

theorem list_json_yields {xs : List Json} (h : (Json.array xs).Ordered) :
    Yields cx (Json.array xs).nesting (list json cx (Json.array xs).tree) xs := by
  have hxs := Json.orderedItems_iff.mp h
  have hread : Yields cx _ (list json cx (Json.array (xs.map id)).tree) xs :=
    list_yields json id xs fun inner _ x hx => json_yields inner x (hxs x hx)
  rwa [List.map_id] at hread

theorem timestamp_text (cx : Context) (time : Timestamp) : timestamp cx (.string (.ok time.text)) = .ok time := by
  simp [timestamp, Timestamp.parse_text]

end Decoder

namespace Json

theorem partOf_of_option {o : Option Json} (h : cx.enter = .ok inner)
    (ho : Decoder.option Decoder.json inner t = .ok o) : ∀ v ∈ o, v.PartOf cx := fun v hv =>
  (readIn_iff_partOf h).mp (Decoder.json_ok inner t v (Decoder.option_ok ho v hv))

theorem partOf_of_list {xs : List Json} (h : cx.enter = .ok inner)
    (hxs : Decoder.list Decoder.json inner t = .ok xs) : (array xs).PartOf cx :=
  (readIn_iff_partOf h).mp (Decoder.list_json_ok hxs)

end Json

namespace Position

/-- Both coordinates are finite, as JSON can say. -/
structure Finite (p : Position) : Prop where
  x : ∃ d, p.x = .ofDouble d
  y : ∃ d, p.y = .ofDouble d

theorem finite_origin : origin.Finite :=
  ⟨⟨.zero, rfl⟩, ⟨.zero, rfl⟩⟩

theorem coordinate_ofDouble (d : Double) : coordinate (.ofDouble d) = .number (.double d) := by
  rw [coordinate, Binary64.double?_ofDouble]

theorem nesting_coordinate (b : Binary64) : (coordinate b).nesting = 0 := by
  rw [coordinate]
  cases b.double? <;> rfl

theorem nesting_json (p : Position) : p.json.nesting = 1 := by
  have hshape : p.json.nesting =
      max (coordinate p.x).nesting (max (coordinate p.y).nesting 0) + 1 := rfl
  simp [hshape, nesting_coordinate]

/-- Whatever is read as a position has finite coordinates. -/
theorem decoder_ok {p : Position} (h : record.decoder cx t = .ok p) : p.Finite := by
  obtain ⟨draft, hb⟩ := Record.exists_build h
  obtain rfl := Except.ok.inj hb
  exact ⟨⟨_, rfl⟩, ⟨_, rfl⟩⟩

theorem option_decoder_ok {p : Option Position} (h : Decoder.option record.decoder cx t = .ok p) :
    ∀ q ∈ p, q.Finite := fun _ hq =>
  decoder_ok (Decoder.option_ok h _ hq)

theorem json_yields (cx : Context) {p : Position} (hp : p.Finite) :
    Yields cx p.json.nesting (record.decoder cx p.json.tree) p := by
  obtain ⟨x, y⟩ := p
  obtain ⟨⟨x, rfl⟩, y, rfl⟩ := hp
  rw [nesting_json, json, coordinate_ofDouble, coordinate_ofDouble]
  refine Record.decoder_yields ⟨some x, some y⟩ (fun inner _ => ?_) (by simp [record])
  exact Record.readMembers_field rfl rfl (.of_eq rfl)
    (Record.readMembers_field rfl rfl (.of_eq rfl) (.of_eq rfl))

end Position

namespace Kind

/-- The types whose properties are known do not stand for others. -/
def WellFormed : Kind → Prop
  | .other type _ => type ≠ "variable" ∧ type ≠ "print"
  | _ => True

variable {type : String} {properties : Option Json} {kind : Kind}

theorem faultOnly_eq_ok {α : Type} {r : Except DecodeError α} {x : α} (h : faultOnly r = .ok x) :
    r = .ok x := by
  cases r with
  | error e => simp [faultOnly] at h
  | ok y => exact congrArg _ (Except.ok.inj h)

theorem assignRecord_ok (h : assignRecord.decoder cx t = .ok kind) :
    ∃ name value, kind = .assign name value := by
  obtain ⟨draft, hb⟩ := Record.exists_build h
  exact ⟨_, _, (Except.ok.inj hb).symm⟩

theorem printRecord_ok (h : printRecord.decoder cx t = .ok kind) : ∃ message, kind = .print message := by
  obtain ⟨draft, hb⟩ := Record.exists_build h
  exact ⟨_, (Except.ok.inj hb).symm⟩

/-- What is kept of the properties of a node is no deeper than what was given, or than the defaults. -/
theorem ofParts_ok (hcx : cx.Holds 2) (hp : ∀ v ∈ properties, v.PartOf cx)
    (h : ofParts type properties = .ok kind) :
    kind.WellFormed ∧ (Json.object kind.properties).PartOf cx := by
  unfold ofParts at h
  extract_lets given at h
  have hgiven : given.PartOf cx := by
    unfold given
    split
    · exact ⟨⟨List.Pairwise.nil, trivial⟩, hcx.mono (by decide)⟩
    · exact ⟨⟨List.Pairwise.nil, trivial⟩, hcx.mono (by decide)⟩
    · exact hp _ rfl
  clear_value given
  split at h
  · obtain ⟨name, value, rfl⟩ := assignRecord_ok (faultOnly_eq_ok h)
    exact ⟨trivial, ⟨List.pairwise_pair.mpr (by decide : "name" < "value"), trivial, trivial, trivial⟩,
      hcx⟩
  split at h
  · obtain ⟨message, rfl⟩ := printRecord_ok (faultOnly_eq_ok h)
    exact ⟨trivial, ⟨List.pairwise_singleton _ _, trivial, trivial⟩, hcx⟩
  · rename_i hvariable hprint
    split at h
    · obtain rfl := Except.ok.inj h
      exact ⟨⟨hvariable, hprint⟩, hgiven⟩
    · simp at h

/-- Properties in their normal form make the kind that they are of. -/
theorem ofParts_properties (h : kind.WellFormed) :
    ofParts kind.typeName (some (.object kind.properties)) = .ok kind := by
  cases kind with
  | assign name value => rfl
  | print message => rfl
  | other type properties => simp [ofParts, typeName, Kind.properties, h.1, h.2]

end Kind

namespace Node

/-- What a node is made of has the form of parts that are read in a context. -/
structure PartsFit (cx : Context) (position : Option Position) (properties : Option Json)
    (inputs outputs : List Json) : Prop where
  position : ∀ p ∈ position, p.Finite
  properties : ∀ v ∈ properties, v.PartOf cx
  inputs : (Json.array inputs).PartOf cx
  outputs : (Json.array outputs).PartOf cx

/-- A node that has the form of those that are read in a context. -/
structure ReadIn (cx : Context) (n : Node) : Prop where
  kind : n.kind.WellFormed
  parts : PartsFit cx (some n.position) (some (.object n.kind.properties)) n.inputs n.outputs

variable {position : Option Position} {properties : Option Json} {inputs outputs : List Json}
  {node : Node}

theorem PartsFit.position_read (h : PartsFit cx position properties inputs outputs)
    {p : Option Position} (hp : ∀ p' ∈ p, p'.Finite) : PartsFit cx p properties inputs outputs :=
  { h with position := hp }

theorem PartsFit.properties_read (h : PartsFit cx position properties inputs outputs)
    (hinner : cx.enter = .ok inner) {o : Option Json}
    (ho : Decoder.option Decoder.json inner t = .ok o) : PartsFit cx position o inputs outputs :=
  { h with properties := Json.partOf_of_option hinner ho }

theorem PartsFit.inputs_read (h : PartsFit cx position properties inputs outputs)
    (hinner : cx.enter = .ok inner) {xs : List Json}
    (hxs : Decoder.list Decoder.json inner t = .ok xs) :
    PartsFit cx position properties xs outputs :=
  { h with inputs := Json.partOf_of_list hinner hxs }

theorem PartsFit.outputs_read (h : PartsFit cx position properties inputs outputs)
    (hinner : cx.enter = .ok inner) {xs : List Json}
    (hxs : Decoder.list Decoder.json inner t = .ok xs) :
    PartsFit cx position properties inputs xs :=
  { h with outputs := Json.partOf_of_list hinner hxs }

theorem partsFit_empty (hcx : cx.Holds 2) : PartsFit cx none none [] [] :=
  ⟨by simp, by simp, Json.partOf_array_nil hcx, Json.partOf_array_nil hcx⟩

/-- Parts that fit make a node that has the form of those that are read. -/
theorem PartsFit.readIn (h : PartsFit cx position properties inputs outputs) {type id : String}
    {kind : Kind} (hk : Kind.ofParts type properties = .ok kind) :
    ReadIn cx ⟨id, kind, position.getD .origin, inputs, outputs⟩ := by
  have hcx : cx.Holds 2 := h.inputs.2.mono (by simp [Json.nesting])
  obtain ⟨hform, hproperties⟩ := Kind.ofParts_ok hcx h.properties hk
  have hposition : (position.getD .origin).Finite := by
    cases hp : position with
    | none => exact Position.finite_origin
    | some p => exact h.position p hp
  exact ⟨hform, by simpa using hposition, by simpa using hproperties, h.inputs, h.outputs⟩

theorem nesting_json (n : Node) : n.json.nesting = max 1 (max (Json.object n.kind.properties).nesting
    (max (Json.array n.inputs).nesting (Json.array n.outputs).nesting)) + 1 := by
  have hshape : n.json.nesting = max 0 (max 0 (max n.position.json.nesting (max
      (Json.object n.kind.properties).nesting (max (Json.array n.inputs).nesting
      (max (Json.array n.outputs).nesting 0))))) + 1 := rfl
  simp [hshape, Position.nesting_json]

/-- The form of a node and its depth are all that a context asks for. -/
theorem readIn_iff : node.ReadIn cx ↔ node.ReadIn .value ∧ cx.Holds node.json.nesting := by
  simp only [nesting_json, Context.holds_max_add]
  constructor
  · rintro ⟨hkind, hposition, hproperties, hinputs, houtputs⟩
    have hcx : cx.Holds 2 := hinputs.2.mono (by simp [Json.nesting])
    have hproperties := hproperties _ rfl
    exact ⟨⟨hkind, hposition, by simpa using ⟨hproperties.1, trivial⟩, ⟨hinputs.1, trivial⟩,
      ⟨houtputs.1, trivial⟩⟩, hcx, hproperties.2, hinputs.2, houtputs.2⟩
  · rintro ⟨⟨hkind, hposition, hproperties, hinputs, houtputs⟩, -, hp, hi, ho⟩
    exact ⟨hkind, hposition, by simpa using ⟨(hproperties _ rfl).1, hp⟩, ⟨hinputs.1, hi⟩,
      ⟨houtputs.1, ho⟩⟩

theorem keeps_partsFit (hinner : cx.enter = .ok inner) : ∀ f ∈ record.fields,
    f.Keeps inner fun draft => PartsFit cx draft.position (draft.properties.getD none)
      (draft.inputs.getD []) (draft.outputs.getD []) := by
  simp only [record, List.forall_mem_cons]
  refine ⟨Field.keeps_other fun _ _ h => h, Field.keeps_other fun _ _ h => h,
    ?position, ?properties, ?inputs, ?outputs, by simp⟩
  case position =>
    exact Field.keeps_of fun _ _ _ h hv => h.position_read (by simpa using Position.decoder_ok hv)
  case properties => exact Field.keeps_of fun _ _ _ h hv => h.properties_read hinner hv
  case inputs => exact Field.keeps_of fun _ _ _ h hv => h.inputs_read hinner hv
  case outputs => exact Field.keeps_of fun _ _ _ h hv => h.outputs_read hinner hv

theorem decoder_ok (hcx : cx.Holds 2) (h : record.decoder cx t = .ok node) : node.ReadIn cx := by
  obtain ⟨draft, hdraft, hb⟩ :=
    Record.decoder_ok (r := record) (partsFit_empty hcx) (fun _ => keeps_partsFit) h
  obtain ⟨id, -, hb⟩ := Decoder.bind_eq_ok (r := Record.require "id" draft.id) hb
  split at hb
  · simp at hb
  · rename_i kind hkind
    obtain rfl := Except.ok.inj hb
    exact hdraft.readIn hkind

theorem json_yields (cx : Context) (h : node.ReadIn .value) :
    Yields cx node.json.nesting (record.decoder cx node.json.tree) node := by
  have hposition := h.parts.position _ rfl
  have hproperties := (h.parts.properties _ rfl).1
  refine Record.decoder_yields ⟨some node.id, some node.kind.typeName, some node.position,
    some (some (.object node.kind.properties)), some node.inputs, some node.outputs⟩
    (fun inner _ => ?_) (by simp [record, Record.require, Kind.ofParts_properties h.kind, bind, Except.bind])
  exact Record.readMembers_field rfl rfl (.of_eq rfl)
    (Record.readMembers_field rfl rfl (.of_eq rfl)
    (Record.readMembers_field rfl rfl ((Position.json_yields inner hposition).map _)
    (Record.readMembers_field rfl rfl (((Decoder.json_yields inner _ hproperties).map some).map _)
    (Record.readMembers_field rfl rfl ((Decoder.list_json_yields h.parts.inputs.1).map _)
    (Record.readMembers_field rfl rfl ((Decoder.list_json_yields h.parts.outputs.1).map _)
    (.of_eq rfl))))))

end Node

namespace Connection

theorem nesting_json (c : Connection) : c.json.nesting = 1 := rfl

theorem json_yields (cx : Context) (c : Connection) :
    Yields cx c.json.nesting (record.decoder cx c.json.tree) c := by
  refine Record.decoder_yields ⟨some c.id, some c.sourceNode, some c.sourceOutput,
    some c.targetNode, some c.targetInput⟩ (fun inner _ => ?_) rfl
  exact Record.readMembers_field rfl rfl (.of_eq rfl)
    (Record.readMembers_field rfl rfl (.of_eq rfl)
    (Record.readMembers_field rfl rfl (.of_eq rfl)
    (Record.readMembers_field rfl rfl (.of_eq rfl)
    (Record.readMembers_field rfl rfl (.of_eq rfl) (.of_eq rfl)))))

theorem holds_nesting (hcx : cx.Holds 3) (cs : List Connection) :
    cx.Holds ((Json.array (cs.map json)).nesting + 1) := by
  refine Json.holds_nesting_array.mpr ⟨hcx.mono (by decide), ?_⟩
  simpa [nesting_json] using fun _ _ => hcx

end Connection

namespace Node

/-- Nodes that have the form of those in a list that is read as a part of something in a context. -/
structure ListFits (cx : Context) (ns : List Node) : Prop where
  nodes : ∀ n ∈ ns, n.ReadIn .value
  depth : cx.Holds ((Json.array (ns.map json)).nesting + 1)

variable {ns : List Node}

theorem listFits_nil (hcx : cx.Holds 2) : ListFits cx [] :=
  ⟨by simp, hcx⟩

theorem ListFits.readIn (h : ListFits cx ns) : ∀ n ∈ ns, n.ReadIn cx := by
  intro n hn
  have hdepth := (Json.holds_nesting_array.mp h.depth).2 n.json (List.mem_map_of_mem hn)
  exact readIn_iff.mpr ⟨h.nodes n hn, hdepth.mono (by omega)⟩

theorem list_ok (hcx : cx.Holds 4) (hinner : cx.enter = .ok inner)
    (h : Decoder.list record.decoder inner t = .ok ns) : ListFits cx ns := by
  have hread : ∀ n ∈ ns, n.ReadIn .value ∧ cx.Holds (n.json.nesting + 2) := by
    refine Decoder.list_ok (fun item hitem t n hn => ?_) h
    have hholds : ∀ k, item.Holds k ↔ cx.Holds (k + 2) := fun k => by
      rw [Context.holds_of_enter hitem, Context.holds_of_enter hinner]
    have hn := readIn_iff.mp (decoder_ok ((hholds 2).mpr hcx) hn)
    exact ⟨hn.1, (hholds _).mp hn.2⟩
  refine ⟨fun n hn => (hread n hn).1, Json.holds_nesting_array.mpr ⟨hcx.mono (by decide), ?_⟩⟩
  simpa using fun n hn => (hread n hn).2

/-- A list of nodes is read back from its value, unless it is nested too deep. -/
theorem list_yields (h : ∀ n ∈ ns, n.ReadIn .value) :
    Yields cx (Json.array (ns.map json)).nesting
      (Decoder.list record.decoder cx (Json.array (ns.map json)).tree) ns :=
  Decoder.list_yields _ json ns fun inner _ n hn => json_yields inner (h n hn)

end Node

namespace Workflow

variable {w : Workflow}

theorem nesting_json (w : Workflow) : w.json.nesting =
    max (Json.array (w.nodes.map Node.json)).nesting
      (Json.array (w.connections.map Connection.json)).nesting + 1 := by
  have hshape : w.json.nesting = max 0 (max 0 (max 0 (max
      (Json.array (w.nodes.map Node.json)).nesting (max
      (Json.array (w.connections.map Connection.json)).nesting (max 0 (max 0 0)))))) + 1 := rfl
  simp [hshape]

theorem keeps_listFits (hcx : cx.Holds 4) (hinner : cx.enter = .ok inner) :
    ∀ f ∈ record.fields, f.Keeps inner fun draft => Node.ListFits cx (draft.nodes.getD []) := by
  simp only [record, List.forall_mem_cons]
  refine ⟨Field.keeps_other fun _ _ h => h, Field.keeps_other fun _ _ h => h,
    Field.keeps_other fun _ _ h => h, ?nodes, Field.keeps_other fun _ _ h => h,
    Field.keeps_other fun _ _ h => h, Field.keeps_other fun _ _ h => h, by simp⟩
  case nodes => exact Field.keeps_of fun _ _ _ _ hv => Node.list_ok hcx hinner hv

theorem decoder_ok (hcx : cx.Holds 4) (h : record.decoder cx t = .ok w) :
    (∀ n ∈ w.nodes, n.ReadIn .value) ∧ cx.Holds w.json.nesting := by
  obtain ⟨draft, hdraft, hb⟩ := Record.decoder_ok (r := record)
    (Node.listFits_nil (hcx.mono (by decide))) (fun _ => keeps_listFits hcx) h
  obtain ⟨id, -, hb⟩ := Decoder.bind_eq_ok (r := Record.require "id" draft.id) hb
  obtain ⟨name, -, hb⟩ := Decoder.bind_eq_ok (r := Record.require "name" draft.name) hb
  obtain ⟨createdAt, -, hb⟩ := Decoder.bind_eq_ok (r := Record.require "created_at" draft.createdAt) hb
  obtain ⟨updatedAt, -, hb⟩ := Decoder.bind_eq_ok (r := Record.require "updated_at" draft.updatedAt) hb
  obtain rfl := Except.ok.inj hb
  rw [nesting_json, Context.holds_max_add]
  exact ⟨hdraft.nodes, hdraft.depth, Connection.holds_nesting (hcx.mono (by decide)) _⟩

/-- A workflow is read as itself from its value, unless it is nested too deep. -/
theorem json_yields (cx : Context) (h : ∀ n ∈ w.nodes, n.ReadIn .value) :
    Yields cx w.json.nesting (record.decoder cx w.json.tree) w := by
  refine Record.decoder_yields ⟨some w.id, some w.name, some w.description, some w.nodes,
    some w.connections, some w.createdAt, some w.updatedAt⟩ (fun inner _ => ?_) rfl
  have hcreated := Decoder.timestamp_text inner w.createdAt
  have hupdated := Decoder.timestamp_text inner w.updatedAt
  -- the texts themselves play no part in how the members are taken one by one
  generalize w.createdAt.text = created at hcreated ⊢
  generalize w.updatedAt.text = updated at hupdated ⊢
  have hconnections : Yields inner _ (Decoder.list Connection.record.decoder inner _) w.connections :=
    Decoder.list_yields _ _ _ fun inner _ c _ => c.json_yields inner
  exact Record.readMembers_field rfl rfl (.of_eq rfl)
    (Record.readMembers_field rfl rfl (.of_eq rfl)
    (Record.readMembers_field rfl rfl (.of_eq rfl)
    (Record.readMembers_field rfl rfl ((Node.list_yields h).map _)
    (Record.readMembers_field rfl rfl (hconnections.map _)
    (Record.readMembers_field rfl rfl ((Yields.of_eq hcreated).map _)
    (Record.readMembers_field rfl rfl ((Yields.of_eq hupdated).map _) (.of_eq rfl)))))))

end Workflow

namespace WorkflowPatch

/-- The patch with all that it can change of a workflow. -/
def whole (w : Workflow) : WorkflowPatch :=
  ⟨some w.name, some w.description, some w.nodes, some w.connections⟩

variable {w : Workflow} {p : WorkflowPatch}

/-- A patch that has the form of those that are read in a context. -/
def ReadIn (cx : Context) (p : WorkflowPatch) : Prop :=
  ∀ ns ∈ p.nodes, Node.ListFits cx ns

theorem keeps_listFits (hcx : cx.Holds 4) (hinner : cx.enter = .ok inner) :
    ∀ f ∈ record.fields,
      f.Keeps inner fun draft => ∀ ns ∈ draft.nodes.getD none, Node.ListFits cx ns := by
  simp only [record, List.forall_mem_cons]
  refine ⟨Field.keeps_other fun _ _ h => h, Field.keeps_other fun _ _ h => h, ?nodes,
    Field.keeps_other fun _ _ h => h, by simp⟩
  case nodes => exact Field.keeps_of fun _ _ _ _ hv ns hns =>
    Node.list_ok hcx hinner (Decoder.option_ok hv ns hns)

theorem decoder_ok (hcx : cx.Holds 4) (h : record.decoder cx t = .ok p) : p.ReadIn cx := by
  obtain ⟨draft, hdraft, hb⟩ :=
    Record.decoder_ok (r := record) (by simp [record]) (fun _ => keeps_listFits hcx) h
  obtain rfl := Except.ok.inj hb
  exact hdraft

/-- The value of a workflow is read as a patch that puts everything in place which a patch can. -/
theorem json_yields (cx : Context) (h : ∀ n ∈ w.nodes, n.ReadIn .value) :
    Yields cx w.json.nesting (record.decoder cx w.json.tree) (whole w) := by
  refine Record.decoder_yields ⟨some (some w.name), some (some w.description),
    some (some w.nodes), some (some w.connections)⟩ (fun inner _ => ?_) rfl
  have hconnections : Yields inner _ (Decoder.list Connection.record.decoder inner _) w.connections :=
    Decoder.list_yields _ _ _ fun inner _ c _ => c.json_yields inner
  exact Record.readMembers_skip rfl rfl rfl
    (Record.readMembers_field rfl rfl (.of_eq rfl)
    (Record.readMembers_field rfl rfl (.of_eq rfl)
    (Record.readMembers_field rfl rfl (((Node.list_yields h).map some).map _)
    (Record.readMembers_field rfl rfl ((hconnections.map some).map _)
    (Record.readMembers_skip rfl rfl rfl (Record.readMembers_skip rfl rfl rfl (.of_eq rfl)))))))

end WorkflowPatch

namespace NodeSpec

variable {spec : NodeSpec}

/-- A node to append that has the form of those that are read in a context. -/
def ReadIn (cx : Context) (spec : NodeSpec) : Prop :=
  Node.PartsFit cx spec.position spec.properties spec.inputs spec.outputs

theorem keeps_partsFit (hinner : cx.enter = .ok inner) : ∀ f ∈ record.fields,
    f.Keeps inner fun draft => Node.PartsFit cx (draft.position.getD none)
      (draft.properties.getD none) (draft.inputs.getD []) (draft.outputs.getD []) := by
  simp only [record, List.forall_mem_cons]
  refine ⟨Field.keeps_other fun _ _ h => h, Field.keeps_other fun _ _ h => h,
    ?position, ?properties, ?inputs, ?outputs, by simp⟩
  case position =>
    exact Field.keeps_of fun _ _ _ h hv => h.position_read (Position.option_decoder_ok hv)
  case properties => exact Field.keeps_of fun _ _ _ h hv => h.properties_read hinner hv
  case inputs => exact Field.keeps_of fun _ _ _ h hv => h.inputs_read hinner hv
  case outputs => exact Field.keeps_of fun _ _ _ h hv => h.outputs_read hinner hv

theorem decoder_ok (hcx : cx.Holds 2) (h : record.decoder cx t = .ok spec) : spec.ReadIn cx := by
  obtain ⟨draft, hdraft, hb⟩ :=
    Record.decoder_ok (r := record) (Node.partsFit_empty hcx) (fun _ => keeps_partsFit) h
  obtain rfl := Except.ok.inj hb
  exact hdraft

end NodeSpec

namespace NodePatch

variable {p : NodePatch}

/-- A patch that has the form of those that are read in a context. -/
structure ReadIn (cx : Context) (p : NodePatch) : Prop where
  position : ∀ q ∈ p.position, q.Finite
  properties : ∀ v ∈ p.properties, v.PartOf cx

theorem keeps_readIn (hinner : cx.enter = .ok inner) : ∀ f ∈ record.fields,
    f.Keeps inner fun draft => ReadIn cx ⟨draft.position.getD none, draft.properties.getD none⟩ := by
  simp only [record, List.forall_mem_cons]
  refine ⟨?position, ?properties, by simp⟩
  case position =>
    exact Field.keeps_of fun _ _ _ h hv => ⟨Position.option_decoder_ok hv, h.properties⟩
  case properties =>
    exact Field.keeps_of fun _ _ _ h hv => ⟨h.position, Json.partOf_of_option hinner hv⟩

theorem decoder_ok (h : record.decoder cx t = .ok p) : p.ReadIn cx := by
  obtain ⟨draft, hdraft, hb⟩ :=
    Record.decoder_ok (r := record) ⟨by simp [record], by simp [record]⟩ (fun _ => keeps_readIn) h
  obtain rfl := Except.ok.inj hb
  exact hdraft

end NodePatch

end Flowboard
