import Flowboard.Proofs.Properties
import Flowboard.Proofs.Succession

/-! How nodes come into a workflow and what becomes of them: a value is read as a node of a list
exactly if it can be appended as one, and a patch changes one node and nothing around it. -/
namespace Flowboard

section

variable {σ τ α β : Type} {translate : σ → τ} {cx : Context} {name : String} {t : Tree}

/-- A field of another record under the same name. To drafts that have been translated it does the
same, if it gets a value that stands under its name. -/
structure Field.Mirrors (translate : σ → τ) (cx : Context) (name : String) (t : Tree) (f : Field σ)
    (g : Field τ) : Prop where
  same : g.name = f.name
  given : ∀ draft, g.given (translate draft) = f.given draft
  read : f.name = name → ∀ draft, g.read (translate draft) cx t = (f.read draft cx t).map translate

variable {required required' : Bool} {own : String} {d : Decoder α} {get : σ → Option α}
  {set : σ → α → σ} {get' : τ → Option α} {set' : τ → α → τ}

theorem Field.mirrors_same (hget : ∀ draft, get' (translate draft) = get draft)
    (hset : ∀ draft x, set' (translate draft) x = translate (set draft x)) :
    (Field.of own required d get set).Mirrors translate cx name t
      (.of own required' d get' set') where
  same := rfl
  given draft := by simp [of, hget]
  read _ draft := by
    simp only [of]
    cases d cx t with
    | error e => rfl
    | ok x => exact congrArg _ (hset draft x)

/-- A field that may be `null` mirrors one that may not, if it is not. -/
theorem Field.mirrors_optional {get' : τ → Option (Option α)} {set' : τ → Option α → τ}
    (hget : ∀ draft, (get' (translate draft)).isSome = (get draft).isSome)
    (hset : ∀ draft x, set' (translate draft) (some x) = translate (set draft x))
    (ht : own = name → t ≠ .null) :
    (Field.of own required d get set).Mirrors translate cx name t
      (.optional own d get' set') where
  same := rfl
  given := hget
  read hown draft := by
    have hoption : Decoder.option d cx t = (d cx t).map some := by
      unfold Decoder.option
      split
      · exact absurd rfl (ht hown)
      · rfl
    simp only [optional, of, hoption]
    cases d cx t with
    | error e => rfl
    | ok x => exact congrArg _ (hset draft x)

namespace Record

variable {r : Record σ α} {r' : Record τ β} {f : Field σ} {x : α}

theorem find?_mirrors {fields : List (Field σ)} {fields' : List (Field τ)}
    (h : List.Forall₂ (Field.Mirrors translate cx name t) fields fields') :
    fields.find? (·.name == name) = none ∧ fields'.find? (·.name == name) = none ∨
      ∃ f g, fields.find? (·.name == name) = some f ∧ fields'.find? (·.name == name) = some g ∧
        f.name = name ∧ f.Mirrors translate cx name t g := by
  induction h with
  | nil => exact Or.inl ⟨rfl, rfl⟩
  | @cons f g fields fields' hfg _ ih =>
    by_cases hname : f.name = name
    · refine Or.inr ⟨f, g, ?_, ?_, hname, hfg⟩
      · simp [hname]
      · simp [hfg.same, hname]
    · have hname' : g.name ≠ name := fun h => hname (hfg.same ▸ h)
      simpa [hname, hname'] using ih

/-- One member of an object is put into both drafts, or is wrong for both in the same way. -/
theorem readMembers_cons_mirrors (hstrict : r.strict = false) (hstrict' : r'.strict = false)
    (h : List.Forall₂ (Field.Mirrors translate cx name t) r.fields r'.fields) (draft : σ)
    {rest : Members} (hrest : ∀ draft, r'.readMembers cx (translate draft) rest =
      (r.readMembers cx draft rest).map translate) :
    r'.readMembers cx (translate draft) (.cons (.ok name) t rest) =
      (r.readMembers cx draft (.cons (.ok name) t rest)).map translate := by
  obtain ⟨hf, hg⟩ | ⟨f, g, hf, hg, hname, hfg⟩ := find?_mirrors h
  · simp only [readMembers, nameError?, readMember, field?, hf, hg, hstrict, hstrict']
    cases t.skip with
    | error e => rfl
    | ok _ => exact hrest draft
  · simp only [readMembers, nameError?, readMember, field?, hf, hg, hfg.given, hfg.read hname]
    cases f.given draft with
    | true => rfl
    | false =>
      cases f.read draft cx t with
      | error e => rfl
      | ok next => exact hrest next

/-- Members make drafts that are translations of each other, or the same fault. -/
theorem readMembers_mirrors (hstrict : r.strict = false) (hstrict' : r'.strict = false)
    {ms : Table Json}
    (h : ∀ m ∈ ms, List.Forall₂ (Field.Mirrors translate cx m.1 m.2.tree) r.fields r'.fields)
    (draft : σ) : r'.readMembers cx (translate draft) (Json.treeMembers ms) =
      (r.readMembers cx draft (Json.treeMembers ms)).map translate := by
  induction ms generalizing draft with
  | nil => rfl
  | cons m ms ih =>
    obtain ⟨hm, hms⟩ := List.forall_mem_cons.mp h
    exact readMembers_cons_mirrors hstrict hstrict' hm draft (ih hms)

/-- What a member makes true of the draft is true in the end, if no field undoes it. -/
theorem holds_of_member {I : σ → Prop} {draft last : σ} {ms : Table Json} {v : Json}
    (hkeeps : ∀ f ∈ r.fields, f.Keeps cx I) (hf : r.field? name = some f)
    (hsets : ∀ draft next, f.read draft cx v.tree = .ok next → I next) (hmem : (name, v) ∈ ms)
    (h : r.readMembers cx draft (Json.treeMembers ms) = .ok last) : I last := by
  induction ms generalizing draft with
  | nil => simp at hmem
  | cons m ms ih =>
    obtain ⟨key, w⟩ := m
    unfold Json.treeMembers readMembers at h
    split at h
    · simp at h
    · split at h
      · simp at h
      · rename_i next hnext
        obtain heq | hmem := List.mem_cons.mp hmem
        · obtain ⟨rfl, rfl⟩ := Prod.mk.inj heq
          simp only [readMember, hf] at hnext
          exact readMembers_ok hkeeps _ next (hsets draft next (Decoder.under_eq_ok hnext)) h
        · exact ih hmem h

end Record

end

/-- An object that gives the id of a node as a text, and gives neither its type nor its position as
`null`. -/
structure Json.Introduces (o : Json) : Prop where
  ordered : o.Ordered
  id : ∃ id, o.member? "id" = some (.string id)
  type : o.member? "type" ≠ some .null
  position : o.member? "position" ≠ some .null

/-- What is known of a node to append from what is known of a node. -/
def Node.Draft.asked (draft : Node.Draft) : NodeSpec.Draft :=
  ⟨draft.id.map some, draft.type.map some, draft.position.map some, draft.properties, draft.inputs,
    draft.outputs⟩

/-- What is asked for by somebody who knows all that a draft says. -/
def Node.Draft.spec (draft : Node.Draft) : NodeSpec :=
  ⟨draft.id, draft.type, draft.position, draft.properties.getD none, draft.inputs.getD [],
    draft.outputs.getD []⟩

variable {cx : Context} {o : Json} {n m : Node} {draft : Node.Draft} {spec : NodeSpec}
  {ms : Table Json} {s t : Store} {id node : String} {now : Timestamp} {w : Workflow}

theorem Json.Introduces.exists_members (h : o.Introduces) : ∃ ms id, o = .object ms ∧
    ("id", .string id) ∈ ms ∧
      ∀ m ∈ ms, m.1 = "id" ∨ m.1 = "type" ∨ m.1 = "position" → m.2.tree ≠ .null := by
  obtain ⟨hordered, ⟨id, hid⟩, htype, hposition⟩ := h
  cases o with
  | object ms =>
    refine ⟨ms, id, rfl, Table.mem_of_get? hid, fun m hm hname htree => ?_⟩
    obtain ⟨key, v⟩ := m
    have hget : Table.get? ms key = some v := Table.get?_of_mem hordered.1 hm
    have hv : v = .null := by cases v <;> simp [tree] at htree ⊢
    subst hv
    obtain rfl | rfl | rfl := hname
    · simp [member?, hget] at hid
    · exact htype hget
    · exact hposition hget
  | _ => simp [member?] at hid

/-- The members of an object that introduces a node say the same of a node and of a request for one.
-/
theorem Node.readMembers_asked (h : ∀ m ∈ ms, m.1 = "id" ∨ m.1 = "type" ∨ m.1 = "position" →
      m.2.tree ≠ .null) (draft : Node.Draft) :
    NodeSpec.record.readMembers cx draft.asked (Json.treeMembers ms) =
      (Node.record.readMembers cx draft (Json.treeMembers ms)).map Node.Draft.asked := by
  refine Record.readMembers_mirrors rfl rfl (fun m hm => ?_) draft
  have hnull : ∀ name, name = "id" ∨ name = "type" ∨ name = "position" → name = m.1 →
      m.2.tree ≠ .null := by
    rintro name hname rfl
    exact h m hm hname
  exact .cons (Field.mirrors_optional (fun _ => Option.isSome_map ..) (fun _ _ => rfl)
      (hnull _ (by simp)))
    (.cons (Field.mirrors_optional (fun _ => Option.isSome_map ..) (fun _ _ => rfl)
      (hnull _ (by simp)))
    (.cons (Field.mirrors_optional (fun _ => Option.isSome_map ..) (fun _ _ => rfl)
      (hnull _ (by simp)))
    (.cons (Field.mirrors_same (fun _ => rfl) fun _ _ => rfl)
    (.cons (Field.mirrors_same (fun _ => rfl) fun _ _ => rfl)
    (.cons (Field.mirrors_same (fun _ => rfl) fun _ _ => rfl) .nil)))))

/-- A draft makes a node when it has an id and its properties go with its type. -/
theorem Node.build_eq_ok_iff : Node.record.build draft = .ok n ↔ ∃ id kind, draft.id = some id ∧
    Kind.ofParts (draft.type.getD Node.defaultType) (draft.properties.getD none) = .ok kind ∧
    n = ⟨id, kind, draft.position.getD .origin, draft.inputs.getD [], draft.outputs.getD []⟩ := by
  obtain ⟨id, type, position, properties, inputs, outputs⟩ := draft
  simp only [record, bind, Except.bind]
  cases id with
  | none => simp [Record.require]
  | some id =>
    simp only [Record.require]
    cases Kind.ofParts (type.getD defaultType) (properties.getD none) <;> simp [eq_comm]

theorem NodeSpec.build_asked (draft : Node.Draft) :
    NodeSpec.record.build draft.asked = .ok draft.spec := by
  obtain ⟨id, type, position, properties, inputs, outputs⟩ := draft
  cases id <;> cases type <;> cases position <;> rfl

/-- What the members of an object say about a node. -/
def Node.Drafted (cx : Context) (o : Json) (draft : Node.Draft) : Prop :=
  ∃ ms inner, o = .object ms ∧ cx.enter = .ok inner ∧
    Node.record.readMembers inner Node.record.empty (Json.treeMembers ms) = .ok draft

theorem Node.Drafted.exists_id (h : Node.Drafted cx o draft) (ho : o.Introduces) :
    ∃ id, draft.id = some id := by
  obtain ⟨ms, id, rfl, hid, -⟩ := ho.exists_members
  obtain ⟨_, inner, hms, -, hdraft⟩ := h
  obtain rfl := Json.object.inj hms
  refine Record.holds_of_member (I := fun draft : Node.Draft => ∃ id, draft.id = some id) ?_ rfl
    (fun _ _ hread => ?_) hid hdraft
  · simp only [Node.record, List.forall_mem_cons]
    exact ⟨Field.keeps_of fun _ _ x _ _ => ⟨x, rfl⟩, Field.keeps_other fun _ _ h => h,
      Field.keeps_other fun _ _ h => h, Field.keeps_other fun _ _ h => h,
      Field.keeps_other fun _ _ h => h, Field.keeps_other fun _ _ h => h, by simp⟩
  · obtain rfl := Except.ok.inj hread
    exact ⟨id, rfl⟩

/-- An object is read as a node when its draft makes one. -/
theorem Node.decoder_iff_drafted (ho : o.Introduces) : Node.record.decoder cx o.tree = .ok n ↔
    ∃ draft, Node.Drafted cx o draft ∧ Node.record.build draft = .ok n := by
  obtain ⟨ms, id, rfl, -⟩ := ho.exists_members
  rw [Json.tree, Record.decoder_object_eq_ok_iff]
  constructor
  · rintro ⟨inner, draft, hinner, hdraft, hb⟩
    exact ⟨draft, ⟨ms, inner, rfl, hinner, hdraft⟩, hb⟩
  · rintro ⟨draft, ⟨_, inner, hms, hinner, hdraft⟩, hb⟩
    obtain rfl := Json.object.inj hms
    exact ⟨inner, draft, hinner, hdraft, hb⟩

theorem NodeSpec.decoder_iff_drafted (ho : o.Introduces) :
    NodeSpec.record.decoder cx o.tree = .ok spec ↔
      ∃ draft, Node.Drafted cx o draft ∧ spec = draft.spec := by
  obtain ⟨ms, id, rfl, -, hnull⟩ := ho.exists_members
  have hempty : NodeSpec.record.empty = Node.record.empty.asked := rfl
  rw [Json.tree, Record.decoder_object_eq_ok_iff]
  simp only [hempty, Node.readMembers_asked hnull]
  constructor
  · rintro ⟨inner, asked, hinner, hasked, hb⟩
    obtain ⟨draft, hdraft, rfl⟩ := Decoder.map_eq_ok hasked
    rw [NodeSpec.build_asked] at hb
    exact ⟨draft, ⟨ms, inner, rfl, hinner, hdraft⟩, (Except.ok.inj hb).symm⟩
  · rintro ⟨draft, ⟨_, inner, hms, hinner, hdraft⟩, rfl⟩
    obtain rfl := Json.object.inj hms
    exact ⟨inner, draft.asked, hinner, by rw [hdraft]; rfl, NodeSpec.build_asked draft⟩

/-- A request for a node is granted when its properties go with its type; the node then stands last.
-/
theorem Store.appendNode_eq_ok_iff (hw : s.get id = .ok w) :
    s.appendNode now id spec = .ok (t, n) ↔
      (∃ kind, Kind.ofParts (spec.type.getD Node.defaultType) spec.properties = .ok kind ∧
        n = ⟨spec.id.getD w.nextNodeId, kind, spec.position.getD .origin, spec.inputs,
          spec.outputs⟩) ∧
      t = s.put id { w with nodes := w.nodes ++ [n], updatedAt := now } := by
  rw [appendNode, kindOf]
  cases Kind.ofParts (spec.type.getD Node.defaultType) spec.properties with
  | error e => simp
  | ok kind =>
    simp only [Store.modify, hw, addNode, Except.ok.injEq, Prod.mk.injEq, exists_eq_left']
    constructor
    · rintro ⟨rfl, rfl⟩
      exact ⟨rfl, rfl⟩
    · rintro ⟨rfl, rfl⟩
      exact ⟨rfl, rfl⟩

/-- An object that introduces a node is read as a node exactly if it is read as a request for one
and the request is granted. The node of the answer, which then stands behind all others, is the one
that is read. -/
theorem appended_iff_read (ho : o.Introduces) (hw : s.get id = .ok w) (cx : Context)
    (now : Timestamp) :
    (∀ n, Node.record.decoder cx o.tree = .ok n → ∃ spec,
      NodeSpec.record.decoder cx o.tree = .ok spec ∧ s.appendNode now id spec =
        .ok (s.put id { w with nodes := w.nodes ++ [n], updatedAt := now }, n)) ∧
    ∀ spec t n, NodeSpec.record.decoder cx o.tree = .ok spec →
      s.appendNode now id spec = .ok (t, n) →
      Node.record.decoder cx o.tree = .ok n ∧
        t = s.put id { w with nodes := w.nodes ++ [n], updatedAt := now } := by
  constructor
  · intro n hread
    obtain ⟨draft, hdraft, hb⟩ := (Node.decoder_iff_drafted ho).mp hread
    obtain ⟨own, kind, hid, hkind, hn⟩ := Node.build_eq_ok_iff.mp hb
    refine ⟨draft.spec, (NodeSpec.decoder_iff_drafted ho).mpr ⟨draft, hdraft, rfl⟩,
      (Store.appendNode_eq_ok_iff hw).mpr ⟨⟨kind, hkind, ?_⟩, rfl⟩⟩
    rw [hn, Node.Draft.spec, hid, Option.getD_some]
  · intro spec t n hread happend
    obtain ⟨draft, hdraft, rfl⟩ := (NodeSpec.decoder_iff_drafted ho).mp hread
    obtain ⟨⟨kind, hkind, hn⟩, ht⟩ := (Store.appendNode_eq_ok_iff hw).mp happend
    obtain ⟨own, hid⟩ := hdraft.exists_id ho
    refine ⟨(Node.decoder_iff_drafted ho).mpr ⟨draft, hdraft, Node.build_eq_ok_iff.mpr
      ⟨own, kind, hid, hkind, ?_⟩⟩, ht⟩
    rw [hn, Node.Draft.spec, hid, Option.getD_some]

/-- A node with its position in a list, properties that are `null`, and a member that no node
has. -/
def introduction : Json :=
  .object [("id", .string "n"), ("position", .array [.number (.natural ⟨1, by decide⟩)]),
    ("properties", .null), ("shape", .bool true), ("type", .string "print")]

/-- The member that no node has is passed over, and the properties take their default. -/
theorem appended_iff_read_introduction : introduction.Introduces ∧
    Node.record.decoder .value introduction.tree =
      .ok ⟨"n", .print "myVariable", ⟨.ofDouble (.ofNat 1), .zero⟩, [], []⟩ ∧
    ∃ w spec t, Shared.crowdedStore.get "w" = .ok w ∧
      NodeSpec.record.decoder .value introduction.tree = .ok spec ∧
      Shared.crowdedStore.appendNode Shared.laterDraw.now "w" spec =
        .ok (t, ⟨"n", .print "myVariable", ⟨.ofDouble (.ofNat 1), .zero⟩, [], []⟩) := by
  have hintroduces : introduction.Introduces := by
    refine ⟨⟨?_, trivial, ⟨trivial, trivial⟩, trivial, trivial, trivial, trivial⟩, ⟨"n", rfl⟩,
      ?_, ?_⟩
    · simp only [Table.Sorted]
      decide
    · decide +kernel
    · decide +kernel
  have hread : Node.record.decoder .value introduction.tree =
      .ok ⟨"n", .print "myVariable", ⟨.ofDouble (.ofNat 1), .zero⟩, [], []⟩ := by rfl
  have hw : Shared.crowdedStore.get "w" = .ok _ := rfl
  obtain ⟨spec, hspec, happend⟩ := (appended_iff_read hintroduces hw .value _).1 _ hread
  exact ⟨hintroduces, hread, _, spec, _, hw, hspec, happend⟩

namespace Store

variable {p : NodePatch} {before after : List Node}

/-- What a patch makes of a node. Properties that it gives are taken on their own, as those of the
type that the node has, so that nothing remains of the old ones. -/
structure Patches (p : NodePatch) (n m : Node) : Prop where
  id : m.id = n.id
  typeName : m.kind.typeName = n.kind.typeName
  inputs : m.inputs = n.inputs
  outputs : m.outputs = n.outputs
  position : m.position = p.position.getD n.position
  kept : p.properties = none → m.kind = n.kind
  replaced : ∀ v, p.properties = some v → Kind.ofParts n.kind.typeName (some v) = .ok m.kind
  reset : ∀ v, p.properties = some v → v.Ordered →
    Kind.Normalizes n.kind.typeName (some v) m.kind

theorem patches_of_patchNode (h : patchNode p n = .ok m) : Patches p n m := by
  obtain ⟨kind, rfl, hkept, hreplaced⟩ := patchNode_eq_ok_iff.mp h
  have htype : kind.typeName = n.kind.typeName := by
    cases hp : p.properties with
    | none => rw [hkept hp]
    | some v => exact Kind.typeName_of_ofParts (hreplaced v hp)
  exact ⟨rfl, htype, rfl, rfl, rfl, hkept, hreplaced, fun v hp hv =>
    Kind.normalizes_of_ofParts (by simpa using hv) (hreplaced v hp)⟩

/-- What a patch says of a node that it has made is what the node is. -/
theorem Patches.again (h : Patches p n m) : patchNode p m = .ok m := by
  refine patchNode_eq_ok_iff.mpr ⟨m.kind, ?_, fun _ => rfl, fun v hv => ?_⟩
  · have hposition : p.position.getD m.position = m.position := by
      rw [h.position]
      cases p.position <;> rfl
    rw [hposition]
  · rw [h.typeName]
    exact h.replaced v hv

/-- The first node with the id is patched where it stands. -/
theorem updateNode_eq_ok (hw : s.get id = .ok w) (hnodes : w.nodes = before ++ n :: after)
    (hbefore : ∀ b ∈ before, b.id ≠ node) (hn : n.id = node) (hm : patchNode p n = .ok m) :
    s.updateNode now id node p =
      .ok (s.put id { w with nodes := before ++ m :: after, updatedAt := now }, m) := by
  refine modify_eq_ok_iff.mpr
    ⟨w, _, hw, editNode_eq_ok_iff.mpr ⟨before ++ m :: after, ?_, rfl⟩, rfl⟩
  rw [hnodes]
  exact editFirst_append hbefore hn hm

theorem exists_of_updateNode (h : s.updateNode now id node p = .ok (t, m)) :
    ∃ w before n after, s.get id = .ok w ∧ w.nodes = before ++ n :: after ∧
      (∀ b ∈ before, b.id ≠ node) ∧ n.id = node ∧ patchNode p n = .ok m ∧
      t = s.put id { w with nodes := before ++ m :: after, updatedAt := now } := by
  obtain ⟨w, v, hw, hv, rfl⟩ := modify_eq_ok_iff.mp h
  obtain ⟨ms, hms, rfl⟩ := editNode_eq_ok_iff.mp hv
  obtain ⟨before, n, after, hnodes, hbefore, hn, hm, rfl⟩ := exists_of_editFirst hms
  exact ⟨w, before, n, after, hw, hnodes, hbefore, hn, hm, rfl⟩

/-- A patch that is accepted changes the first node with the id and when its workflow was changed
last, and nothing else in the store. It does the same to the node when it comes again. -/
theorem updateNode_changes_node (h : s.updateNode now id node p = .ok (t, m)) :
    ∃ w v before n after, s.get id = .ok w ∧ t.get id = .ok v ∧
      (∀ other, other ≠ id → t.get other = s.get other) ∧
      w.nodes = before ++ n :: after ∧ (∀ b ∈ before, b.id ≠ node) ∧ n.id = node ∧
      v = { w with nodes := before ++ m :: after, updatedAt := now } ∧
      Patches p n m ∧ v.node? node = some m ∧
      ∀ later, t.updateNode later id node p = .ok (t.put id { v with updatedAt := later }, m) := by
  obtain ⟨w, before, n, after, hw, hnodes, hbefore, hn, hm, rfl⟩ := exists_of_updateNode h
  have hpatches := patches_of_patchNode hm
  have hm' : m.id = node := hpatches.id.trans hn
  refine ⟨w, _, before, n, after, hw, get_put_self .., fun other hother => get_put_of_ne _ _ hother,
    hnodes, hbefore, hn, rfl, hpatches, ?_, fun later => ?_⟩
  · have hfirst : before.find? (·.id == node) = none := by simpa using hbefore
    simp [Workflow.node?, List.find?_append, hfirst, hm']
  · exact updateNode_eq_ok (get_put_self ..) rfl hbefore hm' hpatches.again

/-- The patch of the first of two nodes with one id, whose text it leaves to the default. -/
def resettingPatch : NodePatch :=
  ⟨none, some (.object [])⟩

/-- The text goes back to the default, the other node with the id stays, and the patch can be given
again. -/
theorem updateNode_changes_node_resetting : ∃ t v,
    Shared.crowdedStore.updateNode Shared.laterDraw.now "w" "n" resettingPatch =
      .ok (t, ⟨"n", .print "myVariable", .origin, [], []⟩) ∧
    t.get "w" = .ok v ∧ v.nodes = [⟨"n", .print "myVariable", .origin, [], []⟩,
      ⟨"n", .assign "x" "1", .origin, [], []⟩] ∧
    ∀ later, ∃ u, t.updateNode later "w" "n" resettingPatch =
      .ok (u, ⟨"n", .print "myVariable", .origin, [], []⟩) := by
  have h : Shared.crowdedStore.updateNode Shared.laterDraw.now "w" "n" resettingPatch =
      .ok (_, ⟨"n", .print "myVariable", .origin, [], []⟩) := rfl
  obtain ⟨w, v, before, n, after, -, hv, -, -, -, -, -, -, -, hagain⟩ := updateNode_changes_node h
  refine ⟨_, v, h, hv, ?_, fun later => ⟨_, hagain later⟩⟩
  rw [← Except.ok.inj hv]
  rfl

end Store

end Flowboard
