import Flowboard.Proofs.Refusal

/-! What commands do to a store: nothing, or they put one workflow under one id. -/
namespace Flowboard

namespace Store

variable {α : Type} {s t : Store} {id node : String} {now : Timestamp} {v w : Workflow} {x : α}
  {missing : StoreError} {n m : Node} {ns ms : List Node} {p : NodePatch}

theorem contains_eq_false_iff :
    s.contains id = false ↔ s.get id = .error (.workflowNotFound id) := by
  simp [get_eq_error_iff]

theorem contains_of_get (h : s.get id = .ok w) : s.contains id = true := by
  by_contra hc
  simp [contains_eq_false_iff, h] at hc

theorem contains_congr (h : t.get id = s.get id) : t.contains id = s.contains id := by
  have hiff : t.contains id = false ↔ s.contains id = false := by
    rw [contains_eq_false_iff, contains_eq_false_iff, h]
  simpa using hiff

theorem unusedId?_eq_some {ids : List String} (h : s.unusedId? ids = some id) :
    id ∈ ids ∧ s.contains id = false :=
  ⟨List.mem_of_find?_eq_some h, by simpa using List.find?_some h⟩

theorem modify_eq_ok_iff {change : Workflow → Except StoreError (Workflow × α)} :
    s.modify id now change = .ok (t, x) ↔ ∃ v w, s.get id = .ok v ∧
      change { v with updatedAt := now } = .ok (w, x) ∧ t = s.put id w := by
  rw [modify]
  cases s.get id with
  | error e => simp
  | ok v =>
    simp only [Except.ok.injEq, exists_and_left, exists_eq_left']
    cases change { v with updatedAt := now } with
    | error e => simp
    | ok y =>
      obtain ⟨w, y⟩ := y
      constructor
      · intro h
        obtain ⟨rfl, rfl⟩ := Prod.mk.inj (Except.ok.inj h)
        exact ⟨w, rfl, rfl⟩
      · rintro ⟨w', h, rfl⟩
        obtain ⟨rfl, rfl⟩ := Prod.mk.inj (Except.ok.inj h)
        rfl

theorem kindOf_eq_ok_iff {type : String} {properties : Option Json} {kind : Kind} :
    kindOf type properties = .ok kind ↔ Kind.ofParts type properties = .ok kind := by
  rw [kindOf]
  cases Kind.ofParts type properties <;> simp

theorem editFirst_append {edit : Node → Except StoreError Node} {before after : List Node}
    (hbefore : ∀ b ∈ before, b.id ≠ id) (hn : n.id = id) (hedit : edit n = .ok m) :
    editFirst id edit missing (before ++ n :: after) = .ok (before ++ m :: after, m) := by
  induction before with
  | nil => simp [editFirst, hn, hedit]
  | cons b before ih =>
    obtain ⟨hb, hbefore⟩ := List.forall_mem_cons.mp hbefore
    simp [editFirst, hb, ih hbefore]

/-- An edit that succeeds changes one node, the first with the id. -/
theorem exists_of_editFirst {edit : Node → Except StoreError Node}
    (h : editFirst id edit missing ns = .ok (ms, m)) : ∃ before n after, ns = before ++ n :: after ∧
      (∀ b ∈ before, b.id ≠ id) ∧ n.id = id ∧ edit n = .ok m ∧ ms = before ++ m :: after := by
  induction ns generalizing ms with
  | nil => simp [editFirst] at h
  | cons n ns ih =>
    unfold editFirst at h
    split at h
    · rename_i hid
      split at h
      · simp at h
      · rename_i hedit
        obtain ⟨rfl, rfl⟩ := Prod.mk.inj (Except.ok.inj h)
        exact ⟨[], n, ns, rfl, by simp, hid, hedit, rfl⟩
    · rename_i hid
      split at h
      · simp at h
      · rename_i ms' m' hms
        obtain ⟨rfl, rfl⟩ := Prod.mk.inj (Except.ok.inj h)
        obtain ⟨before, n', after, rfl, hbefore, hn', hedit, rfl⟩ := ih hms
        exact ⟨n :: before, n', after, rfl, List.forall_mem_cons.mpr ⟨hid, hbefore⟩, hn', hedit, rfl⟩

/-- A patch leaves of a node all but its position and its properties. -/
theorem patchNode_eq_ok_iff : patchNode p n = .ok m ↔
    ∃ kind, m = { n with position := p.position.getD n.position, kind } ∧
      (p.properties = none → kind = n.kind) ∧
      ∀ v, p.properties = some v → Kind.ofParts n.kind.typeName (some v) = .ok kind := by
  rw [patchNode]
  cases p.properties with
  | none => simp [eq_comm]
  | some v =>
    simp only [reduceCtorEq, false_implies, Option.some.injEq, forall_eq', true_and,
      ← kindOf_eq_ok_iff]
    cases kindOf n.kind.typeName (some v) <;> simp [eq_comm]

theorem editNode_eq_ok_iff : editNode id node p v = .ok (w, m) ↔ ∃ ms,
    editFirst node (patchNode p) (.nodeNotFound id node) v.nodes = .ok (ms, m) ∧
      w = { v with nodes := ms } := by
  rw [editNode]
  cases editFirst node (patchNode p) (.nodeNotFound id node) v.nodes with
  | error e => simp
  | ok r =>
    obtain ⟨ms, m'⟩ := r
    constructor
    · intro h
      obtain ⟨rfl, rfl⟩ := Prod.mk.inj (Except.ok.inj h)
      exact ⟨ms, rfl, rfl⟩
    · rintro ⟨ms', h, rfl⟩
      obtain ⟨rfl, rfl⟩ := Prod.mk.inj (Except.ok.inj h)
      rfl

end Store

namespace Shared

open Store

variable {c : Command} {d : Draw} {s t : Store} {a : Answer}

/-- What a command makes of a store, and its answer. -/
inductive Effect (d : Draw) (s : Store) : Command → Store → Answer → Prop
  | refused {c e} (reason : Refuses s (.command c) e) : Effect d s c s (.error e)
  | created {r id} (chosen : r.id.or (s.unusedId? d.ids) = some id) :
      Effect d s (.create r) (s.put id (newWorkflow r id d.now)) (.workflow (newWorkflow r id d.now))
  | updated {id p w} (known : s.get id = .ok w) :
      Effect d s (.update id p) (s.put id (applyPatch p { w with updatedAt := d.now }))
        (.workflow (applyPatch p { w with updatedAt := d.now }))
  | nodeAdded {id spec kind w} (known : s.get id = .ok w)
      (fit : Kind.ofParts (spec.type.getD Node.defaultType) spec.properties = .ok kind) :
      Effect d s (.appendNode id spec) (s.put id (addNode kind spec { w with updatedAt := d.now }).1)
        (.node (addNode kind spec { w with updatedAt := d.now }).2)
  | nodeEdited {id node p w before n after m} (known : s.get id = .ok w)
      (nodes : w.nodes = before ++ n :: after) (first : ∀ b ∈ before, b.id ≠ node)
      (named : n.id = node) (patched : patchNode p n = .ok m) :
      Effect d s (.updateNode id node p)
        (s.put id { w with nodes := before ++ m :: after, updatedAt := d.now }) (.node m)
  | connectionAdded {id spec ends w} (known : s.get id = .ok w) (given : endsOf spec = .ok ends) :
      Effect d s (.appendConnection id spec)
        (s.put id (addConnection spec.id ends { w with updatedAt := d.now }).1)
        (.connection (addConnection spec.id ends { w with updatedAt := d.now }).2)

theorem ok_of_settle {α : Type} {answer : α → Answer} {r : Except StoreError (Store × α)}
    (h : some (settle s answer r) = some (t, a)) (ha : ¬ ∃ e, a = .error e) :
    ∃ x, r = .ok (t, x) ∧ a = answer x := by
  obtain ⟨rfl, rfl⟩ := Prod.mk.inj (Option.some.inj h)
  cases r with
  | error e => exact absurd ⟨e, rfl⟩ ha
  | ok x => exact ⟨x.2, rfl, rfl⟩

/-- A command has no other effects than these. -/
theorem effect_of_perform (h : c.perform d s = some (t, a)) : Effect d s c t a := by
  by_cases hrefused : ∃ e, a = .error e
  · obtain ⟨e, rfl⟩ := hrefused
    obtain ⟨reason, rfl⟩ := perform_eq_error_iff (r := .command c).mp h
    exact .refused reason
  cases c with
  | create r =>
    obtain ⟨⟨next, w⟩, hcreate, heq⟩ := Option.map_eq_some_iff.mp h
    obtain ⟨rfl, rfl⟩ := Prod.mk.inj heq
    rw [create?] at hcreate
    cases hid : r.id.or (s.unusedId? d.ids) with
    | none => simp [hid] at hcreate
    | some id =>
      obtain ⟨rfl, rfl⟩ : s.put id (newWorkflow r id d.now) = next ∧ newWorkflow r id d.now = w := by
        simpa [hid] using hcreate
      exact .created hid
  | update id p =>
    obtain ⟨x, hok, rfl⟩ := ok_of_settle h hrefused
    obtain ⟨v, w, known, hw, rfl⟩ := modify_eq_ok_iff.mp hok
    obtain ⟨rfl, rfl⟩ := Prod.mk.inj (Except.ok.inj hw)
    exact .updated known
  | appendNode id spec =>
    obtain ⟨x, hok, rfl⟩ := ok_of_settle h hrefused
    rw [appendNode] at hok
    cases hkind : kindOf (spec.type.getD Node.defaultType) spec.properties with
    | error e => simp [hkind] at hok
    | ok kind =>
      rw [hkind] at hok
      obtain ⟨v, w, known, hw, rfl⟩ := modify_eq_ok_iff.mp hok
      obtain ⟨rfl, rfl⟩ := Prod.mk.inj (Except.ok.inj hw)
      exact .nodeAdded known (kindOf_eq_ok_iff.mp hkind)
  | updateNode id node p =>
    obtain ⟨x, hok, rfl⟩ := ok_of_settle h hrefused
    obtain ⟨v, w, known, hw, rfl⟩ := modify_eq_ok_iff.mp hok
    obtain ⟨ms, hms, rfl⟩ := editNode_eq_ok_iff.mp hw
    obtain ⟨before, n, after, nodes, first, named, patched, rfl⟩ := exists_of_editFirst hms
    exact .nodeEdited (w := v) known nodes first named patched
  | appendConnection id spec =>
    obtain ⟨x, hok, rfl⟩ := ok_of_settle h hrefused
    rw [appendConnection] at hok
    cases hends : endsOf spec with
    | error e => simp [hends] at hok
    | ok ends =>
      rw [hends] at hok
      obtain ⟨v, w, known, hw, rfl⟩ := modify_eq_ok_iff.mp hok
      obtain ⟨rfl, rfl⟩ := Prod.mk.inj (Except.ok.inj hw)
      exact .connectionAdded known hends

theorem perform_of_effect (h : Effect d s c t a) : c.perform d s = some (t, a) := by
  cases h with
  | refused reason => exact (perform_eq_error_iff (r := .command c)).mpr ⟨reason, rfl⟩
  | created chosen => simp [Command.perform, create?, chosen]
  | updated known => simp [Command.perform, update, Store.modify, known, settle]
  | nodeAdded known fit =>
    simp [Command.perform, appendNode, kindOf_eq_ok_iff.mpr fit, Store.modify, known, settle]
  | @nodeEdited id node p w before n after m known nodes first named patched =>
    have hedit : editNode id node p { w with updatedAt := d.now } =
        .ok ({ w with nodes := before ++ m :: after, updatedAt := d.now }, m) :=
      editNode_eq_ok_iff.mpr ⟨_, nodes ▸ editFirst_append first named patched, rfl⟩
    simp [Command.perform, updateNode, Store.modify, known, hedit, settle]
  | connectionAdded known given =>
    simp [Command.perform, appendConnection, given, Store.modify, known, settle]

/-- The workflow that a command is about, unless it makes a new one. -/
def Command.workflow? : Command → Option String
  | .create _ => none
  | .update id _ => some id
  | .appendNode id _ => some id
  | .updateNode id _ _ => some id
  | .appendConnection id _ => some id

end Shared

end Flowboard
