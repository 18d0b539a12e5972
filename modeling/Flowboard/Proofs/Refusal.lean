import Flowboard.Proofs.Linearizable

/-! Which requests a store refuses and why, and that a refused request changes nothing. -/
namespace Flowboard

namespace Store

variable {α : Type} {s t : Store} {id node : String} {now : Timestamp} {w : Workflow} {e : StoreError}
  {missing : StoreError} {n : Node} {ns : List Node} {p : NodePatch} {spec : ConnectionSpec}

theorem get_eq_error_iff : s.get id = .error e ↔ s.contains id = false ∧ e = .workflowNotFound id := by
  rw [get, contains, Table.contains_eq_isSome]
  cases s.workflows.get? id with
  | none => simp [eq_comm]
  | some w => simp

/-- A change fails because the workflow is unknown, or for its own reasons. -/
theorem modify_eq_error_iff {change : Workflow → Except StoreError (Workflow × α)} :
    s.modify id now change = .error e ↔ s.contains id = false ∧ e = .workflowNotFound id ∨
      ∃ w, s.get id = .ok w ∧ change { w with updatedAt := now } = .error e := by
  rw [← get_eq_error_iff, modify]
  cases s.get id with
  | error e => simp
  | ok w =>
    simp only [reduceCtorEq, false_or, Except.ok.injEq, exists_eq_left']
    cases change { w with updatedAt := now } <;> simp

theorem kindOf_eq_error_iff {type : String} {properties : Option Json} :
    kindOf type properties = .error e ↔
      ∃ fault, Kind.ofParts type properties = .error fault ∧ e = .invalidProperties type fault := by
  rw [kindOf]
  cases Kind.ofParts type properties <;> simp [eq_comm]

/-- An edit fails because no node has the id, or on the first one that has it. -/
theorem editFirst_eq_error_iff {edit : Node → Except StoreError Node} :
    editFirst id edit missing ns = .error e ↔ (∀ n ∈ ns, n.id ≠ id) ∧ e = missing ∨
      ∃ n, ns.find? (·.id == id) = some n ∧ edit n = .error e := by
  induction ns with
  | nil => simp [editFirst, eq_comm]
  | cons n ns ih =>
    by_cases hid : n.id = id
    · simp only [editFirst, hid, if_true]
      cases hedit : edit n <;> simp [hid, hedit]
    · simp only [editFirst, List.forall_mem_cons, List.find?_cons,
        beq_eq_false_iff_ne.mpr hid, ne_eq, hid, not_false_eq_true, true_and]
      rw [← ih]
      cases editFirst id edit missing ns <;> simp

/-- A patch fails only on properties that do not go with the type of the node. -/
theorem patchNode_eq_error_iff : patchNode p n = .error e ↔ ∃ v fault, p.properties = some v ∧
    Kind.ofParts n.kind.typeName (some v) = .error fault ∧
    e = .invalidProperties n.kind.typeName fault := by
  rw [patchNode]
  cases hp : p.properties with
  | none => simp
  | some v =>
    simp only [Option.some.injEq, exists_and_left, exists_eq_left', ← kindOf_eq_error_iff]
    cases kindOf n.kind.typeName (some v) <;> simp

theorem editNode_eq_error_iff : editNode id node p w = .error e ↔
    (∀ n ∈ w.nodes, n.id ≠ node) ∧ e = .nodeNotFound id node ∨
      ∃ n, w.node? node = some n ∧ patchNode p n = .error e := by
  rw [Workflow.node?, ← editFirst_eq_error_iff, editNode]
  cases editFirst node (patchNode p) (.nodeNotFound id node) w.nodes <;> simp

/-- The names of the fields for the ends of a connection that are not given. -/
def absentEnds (spec : ConnectionSpec) : List String :=
  (if spec.sourceNode = none then ["source_node"] else []) ++
  (if spec.sourceOutput = none then ["source_output"] else []) ++
  (if spec.targetNode = none then ["target_node"] else []) ++
  (if spec.targetInput = none then ["target_input"] else [])

/-- All ends that are not given are named at once, in the order of the fields. -/
theorem endsOf_eq_error_iff : endsOf spec = .error e ↔
    absentEnds spec ≠ [] ∧ e = .missingFields (absentEnds spec) := by
  obtain ⟨id, sourceNode, sourceOutput, targetNode, targetInput⟩ := spec
  cases sourceNode <;> cases sourceOutput <;> cases targetNode <;> cases targetInput <;>
    simp [endsOf, missingEnds, absentEnds, @eq_comm _ e]

theorem endsOf_eq_ok (h : absentEnds spec = []) : ∃ ends, endsOf spec = .ok ends := by
  cases hends : endsOf spec with
  | ok ends => exact ⟨ends, rfl⟩
  | error e => exact absurd h (endsOf_eq_error_iff.mp hends).1

end Store

namespace Shared

open Store

variable {s t : Store} {r : Request} {e : StoreError} {d : Draw}

/-- The reasons for which a store refuses a request. Fields that are given, and properties that go
by a type in the request, are looked at before the workflow; what depends on a stored node, after it. -/
inductive Refuses (s : Store) : Request → StoreError → Prop
  | get {id} (unknown : s.contains id = false) : Refuses s (.query (.get id)) (.workflowNotFound id)
  | update {id p} (unknown : s.contains id = false) :
      Refuses s (.command (.update id p)) (.workflowNotFound id)
  | newProperties {id spec fault}
      (unfit : Kind.ofParts (spec.type.getD Node.defaultType) spec.properties = .error fault) :
      Refuses s (.command (.appendNode id spec))
        (.invalidProperties (spec.type.getD Node.defaultType) fault)
  | newNode {id spec kind}
      (fit : Kind.ofParts (spec.type.getD Node.defaultType) spec.properties = .ok kind)
      (unknown : s.contains id = false) :
      Refuses s (.command (.appendNode id spec)) (.workflowNotFound id)
  | patch {id node p} (unknown : s.contains id = false) :
      Refuses s (.command (.updateNode id node p)) (.workflowNotFound id)
  | patchNode {id node p w} (known : s.get id = .ok w) (absent : ∀ n ∈ w.nodes, n.id ≠ node) :
      Refuses s (.command (.updateNode id node p)) (.nodeNotFound id node)
  | patchProperties {id node p w n properties fault} (known : s.get id = .ok w)
      (first : w.node? node = some n) (given : p.properties = some properties)
      (unfit : Kind.ofParts n.kind.typeName (some properties) = .error fault) :
      Refuses s (.command (.updateNode id node p)) (.invalidProperties n.kind.typeName fault)
  | newEnds {id spec} (absent : absentEnds spec ≠ []) :
      Refuses s (.command (.appendConnection id spec)) (.missingFields (absentEnds spec))
  | newConnection {id spec} (given : absentEnds spec = []) (unknown : s.contains id = false) :
      Refuses s (.command (.appendConnection id spec)) (.workflowNotFound id)

theorem settle_eq_error_iff {α : Type} {answer : α → Answer} (ha : ∀ x, answer x ≠ .error e)
    {r : Except StoreError (Store × α)} : settle s answer r = (t, .error e) ↔ r = .error e ∧ t = s := by
  cases r with
  | error e' => simp [settle, and_comm, eq_comm]
  | ok x => simp [settle, ha]

section

variable {id node : String} {now : Timestamp}

theorem refuses_get_iff : Refuses s (.query (.get id)) e ↔ s.get id = .error e := by
  rw [get_eq_error_iff]
  constructor
  · intro h
    cases h with
    | get unknown => exact ⟨unknown, rfl⟩
  · rintro ⟨unknown, rfl⟩
    exact .get unknown

theorem refuses_update_iff {p : WorkflowPatch} :
    Refuses s (.command (.update id p)) e ↔ s.update now id p = .error e := by
  rw [update, modify_eq_error_iff]
  constructor
  · intro h
    cases h with
    | update unknown => exact Or.inl ⟨unknown, rfl⟩
  · rintro (⟨unknown, rfl⟩ | ⟨w, -, h⟩)
    · exact .update unknown
    · simp at h

theorem refuses_appendNode_iff {spec : NodeSpec} :
    Refuses s (.command (.appendNode id spec)) e ↔ s.appendNode now id spec = .error e := by
  rw [appendNode, kindOf]
  constructor
  · intro h
    cases h with
    | newProperties unfit => rw [unfit]
    | newNode fit unknown =>
      rw [fit]
      exact modify_eq_error_iff.mpr (Or.inl ⟨unknown, rfl⟩)
  · intro h
    cases hk : Kind.ofParts (spec.type.getD Node.defaultType) spec.properties with
    | error fault =>
      obtain rfl : _ = e := by simpa [hk] using h
      exact .newProperties hk
    | ok kind =>
      simp only [hk, modify_eq_error_iff, reduceCtorEq, and_false, exists_false, or_false] at h
      obtain ⟨unknown, rfl⟩ := h
      exact .newNode hk unknown

theorem refuses_updateNode_iff {p : NodePatch} :
    Refuses s (.command (.updateNode id node p)) e ↔ s.updateNode now id node p = .error e := by
  simp only [updateNode, modify_eq_error_iff, editNode_eq_error_iff, patchNode_eq_error_iff]
  constructor
  · intro h
    cases h with
    | patch unknown => exact Or.inl ⟨unknown, rfl⟩
    | patchNode known absent => exact Or.inr ⟨_, known, Or.inl ⟨absent, rfl⟩⟩
    | patchProperties known first given unfit =>
      exact Or.inr ⟨_, known, Or.inr ⟨_, first, _, _, given, unfit, rfl⟩⟩
  · rintro (⟨unknown, rfl⟩ | ⟨w, known, ⟨absent, rfl⟩ | ⟨n, first, v, fault, given, unfit, rfl⟩⟩)
    · exact .patch unknown
    · exact .patchNode known absent
    · exact .patchProperties known first given unfit

theorem refuses_appendConnection_iff {spec : ConnectionSpec} :
    Refuses s (.command (.appendConnection id spec)) e ↔
      s.appendConnection now id spec = .error e := by
  rw [appendConnection]
  constructor
  · intro h
    cases h with
    | newEnds absent => rw [endsOf_eq_error_iff.mpr ⟨absent, rfl⟩]
    | newConnection given unknown =>
      obtain ⟨ends, hends⟩ := endsOf_eq_ok given
      rw [hends]
      exact modify_eq_error_iff.mpr (Or.inl ⟨unknown, rfl⟩)
  · intro h
    cases hends : endsOf spec with
    | error e' =>
      obtain rfl : e' = e := by simpa [hends] using h
      obtain ⟨absent, rfl⟩ := endsOf_eq_error_iff.mp hends
      exact .newEnds absent
    | ok ends =>
      have given : absentEnds spec = [] := by
        by_contra absent
        simp [endsOf_eq_error_iff.mpr ⟨absent, rfl⟩] at hends
      simp only [hends, modify_eq_error_iff, reduceCtorEq, and_false, exists_false, or_false] at h
      obtain ⟨unknown, rfl⟩ := h
      exact .newConnection given unknown

end

/-- Carried out on its own, a request is refused for its reasons and no others, and then leaves the
store as it was. -/
theorem perform_eq_error_iff : r.perform d s = some (t, .error e) ↔ Refuses s r e ∧ t = s := by
  cases r with
  | query q =>
    cases q with
    | get id =>
      rw [refuses_get_iff]
      simp only [Request.perform, Query.answer]
      cases s.get id <;> simp [and_comm, eq_comm]
    | list => exact ⟨by simp [Request.perform, Query.answer], nofun⟩
    | size => exact ⟨by simp [Request.perform, Query.answer], nofun⟩
  | command c =>
    cases c with
    | create new => exact ⟨by simp [Request.perform, Command.perform], nofun⟩
    | update id p =>
      rw [refuses_update_iff]
      simpa only [Request.perform, Command.perform, Option.some.injEq] using
        settle_eq_error_iff (by simp)
    | appendNode id spec =>
      rw [refuses_appendNode_iff]
      simpa only [Request.perform, Command.perform, Option.some.injEq] using
        settle_eq_error_iff (by simp)
    | updateNode id node p =>
      rw [refuses_updateNode_iff]
      simpa only [Request.perform, Command.perform, Option.some.injEq] using
        settle_eq_error_iff (by simp)
    | appendConnection id spec =>
      rw [refuses_appendConnection_iff]
      simpa only [Request.perform, Command.perform, Option.some.injEq] using
        settle_eq_error_iff (by simp)

/-- The drawn ids are enough for a new workflow without one. -/
def Draw.Suffices (d : Draw) (s : Store) : Prop :=
  ∃ id ∈ d.ids, s.contains id = false

theorem exists_perform (h : d.Suffices s) : ∃ t a, r.perform d s = some (t, a) := by
  cases r with
  | query q => exact ⟨s, q.answer s, rfl⟩
  | command c =>
    cases c with
    | create new =>
      obtain ⟨id, hid, hfree⟩ := h
      have hunused : (s.unusedId? d.ids).isSome := by
        simpa [unusedId?, List.find?_isSome] using ⟨id, hid, hfree⟩
      obtain ⟨unused, hunused⟩ := Option.isSome_iff_exists.mp hunused
      obtain ⟨taken, htaken⟩ : ∃ taken, new.id.or (s.unusedId? d.ids) = some taken := by
        cases new.id <;> simp [hunused]
      simp [Request.perform, Command.perform, create?, htaken]
    | update id p => exact ⟨_, _, rfl⟩
    | appendNode id spec => exact ⟨_, _, rfl⟩
    | updateNode id node p => exact ⟨_, _, rfl⟩
    | appendConnection id spec => exact ⟨_, _, rfl⟩

variable {Client : Type} [DecidableEq Client] {σ τ : State Client} {event : Event Client} {q : Point}

/-- Among others, too, an operation that is answered with an error leaves the current store as it is,
and the error is right for it. -/
theorem step_refuses (h : Step σ event τ) (hσ : Sound σ) (hq : event.point? = some q)
    (he : q.answer = .error e) (d : Draw) :
    Refuses σ.current.store q.request e ∧ τ.current.store = σ.current.store := by
  obtain ⟨d, hperform⟩ := (step_performs h hσ hq).perform d
  rw [he] at hperform
  exact perform_eq_error_iff.mp hperform

/-- A request is refused exactly for its reasons and then changes nothing, whether its client is
alone with the store or its steps come between those of others; and it is answered in all other
cases. -/
theorem refused_exactly (d : Draw) (s : Store) (r : Request) :
    (∀ t e, r.perform d s = some (t, .error e) ↔ Refuses s r e ∧ t = s) ∧
    (d.Suffices s → ∃ t a, r.perform d s = some (t, a)) ∧
    ∀ (Client : Type) [DecidableEq Client] (tag : Nat) (before : List (Event Client))
      (σ τ : State Client) (event : Event Client) (q : Point) (e : StoreError),
      Run (.initial s tag) before σ → Step σ event τ → event.point? = some q →
      q.answer = .error e →
      Refuses σ.current.store q.request e ∧ τ.current.store = σ.current.store :=
  ⟨fun _ _ => perform_eq_error_iff, exists_perform,
    fun _ _ _ _ _ _ _ _ _ run step hq he => step_refuses step (run_sound run) hq he d⟩

/-- Two nodes share an id, and what the patch says about the first one would fit the second. -/
def crowdedStore : Store :=
  let time : Timestamp := ⟨⟨2024, 2, 29, Date.valid_leapDay⟩, 0, 0, Timestamp.clockValid_midnight⟩
  Store.empty.put "w" { Workflow.empty "w" "twins" time with
    nodes := [⟨"n", .print "hello", .origin, [], []⟩, ⟨"n", .assign "x" "1", .origin, [], []⟩] }

def crowdedPatch : Request :=
  .command (.updateNode "w" "n" ⟨some ⟨.ofDouble (.ofNat 7), .zero⟩, some (.object [("value", .string "2")])⟩)

def laterDraw : Draw :=
  ⟨⟨⟨2024, 3, 1, Date.valid_afterLeapDay⟩, 0, 0, Timestamp.clockValid_midnight⟩, ["w", "free"]⟩

/-- The first of the two nodes decides, and refuses what the other one would take. -/
theorem crowdedPatch_refused :
    crowdedPatch.perform laterDraw crowdedStore = some (crowdedStore,
      .error (.invalidProperties "print" (.unknownField "value" ["message"]))) ∧
    laterDraw.Suffices crowdedStore ∧
    ∃ t a, crowdedPatch.perform laterDraw crowdedStore = some (t, a) := by
  obtain ⟨hrefused, hanswered, -⟩ := refused_exactly laterDraw crowdedStore crowdedPatch
  have hsuffices : laterDraw.Suffices crowdedStore := ⟨"free", by decide, by decide⟩
  have hreason : Refuses crowdedStore crowdedPatch
      (.invalidProperties "print" (.unknownField "value" ["message"])) :=
    .patchProperties (n := ⟨"n", .print "hello", .origin, [], []⟩) rfl rfl rfl rfl
  exact ⟨(hrefused _ _).mpr ⟨hreason, rfl⟩, hsuffices, hanswered hsuffices⟩

end Shared

end Flowboard
