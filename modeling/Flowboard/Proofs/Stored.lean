import Flowboard.Proofs.Document
import Flowboard.Proofs.Listing

/-! What a store holds that has been filled by commands which were read from JSON. -/
namespace Flowboard

variable {cx : Context}

namespace Store

variable {s : Store} {id : String} {w : Workflow} {n : Node} {p : NodePatch}

/-- Each workflow stands under its own id, and its nodes have the form of those that are read. -/
structure Fits (cx : Context) (s : Store) : Prop where
  sorted : s.workflows.Sorted
  keyed : ∀ e ∈ s.workflows, e.2.id = e.1
  nodes : ∀ e ∈ s.workflows, ∀ n ∈ e.2.nodes, n.ReadIn cx

theorem fits_empty : Fits cx empty :=
  ⟨.nil, by simp [empty], by simp [empty]⟩

theorem Fits.toKeyed (hs : s.Fits cx) : s.Keyed :=
  ⟨hs.sorted, hs.keyed⟩

theorem Fits.put (hs : s.Fits cx) (hid : w.id = id) (hw : ∀ n ∈ w.nodes, n.ReadIn cx) :
    (s.put id w).Fits cx := by
  obtain ⟨hsorted, hkeyed⟩ := hs.toKeyed.put hid
  refine ⟨hsorted, hkeyed, fun e he => ?_⟩
  obtain rfl | he := Table.mem_insert he
  · exact hw
  · exact hs.nodes e he

theorem Fits.of_get (hs : s.Fits cx) (h : s.get id = .ok w) :
    w.id = id ∧ ∀ n ∈ w.nodes, n.ReadIn cx :=
  ⟨hs.toKeyed.id_eq h, hs.nodes _ (hs.toKeyed.get_eq_ok_iff.mp h)⟩

/-- Every workflow of a store is found under its id. -/
theorem Fits.of_mem_list (hs : s.Fits cx) (h : w ∈ s.list) :
    s.get w.id = .ok w ∧ ∀ n ∈ w.nodes, n.ReadIn cx := by
  have hget := hs.toKeyed.mem_list.mp h
  exact ⟨hget, (hs.of_get hget).2⟩

/-- A patch that has been read leaves a node that has the form of those that are read. -/
theorem patchNode_readIn {m : Node} (hp : p.ReadIn cx) (hn : n.ReadIn cx)
    (h : patchNode p n = .ok m) : m.ReadIn cx := by
  obtain ⟨kind, rfl, hkept, hread⟩ := patchNode_eq_ok_iff.mp h
  have hposition : (p.position.getD n.position).Finite := by
    cases hq : p.position with
    | none => exact hn.parts.position _ rfl
    | some q => exact hp.position q hq
  cases hv : p.properties with
  | none =>
    obtain rfl := hkept hv
    exact ⟨hn.kind, hn.parts.position_read (by simpa using hposition)⟩
  | some v =>
    have hparts : Node.PartsFit cx (some (p.position.getD n.position)) (some v) n.inputs n.outputs :=
      ⟨by simpa using hposition, hv ▸ hp.properties, hn.parts.inputs, hn.parts.outputs⟩
    exact hparts.readIn (hread v hv)

end Store

namespace Shared

open Store

variable {s t : Store} {c : Command} {d : Draw} {a : Answer}

/-- What comes with a command has been read in a context, which for the trees of JSON values is
`.value`. -/
def Command.ReadIn (cx : Context) : Command → Prop
  | .create r => ∃ t, NewWorkflow.record.decoder cx t = .ok r
  | .update _ p => ∃ t, WorkflowPatch.record.decoder cx t = .ok p
  | .appendNode _ spec => ∃ t, NodeSpec.record.decoder cx t = .ok spec
  | .updateNode _ _ p => ∃ t, NodePatch.record.decoder cx t = .ok p
  | .appendConnection _ spec => ∃ t, ConnectionSpec.record.decoder cx t = .ok spec

/-- What commands that have been read make of a store fits. -/
theorem perform_fits (hcx : cx.Holds 4) (hc : c.ReadIn cx) (hs : s.Fits cx)
    (h : c.perform d s = some (t, a)) : t.Fits cx := by
  cases effect_of_perform h with
  | refused => exact hs
  | created => exact hs.put rfl (by simp [newWorkflow, Workflow.empty])
  | @updated id p w known =>
    obtain ⟨tree, hp⟩ := hc
    have hp := WorkflowPatch.decoder_ok hcx hp
    obtain ⟨hid, hnodes⟩ := hs.of_get known
    refine hs.put hid ?_
    cases hgiven : p.nodes with
    | none => simpa [applyPatch, hgiven] using hnodes
    | some ns => simpa [applyPatch, hgiven] using (hp ns hgiven).readIn
  | nodeAdded known fit =>
    obtain ⟨tree, hspec⟩ := hc
    have hspec := NodeSpec.decoder_ok (hcx.mono (by decide)) hspec
    obtain ⟨hid, hnodes⟩ := hs.of_get known
    refine hs.put hid (List.forall_mem_append.mpr ⟨hnodes, List.forall_mem_singleton.mpr ?_⟩)
    exact Node.PartsFit.readIn hspec fit
  | nodeEdited known nodes first named patched =>
    obtain ⟨tree, hp⟩ := hc
    have hp := NodePatch.decoder_ok hp
    obtain ⟨hid, hnodes⟩ := hs.of_get known
    rw [nodes] at hnodes
    obtain ⟨hbefore, hrest⟩ := List.forall_mem_append.mp hnodes
    obtain ⟨hn, hafter⟩ := List.forall_mem_cons.mp hrest
    refine hs.put hid (List.forall_mem_append.mpr ⟨hbefore, List.forall_mem_cons.mpr ⟨?_, hafter⟩⟩)
    exact patchNode_readIn hp hn patched
  | connectionAdded known =>
    obtain ⟨hid, hnodes⟩ := hs.of_get known
    exact hs.put hid hnodes

/-- The stores that commands which have been read in a context make of the empty one. -/
inductive Reached (cx : Context) : Store → Prop
  | empty : Reached cx Store.empty
  | perform {s t : Store} {c : Command} {d : Draw} {a : Answer} (before : Reached cx s)
      (read : c.ReadIn cx) (performed : c.perform d s = some (t, a)) : Reached cx t

/-- Whatever has been stored by commands that were read has the form of what is read. -/
theorem Reached.fits (hcx : cx.Holds 4) (h : Reached cx s) : s.Fits cx := by
  induction h with
  | empty => exact fits_empty
  | perform before read performed ih => exact perform_fits hcx read ih performed

variable {w : Workflow}

theorem update_whole (now : Timestamp) (h : s.get w.id = .ok w) :
    s.update now w.id (.whole w) =
      .ok (s.put w.id { w with updatedAt := now }, { w with updatedAt := now }) := by
  simp [update, Store.modify, h, applyPatch, WorkflowPatch.whole]

/-- The value of a stored workflow is read as a patch that changes nothing but the time of the last
change, and as the workflow. -/
theorem update_with_own_value (hs : Reached .value s) (hw : w ∈ s.list) (now : Timestamp) :
    (∃ p, WorkflowPatch.record.decoder.ofJson w.json = .ok p ∧
      s.update now w.id p =
        .ok (s.put w.id { w with updatedAt := now }, { w with updatedAt := now })) ∧
    Workflow.record.decoder.ofJson w.json = .ok w := by
  obtain ⟨hget, hnodes⟩ := (hs.fits (by trivial)).of_mem_list hw
  have hpatch := (WorkflowPatch.json_yields .value hnodes).1 trivial
  have hsame := (Workflow.json_yields .value hnodes).1 trivial
  exact ⟨⟨.whole w, hpatch, update_whole now hget⟩, hsame⟩

/-- A workflow with a node of a type that is not known, and one whose properties were `null`. -/
def sketch : Workflow where
  id := "w"
  name := "Untitled Workflow"
  description := ""
  nodes :=
    [⟨"i", .other "image" [("value", .null)], .origin, [.null], []⟩,
     ⟨"p", .print "myVariable", .origin, [], []⟩]
  connections := []
  createdAt := ⟨⟨2024, 2, 29, Date.valid_leapDay⟩, 0, 0, Timestamp.clockValid_midnight⟩
  updatedAt := ⟨⟨2024, 2, 29, Date.valid_leapDay⟩, 0, 0, Timestamp.clockValid_midnight⟩

theorem reached_sketch : Reached .value ⟨[("w", sketch)]⟩ := by
  let d : Draw := ⟨sketch.createdAt, ["w"]⟩
  let image := Json.object [("id", .string "i"), ("inputs", .array [.null]),
    ("properties", .object [("value", .null)]), ("type", .string "image")]
  let print := Json.array [.string "p", .string "print", .null, .null]
  have hcreate : Reached .value ⟨[("w", { sketch with nodes := [] })]⟩ :=
    .perform (c := .create ⟨none, none, none⟩) (d := d) .empty ⟨(Json.object []).tree, rfl⟩ rfl
  have himage : Reached .value ⟨[("w", { sketch with nodes := sketch.nodes.take 1 })]⟩ :=
    .perform (d := d) (c := .appendNode "w" ⟨some "i", some "image", none,
      some (.object [("value", .null)]), [.null], []⟩) hcreate ⟨image.tree, rfl⟩ rfl
  exact .perform (d := d) (c := .appendNode "w" ⟨some "p", some "print", none, none, [], []⟩) himage
    ⟨print.tree, rfl⟩ rfl

/-- A type that is not known, and properties that were `null`, come back from the value as they are.
-/
theorem update_sketch_with_own_value : Reached .value ⟨[("w", sketch)]⟩ ∧
    sketch ∈ Store.list ⟨[("w", sketch)]⟩ ∧
    ∀ now, (∃ p, WorkflowPatch.record.decoder.ofJson sketch.json = .ok p ∧
      Store.update ⟨[("w", sketch)]⟩ now "w" p =
        .ok (⟨[("w", { sketch with updatedAt := now })]⟩, { sketch with updatedAt := now })) ∧
      Workflow.record.decoder.ofJson sketch.json = .ok sketch := by
  have hmem : sketch ∈ Store.list ⟨[("w", sketch)]⟩ := by simp [Store.list]
  exact ⟨reached_sketch, hmem, fun now => update_with_own_value reached_sketch hmem now⟩

end Shared

end Flowboard
