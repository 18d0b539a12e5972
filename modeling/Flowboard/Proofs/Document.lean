import Flowboard.Proofs.Encoding

/-! Documents of workflows: what has been loaded from one is saved as another that loads as the same
workflow. -/
namespace Flowboard.Workflow

variable {s : String} {w : Workflow}

theorem ofText_of_ofDocument (h : ofDocument s = .ok w) : record.decoder.ofText s = .ok w := by
  unfold ofDocument at h
  split at h
  · rename_i hread
    rw [hread, Except.ok.inj h]
  · simp at h

/-- Workflows that are loaded leave the depth that documents may have. -/
theorem decoded_of_ofDocument (h : ofDocument s = .ok w) :
    (∀ n ∈ w.nodes, n.ReadIn .value) ∧ Context.document.Holds w.json.nesting := by
  obtain ⟨t, -, -, -, ht⟩ := Decoder.exists_tree_of_ofSymbols (ofText_of_ofDocument h)
  exact decoder_ok (by simp [Context.document, Context.Holds]) ht

/-- A text that shows the value of a workflow loads as the workflow, unless it is nested too deep. -/
theorem ofDocument_of_tree (hn : ∀ n ∈ w.nodes, n.ReadIn .value)
    (hs : record.decoder.ofText s = record.decoder .document w.json.tree) : ofDocument s =
      if Context.document.Holds w.json.nesting then .ok w else .error (.text .nestingTooDeep) := by
  have hread := json_yields .document hn
  unfold ofDocument
  rw [hs]
  split_ifs with hdepth
  · rw [hread.1 hdepth]
  · obtain ⟨path, hpath⟩ := hread.2 hdepth
    rw [hpath]

/-- What has been loaded from any text is loaded again from its own document, if its doubles are
read back from their texts. -/
theorem ofDocument_document (h : ofDocument s = .ok w) (hd : ∀ d ∈ w.json.doubles, d.ReadsBack) :
    ofDocument w.document = .ok w := by
  obtain ⟨hnodes, hdepth⟩ := decoded_of_ofDocument h
  have htree := Decoder.ofText_renderPretty record.decoder hd
  rw [document, ofDocument_of_tree hnodes htree, if_pos hdepth]

/-- A document with lists in place of objects, escapes, a name given twice, fields left out and an
unknown one, and points in time that are written in other ways, one of them in a leap second. -/
def looseDocument : String :=
  "[\"w\\u0031\", \"a\\\"\", \"\", [[\"n\", \"image\", [1, -2.5], \x7b\"b\": null, \"a\": 1, " ++
  "\"a\": [1e2]\x7d], \x7b\"id\": \"p\", \"type\": \"print\", \"x\": 0\x7d], [], " ++
  "\"2024-02-29 00:59:60.50+01:30\", \"2024-3-1t0:00:00z\"]"

/-- What the loose document says. -/
def looseWorkflow : Workflow where
  id := "w1"
  name := "a\""
  description := ""
  nodes :=
    [⟨"n", .other "image" [("a", .array [.number (.double (.ofNat 100))]), ("b", .null)],
      ⟨⟨0x3FF0000000000000⟩, ⟨0xC004000000000000⟩⟩, [], []⟩,
     ⟨"p", .print "myVariable", .origin, [], []⟩]
  connections := []
  createdAt := ⟨⟨2024, 2, 28, by decide⟩, 84599, 1500000000, by decide⟩
  updatedAt := ⟨⟨2024, 3, 1, Date.valid_afterLeapDay⟩, 0, 0, Timestamp.clockValid_midnight⟩

/-- The loose document is loaded, and saved as one that loads as the same workflow. -/
theorem looseWorkflow_document : ofDocument looseDocument = .ok looseWorkflow ∧
    (∀ d ∈ looseWorkflow.json.doubles, d.ReadsBack) ∧
    ofDocument looseWorkflow.document = .ok looseWorkflow := by
  have hread : ofDocument looseDocument = .ok looseWorkflow := by decide +kernel
  have hdoubles : ∀ d ∈ looseWorkflow.json.doubles, d.ReadsBack := by decide +kernel
  exact ⟨hread, hdoubles, ofDocument_document hread hdoubles⟩

end Flowboard.Workflow
