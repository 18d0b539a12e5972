import Flowboard.Proofs.Document

/-! The properties of nodes: which ones go with a type, and what a node makes of them. -/
namespace Flowboard

theorem Json.eq_string_of_tree {v : Json} {s : String} (h : v.tree = .string (.ok s)) :
    v = .string s := by
  cases v with
  | string s' =>
    obtain rfl : s' = s := by simpa [Json.tree] using h
    rfl
  | _ => simp [Json.tree] at h

namespace Record

variable {σ α : Type} {r : Record σ α} {cx : Context} {draft last : σ} {x : α} {name : String}

/-- Each of the fields is a text. -/
def OfTexts (fields : List (Field σ)) : Prop :=
  ∀ f ∈ fields, ∀ draft cx t next, f.read draft cx t = .ok next → ∃ s, t = .string (.ok s)

theorem ofTexts_nil : OfTexts ([] : List (Field σ)) := by
  simp [OfTexts]

theorem ofTexts_cons {fields : List (Field σ)} {required : Bool} {get : σ → Option String}
    {set : σ → String → σ} (h : OfTexts fields) :
    OfTexts (Field.of name required Decoder.string get set :: fields) := by
  refine List.forall_mem_cons.mpr ⟨fun draft cx t next hread => ?_, h⟩
  obtain ⟨s, hs, -⟩ := Decoder.map_eq_ok hread
  unfold Decoder.string at hs
  split at hs
  · exact ⟨_, rfl⟩
  · simp at hs

theorem exists_field_of_strict (hstrict : r.strict = true)
    (h : r.nameError? draft name = none) :
    ∃ f ∈ r.fields, f.name = name ∧ r.field? name = some f := by
  cases hf : r.field? name with
  | none => simp [nameError?, hf, hstrict] at h
  | some f => exact ⟨f, field?_mem hf, by simpa using List.find?_some hf, rfl⟩

/-- Members that are all read have known names and are texts. -/
theorem texts_of_readMembers (hstrict : r.strict = true) (htexts : OfTexts r.fields)
    {ms : Table Json} (h : r.readMembers cx draft (Json.treeMembers ms) = .ok last) :
    ∀ m ∈ ms, m.1 ∈ r.fields.map (·.name) ∧ ∃ s, m.2 = .string s := by
  induction ms generalizing draft with
  | nil => simp
  | cons m ms ih =>
    obtain ⟨key, v⟩ := m
    unfold Json.treeMembers readMembers at h
    split at h
    · simp at h
    · rename_i hname
      obtain ⟨f, hmem, rfl, hf⟩ := exists_field_of_strict hstrict hname
      split at h
      · simp at h
      · rename_i next hread
        simp only [readMember, hf] at hread
        obtain ⟨s, hs⟩ := htexts f hmem _ _ _ _ (Decoder.under_eq_ok hread)
        exact List.forall_mem_cons.mpr
          ⟨⟨List.mem_map_of_mem hmem, s, Json.eq_string_of_tree hs⟩, ih h⟩

theorem texts_of_readItems {fields : List (Field σ)} (htexts : OfTexts fields) {i : Nat}
    {items : List Json} (h : r.readItems cx fields i draft (Json.treeItems items) = .ok last) :
    items.length ≤ fields.length ∧ ∀ v ∈ items, ∃ s, v = .string s := by
  induction fields generalizing i draft items with
  | nil =>
    obtain ⟨_, hexcess, -⟩ := Decoder.map_eq_ok h
    cases items with
    | nil => simp
    | cons v items => cases cx <;> simp [Json.treeItems, excess] at hexcess
  | cons f fields ih =>
    cases items with
    | nil => simp
    | cons v items =>
      obtain ⟨hf, hfields⟩ := List.forall_mem_cons.mp htexts
      unfold Json.treeItems readItems at h
      dsimp only at h
      split at h
      · simp at h
      · rename_i next hread
        obtain ⟨s, hs⟩ := hf _ _ _ _ hread
        obtain ⟨hlength, htail⟩ := ih hfields h
        exact ⟨Nat.succ_le_succ hlength,
          List.forall_mem_cons.mpr ⟨⟨s, Json.eq_string_of_tree hs⟩, htail⟩⟩

end Record

namespace Kind

/-- The names of the properties of a known type, in the order in which a list gives them. -/
def schema? (type : String) : Option (List String) :=
  if type = "variable" then some ["name", "value"]
  else if type = "print" then some ["message"]
  else none

/-- The values that can be the properties of a type. -/
def Accepts (type : String) (p : Json) : Prop :=
  match schema? type, p with
  | _, .null => True
  | some names, .object members => ∀ m ∈ members, m.1 ∈ names ∧ ∃ s, m.2 = .string s
  | some names, .array items => items.length ≤ names.length ∧ ∀ v ∈ items, ∃ s, v = .string s
  | none, .object _ => True
  | _, _ => False

/-- The text that is given for a property, under its name or at its place in a list. -/
def given? (p : Option Json) (name : String) (place : Nat) : Option String :=
  let value := match p with
    | some (.object members) => Table.get? members name
    | some (.array items) => items[place]?
    | _ => none
  match value with
  | some (.string s) => some s
  | _ => none

/-- The members of an object. -/
def members : Option Json → Table Json
  | some (.object members) => members
  | _ => []

/-- A type with properties in their normal form: what is given is kept, and what is not given takes
its default. -/
structure Normalizes (type : String) (p : Option Json) (kind : Kind) : Prop where
  typeName : kind.typeName = type
  assign : type = "variable" →
    kind = .assign ((given? p "name" 0).getD defaultName) ((given? p "value" 1).getD defaultValue)
  print : type = "print" → kind = .print ((given? p "message" 0).getD defaultName)
  names : ∀ names, schema? type = some names → kind.properties.map (·.1) = names
  other : schema? type = none → kind.properties = members p
  fixed : ofParts kind.typeName (some (.object kind.properties)) = .ok kind

variable {type : String} {p : Option Json} {v : Json} {kind : Kind} {names : List String}

theorem schema?_eq_none_iff : schema? type = none ↔ type ≠ "variable" ∧ type ≠ "print" := by
  simp only [schema?]
  split_ifs <;> simp [*]

theorem ofParts_none (type : String) : ofParts type none = .ok (withDefaults type) := by
  simp only [ofParts, withDefaults]
  split_ifs <;> rfl

theorem ofParts_variable (hv : v ≠ .null) :
    ofParts "variable" (some v) = faultOnly (assignRecord.decoder .value v.tree) := by
  cases v <;> first | rfl | exact absurd rfl hv

theorem ofParts_print (hv : v ≠ .null) :
    ofParts "print" (some v) = faultOnly (printRecord.decoder .value v.tree) := by
  cases v <;> first | rfl | exact absurd rfl hv

theorem texts_of_decoder {σ : Type} {r : Record σ Kind} (hstrict : r.strict = true)
    (htexts : Record.OfTexts r.fields) (hnames : schema? type = some (r.fields.map (·.name)))
    (h : r.decoder .value v.tree = .ok kind) : Accepts type v := by
  simp only [Accepts, hnames]
  cases v with
  | object ms =>
    rw [Json.tree] at h
    obtain ⟨inner, draft, -, hdraft, -⟩ := Record.decoder_object_eq_ok_iff.mp h
    exact Record.texts_of_readMembers hstrict htexts hdraft
  | array items =>
    rw [Json.tree] at h
    obtain ⟨inner, draft, -, hdraft, -⟩ := Record.decoder_array_eq_ok h
    simpa using Record.texts_of_readItems htexts hdraft
  | _ => simp [Json.tree, Record.decoder] at h ⊢

theorem accepts_of_ofParts (h : ofParts type (some v) = .ok kind) : Accepts type v := by
  by_cases hv : v = .null
  · simp [Accepts, hv]
  by_cases hvariable : type = "variable"
  · subst hvariable
    rw [ofParts_variable hv] at h
    exact texts_of_decoder rfl (Record.ofTexts_cons (Record.ofTexts_cons Record.ofTexts_nil)) rfl
      (faultOnly_eq_ok h)
  by_cases hprint : type = "print"
  · subst hprint
    rw [ofParts_print hv] at h
    exact texts_of_decoder rfl (Record.ofTexts_cons Record.ofTexts_nil) rfl (faultOnly_eq_ok h)
  · have hschema := schema?_eq_none_iff.mpr ⟨hvariable, hprint⟩
    cases v <;> simp [ofParts, hvariable, hprint, Accepts, hschema] at h ⊢

theorem normalizes_variable (h : kind = .assign ((given? p "name" 0).getD defaultName)
    ((given? p "value" 1).getD defaultValue)) : Normalizes "variable" p kind where
  typeName := by rw [h]; rfl
  assign _ := h
  print hprint := by simp at hprint
  names names hnames := by rw [h, ← Option.some.inj hnames]; rfl
  other hother := by simp [schema?] at hother
  fixed := by rw [h]; rfl

theorem normalizes_print (h : kind = .print ((given? p "message" 0).getD defaultName)) :
    Normalizes "print" p kind where
  typeName := by rw [h]; rfl
  assign hvariable := by simp at hvariable
  print _ := h
  names names hnames := by rw [h, ← Option.some.inj hnames]; rfl
  other hother := by simp [schema?] at hother
  fixed := by rw [h]; rfl

theorem normalizes_other (hschema : schema? type = none) :
    Normalizes type p (.other type (members p)) := by
  obtain ⟨hvariable, hprint⟩ := schema?_eq_none_iff.mp hschema
  exact
    { typeName := rfl
      assign h := absurd h hvariable
      print h := absurd h hprint
      names names hnames := by simp [hschema] at hnames
      other _ := rfl
      fixed := ofParts_properties ⟨hvariable, hprint⟩ }

theorem normalizes_withDefaults (hp : p = none ∨ p = some .null) :
    Normalizes type p (withDefaults type) := by
  simp only [withDefaults]
  split_ifs with hvariable hprint
  · subst hvariable
    obtain rfl | rfl := hp <;> exact normalizes_variable rfl
  · subst hprint
    obtain rfl | rfl := hp <;> exact normalizes_print rfl
  · have hschema := schema?_eq_none_iff.mpr ⟨hvariable, hprint⟩
    obtain rfl | rfl := hp <;> exact normalizes_other hschema

/-- The names in an object whose names are all known are some of these, in the same order. -/
theorem keys_sublist {ms : Table Json} (hms : ms.Sorted) (hnames : names.Pairwise (· < ·))
    (h : ∀ m ∈ ms, m.1 ∈ names) : (ms.map (·.1)).Sublist names := by
  have hsorted : (ms.map (·.1)).Pairwise (· < ·) := List.pairwise_map.mpr hms
  have hsubset : ms.map (·.1) ⊆ names := by
    intro key hkey
    obtain ⟨m, hm, rfl⟩ := List.mem_map.mp hkey
    exact h m hm
  exact List.sublist_of_subperm_of_pairwise (List.subperm_of_subset hsorted.nodup hsubset) hsorted
    hnames

/-- The two properties of an assignment can be given or not, but in an object only in one order. -/
theorem assign_members {ms : Table Json} (hms : ms.Sorted)
    (h : ∀ m ∈ ms, m.1 ∈ ["name", "value"] ∧ ∃ s, m.2 = .string s) :
    ms = [] ∨ (∃ s, ms = [("name", .string s)]) ∨ (∃ s, ms = [("value", .string s)]) ∨
      ∃ s s', ms = [("name", .string s), ("value", .string s')] := by
  have hkeys := keys_sublist hms (by decide) fun m hm => (h m hm).1
  have hall : (["name", "value"] : List String).sublists =
      [[], ["name"], ["value"], ["name", "value"]] := by decide
  rw [← List.mem_sublists, hall] at hkeys
  obtain _ | ⟨⟨k, v⟩, _ | ⟨⟨k', v'⟩, ms⟩⟩ := ms
  · exact Or.inl rfl
  · obtain ⟨s, rfl⟩ : ∃ s, v = .string s := (h (k, v) (by simp)).2
    obtain rfl | rfl : k = "name" ∨ k = "value" := by simpa using hkeys
    · exact Or.inr (Or.inl ⟨s, rfl⟩)
    · exact Or.inr (Or.inr (Or.inl ⟨s, rfl⟩))
  · obtain ⟨s, rfl⟩ : ∃ s, v = .string s := (h (k, v) (by simp)).2
    obtain ⟨s', rfl⟩ : ∃ s, v' = .string s := (h (k', v') (by simp)).2
    obtain ⟨rfl, rfl, rfl⟩ : k = "name" ∧ k' = "value" ∧ ms = [] := by simpa using hkeys
    exact Or.inr (Or.inr (Or.inr ⟨s, s', rfl⟩))

theorem print_members {ms : Table Json} (hms : ms.Sorted)
    (h : ∀ m ∈ ms, m.1 ∈ ["message"] ∧ ∃ s, m.2 = .string s) :
    ms = [] ∨ ∃ s, ms = [("message", .string s)] := by
  have hkeys := keys_sublist hms (by decide) fun m hm => (h m hm).1
  have hall : (["message"] : List String).sublists = [[], ["message"]] := by decide
  rw [← List.mem_sublists, hall] at hkeys
  obtain _ | ⟨⟨k, v⟩, ms⟩ := ms
  · exact Or.inl rfl
  · obtain ⟨s, rfl⟩ : ∃ s, v = .string s := (h (k, v) (by simp)).2
    obtain ⟨rfl, rfl⟩ : k = "message" ∧ ms = [] := by simpa using hkeys
    exact Or.inr ⟨s, rfl⟩

theorem exists_assign (hv : v.Ordered) (h : Accepts "variable" v) : ∃ kind,
    ofParts "variable" (some v) = .ok kind ∧ Normalizes "variable" (some v) kind := by
  cases v with
  | null => exact ⟨_, ofParts_none _, normalizes_withDefaults (Or.inr rfl)⟩
  | object ms =>
    obtain rfl | ⟨s, rfl⟩ | ⟨s, rfl⟩ | ⟨s, s', rfl⟩ := assign_members hv.1 h
    all_goals exact ⟨_, rfl, normalizes_variable rfl⟩
  | array items =>
    obtain _ | ⟨v, _ | ⟨v', _ | ⟨_, _⟩⟩⟩ := items
    · exact ⟨_, rfl, normalizes_variable rfl⟩
    · obtain ⟨s, rfl⟩ := h.2 v (by simp)
      exact ⟨_, rfl, normalizes_variable rfl⟩
    · obtain ⟨s, rfl⟩ := h.2 v (by simp)
      obtain ⟨s', rfl⟩ := h.2 v' (by simp)
      exact ⟨_, rfl, normalizes_variable rfl⟩
    · exact absurd h.1 (by simp)
  | _ => exact h.elim

theorem exists_print (hv : v.Ordered) (h : Accepts "print" v) : ∃ kind,
    ofParts "print" (some v) = .ok kind ∧ Normalizes "print" (some v) kind := by
  cases v with
  | null => exact ⟨_, ofParts_none _, normalizes_withDefaults (Or.inr rfl)⟩
  | object ms =>
    obtain rfl | ⟨s, rfl⟩ := print_members hv.1 h
    all_goals exact ⟨_, rfl, normalizes_print rfl⟩
  | array items =>
    obtain _ | ⟨v, _ | ⟨_, _⟩⟩ := items
    · exact ⟨_, rfl, normalizes_print rfl⟩
    · obtain ⟨s, rfl⟩ := h.2 v (by simp)
      exact ⟨_, rfl, normalizes_print rfl⟩
    · exact absurd h.1 (by simp)
  | _ => exact h.elim

theorem exists_other (hschema : schema? type = none) (h : Accepts type v) : ∃ kind,
    ofParts type (some v) = .ok kind ∧ Normalizes type (some v) kind := by
  obtain ⟨hvariable, hprint⟩ := schema?_eq_none_iff.mp hschema
  simp only [Accepts, hschema] at h
  cases v with
  | null => exact ⟨_, ofParts_none _, normalizes_withDefaults (Or.inr rfl)⟩
  | object ms =>
    exact ⟨.other type ms, by simp [ofParts, hvariable, hprint], normalizes_other hschema⟩
  | _ => exact h.elim

/-- Properties that go with their type are read, into their normal form. -/
theorem exists_kind (hv : v.Ordered) (h : Accepts type v) :
    ∃ kind, ofParts type (some v) = .ok kind ∧ Normalizes type (some v) kind := by
  by_cases hvariable : type = "variable"
  · subst hvariable
    exact exists_assign hv h
  by_cases hprint : type = "print"
  · subst hprint
    exact exists_print hv h
  · exact exists_other (schema?_eq_none_iff.mpr ⟨hvariable, hprint⟩) h

/-- Properties are read exactly if they go with their type. -/
theorem exists_kind_iff (hp : ∀ v ∈ p, v.Ordered) :
    (∃ kind, ofParts type p = .ok kind) ↔ ∀ v ∈ p, Accepts type v := by
  constructor
  · rintro ⟨kind, h⟩ v rfl
    exact accepts_of_ofParts h
  · intro h
    cases p with
    | none => exact ⟨_, ofParts_none type⟩
    | some v =>
      obtain ⟨kind, hkind, -⟩ := exists_kind (hp v rfl) (h v rfl)
      exact ⟨kind, hkind⟩

/-- Whatever is read is in its normal form. -/
theorem normalizes_of_ofParts (hp : ∀ v ∈ p, v.Ordered) (h : ofParts type p = .ok kind) :
    Normalizes type p kind := by
  cases p with
  | none =>
    obtain rfl := Except.ok.inj ((ofParts_none type).symm.trans h)
    exact normalizes_withDefaults (Or.inl rfl)
  | some v =>
    obtain ⟨kind', hkind, hnormal⟩ := exists_kind (hp v rfl) (accepts_of_ofParts h)
    obtain rfl := Except.ok.inj (hkind.symm.trans h)
    exact hnormal

theorem typeName_of_ofParts (h : ofParts type p = .ok kind) : kind.typeName = type := by
  unfold ofParts at h
  extract_lets given at h
  clear_value given
  split_ifs at h with hvariable hprint
  · obtain ⟨name, value, rfl⟩ := assignRecord_ok (faultOnly_eq_ok h)
    exact hvariable.symm
  · obtain ⟨message, rfl⟩ := printRecord_ok (faultOnly_eq_ok h)
    exact hprint.symm
  · split at h
    · rw [← Except.ok.inj h, typeName]
    · simp at h

/-- The properties of a node are accepted exactly if they are left out, `null`, or go with its type.
They are then put into a normal form, which stays as it is. -/
theorem ofParts_normalizes (type : String) (p : Option Json) (hp : ∀ v ∈ p, v.Ordered) :
    ((∃ kind, ofParts type p = .ok kind) ↔ ∀ v ∈ p, Accepts type v) ∧
    (∀ kind, ofParts type p = .ok kind → Normalizes type p kind) ∧
    ofParts type none = .ok (withDefaults type) :=
  ⟨exists_kind_iff hp, fun _ => normalizes_of_ofParts hp, ofParts_none type⟩

/-- A list with the first of two properties. -/
def shortList : Option Json :=
  some (.array [.string "x"])

/-- What a list does not give takes its default, but an object with an unknown name is refused, and
so is a list for a type that is not known. -/
theorem ofParts_normalizes_short : (∀ v ∈ shortList, v.Ordered) ∧
    (∃ kind, ofParts "variable" shortList = .ok kind ∧ kind = .assign "x" "hello world") ∧
    ¬ (∃ kind, ofParts "print" (some (.object [("value", .string "x")])) = .ok kind) ∧
    ¬ ∃ kind, ofParts "image" shortList = .ok kind := by
  have hordered : ∀ v ∈ shortList, v.Ordered := by simp [shortList, Json.Ordered, Json.OrderedItems]
  obtain ⟨hvariable, hnormal, -⟩ := ofParts_normalizes "variable" shortList hordered
  obtain ⟨hprint, -⟩ := ofParts_normalizes "print" (some (.object [("value", .string "x")]))
    (by simp [Json.Ordered, Json.OrderedMembers, Table.Sorted])
  obtain ⟨hother, -⟩ := ofParts_normalizes "image" shortList hordered
  obtain ⟨kind, hkind⟩ := hvariable.mpr (by simp [shortList, Accepts, schema?])
  refine ⟨hordered, ⟨kind, hkind, (hnormal kind hkind).assign rfl⟩, ?_, ?_⟩
  · rw [hprint]
    simp [Accepts, schema?]
  · rw [hother]
    simp [shortList, Accepts, schema?]

end Kind

end Flowboard
