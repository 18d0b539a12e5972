import Flowboard.Json.Record
import Flowboard.Workflow.Request
import Mathlib

/-! What decoders accept and what they make of it: which values come out of them, and that a value
which goes in comes out again, unless it is nested too deep for a text. -/
namespace Flowboard

/-- What comes after all entries of a table is put at its end. -/
theorem Table.insert_of_forall_lt {α : Type} {t : Table α} {key : String} {value : α}
    (h : ∀ e ∈ t, e.1 < key) : t.insert key value = t ++ [(key, value)] := by
  induction t with
  | nil => rfl
  | cons e t ih =>
    obtain ⟨k, v⟩ := e
    obtain ⟨hk, ht⟩ := List.forall_mem_cons.mp h
    rw [Table.insert, if_neg (String.lt_asymm hk), if_neg (String.ne_of_lt hk).symm, ih ht,
      List.cons_append]

/-- Whether a value that nests `n` levels deep can stand in a context. -/
def Context.Holds : Context → Nat → Prop
  | .text room, n => n ≤ room
  | .value, _ => True

instance (cx : Context) (n : Nat) : Decidable (cx.Holds n) :=
  match cx with
  | .text room => inferInstanceAs (Decidable (n ≤ room))
  | .value => inferInstanceAs (Decidable True)

namespace Context

variable {cx inner : Context} {m n : Nat}

theorem holds_zero (cx : Context) : cx.Holds 0 := by
  cases cx <;> simp [Holds]

theorem Holds.mono (h : cx.Holds n) (hmn : m ≤ n) : cx.Holds m := by
  cases cx with
  | text room => exact hmn.trans h
  | value => trivial

theorem holds_max : cx.Holds (max m n) ↔ cx.Holds m ∧ cx.Holds n := by
  cases cx <;> simp [Holds]

/-- What is inside a list or an object may nest one level less than what is around it. -/
theorem holds_of_enter (h : cx.enter = .ok inner) : inner.Holds n ↔ cx.Holds (n + 1) := by
  match cx, h with
  | .text (room + 1), h =>
    obtain rfl := Except.ok.inj h
    simp [Holds]
  | .value, h =>
    obtain rfl := Except.ok.inj h
    simp [Holds]

/-- The only reason not to enter a value is its depth. -/
theorem enter_cases (cx : Context) : (∃ inner, cx.enter = .ok inner) ∨
    cx.enter = .error (.here (.text .nestingTooDeep)) ∧ ∀ n, ¬ cx.Holds (n + 1) := by
  match cx with
  | .text 0 => exact Or.inr ⟨rfl, by simp [Holds]⟩
  | .text (room + 1) => exact Or.inl ⟨_, rfl⟩
  | .value => exact Or.inl ⟨_, rfl⟩

end Context

namespace Json

mutual

/-- How deep the lists and objects of a value are nested. -/
def nesting : Json → Nat
  | .array items => nestingItems items + 1
  | .object members => nestingMembers members + 1
  | _ => 0

def nestingItems : List Json → Nat
  | [] => 0
  | x :: rest => max (nesting x) (nestingItems rest)

def nestingMembers : List (String × Json) → Nat
  | [] => 0
  | (_, x) :: rest => max (nesting x) (nestingMembers rest)

end

mutual

/-- All objects in a value hold their members in increasing order of the names. -/
def Ordered : Json → Prop
  | .array items => OrderedItems items
  | .object members => Table.Sorted members ∧ OrderedMembers members
  | _ => True

def OrderedItems : List Json → Prop
  | [] => True
  | x :: rest => Ordered x ∧ OrderedItems rest

def OrderedMembers : List (String × Json) → Prop
  | [] => True
  | (_, x) :: rest => Ordered x ∧ OrderedMembers rest

end

variable {cx : Context} {xs : List Json} {ms : List (String × Json)}

theorem holds_nestingItems : cx.Holds (nestingItems xs) ↔ ∀ x ∈ xs, cx.Holds x.nesting := by
  induction xs with
  | nil => simp [nestingItems, cx.holds_zero]
  | cons x xs ih => simp [nestingItems, Context.holds_max, ih]

theorem holds_nestingMembers : cx.Holds (nestingMembers ms) ↔ ∀ m ∈ ms, cx.Holds m.2.nesting := by
  induction ms with
  | nil => simp [nestingMembers, cx.holds_zero]
  | cons m ms ih => simp [nestingMembers, Context.holds_max, ih]

theorem orderedItems_iff : OrderedItems xs ↔ ∀ x ∈ xs, x.Ordered := by
  induction xs with
  | nil => simp [OrderedItems]
  | cons x xs ih => simp [OrderedItems, ih]

theorem orderedMembers_iff : OrderedMembers ms ↔ ∀ m ∈ ms, m.2.Ordered := by
  induction ms with
  | nil => simp [OrderedMembers]
  | cons m ms ih => simp [OrderedMembers, ih]

/-- A value that has the form of those that are read in a context. -/
def ReadIn (cx : Context) (v : Json) : Prop :=
  v.Ordered ∧ cx.Holds v.nesting

variable {inner : Context}

/-- A list is read if its items are, one level deeper. -/
theorem readIn_array (h : cx.enter = .ok inner) :
    (array xs).ReadIn cx ↔ ∀ x ∈ xs, x.ReadIn inner := by
  simp only [ReadIn, Ordered, nesting, orderedItems_iff, ← Context.holds_of_enter h,
    holds_nestingItems, ← forall₂_and]

/-- An object is read if its names increase and its values are read, one level deeper. -/
theorem readIn_object (h : cx.enter = .ok inner) :
    (object ms).ReadIn cx ↔ Table.Sorted ms ∧ ∀ m ∈ ms, m.2.ReadIn inner := by
  simp only [ReadIn, Ordered, nesting, orderedMembers_iff, ← Context.holds_of_enter h,
    holds_nestingMembers, forall₂_and, and_assoc]

end Json

/-- A result that is `x` unless the depth `n` is too great, and then a fault that says so. -/
def Yields {α : Type} (cx : Context) (n : Nat) (r : Except DecodeError α) (x : α) : Prop :=
  (cx.Holds n → r = .ok x) ∧
    (¬ cx.Holds n → ∃ path, r = .error ⟨path, .text .nestingTooDeep⟩)

namespace Yields

variable {α β : Type} {cx : Context} {m n : Nat} {r : Except DecodeError α} {x : α} {y : β}

theorem of_eq (h : r = .ok x) : Yields cx 0 r x :=
  ⟨fun _ => h, fun hn => absurd cx.holds_zero hn⟩

theorem map (h : Yields cx n r x) (f : α → β) : Yields cx n (r.map f) (f x) := by
  refine ⟨fun hn => by rw [h.1 hn]; rfl, fun hn => ?_⟩
  obtain ⟨path, hr⟩ := h.2 hn
  exact ⟨path, by rw [hr]; rfl⟩

theorem under (h : Yields cx n r x) (step : Step) : Yields cx n (Decoder.under step r) x := by
  refine ⟨fun hn => by rw [h.1 hn]; rfl, fun hn => ?_⟩
  obtain ⟨path, hr⟩ := h.2 hn
  exact ⟨step :: path, by rw [hr]; rfl⟩

/-- Two readings after each other fail only where one of them is too deep. -/
theorem bind (h : Yields cx m r x) {k : α → Except DecodeError β} (hk : Yields cx n (k x) y) :
    Yields cx (max m n) (r.bind k) y := by
  refine ⟨fun hmn => ?_, fun hmn => ?_⟩
  · obtain ⟨hm, hn⟩ := Context.holds_max.mp hmn
    rw [h.1 hm]
    exact hk.1 hn
  · by_cases hm : cx.Holds m
    · rw [h.1 hm]
      exact hk.2 fun hn => hmn (Context.holds_max.mpr ⟨hm, hn⟩)
    · obtain ⟨path, hr⟩ := h.2 hm
      exact ⟨path, by rw [hr]; rfl⟩

/-- To enter a list or an object takes one level. -/
theorem enter {k : Context → Except DecodeError α}
    (h : ∀ inner, cx.enter = .ok inner → Yields inner n (k inner) x) :
    Yields cx (n + 1) (cx.enter.bind k) x := by
  obtain ⟨inner, hinner⟩ | ⟨herror, hdeep⟩ := cx.enter_cases
  · have hk := h inner hinner
    simp only [Yields, Context.holds_of_enter hinner] at hk
    rw [hinner]
    exact hk
  · rw [herror]
    exact ⟨fun hn => absurd hn (hdeep n), fun _ => ⟨[], rfl⟩⟩

end Yields

namespace Decoder

variable {α β : Type} {cx inner : Context} {r : Except DecodeError α} {x : α} {y : β}

theorem bind_eq_ok {ε : Type} {r : Except ε α} {k : α → Except ε β} (h : r.bind k = .ok y) :
    ∃ x, r = .ok x ∧ k x = .ok y := by
  cases r with
  | error e => cases h
  | ok x => exact ⟨x, rfl, h⟩

theorem map_eq_ok {ε : Type} {r : Except ε α} {f : α → β} (h : r.map f = .ok y) :
    ∃ x, r = .ok x ∧ f x = y := by
  cases r with
  | error e => cases h
  | ok x => exact ⟨x, rfl, Except.ok.inj h⟩

theorem under_eq_ok {step : Step} (h : under step r = .ok x) : r = .ok x := by
  cases r with
  | error e => cases h
  | ok x => exact h

variable {d : Decoder α} {xs : List α}

theorem list_array (d : Decoder α) (cx : Context) (ts : Items) :
    list d cx (.array ts) = cx.enter.bind fun inner => items d inner 0 ts := by
  simp only [list]
  cases cx.enter <;> rfl

theorem items_cons (d : Decoder α) (cx : Context) (i : Nat) (t : Tree) (ts : Items) :
    items d cx i (.cons t ts) =
      (under (.index i) (d cx t)).bind fun x => (items d cx (i + 1) ts).map (x :: ·) := by
  simp only [items]
  cases d cx t with
  | error e => rfl
  | ok x => simp only [under, Except.bind]; cases items d cx (i + 1) ts <;> rfl

theorem items_ok {P : α → Prop} (hd : ∀ t x, d cx t = .ok x → P x) : ∀ (ts : Items) (i : Nat)
    (xs : List α), items d cx i ts = .ok xs → ∀ x ∈ xs, P x
  | .done, _, _, h => by
    obtain rfl := Except.ok.inj h
    simp
  | .cut _, _, _, h => by simp [items] at h
  | .cons t ts, i, xs, h => by
    rw [items_cons] at h
    obtain ⟨x, hx, h⟩ := bind_eq_ok h
    obtain ⟨xs, hxs, rfl⟩ := map_eq_ok h
    exact List.forall_mem_cons.mpr ⟨hd t x (under_eq_ok hx), items_ok hd ts (i + 1) xs hxs⟩

/-- Whatever holds of the items that are read one level deeper holds of all in a list. -/
theorem list_ok {P : α → Prop}
    (hd : ∀ inner, cx.enter = .ok inner → ∀ t x, d inner t = .ok x → P x) {t : Tree}
    (h : list d cx t = .ok xs) : ∀ x ∈ xs, P x := by
  cases t with
  | array ts =>
    rw [list_array] at h
    obtain ⟨inner, hinner, h⟩ := bind_eq_ok h
    exact items_ok (hd inner hinner) ts 0 xs h
  | _ => simp [list] at h

theorem items_yields (d : Decoder α) (write : α → Json) (xs : List α)
    (h : ∀ x ∈ xs, Yields cx (write x).nesting (d cx (write x).tree) x) (i : Nat) :
    Yields cx (Json.nestingItems (xs.map write)) (items d cx i (Json.treeItems (xs.map write))) xs := by
  induction xs generalizing i with
  | nil => exact .of_eq rfl
  | cons x xs ih =>
    obtain ⟨hx, hxs⟩ := List.forall_mem_cons.mp h
    rw [List.map_cons, Json.treeItems, items_cons]
    exact (hx.under _).bind ((ih hxs (i + 1)).map _)

theorem list_yields (d : Decoder α) (write : α → Json) (xs : List α)
    (h : ∀ inner, cx.enter = .ok inner → ∀ x ∈ xs,
      Yields inner (write x).nesting (d inner (write x).tree) x) :
    Yields cx (Json.array (xs.map write)).nesting (list d cx (Json.array (xs.map write)).tree) xs := by
  rw [Json.tree, list_array]
  exact Yields.enter fun inner hinner => items_yields d write xs (h inner hinner) 0

theorem json_array (cx : Context) (ts : Items) :
    json cx (.array ts) = cx.enter.bind fun inner => (jsonItems inner 0 ts).map .array := by
  simp only [json]
  cases cx.enter <;> rfl

theorem json_object (cx : Context) (ts : Members) :
    json cx (.object ts) = cx.enter.bind fun inner => (jsonMembers inner [] ts).map .object := by
  simp only [json]
  cases cx.enter <;> rfl

theorem jsonItems_cons (cx : Context) (i : Nat) (t : Tree) (ts : Items) :
    jsonItems cx i (.cons t ts) =
      (under (.index i) (json cx t)).bind fun x => (jsonItems cx (i + 1) ts).map (x :: ·) := by
  simp only [jsonItems]
  cases json cx t with
  | error e => rfl
  | ok x => simp only [under, Except.bind]; cases jsonItems cx (i + 1) ts <;> rfl

theorem jsonMembers_cons (cx : Context) (known : Table Json) (key : String) (t : Tree)
    (ts : Members) : jsonMembers cx known (.cons (.ok key) t ts) =
      (under (.field key) (json cx t)).bind fun x => jsonMembers cx (known.insert key x) ts := by
  simp only [jsonMembers]
  cases json cx t <;> rfl

mutual

/-- Values that are read hold their members in increasing order of the names, and are not nested
deeper than their context allows. -/
theorem json_ok : ∀ (cx : Context) (t : Tree) (v : Json), json cx t = .ok v → v.ReadIn cx
  | cx, .array ts, v, h => by
    rw [json_array] at h
    obtain ⟨inner, hinner, h⟩ := bind_eq_ok h
    obtain ⟨xs, hxs, rfl⟩ := map_eq_ok h
    exact (Json.readIn_array hinner).mpr (jsonItems_ok inner ts 0 xs hxs)
  | cx, .object ts, v, h => by
    rw [json_object] at h
    obtain ⟨inner, hinner, h⟩ := bind_eq_ok h
    obtain ⟨ms, hms, rfl⟩ := map_eq_ok h
    exact (Json.readIn_object hinner).mpr
      (jsonMembers_ok inner ts [] ms .nil (by simp) hms)
  | cx, .null, v, h | cx, .bool _, v, h | cx, .number (.ok _), v, h | cx, .string (.ok _), v, h => by
    obtain rfl := Except.ok.inj h
    exact ⟨trivial, cx.holds_zero⟩
  | _, .number (.error _), _, h | _, .string (.error _), _, h | _, .missing, _, h
  | _, .brokenString _ _, _, h | _, .broken _ _, _, h => by simp [json] at h

theorem jsonItems_ok : ∀ (cx : Context) (ts : Items) (i : Nat) (xs : List Json),
    jsonItems cx i ts = .ok xs → ∀ x ∈ xs, x.ReadIn cx
  | _, .done, _, _, h => by
    obtain rfl := Except.ok.inj h
    simp
  | _, .cut _, _, _, h => by simp [jsonItems] at h
  | cx, .cons t ts, i, xs, h => by
    rw [jsonItems_cons] at h
    obtain ⟨x, hx, h⟩ := bind_eq_ok h
    obtain ⟨xs, hxs, rfl⟩ := map_eq_ok h
    exact List.forall_mem_cons.mpr
      ⟨json_ok cx t x (under_eq_ok hx), jsonItems_ok cx ts (i + 1) xs hxs⟩

/-- Members are put in order while they are read, and their values have the form of those that are
read. -/
theorem jsonMembers_ok : ∀ (cx : Context) (ts : Members) (known ms : Table Json),
    known.Sorted → (∀ m ∈ known, m.2.ReadIn cx) → jsonMembers cx known ts = .ok ms →
    Table.Sorted ms ∧ ∀ m ∈ ms, m.2.ReadIn cx
  | _, .done, _, _, hsorted, hknown, h => by
    obtain rfl := Except.ok.inj h
    exact ⟨hsorted, hknown⟩
  | _, .cut _, _, _, _, _, h | _, .stranger, _, _, _, _, h | _, .cons (.error _) _ _, _, _, _, _, h => by
    simp [jsonMembers] at h
  | cx, .cons (.ok key) t ts, known, ms, hsorted, hknown, h => by
    rw [jsonMembers_cons] at h
    obtain ⟨x, hx, h⟩ := bind_eq_ok h
    refine jsonMembers_ok cx ts (known.insert key x) ms (Table.sorted_insert hsorted key x) ?_ h
    intro m hm
    obtain rfl | hm := Table.mem_insert hm
    · exact json_ok cx t x (under_eq_ok hx)
    · exact hknown m hm

end

mutual

/-- A value is read as itself, unless it is nested too deep. -/
theorem json_yields : ∀ (cx : Context) (v : Json), v.Ordered →
    Yields cx v.nesting (json cx v.tree) v
  | cx, .array xs, h => by
    rw [Json.tree, json_array]
    exact Yields.enter fun inner _ => (jsonItems_yields inner xs h 0).map Json.array
  | cx, .object ms, h => by
    rw [Json.tree, json_object]
    exact Yields.enter fun inner _ =>
      (jsonMembers_yields inner ms [] (by simpa using h.1) h.2).map Json.object
  | _, .null, _ | _, .bool _, _ | _, .number _, _ | _, .string _, _ => .of_eq rfl

/-- Items come out of the list as which they are written. -/
theorem jsonItems_yields : ∀ (cx : Context) (xs : List Json), Json.OrderedItems xs → ∀ i,
    Yields cx (Json.nestingItems xs) (jsonItems cx i (Json.treeItems xs)) xs
  | _, [], _, _ => .of_eq rfl
  | cx, x :: xs, h, i => by
    rw [Json.treeItems, jsonItems_cons]
    exact ((json_yields cx x h.1).under _).bind ((jsonItems_yields cx xs h.2 (i + 1)).map _)

/-- Members come out of the object as which they are written, behind those that have been read
before. -/
theorem jsonMembers_yields : ∀ (cx : Context) (ms known : Table Json), (known ++ ms).Sorted →
    Json.OrderedMembers ms →
    Yields cx (Json.nestingMembers ms) (jsonMembers cx known (Json.treeMembers ms)) (known ++ ms)
  | _, [], known, _, _ => .of_eq (by rw [List.append_nil]; rfl)
  | cx, (key, x) :: ms, known, hsorted, h => by
    have hlast : ∀ e ∈ known, e.1 < key := fun e he =>
      (List.pairwise_append.mp hsorted).2.2 e he (key, x) List.mem_cons_self
    have hnext : known ++ (key, x) :: ms = known.insert key x ++ ms := by
      rw [Table.insert_of_forall_lt hlast, List.append_assoc, List.singleton_append]
    rw [Json.treeMembers, jsonMembers_cons, hnext]
    rw [hnext] at hsorted
    exact ((json_yields cx x h.1).under _).bind (jsonMembers_yields cx ms _ hsorted h.2)

end

end Decoder

section

variable {σ α : Type} {cx : Context} {I : σ → Prop}

/-- What holds of a draft still holds when the field has been put into it. -/
def Field.Keeps (cx : Context) (I : σ → Prop) (f : Field σ) : Prop :=
  ∀ draft t next, I draft → f.read draft cx t = .ok next → I next

theorem Field.keeps_of {name : String} {required : Bool} {d : Decoder α} {get : σ → Option α}
    {set : σ → α → σ} (h : ∀ draft t x, I draft → d cx t = .ok x → I (set draft x)) :
    (Field.of name required d get set).Keeps cx I := by
  intro draft t next hdraft hread
  obtain ⟨x, hx, rfl⟩ := Decoder.map_eq_ok hread
  exact h draft t x hdraft hx

/-- A field for a part of the draft that what holds does not depend on. -/
theorem Field.keeps_other {name : String} {required : Bool} {d : Decoder α} {get : σ → Option α}
    {set : σ → α → σ} (h : ∀ draft x, I draft → I (set draft x)) :
    (Field.of name required d get set).Keeps cx I :=
  keeps_of fun draft _ x hdraft _ => h draft x hdraft

end

namespace Record

open Decoder

variable {σ α : Type} {r : Record σ α} {cx : Context} {draft next last : σ} {name : String}
  {t : Tree} {x : α} {m n : Nat} {f : Field σ}

theorem decoder_object (r : Record σ α) (cx : Context) (ts : Members) :
    r.decoder cx (.object ts) =
      cx.enter.bind fun inner => (r.readMembers inner r.empty ts).bind r.finish := by
  simp only [decoder]
  cases cx.enter with
  | error e => rfl
  | ok inner => simp only [Except.bind]; cases r.readMembers inner r.empty ts <;> rfl

theorem decoder_array (r : Record σ α) (cx : Context) (ts : Items) :
    r.decoder cx (.array ts) =
      cx.enter.bind fun inner => (r.readItems inner r.fields 0 r.empty ts).bind r.finish := by
  simp only [decoder]
  cases cx.enter with
  | error e => rfl
  | ok inner => simp only [Except.bind]; cases r.readItems inner r.fields 0 r.empty ts <;> rfl

theorem build_of_finish (h : r.finish draft = .ok x) : r.build draft = .ok x := by
  unfold finish at h
  split at h
  · rename_i hb
    rw [hb, Except.ok.inj h]
  · simp at h

/-- An object is read as a record when its members make a draft and the draft makes the record. -/
theorem decoder_object_eq_ok_iff {ts : Members} : r.decoder cx (.object ts) = .ok x ↔
    ∃ inner draft, cx.enter = .ok inner ∧ r.readMembers inner r.empty ts = .ok draft ∧
      r.build draft = .ok x := by
  rw [decoder_object]
  constructor
  · intro h
    obtain ⟨inner, hinner, h⟩ := bind_eq_ok h
    obtain ⟨draft, hdraft, h⟩ := bind_eq_ok h
    exact ⟨inner, draft, hinner, hdraft, build_of_finish h⟩
  · rintro ⟨inner, draft, hinner, hdraft, hb⟩
    simp [hinner, hdraft, Except.bind, finish, hb]

theorem decoder_array_eq_ok {ts : Items} (h : r.decoder cx (.array ts) = .ok x) :
    ∃ inner draft, cx.enter = .ok inner ∧ r.readItems inner r.fields 0 r.empty ts = .ok draft ∧
      r.build draft = .ok x := by
  rw [decoder_array] at h
  obtain ⟨inner, hinner, h⟩ := bind_eq_ok h
  obtain ⟨draft, hdraft, h⟩ := bind_eq_ok h
  exact ⟨inner, draft, hinner, hdraft, build_of_finish h⟩

theorem field?_mem (h : r.field? name = some f) : f ∈ r.fields :=
  List.mem_of_find?_eq_some h

theorem readMember_ok {I : σ → Prop} (hkeeps : ∀ f ∈ r.fields, f.Keeps cx I) (hI : I draft)
    (h : r.readMember cx draft name t = .ok next) : I next := by
  unfold readMember at h
  split at h
  · rename_i f hf
    exact hkeeps f (field?_mem hf) draft t next hI (under_eq_ok h)
  · split at h
    · exact Except.ok.inj h ▸ hI
    · simp at h

/-- What all fields keep is kept by the members of an object. -/
theorem readMembers_ok {I : σ → Prop} (hkeeps : ∀ f ∈ r.fields, f.Keeps cx I) :
    ∀ (ts : Members) (draft : σ), I draft → r.readMembers cx draft ts = .ok last → I last
  | .done, draft, hI, h => Except.ok.inj h ▸ hI
  | .stranger, _, _, h => by simp [readMembers] at h
  | .cut how, draft, _, h => by
    unfold readMembers at h
    split at h <;> simp at h
  | .cons (.error _) _ _, _, _, h => by simp [readMembers] at h
  | .cons (.ok name) t ts, draft, hI, h => by
    unfold readMembers at h
    split at h
    · simp at h
    · split at h
      · simp at h
      · rename_i next hnext
        exact readMembers_ok hkeeps ts next (readMember_ok hkeeps hI hnext) h

theorem readItems_ok {I : σ → Prop} : ∀ (fields : List (Field σ)) (_ : ∀ f ∈ fields, f.Keeps cx I)
    (i : Nat) (draft : σ) (ts : Items), I draft → r.readItems cx fields i draft ts = .ok last → I last
  | [], _, i, draft, ts, hI, h => by
    obtain ⟨_, -, rfl⟩ := map_eq_ok h
    exact hI
  | f :: fields, hkeeps, i, draft, ts, hI, h => by
    obtain ⟨hf, hfields⟩ := List.forall_mem_cons.mp hkeeps
    unfold readItems at h
    split at h
    · split at h
      · simp at h
      · exact readItems_ok fields hfields (i + 1) draft .done hI h
    · simp at h
    · rename_i t ts
      split at h
      · simp at h
      · rename_i next hnext
        exact readItems_ok fields hfields (i + 1) next ts (hf draft t next hI hnext) h

/-- In both forms of a record, what holds of the draft before anything is read, and is kept by each
field, holds of the draft that the record is built from. -/
theorem decoder_ok {I : σ → Prop} (hempty : I r.empty)
    (hkeeps : ∀ inner, cx.enter = .ok inner → ∀ f ∈ r.fields, f.Keeps inner I)
    (h : r.decoder cx t = .ok x) : ∃ draft, I draft ∧ r.build draft = .ok x := by
  cases t with
  | object ts =>
    obtain ⟨inner, draft, hinner, hdraft, hb⟩ := decoder_object_eq_ok_iff.mp h
    exact ⟨draft, readMembers_ok (hkeeps inner hinner) ts r.empty hempty hdraft, hb⟩
  | array ts =>
    obtain ⟨inner, draft, hinner, hdraft, hb⟩ := decoder_array_eq_ok h
    exact ⟨draft, readItems_ok r.fields (hkeeps inner hinner) 0 r.empty ts hempty hdraft, hb⟩
  | _ => simp [decoder] at h

/-- Everything that is read as a record is built from some draft. -/
theorem exists_build (h : r.decoder cx t = .ok x) : ∃ draft, r.build draft = .ok x := by
  have hkeeps : ∀ (inner : Context) (f : Field σ), f.Keeps inner fun _ => True :=
    fun _ _ _ _ _ _ _ => trivial
  obtain ⟨draft, -, hb⟩ := decoder_ok trivial (fun inner _ f _ => hkeeps inner f) h
  exact ⟨draft, hb⟩

theorem readMembers_field {ts : Members} (hf : r.field? name = some f)
    (hgiven : f.given draft = false) (hread : Yields cx m (f.read draft cx t) next)
    (hrest : Yields cx n (r.readMembers cx next ts) last) :
    Yields cx (max m n) (r.readMembers cx draft (.cons (.ok name) t ts)) last := by
  have hbind : r.readMembers cx draft (.cons (.ok name) t ts) =
      (under (.field name) (f.read draft cx t)).bind fun next => r.readMembers cx next ts := by
    simp only [readMembers, nameError?, hf, hgiven, readMember, Bool.false_eq_true, if_false]
    cases f.read draft cx t <;> rfl
  rw [hbind]
  exact (hread.under _).bind hrest

/-- A member that no field asks for is passed over. -/
theorem readMembers_skip {ts : Members} (hf : r.field? name = none) (hstrict : r.strict = false)
    (ht : t.skip = .ok ()) (hrest : Yields cx n (r.readMembers cx draft ts) last) :
    Yields cx (max 0 n) (r.readMembers cx draft (.cons (.ok name) t ts)) last := by
  have hskip : r.readMembers cx draft (.cons (.ok name) t ts) = r.readMembers cx draft ts := by
    simp [readMembers, nameError?, hf, hstrict, readMember, ht]
  rwa [hskip, Nat.zero_max]

/-- A record is read back from an object whose members are read back into its draft. -/
theorem decoder_yields (draft : σ) {ts : Members} (h : ∀ inner, cx.enter = .ok inner →
      Yields inner n (r.readMembers inner r.empty ts) draft) (hb : r.build draft = .ok x) :
    Yields cx (n + 1) (r.decoder cx (.object ts)) x := by
  rw [decoder_object]
  refine Yields.enter fun inner hinner => ?_
  have hfinish : Yields inner 0 (r.finish draft) x := .of_eq (by simp [finish, hb])
  simpa using (h inner hinner).bind hfinish

end Record

end Flowboard
