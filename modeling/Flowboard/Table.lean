/-! Tables: association lists with text keys in increasing order. -/
namespace Flowboard

/-- Entries in increasing order of their keys, as `Table.insert` keeps them. -/
abbrev Table (α : Type) := List (String × α)

namespace Table

variable {α : Type}

/-- Puts `value` under `key`, in place of an earlier one. -/
def insert (key : String) (value : α) : Table α → Table α
  | [] => [(key, value)]
  | (k, v) :: rest =>
    if key < k then (key, value) :: (k, v) :: rest
    else if key = k then (key, value) :: rest
    else (k, v) :: insert key value rest

def get? (t : Table α) (key : String) : Option α :=
  (t.find? fun e => e.1 == key).map (·.2)

def contains (t : Table α) (key : String) : Bool :=
  t.any fun e => e.1 == key

/-- The keys are in strictly increasing order. -/
def Sorted (t : Table α) : Prop :=
  t.Pairwise fun a b => a.1 < b.1

@[simp] theorem get?_nil (key : String) : get? ([] : Table α) key = none := rfl

theorem get?_cons (k key : String) (v : α) (t : Table α) :
    get? ((k, v) :: t) key = if k = key then some v else get? t key := by
  by_cases h : k = key <;> simp [get?, h]

theorem get?_insert_self (t : Table α) (key : String) (value : α) :
    get? (t.insert key value) key = some value := by
  induction t with
  | nil => simp [insert, get?_cons]
  | cons e t ih =>
    obtain ⟨k, v⟩ := e
    simp only [insert]
    split
    · simp [get?_cons]
    · split
      · simp [get?_cons]
      · rename_i hne
        simp [get?_cons, Ne.symm hne, ih]

theorem get?_insert_of_ne (t : Table α) {key other : String} (value : α) (h : other ≠ key) :
    get? (t.insert key value) other = get? t other := by
  induction t with
  | nil => simp [insert, get?_cons, Ne.symm h]
  | cons e t ih =>
    obtain ⟨k, v⟩ := e
    simp only [insert]
    split
    · simp [get?_cons, Ne.symm h]
    · split
      · rename_i hk
        simp [get?_cons, ← hk, Ne.symm h]
      · simp [get?_cons, ih]

theorem contains_eq_isSome (t : Table α) (key : String) : t.contains key = (t.get? key).isSome := by
  induction t with
  | nil => rfl
  | cons e t ih =>
    obtain ⟨k, v⟩ := e
    by_cases h : k = key
    · simp [contains, get?_cons, h]
    · have hk : (k == key) = false := by simpa using h
      simpa [contains, get?_cons, h, hk] using ih

theorem mem_insert {t : Table α} {key : String} {value : α} {e : String × α}
    (h : e ∈ t.insert key value) : e = (key, value) ∨ e ∈ t := by
  induction t with
  | nil => simpa [insert] using h
  | cons f t ih =>
    obtain ⟨k, v⟩ := f
    simp only [insert] at h
    split at h
    · simpa using h
    · split at h
      · obtain rfl | h := List.mem_cons.1 h
        · exact Or.inl rfl
        · exact Or.inr (List.mem_cons_of_mem _ h)
      · obtain rfl | h := List.mem_cons.1 h
        · exact Or.inr List.mem_cons_self
        · exact (ih h).imp_right (List.mem_cons_of_mem _)

theorem mem_insert_of_ne {t : Table α} {key : String} (value : α) {e : String × α} (he : e ∈ t)
    (hne : e.1 ≠ key) : e ∈ t.insert key value := by
  induction t with
  | nil => simp at he
  | cons f t ih =>
    obtain ⟨k, v⟩ := f
    simp only [insert]
    split
    · exact List.mem_cons_of_mem _ he
    · split
      · rename_i heq
        obtain rfl | he := List.mem_cons.1 he
        · exact absurd heq.symm hne
        · exact List.mem_cons_of_mem _ he
      · obtain rfl | he := List.mem_cons.1 he
        · exact List.mem_cons_self
        · exact List.mem_cons_of_mem _ (ih he)

theorem length_insert_of_contains_eq_false {t : Table α} {key : String} (value : α)
    (h : t.contains key = false) : (t.insert key value).length = t.length + 1 := by
  induction t with
  | nil => rfl
  | cons f t ih =>
    obtain ⟨k, v⟩ := f
    obtain ⟨hk, ht⟩ : (k == key) = false ∧ contains t key = false := by
      simpa [contains] using h
    have hne : key ≠ k := fun he => by simp [he] at hk
    simp only [insert, if_neg hne]
    split
    · rfl
    · rw [List.length_cons, ih ht, List.length_cons]

theorem insert_comm_of_lt (t : Table α) {j k : String} (v w : α) (h : j < k) :
    (t.insert j v).insert k w = (t.insert k w).insert j v := by
  have hne : j ≠ k := fun he => String.lt_irrefl _ (he ▸ h)
  have hkj : ¬ k < j := fun hlt => String.lt_irrefl _ (String.lt_trans h hlt)
  induction t with
  | nil => simp [insert, h, hne.symm, hkj]
  | cons f t ih =>
    obtain ⟨i, x⟩ := f
    by_cases hji : j < i
    · simp only [insert, hji, if_true, hkj, if_false, hne.symm]
      split
      · simp [insert, h]
      · split <;> simp [insert, h, hji]
    · by_cases hi : j = i
      · subst hi
        simp [insert, hkj, hne.symm]
      · have hij : i < j := Std.lt_of_le_of_ne (String.not_lt.1 hji) (Ne.symm hi)
        have hik : i < k := String.lt_trans hij h
        have hki : ¬ k < i := fun hlt => String.lt_irrefl _ (String.lt_trans hik hlt)
        have hki' : k ≠ i := fun he => String.lt_irrefl _ (he ▸ hik)
        simp [insert, hji, hi, hki, hki', ih]

/-- Under different keys the order of insertions makes no difference. -/
theorem insert_comm (t : Table α) {j k : String} (v w : α) (h : j ≠ k) :
    (t.insert j v).insert k w = (t.insert k w).insert j v := by
  by_cases hlt : j < k
  · exact insert_comm_of_lt t v w hlt
  · exact (insert_comm_of_lt t w v (Std.lt_of_le_of_ne (String.not_lt.1 hlt) h.symm)).symm

theorem sorted_insert {t : Table α} (h : t.Sorted) (key : String) (value : α) :
    (t.insert key value).Sorted := by
  induction t with
  | nil => simp [insert, Sorted]
  | cons f t ih =>
    obtain ⟨k, v⟩ := f
    obtain ⟨hk, ht⟩ := List.pairwise_cons.1 h
    simp only [insert]
    split
    · rename_i hlt
      refine List.pairwise_cons.2 ⟨fun e he => ?_, h⟩
      obtain rfl | he := List.mem_cons.1 he
      · exact hlt
      · exact String.lt_trans hlt (hk e he)
    · split
      · rename_i heq
        exact List.pairwise_cons.2 ⟨fun e he => heq ▸ hk e he, ht⟩
      · rename_i hlt hne
        refine List.pairwise_cons.2 ⟨fun e he => ?_, ih ht⟩
        obtain rfl | he := mem_insert he
        · exact Std.lt_of_le_of_ne (String.not_lt.1 hlt) (Ne.symm hne)
        · exact hk e he

end Table

end Flowboard
