import Flowboard.Proofs.Numeral

/-! JSON values in writing: each layout of a value is read as the value. -/
namespace Flowboard

namespace Text

/-- The characters with an escape of one letter, and the letters. -/
def shortEscapes : List (Char × Char) :=
  [('"', '"'), ('\\', '\\'), ('\n', 'n'), ('\r', 'r'), ('\t', 't'), ('\x08', 'b'), ('\x0c', 'f')]

theorem escape_short : ∀ p ∈ shortEscapes, escape p.1 = ['\\', p.2] := by
  decide

/-- A character between quotes is a short escape, a number, or itself. -/
theorem escape_cases (c : Char) :
    (∃ d, (c, d) ∈ shortEscapes ∧ escape c = ['\\', d]) ∨
    (c.toNat < 32 ∧ escape c =
      ['\\', 'u', '0', '0', hexDigit (c.toNat / 16), hexDigit (c.toNat % 16)]) ∨
    (escape c = [c] ∧ c ≠ '"' ∧ c ≠ '\\' ∧ 32 ≤ c.toNat) := by
  by_cases hshort : ∃ d, (c, d) ∈ shortEscapes
  · obtain ⟨d, hd⟩ := hshort
    exact .inl ⟨d, hd, escape_short _ hd⟩
  · have hnone (p : Char × Char) (hp : p ∈ shortEscapes) : c ≠ p.1 := fun h =>
      hshort ⟨p.2, h ▸ hp⟩
    simp only [shortEscapes, List.forall_mem_cons] at hnone
    obtain ⟨hq, hb, hn, hr, ht, hbs, hf, -⟩ := hnone
    simp only [escape, if_neg hq, if_neg hb, if_neg hn, if_neg hr, if_neg ht, if_neg hbs, if_neg hf]
    by_cases hc : c.toNat < 32
    · exact .inr (.inl ⟨hc, if_pos hc⟩)
    · exact .inr (.inr ⟨if_neg hc, hq, hb, Nat.le_of_not_lt hc⟩)

end Text

open Text (Symbol)

namespace Json

/-- Where blanks stand in a text: before items and members, which are some levels deep, before the
bracket that closes them, and after colons. -/
structure Layout where
  gap : Nat → List Char
  space : List Char
  gap_blank : ∀ depth, ∀ c ∈ gap depth, Reader.isSpace (.char c)
  space_blank : ∀ c ∈ space, Reader.isSpace (.char c)

namespace Layout

/-- Everything on one line, without blanks. -/
def oneLine : Layout where
  gap _ := []
  space := []
  gap_blank := by simp
  space_blank := by simp

/-- Items and members on lines of their own. -/
def indented : Layout where
  gap := newline
  space := [' ']
  gap_blank depth := by
    simp only [newline, List.forall_mem_cons]
    refine ⟨by decide, fun c hc => ?_⟩
    rw [List.eq_of_mem_replicate hc]
    decide
  space_blank := by simp [Reader.isSpace]

variable (l : Layout)

mutual

/-- A value, `depth` levels deep. -/
def write (depth : Nat) : Json → List Char
  | null => "null".toList
  | bool true => "true".toList
  | bool false => "false".toList
  | number n => n.text
  | string s => Text.quote s
  | array items => '[' :: firstItem depth items
  | object members => '{' :: firstMember depth members

/-- Items and the bracket that closes them. -/
def firstItem (depth : Nat) : List Json → List Char
  | [] => [']']
  | x :: rest => l.gap (depth + 1) ++ write (depth + 1) x ++ moreItems depth rest

/-- What follows an item. -/
def moreItems (depth : Nat) : List Json → List Char
  | [] => l.gap depth ++ [']']
  | x :: rest => ',' :: l.gap (depth + 1) ++ write (depth + 1) x ++ moreItems depth rest

/-- Members and the brace that closes them. -/
def firstMember (depth : Nat) : List (String × Json) → List Char
  | [] => ['}']
  | (k, x) :: rest =>
    l.gap (depth + 1) ++ Text.quote k ++ ':' :: l.space ++ write (depth + 1) x ++
      moreMembers depth rest

/-- What follows a member. -/
def moreMembers (depth : Nat) : List (String × Json) → List Char
  | [] => l.gap depth ++ ['}']
  | (k, x) :: rest =>
    ',' :: l.gap (depth + 1) ++ Text.quote k ++ ':' :: l.space ++ write (depth + 1) x ++
      moreMembers depth rest

end

variable {depth : Nat} {x : Json} {xs : List Json} {m : String × Json} {ms : List (String × Json)}

theorem write_string (s : String) : l.write depth (string s) = Text.quote s := rfl

theorem write_array : l.write depth (array xs) = '[' :: l.firstItem depth xs := rfl

theorem write_object : l.write depth (object ms) = '{' :: l.firstMember depth ms := rfl

theorem compact_array : (array xs).compact = '[' :: compactItems xs := rfl

theorem compact_object : (object ms).compact = '{' :: compactMembers ms := rfl

theorem pretty_array : (array (x :: xs)).pretty depth = '[' :: prettyItems depth (x :: xs) := rfl

theorem pretty_object : (object (m :: ms)).pretty depth = '{' :: prettyMembers depth (m :: ms) := rfl

theorem gap_oneLine (depth : Nat) : oneLine.gap depth = [] := rfl

theorem space_oneLine : oneLine.space = [] := rfl

theorem gap_indented (depth : Nat) : indented.gap depth = newline depth := rfl

theorem space_indented : indented.space = [' '] := rfl

mutual

/-- A value on one line is what is printed compactly. -/
theorem write_oneLine (depth : Nat) : ∀ v, oneLine.write depth v = v.compact
  | null => rfl
  | bool true => rfl
  | bool false => rfl
  | number _ => rfl
  | string _ => rfl
  | array [] => rfl
  | array (x :: rest) => by
    have h := moreItems_oneLine depth x (write_oneLine (depth + 1) x) rest
    simp [write_array, firstItem, compact_array, gap_oneLine, ← h]
  | object [] => rfl
  | object ((k, x) :: rest) => by
    have h := moreMembers_oneLine depth k x (write_oneLine (depth + 1) x) rest
    simp [write_object, firstMember, compact_object, gap_oneLine, space_oneLine, ← h]

theorem moreItems_oneLine (depth : Nat) (x : Json)
    (hx : oneLine.write (depth + 1) x = x.compact) : ∀ rest,
    oneLine.write (depth + 1) x ++ oneLine.moreItems depth rest = compactItems (x :: rest)
  | [] => by simp [moreItems, compactItems, hx, gap_oneLine]
  | y :: rest => by
    have h := moreItems_oneLine depth y (write_oneLine (depth + 1) y) rest
    simp [moreItems, compactItems, hx, gap_oneLine, ← h]

theorem moreMembers_oneLine (depth : Nat) (k : String) (x : Json)
    (hx : oneLine.write (depth + 1) x = x.compact) : ∀ rest,
    Text.quote k ++ ':' :: oneLine.write (depth + 1) x ++ oneLine.moreMembers depth rest =
      compactMembers ((k, x) :: rest)
  | [] => by simp [moreMembers, compactMembers, hx, gap_oneLine]
  | (j, y) :: rest => by
    have h := moreMembers_oneLine depth j y (write_oneLine (depth + 1) y) rest
    simp [moreMembers, compactMembers, hx, gap_oneLine, space_oneLine, ← h]

end

mutual

/-- A value with its items on lines of their own is what is printed prettily. -/
theorem write_indented (depth : Nat) : ∀ v, indented.write depth v = v.pretty depth
  | null => rfl
  | bool true => rfl
  | bool false => rfl
  | number _ => rfl
  | string _ => rfl
  | array [] => rfl
  | array (x :: rest) => by
    have h := moreItems_indented depth x (write_indented (depth + 1) x) rest
    simp [write_array, firstItem, pretty_array, gap_indented, ← h]
  | object [] => rfl
  | object ((k, x) :: rest) => by
    have h := moreMembers_indented depth k x (write_indented (depth + 1) x) rest
    simp [write_object, firstMember, pretty_object, gap_indented, space_indented, ← h]

theorem moreItems_indented (depth : Nat) (x : Json)
    (hx : indented.write (depth + 1) x = x.pretty (depth + 1)) : ∀ rest,
    newline (depth + 1) ++ indented.write (depth + 1) x ++ indented.moreItems depth rest =
      prettyItems depth (x :: rest)
  | [] => by simp [moreItems, prettyItems, hx, gap_indented]
  | y :: rest => by
    have h := moreItems_indented depth y (write_indented (depth + 1) y) rest
    simp [moreItems, prettyItems, hx, gap_indented, ← h]

theorem moreMembers_indented (depth : Nat) (k : String) (x : Json)
    (hx : indented.write (depth + 1) x = x.pretty (depth + 1)) : ∀ rest,
    newline (depth + 1) ++ Text.quote k ++ ':' :: ' ' :: indented.write (depth + 1) x ++
      indented.moreMembers depth rest = prettyMembers depth ((k, x) :: rest)
  | [] => by simp [moreMembers, prettyMembers, hx, gap_indented]
  | (j, y) :: rest => by
    have h := moreMembers_indented depth j y (write_indented (depth + 1) y) rest
    simp [moreMembers, prettyMembers, hx, gap_indented, space_indented,
      ← h]

end

end Layout

namespace Reader

variable {c d : Char} {cs : List Char} {s rest : List Text.Symbol} {fuel : Nat}

theorem digitIn?_hexDigit : ∀ n < 16, Text.digitIn? 16 (Text.hexDigit n) = some n := by
  decide

theorem piece_control {n : Nat} (hn : n < 32) :
    piece ((['\\', 'u', '0', '0', Text.hexDigit (n / 16), Text.hexDigit (n % 16)].map Symbol.char) ++
      s) = .char (Char.ofNat n) s := by
  have hhigh := digitIn?_hexDigit (n / 16) (by omega)
  have hlow := digitIn?_hexDigit (n % 16) (by omega)
  have hzero : Text.digitIn? 16 '0' = some 0 := by decide
  have hn' : ((0 * 16 + 0) * 16 + n / 16) * 16 + n % 16 = n := by omega
  have hbounds : ¬ (0xDC00 ≤ n ∧ n ≤ 0xDFFF) ∧ (n < 0xD800 ∨ 0xDBFF < n) := by omega
  simp only [List.map_cons, List.map_nil, List.cons_append, List.nil_append, piece, unicodeEscape,
    hexEscape, hhigh, hlow, hzero, hn', if_neg hbounds.1, if_pos hbounds.2]

theorem piece_self (hq : c ≠ '"') (hb : c ≠ '\\') (hc : 32 ≤ c.toNat) :
    piece (.char c :: s) = .char c s := by
  rw [piece, if_neg (Nat.not_lt.mpr hc)]
  exacts [hq, hb]

theorem shortEscape?_of_mem :
    ∀ p ∈ Text.shortEscapes, shortEscape? p.2 = some p.1 ∧ p.2 ≠ 'u' := by
  decide

theorem piece_short (hd : shortEscape? d = some c) (hu : d ≠ 'u') :
    piece (.char '\\' :: .char d :: s) = .char c s := by
  rw [piece, hd]
  exact hu

/-- A character between quotes is read as the character. -/
theorem piece_escape (c : Char) (s : List Symbol) :
    piece ((Text.escape c).map Symbol.char ++ s) = .char c s := by
  obtain ⟨d, hd, he⟩ | ⟨hc, he⟩ | ⟨he, hq, hb, hc⟩ := Text.escape_cases c
  · obtain ⟨hshort, hu⟩ := shortEscape?_of_mem _ hd
    rw [he]
    exact piece_short hshort hu
  · rw [he, piece_control hc, Char.ofNat_toNat]
  · rw [he]
    exact piece_self hq hb hc

/-- Escaped characters are read back up to the quote after them. -/
theorem readString_escaped (cs acc : List Char) (h : cs.length < fuel) :
    readString fuel true acc ((cs.flatMap Text.escape).map Symbol.char ++ .char '"' :: rest) =
      .ok (String.ofList (acc.reverse ++ cs), rest) := by
  induction cs generalizing fuel acc with
  | nil =>
    obtain ⟨fuel, rfl⟩ := Nat.exists_eq_succ_of_ne_zero (Nat.ne_zero_of_lt h)
    simp [readString, piece]
  | cons c cs ih =>
    obtain ⟨fuel, rfl⟩ := Nat.exists_eq_succ_of_ne_zero (Nat.ne_zero_of_lt h)
    rw [List.flatMap_cons, List.map_append, List.append_assoc, readString, piece_escape]
    simp only
    rw [ih (c :: acc) (by simpa using h)]
    simp

theorem string_quote (text : String) (h : text.toList.length < fuel) :
    string fuel ((text.toList.flatMap Text.escape).map Symbol.char ++ .char '"' :: rest) =
      .ok (.ok text, rest) := by
  rw [string, readString_escaped _ _ h]
  simp

variable {a : Text.Symbol} {t u w y : List Text.Symbol} {x : Tree} {xs : Items} {ms : Members}
  {key : Except TextFault String} {first : Bool}

theorem skipSpace_append (h : ∀ c ∈ cs, isSpace (.char c)) :
    skipSpace (cs.map Symbol.char ++ s) = skipSpace s := by
  refine List.dropWhile_append_of_pos fun a ha => ?_
  obtain ⟨c, hc, rfl⟩ := List.mem_map.mp ha
  exact h c hc

theorem value_append (h : ∀ c ∈ cs, isSpace (.char c)) :
    value fuel (cs.map Symbol.char ++ s) = value fuel s := by
  cases fuel with
  | zero => rfl
  | succ fuel =>
    unfold value
    rw [skipSpace_append h]

theorem word_append (t : Tree) (cs : List Char) :
    word t cs (cs.map Symbol.char ++ s) = (t, some s) := by
  induction cs with
  | nil => rfl
  | cons c cs ih => rw [List.map_cons, List.cons_append, word, if_pos rfl, ih]

theorem value_null :
    value (fuel + 1) (.char 'n' :: ("ull".toList.map Symbol.char ++ s)) = (.null, some s) := by
  unfold value
  rw [skipSpace_of_isSpace_eq_false (by decide)]
  exact word_append .null _

theorem value_true :
    value (fuel + 1) (.char 't' :: ("rue".toList.map Symbol.char ++ s)) = (.bool true, some s) := by
  unfold value
  rw [skipSpace_of_isSpace_eq_false (by decide)]
  exact word_append (.bool true) _

theorem value_false :
    value (fuel + 1) (.char 'f' :: ("alse".toList.map Symbol.char ++ s)) =
      (.bool false, some s) := by
  unfold value
  rw [skipSpace_of_isSpace_eq_false (by decide)]
  exact word_append (.bool false) _

theorem value_array {r : Rest} (h : items fuel true s = (xs, r)) :
    value (fuel + 1) (.char '[' :: s) = (.array xs, r) := by
  unfold value
  rw [skipSpace_of_isSpace_eq_false (by decide)]
  simp only [h]

theorem value_object {r : Rest} (h : members fuel true s = (ms, r)) :
    value (fuel + 1) (.char '{' :: s) = (.object ms, r) := by
  unfold value
  rw [skipSpace_of_isSpace_eq_false (by decide)]
  simp only [h]

theorem value_string {v : Except TextFault String} (h : string fuel s = .ok (v, rest)) :
    value (fuel + 1) (.char '"' :: s) = (.string v, some rest) := by
  unfold value
  rw [skipSpace_of_isSpace_eq_false (by decide)]
  simp only [h]

theorem items_close (h : skipSpace s = .char ']' :: rest) :
    items (fuel + 1) first s = (.done, some rest) := by
  unfold items
  simp only [h]

/-- The first item of a list stands behind no comma. -/
theorem items_first (h : skipSpace s = a :: t) (ha : a ≠ .char ']')
    (hx : value fuel (a :: t) = (x, some u)) (hxs : items fuel false u = (xs, some rest)) :
    items (fuel + 1) true s = (.cons x xs, some rest) := by
  unfold items
  simp only [h]
  split
  · simp_all
  · simp_all
  · simp [hx, hxs]

theorem items_more (h : skipSpace s = .char ',' :: t) (ht : skipSpace t = a :: u)
    (ha : a ≠ .char ']') (hx : value fuel (a :: u) = (x, some w))
    (hxs : items fuel false w = (xs, some rest)) :
    items (fuel + 1) false s = (.cons x xs, some rest) := by
  unfold items
  simp only [h]
  split
  · simp_all
  · simp_all
  · simp only [Bool.false_eq_true, if_false, ht]
    split
    · simp_all
    · simp_all
    · simp [hx, hxs]

theorem members_close (h : skipSpace s = .char '}' :: rest) :
    members (fuel + 1) first s = (.done, some rest) := by
  unfold members
  simp only [h]

theorem members_first (h : skipSpace s = .char '"' :: t) (hkey : string fuel t = .ok (key, u))
    (hu : skipSpace u = .char ':' :: w) (hx : value fuel w = (x, some y))
    (hms : members fuel false y = (ms, some rest)) :
    members (fuel + 1) true s = (.cons key x ms, some rest) := by
  unfold members
  simp [h, hkey, hu, hx, hms]

theorem members_more (h : skipSpace s = .char ',' :: rest') (h' : skipSpace rest' = .char '"' :: t)
    (hkey : string fuel t = .ok (key, u)) (hu : skipSpace u = .char ':' :: w)
    (hx : value fuel w = (x, some y)) (hms : members fuel false y = (ms, some rest)) :
    members (fuel + 1) false s = (.cons key x ms, some rest) := by
  unfold members
  simp [h, h', hkey, hu, hx, hms]

end Reader

mutual

/-- The doubles in a value. -/
def doubles : Json → List Double
  | .number (.double d) => [d]
  | .array items => doublesItems items
  | .object members => doublesMembers members
  | _ => []

def doublesItems : List Json → List Double
  | [] => []
  | x :: rest => doubles x ++ doublesItems rest

def doublesMembers : List (String × Json) → List Double
  | [] => []
  | (_, x) :: rest => doubles x ++ doublesMembers rest

end

namespace Layout

open Reader

variable (l : Layout) {depth : Nat} {rest : List Text.Symbol}

theorem endsNumber_gap (c : Char) (hc : EndsNumber (.char c :: rest)) :
    EndsNumber ((l.gap depth ++ [c]).map Symbol.char ++ rest) := by
  cases hgap : l.gap depth with
  | nil => exact hc
  | cons b gap =>
    have hb : isSpace (.char b) := l.gap_blank depth b (by simp [hgap])
    simp only [isSpace, Bool.or_eq_true, beq_iff_eq] at hb
    obtain ((rfl | rfl) | rfl) | rfl := hb <;> exact ⟨by decide, by decide, by decide, by decide⟩

theorem endsNumber_moreItems (xs : List Json) :
    EndsNumber ((l.moreItems depth xs).map Symbol.char ++ rest) := by
  cases xs with
  | nil => exact l.endsNumber_gap ']' ⟨by decide, by decide, by decide, by decide⟩
  | cons x xs => exact ⟨by decide, by decide, by decide, by decide⟩

theorem endsNumber_moreMembers (ms : List (String × Json)) :
    EndsNumber ((l.moreMembers depth ms).map Symbol.char ++ rest) := by
  cases ms with
  | nil => exact l.endsNumber_gap '}' ⟨by decide, by decide, by decide, by decide⟩
  | cons m ms => exact ⟨by decide, by decide, by decide, by decide⟩

/-- A value starts with no blank, and with no bracket that closes items. -/
theorem exists_write_eq_cons (depth : Nat) (v : Json) :
    ∃ c cs, l.write depth v = c :: cs ∧ isSpace (.char c) = false ∧ c ≠ ']' := by
  cases v with
  | null => exact ⟨_, _, rfl, by decide, by decide⟩
  | bool b => cases b <;> exact ⟨_, _, rfl, by decide, by decide⟩
  | number n =>
    obtain ⟨c, cs, hcs⟩ := List.exists_cons_of_ne_nil n.text_ne_nil
    have hc := Number.isTextChar_of_mem_text c (hcs ▸ List.mem_cons_self)
    refine ⟨c, cs, hcs, Double.isSpace_eq_false_of_isTextChar hc, ?_⟩
    rintro rfl
    exact absurd hc (by decide)
  | string s => exact ⟨_, _, rfl, by decide, by decide⟩
  | array xs => exact ⟨_, _, rfl, by decide, by decide⟩
  | object ms => exact ⟨_, _, rfl, by decide, by decide⟩

theorem skipSpace_gap (s : List Symbol) :
    skipSpace ((l.gap depth).map Symbol.char ++ s) = skipSpace s :=
  skipSpace_append (l.gap_blank depth)

theorem length_moreItems (xs : List Json) : 1 ≤ (l.moreItems depth xs).length := by
  cases xs <;> simp [moreItems]

theorem length_moreMembers (ms : List (String × Json)) :
    1 ≤ (l.moreMembers depth ms).length := by
  cases ms <;> simp [moreMembers]

theorem length_firstItem (xs : List Json) : 1 ≤ (l.firstItem depth xs).length := by
  cases xs with
  | nil => exact le_rfl
  | cons x xs =>
    have h : 1 ≤ (l.moreItems depth xs).length := l.length_moreItems xs
    simp only [firstItem, List.length_append]
    omega

theorem length_firstMember (ms : List (String × Json)) :
    1 ≤ (l.firstMember depth ms).length := by
  cases ms with
  | nil => exact le_rfl
  | cons m ms =>
    simp only [firstMember, List.length_append, List.length_cons]
    omega

theorem length_write (v : Json) : 1 ≤ (l.write depth v).length := by
  obtain ⟨c, cs, hcs, -⟩ := l.exists_write_eq_cons depth v
  simp [hcs]

/-- Fuel as long as the text of items is enough for the first one and for the others. -/
theorem length_firstItem_cons {x : Json} {xs : List Json} {fuel : Nat}
    (h : (l.firstItem depth (x :: xs)).length ≤ fuel + 1) :
    (l.write (depth + 1) x).length ≤ fuel ∧ (l.moreItems depth xs).length ≤ fuel := by
  have hx : 1 ≤ (l.write (depth + 1) x).length := l.length_write x
  have hxs : 1 ≤ (l.moreItems depth xs).length := l.length_moreItems xs
  simp only [firstItem, List.length_append] at h
  omega

theorem length_moreItems_cons {x : Json} {xs : List Json} {fuel : Nat}
    (h : (l.moreItems depth (x :: xs)).length ≤ fuel + 1) :
    (l.write (depth + 1) x).length ≤ fuel ∧ (l.moreItems depth xs).length ≤ fuel := by
  simp only [moreItems, List.length_append, List.length_cons] at h
  omega

theorem length_firstMember_cons {k : String} {x : Json} {ms : List (String × Json)} {fuel : Nat}
    (h : (l.firstMember depth ((k, x) :: ms)).length ≤ fuel + 1) :
    (Text.quote k).length ≤ fuel + 1 ∧ (l.write (depth + 1) x).length ≤ fuel ∧
      (l.moreMembers depth ms).length ≤ fuel := by
  simp only [firstMember, List.length_append, List.length_cons] at h
  omega

theorem length_moreMembers_cons {k : String} {x : Json} {ms : List (String × Json)} {fuel : Nat}
    (h : (l.moreMembers depth ((k, x) :: ms)).length ≤ fuel + 1) :
    (Text.quote k).length ≤ fuel + 1 ∧ (l.write (depth + 1) x).length ≤ fuel ∧
      (l.moreMembers depth ms).length ≤ fuel := by
  simp only [moreMembers, List.length_append, List.length_cons] at h
  omega

theorem length_escape_pos (c : Char) : 0 < (Text.escape c).length := by
  obtain ⟨d, -, he⟩ | ⟨-, he⟩ | ⟨he, -⟩ := Text.escape_cases c <;> rw [he] <;> exact Nat.succ_pos _

theorem length_quote (k : String) : k.toList.length + 2 ≤ (Text.quote k).length := by
  have hescape (cs : List Char) : cs.length ≤ (cs.flatMap Text.escape).length := by
    induction cs with
    | nil => exact le_rfl
    | cons c cs ih =>
      have hc := length_escape_pos c
      simp only [List.flatMap_cons, List.length_cons, List.length_append]
      omega
  have h := hescape k.toList
  simp only [Text.quote, List.length_cons, List.length_append, List.length_nil]
  omega

theorem string_key {fuel : Nat} {k : String} (h : (Text.quote k).length ≤ fuel + 1) :
    ∃ s, (Text.quote k).map Symbol.char = .char '"' :: s ∧
      ∀ rest, Reader.string fuel (s ++ rest) = .ok (.ok k, rest) := by
  have hlength := length_quote k
  refine ⟨(k.toList.flatMap Text.escape).map Symbol.char ++ [.char '"'], by simp [Text.quote],
    fun rest => ?_⟩
  rw [List.append_assoc]
  exact string_quote k (by omega)

mutual

/-- Each layout of a value whose doubles are read back is read as the value. -/
theorem value_write : ∀ (v : Json) (depth fuel : Nat) (rest : List Symbol),
    (∀ d ∈ v.doubles, d.ReadsBack) → EndsNumber rest → (l.write depth v).length ≤ fuel →
    value fuel ((l.write depth v).map Symbol.char ++ rest) = (v.tree, some rest)
  | null, depth, fuel + 1, rest, _, _, _ => value_null
  | bool true, depth, fuel + 1, rest, _, _, _ => value_true
  | bool false, depth, fuel + 1, rest, _, _, _ => value_false
  | number n, depth, fuel + 1, rest, hd, hrest, hfuel => by
    have hn : n.ReadsBack := by
      cases n with
      | double d => exact hd d (by simp [doubles])
      | natural n => trivial
      | negative n => trivial
    exact Number.value_text hn hrest
  | string s, depth, fuel + 1, rest, _, _, hfuel => by
    obtain ⟨u, hu, hs⟩ := string_key hfuel
    rw [write_string, hu, List.cons_append, value_string (hs rest), tree]
  | array xs, depth, fuel + 1, rest, hd, hrest, hfuel => by
    rw [write_array, List.map_cons, List.cons_append, tree]
    exact value_array (items_firstItem xs depth fuel rest hd (Nat.le_of_succ_le_succ hfuel))
  | object ms, depth, fuel + 1, rest, hd, hrest, hfuel => by
    rw [write_object, List.map_cons, List.cons_append, tree]
    exact value_object (members_firstMember ms depth fuel rest hd (Nat.le_of_succ_le_succ hfuel))
  | v, depth, 0, rest, hd, hrest, hfuel => by
    obtain ⟨c, cs, hcs, -⟩ := l.exists_write_eq_cons depth v
    simp [hcs] at hfuel

/-- Items are read back from behind the opening bracket. -/
theorem items_firstItem : ∀ (xs : List Json) (depth fuel : Nat) (rest : List Symbol),
    (∀ d ∈ doublesItems xs, d.ReadsBack) → (l.firstItem depth xs).length ≤ fuel →
    items fuel true ((l.firstItem depth xs).map Symbol.char ++ rest) = (treeItems xs, some rest)
  | xs, depth, 0, rest, _, hfuel => absurd ((l.length_firstItem xs).trans hfuel) (by decide)
  | [], depth, fuel + 1, rest, _, _ => items_close rfl
  | x :: xs, depth, fuel + 1, rest, hd, hfuel => by
    simp only [doublesItems, List.forall_mem_append] at hd
    obtain ⟨hlx, hlxs⟩ := l.length_firstItem_cons hfuel
    have hx := value_write x (depth + 1) fuel ((l.moreItems depth xs).map Symbol.char ++ rest) hd.1
      (l.endsNumber_moreItems xs) hlx
    have hxs := items_moreItems xs depth fuel rest hd.2 hlxs
    obtain ⟨c, cs, hcs, hc, hbracket⟩ := l.exists_write_eq_cons (depth + 1) x
    simp only [firstItem, List.map_append, List.append_assoc, treeItems]
    rw [hcs] at hx ⊢
    refine items_first ?_ (by simpa using hbracket) hx hxs
    exact (l.skipSpace_gap _).trans (skipSpace_of_isSpace_eq_false hc)

theorem items_moreItems : ∀ (xs : List Json) (depth fuel : Nat) (rest : List Symbol),
    (∀ d ∈ doublesItems xs, d.ReadsBack) → (l.moreItems depth xs).length ≤ fuel →
    items fuel false ((l.moreItems depth xs).map Symbol.char ++ rest) = (treeItems xs, some rest)
  | xs, depth, 0, rest, _, hfuel => absurd ((l.length_moreItems xs).trans hfuel) (by decide)
  | [], depth, fuel + 1, rest, _, _ => by
    simp only [moreItems, List.map_append, List.append_assoc]
    exact items_close (l.skipSpace_gap _)
  | x :: xs, depth, fuel + 1, rest, hd, hfuel => by
    simp only [doublesItems, List.forall_mem_append] at hd
    obtain ⟨hlx, hlxs⟩ := l.length_moreItems_cons hfuel
    have hx := value_write x (depth + 1) fuel ((l.moreItems depth xs).map Symbol.char ++ rest) hd.1
      (l.endsNumber_moreItems xs) hlx
    have hxs := items_moreItems xs depth fuel rest hd.2 hlxs
    obtain ⟨c, cs, hcs, hc, hbracket⟩ := l.exists_write_eq_cons (depth + 1) x
    simp only [moreItems, List.map_append, List.append_assoc, List.map_cons, List.cons_append,
      treeItems]
    rw [hcs] at hx ⊢
    refine items_more rfl ?_ (by simpa using hbracket) hx hxs
    exact (l.skipSpace_gap _).trans (skipSpace_of_isSpace_eq_false hc)

/-- Members are read back from behind the opening brace. -/
theorem members_firstMember : ∀ (ms : List (String × Json)) (depth fuel : Nat)
    (rest : List Symbol), (∀ d ∈ doublesMembers ms, d.ReadsBack) →
    (l.firstMember depth ms).length ≤ fuel →
    members fuel true ((l.firstMember depth ms).map Symbol.char ++ rest) =
      (treeMembers ms, some rest)
  | ms, depth, 0, rest, _, hfuel => absurd ((l.length_firstMember ms).trans hfuel) (by decide)
  | [], depth, fuel + 1, rest, _, _ => members_close rfl
  | (k, x) :: ms, depth, fuel + 1, rest, hd, hfuel => by
    simp only [doublesMembers, List.forall_mem_append] at hd
    obtain ⟨hlk, hlx, hlms⟩ := l.length_firstMember_cons hfuel
    have hx := value_write x (depth + 1) fuel ((l.moreMembers depth ms).map Symbol.char ++ rest)
      hd.1 (l.endsNumber_moreMembers ms) hlx
    have hms := members_moreMembers ms depth fuel rest hd.2 hlms
    obtain ⟨u, hu, hk⟩ := string_key hlk
    simp only [firstMember, List.map_append, List.append_assoc, List.map_cons, List.cons_append,
      treeMembers]
    rw [hu]
    refine members_first ((l.skipSpace_gap _).trans rfl) (hk _) rfl ?_ hms
    rw [value_append l.space_blank]
    exact hx

theorem members_moreMembers : ∀ (ms : List (String × Json)) (depth fuel : Nat)
    (rest : List Symbol), (∀ d ∈ doublesMembers ms, d.ReadsBack) →
    (l.moreMembers depth ms).length ≤ fuel →
    members fuel false ((l.moreMembers depth ms).map Symbol.char ++ rest) =
      (treeMembers ms, some rest)
  | ms, depth, 0, rest, _, hfuel => absurd ((l.length_moreMembers ms).trans hfuel) (by decide)
  | [], depth, fuel + 1, rest, _, _ => by
    simp only [moreMembers, List.map_append, List.append_assoc]
    exact members_close (l.skipSpace_gap _)
  | (k, x) :: ms, depth, fuel + 1, rest, hd, hfuel => by
    simp only [doublesMembers, List.forall_mem_append] at hd
    obtain ⟨hlk, hlx, hlms⟩ := l.length_moreMembers_cons hfuel
    have hx := value_write x (depth + 1) fuel ((l.moreMembers depth ms).map Symbol.char ++ rest)
      hd.1 (l.endsNumber_moreMembers ms) hlx
    have hms := members_moreMembers ms depth fuel rest hd.2 hlms
    obtain ⟨u, hu, hk⟩ := string_key hlk
    simp only [moreMembers, List.map_append, List.append_assoc, List.map_cons, List.cons_append,
      treeMembers]
    rw [hu]
    refine members_more rfl ((l.skipSpace_gap _).trans rfl) (hk _) rfl ?_ hms
    rw [value_append l.space_blank]
    exact hx

end

/-- The whole text of a value. -/
theorem tree_write {v : Json} (h : ∀ d ∈ v.doubles, d.ReadsBack) :
    Reader.tree ((l.write 0 v).map Symbol.char) = (v.tree, some []) := by
  have hread := l.value_write v 0 (2 * (l.write 0 v).length + 2) [] h trivial (by omega)
  rw [List.append_nil] at hread
  rw [Reader.tree, List.length_map, hread]

end Layout

variable {v : Json}

/-- The compact text of a value is read as the value. -/
theorem tree_render (h : ∀ d ∈ v.doubles, d.ReadsBack) :
    Reader.tree (Text.ofString v.render) = (v.tree, some []) := by
  rw [Text.ofString, render, String.toList_ofList, ← Layout.write_oneLine 0]
  exact Layout.tree_write _ h

/-- The pretty text of a value is read as the value. -/
theorem tree_renderPretty (h : ∀ d ∈ v.doubles, d.ReadsBack) :
    Reader.tree (Text.ofString v.renderPretty) = (v.tree, some []) := by
  rw [Text.ofString, renderPretty, String.toList_ofList, ← Layout.write_indented]
  exact Layout.tree_write _ h

end Json

namespace Decoder

variable {α : Type} {v : Json}

theorem ofSymbols_of_tree (d : Decoder α) {s : List Symbol} {t : Tree}
    (h : Json.Reader.tree s = (t, some [])) : d.ofSymbols s = d .document t := by
  simp only [ofSymbols, h]
  cases d .document t <;> rfl

/-- What is read from the text of a value is what is read from the value, within the depth of
texts. -/
theorem ofText_render (d : Decoder α) (h : ∀ x ∈ v.doubles, x.ReadsBack) :
    d.ofText v.render = d .document v.tree :=
  ofSymbols_of_tree d (Json.tree_render h)

theorem ofText_renderPretty (d : Decoder α) (h : ∀ x ∈ v.doubles, x.ReadsBack) :
    d.ofText v.renderPretty = d .document v.tree :=
  ofSymbols_of_tree d (Json.tree_renderPretty h)

end Decoder

end Flowboard
