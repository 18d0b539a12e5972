import Flowboard.Json.Printer
import Flowboard.Json.Text
import Mathlib

/-! Numbers in JSON texts: what is printed reads back, whatever follows that is no part of it. -/
namespace Flowboard

open Text (Symbol digit?)

theorem Decoder.exists_tree_of_ofSymbols {α : Type} {d : Decoder α} {s : List Symbol} {x : α}
    (h : d.ofSymbols s = .ok x) : ∃ t rest, Json.Reader.tree s = (t, some rest) ∧
      Json.Reader.skipSpace rest = [] ∧ d .document t = .ok x := by
  unfold ofSymbols at h
  generalize Json.Reader.tree s = p at h ⊢
  obtain ⟨t, rest⟩ := p
  simp only at h
  split at h
  · simp at h
  · rename_i hd
    split at h
    · rename_i hspace
      exact ⟨t, _, rfl, List.isEmpty_iff.mp hspace, hd.trans (congrArg _ (Except.ok.inj h))⟩
    · simp at h
  · simp at h

namespace Json.Reader

variable {c : Char} {cs : List Char} {s t rest : List Text.Symbol} {x y : Numeral} {acc n : Nat}

/-- The text after a number does not carry it on. -/
def EndsNumber : List Symbol → Prop
  | .char c :: _ => c.isDigit = false ∧ c ≠ '.' ∧ c ≠ 'e' ∧ c ≠ 'E'
  | _ => True

/-- The value of a character as a decimal digit. -/
def digitValue (c : Char) : Nat :=
  c.toNat - '0'.toNat

theorem digits_of_endsNumber (h : EndsNumber rest) : digits rest = ([], rest) := by
  match rest, h with
  | [], _ => rfl
  | .stray n :: rest, _ => rfl
  | .char c :: rest, h => simp [digits, digit?, h.1]

theorem digits_append (h : EndsNumber rest) (s : List Symbol) :
    digits (s ++ rest) = ((digits s).1, (digits s).2 ++ rest) := by
  induction s with
  | nil => simpa [digits] using digits_of_endsNumber h
  | cons a s ih =>
    cases a with
    | stray n => rfl
    | char c =>
      cases hc : digit? c with
      | none => simp [digits, hc]
      | some d => simp [digits, hc, ih]

theorem digits_map (h : ∀ c ∈ cs, c.isDigit) :
    digits (cs.map Symbol.char) = (cs.map digitValue, []) := by
  induction cs with
  | nil => rfl
  | cons c cs ih =>
    obtain ⟨hc, hcs⟩ := List.forall_mem_cons.mp h
    simp [digits, digit?, hc, ih hcs, digitValue]

/-- Digits that stand before the rest of a text, as a list of characters all of which are digits. -/
theorem exists_digits (s : List Symbol) :
    ∃ cs : List Char, s = cs.map Symbol.char ++ (digits s).2 ∧ ∀ c ∈ cs, c.isDigit := by
  induction s with
  | nil => exact ⟨[], rfl, by simp⟩
  | cons a s ih =>
    cases a with
    | stray n => exact ⟨[], rfl, by simp⟩
    | char c =>
      cases hc : c.isDigit with
      | false => exact ⟨[], by simp [digits, digit?, hc], by simp⟩
      | true =>
        obtain ⟨cs, hs, hcs⟩ := ih
        refine ⟨c :: cs, ?_, by simpa [hc] using hcs⟩
        simp only [digits, digit?, hc, if_true, List.map_cons, List.cons_append]
        exact congrArg _ hs

/-- The digits of an exponent after its sign. -/
def signedExponent (x : Numeral) (down : Bool) (s : List Symbol) :
    Except (TextFault × TextFault) (Numeral × List Symbol) :=
  match digits s with
  | ([], s) => .error (missingDigit s)
  | (ds, s) => .ok ({ x with exponent := some (down, ds) }, s)

/-- An exponent after its mark. -/
def markedExponent (x : Numeral) : List Symbol →
    Except (TextFault × TextFault) (Numeral × List Symbol)
  | .char '+' :: s => signedExponent x false s
  | .char '-' :: s => signedExponent x true s
  | s => signedExponent x false s

theorem readExponent_eq (x : Numeral) (s : List Symbol) : readExponent x s =
    match s with
    | .char 'e' :: s => markedExponent x s
    | .char 'E' :: s => markedExponent x s
    | s => .ok (x, s) :=
  rfl

theorem signedExponent_append {down : Bool} (hr : EndsNumber rest)
    (h : signedExponent x down s = .ok (y, [])) :
    signedExponent x down (s ++ rest) = .ok (y, rest) := by
  simp only [signedExponent, digits_append hr] at h ⊢
  generalize digits s = p at h ⊢
  obtain ⟨ds, t⟩ := p
  cases ds with
  | nil => simp at h
  | cons d ds =>
    obtain ⟨rfl, rfl⟩ : _ ∧ t = [] := by simpa using h
    rfl

theorem signedExponent_nil {down : Bool} : signedExponent x down [] ≠ .ok (y, t) := by
  simp [signedExponent, digits]

theorem markedExponent_append (hr : EndsNumber rest) (h : markedExponent x s = .ok (y, [])) :
    markedExponent x (s ++ rest) = .ok (y, rest) := by
  unfold markedExponent at h
  split at h
  · exact signedExponent_append hr h
  · exact signedExponent_append hr h
  · rename_i hplus hminus
    cases s with
    | nil => exact absurd h signedExponent_nil
    | cons a s =>
      rw [List.cons_append, markedExponent]
      · exact signedExponent_append hr h
      · simpa using hplus s
      · simpa using hminus s

theorem readExponent_of_endsNumber (hr : EndsNumber rest) : readExponent x rest = .ok (x, rest) := by
  rw [readExponent_eq]
  match rest, hr with
  | [], _ => rfl
  | .stray n :: rest, _ => rfl
  | .char c :: rest, hr => split <;> simp_all [EndsNumber]

theorem readExponent_append (hr : EndsNumber rest) (h : readExponent x s = .ok (y, [])) :
    readExponent x (s ++ rest) = .ok (y, rest) := by
  rw [readExponent_eq] at h
  split at h
  · exact markedExponent_append hr h
  · exact markedExponent_append hr h
  · obtain ⟨rfl, rfl⟩ : x = y ∧ _ = [] := by simpa using h
    exact readExponent_of_endsNumber hr

theorem readFraction_of_endsNumber (hr : EndsNumber rest) :
    readFraction x rest = .ok (x, rest) := by
  have hpoint : ∀ s, rest = .char '.' :: s → False := by
    rintro s rfl
    exact hr.2.1 rfl
  rw [readFraction]
  · exact readExponent_of_endsNumber hr
  · exact hpoint

theorem readFraction_append (hr : EndsNumber rest) (h : readFraction x s = .ok (y, [])) :
    readFraction x (s ++ rest) = .ok (y, rest) := by
  unfold readFraction at h
  split at h
  · rename_i s
    rw [List.cons_append, readFraction, digits_append hr]
    generalize digits s = p at h ⊢
    obtain ⟨ds, t⟩ := p
    cases ds with
    | nil => simp at h
    | cons d ds => exact readExponent_append hr h
  · rename_i hpoint
    cases s with
    | nil =>
      obtain ⟨rfl, -⟩ : x = y ∧ True := by simpa [readExponent] using h
      exact readFraction_of_endsNumber hr
    | cons a s =>
      rw [List.cons_append, readFraction]
      · exact readExponent_append hr h
      · simpa using hpoint s

/-- A numeral that is read to its end is read before anything that ends a number. -/
theorem readNumeral_append {negative : Bool} (hr : EndsNumber rest)
    (h : readNumeral negative s = .ok (x, [])) :
    readNumeral negative (s ++ rest) = .ok (x, rest) := by
  simp only [readNumeral, digits_append hr] at h ⊢
  generalize digits s = p at h ⊢
  obtain ⟨ds, t⟩ := p
  match ds, h with
  | [0], h => exact readFraction_append hr h
  | (d + 1) :: ds, h => exact readFraction_append hr h

theorem digits_suffix (s : List Symbol) : (digits s).2 <:+ s := by
  obtain ⟨cs, hs, -⟩ := exists_digits s
  exact ⟨cs.map Symbol.char, hs.symm⟩

theorem signedExponent_ok {down : Bool} (h : signedExponent x down s = .ok (y, t)) :
    t <:+ s ∧ y.exponent.isSome ∧ y.fraction = x.fraction := by
  have hsuffix := digits_suffix s
  simp only [signedExponent] at h
  generalize digits s = p at h hsuffix
  obtain ⟨ds, u⟩ := p
  cases ds with
  | nil => simp at h
  | cons d ds =>
    obtain ⟨rfl, rfl⟩ : _ ∧ u = t := by simpa using h
    exact ⟨hsuffix, rfl, rfl⟩

theorem markedExponent_ok (h : markedExponent x s = .ok (y, t)) :
    t <:+ s ∧ y.exponent.isSome ∧ y.fraction = x.fraction := by
  unfold markedExponent at h
  split at h
  · exact (signedExponent_ok h).imp_left fun hs => hs.trans (List.suffix_cons _ _)
  · exact (signedExponent_ok h).imp_left fun hs => hs.trans (List.suffix_cons _ _)
  · exact signedExponent_ok h

theorem readExponent_ok (h : readExponent x s = .ok (y, t)) :
    t <:+ s ∧ (t = s ∨ y.exponent.isSome) ∧ y.fraction = x.fraction := by
  rw [readExponent_eq] at h
  split at h
  · obtain ⟨hs, he, hf⟩ := markedExponent_ok h
    exact ⟨hs.trans (List.suffix_cons _ _), Or.inr he, hf⟩
  · obtain ⟨hs, he, hf⟩ := markedExponent_ok h
    exact ⟨hs.trans (List.suffix_cons _ _), Or.inr he, hf⟩
  · obtain ⟨rfl, rfl⟩ : x = y ∧ _ = t := by simpa using h
    exact ⟨List.suffix_rfl, Or.inl rfl, rfl⟩

theorem readFraction_ok (h : readFraction x s = .ok (y, t)) :
    t <:+ s ∧ (t = s ∨ y.exponent.isSome ∨ y.fraction.isSome) := by
  unfold readFraction at h
  split at h
  · rename_i s
    have hsuffix := digits_suffix s
    generalize digits s = p at h hsuffix
    obtain ⟨ds, u⟩ := p
    cases ds with
    | nil => simp at h
    | cons d ds =>
      obtain ⟨hs, -, hf⟩ := readExponent_ok h
      exact ⟨(hs.trans hsuffix).trans (List.suffix_cons _ _), Or.inr (Or.inr (by simp [hf]))⟩
  · obtain ⟨hs, he, -⟩ := readExponent_ok h
    exact ⟨hs, he.imp_right Or.inl⟩

/-- A numeral without an exponent and a fraction is all digits. -/
theorem readNumeral_ok {negative : Bool} (h : readNumeral negative s = .ok (x, t)) :
    t <:+ s ∧ (t = (digits s).2 ∨ x.exponent.isSome ∨ x.fraction.isSome) := by
  have hsuffix := digits_suffix s
  simp only [readNumeral] at h
  generalize digits s = p at h hsuffix
  obtain ⟨ds, u⟩ := p
  have hfraction : readFraction ⟨negative, ds, none, none⟩ u = .ok (x, t) := by
    match ds, h with
    | [0], h => exact h
    | (d + 1) :: ds, h => exact h
  exact (readFraction_ok hfraction).imp_left fun hs => hs.trans hsuffix

theorem exists_value_eq_double {v : Number} (h : x.exponent.isSome ∨ x.fraction.isSome)
    (hv : x.value = .ok v) : ∃ d, v = .double d := by
  have hdouble : ∀ negative n e, double negative n e = .ok v → ∃ d, v = .double d := by
    intro negative n e hd
    unfold double at hd
    split at hd
    · exact ⟨_, (Except.ok.inj hd).symm⟩
    · simp at hd
  unfold Numeral.value at hv
  split at hv
  split at hv
  split at hv
  · rename_i hnone
    have hf : x.fraction.isSome := by simpa [hnone] using h
    rw [if_neg (by simp [Option.isSome_iff_ne_none.mp hf])] at hv
    exact hdouble _ _ _ hv
  · split at hv
    · exact hdouble _ _ _ hv
    · split at hv
      · simp at hv
      · exact hdouble _ _ _ hv

theorem le_ofDigitChars (cs : List Char) (acc : Nat) : acc ≤ Nat.ofDigitChars 10 cs acc := by
  induction cs generalizing acc with
  | nil => exact le_rfl
  | cons c cs ih =>
    rw [Nat.ofDigitChars_cons]
    exact le_trans (by omega) (ih _)

theorem takeFitting_map (h : Nat.ofDigitChars 10 cs acc < twoTo 64) :
    takeFitting acc (cs.map digitValue) = (Nat.ofDigitChars 10 cs acc, cs.length, 0) := by
  induction cs generalizing acc with
  | nil => rfl
  | cons c cs ih =>
    rw [Nat.ofDigitChars_cons] at h
    have hfits : 10 * acc + digitValue c < twoTo 64 := lt_of_le_of_lt (le_ofDigitChars cs _) h
    simp only [List.map_cons, takeFitting, hfits, if_true]
    rw [digitValue, ih h, Nat.ofDigitChars_cons]
    simp

theorem exists_toDigits_eq_cons (hn : 0 < n) :
    ∃ c cs, Nat.toDigits 10 n = c :: cs ∧ digitValue c ≠ 0 := by
  induction n using Nat.strong_induction_on with
  | _ n ih =>
    obtain hlt | hle := Nat.lt_or_ge n 10
    · refine ⟨n.digitChar, [], Nat.toDigits_of_lt_base hlt, ?_⟩
      have hvalue : digitValue n.digitChar = n := Nat.toNat_digitChar_sub_48_of_lt_ten hlt
      omega
    · obtain ⟨c, cs, hcs, hc⟩ := ih (n / 10) (by omega) (by omega)
      refine ⟨c, cs ++ [(n % 10).digitChar], ?_, hc⟩
      rw [Nat.toDigits_of_base_le (by decide) hle, hcs, List.cons_append]

/-- Only the number zero starts with a zero. -/
theorem eq_nil_of_toDigits (h : Nat.toDigits 10 n = c :: cs) (hc : digitValue c = 0) :
    cs = [] := by
  obtain rfl | hn := Nat.eq_zero_or_pos n
  · simp_all
  · obtain ⟨d, ds, hds, hd⟩ := exists_toDigits_eq_cons hn
    obtain ⟨rfl, -⟩ := List.cons.inj (h.symm.trans hds)
    exact absurd hc hd

theorem readNumeral_toDigits {negative : Bool} (n : Nat) :
    readNumeral negative ((Nat.toDigits 10 n).map Symbol.char) =
      .ok (⟨negative, (Nat.toDigits 10 n).map digitValue, none, none⟩, []) := by
  rw [readNumeral, digits_map fun c hc => Nat.isDigit_of_mem_toDigits (by decide) (by decide) hc]
  obtain ⟨c, cs, hcs⟩ := List.exists_cons_of_ne_nil (Nat.toDigits_ne_nil (n := n) (b := 10))
  rw [hcs, List.map_cons]
  cases hc : digitValue c with
  | zero =>
    obtain rfl := eq_nil_of_toDigits hcs hc
    rfl
  | succ d => rfl

/-- The decimal digits of a number that fits have the number as their value. -/
theorem value_toDigits {negative : Bool} (h : n < twoTo 64) :
    Numeral.value ⟨negative, (Nat.toDigits 10 n).map digitValue, none, none⟩ =
      .ok (integer negative n) := by
  have htake : takeFitting 0 ((Nat.toDigits 10 n).map digitValue) =
      (n, (Nat.toDigits 10 n).length, 0) := by
    rw [takeFitting_map] <;> rw [Nat.ofDigitChars_ten_toDigits]
    exact h
  simp [Numeral.value, htake]

theorem skipSpace_of_isSpace_eq_false {a : Symbol} (h : isSpace a = false) :
    skipSpace (a :: s) = a :: s := by
  simp [skipSpace, h]

theorem number_append {negative : Bool} (hr : EndsNumber rest)
    (h : readNumeral negative s = .ok (x, [])) :
    number negative (s ++ rest) = (.number x.value, some rest) := by
  rw [number, readNumeral_append hr h]

theorem value_of_isDigit {fuel : Nat} (hc : c.isDigit) :
    value (fuel + 1) (.char c :: s) = number false (.char c :: s) := by
  have hspace : isSpace (.char c) = false := by
    simp only [isSpace, Bool.or_eq_false_iff, beq_eq_false_iff_ne]
    refine ⟨⟨⟨?_, ?_⟩, ?_⟩, ?_⟩ <;> rintro rfl <;> simp at hc
  unfold value
  rw [skipSpace_of_isSpace_eq_false hspace]
  split <;> simp_all

theorem value_minus {fuel : Nat} : value (fuel + 1) (.char '-' :: s) = number true s := by
  unfold value
  rw [skipSpace_of_isSpace_eq_false (by decide)]
  rfl

/-- A written number, with a sign or without one. -/
def signed (negative : Bool) (cs : List Char) : List Char :=
  if negative then '-' :: cs else cs

theorem isDigit_of_readNumeral {negative : Bool} (h : readNumeral negative (.char c :: s) = .ok (x, t)) :
    c.isDigit := by
  by_contra hc
  simp [readNumeral, digits, digit?, hc] at h

/-- A numeral is read as a number, whatever follows it. -/
theorem value_signed {negative : Bool} {fuel : Nat} (hr : EndsNumber rest)
    (h : readNumeral negative (cs.map Symbol.char) = .ok (x, [])) :
    value (fuel + 1) ((signed negative cs).map Symbol.char ++ rest) =
      (.number x.value, some rest) := by
  cases negative with
  | true =>
    rw [signed, if_pos rfl, List.map_cons, List.cons_append, value_minus]
    exact number_append hr h
  | false =>
    rw [signed, if_neg Bool.false_ne_true]
    cases cs with
    | nil => simp [readNumeral, digits] at h
    | cons c cs =>
      rw [List.map_cons] at h ⊢
      rw [List.cons_append, value_of_isDigit (isDigit_of_readNumeral h)]
      exact number_append hr h

end Json.Reader

namespace Double

variable {d : Double} {ds : List Char} {e : Int}

/-- The characters in the texts of numbers. -/
def isTextChar (c : Char) : Bool :=
  c.isDigit || ['-', '+', '.', 'e'].contains c

theorem isTextChar_of_mem_toDigits {n : Nat} : ∀ c ∈ Nat.toDigits 10 n, isTextChar c := by
  intro c hc
  simp [isTextChar, Nat.isDigit_of_mem_toDigits (by decide) (by decide) hc]

theorem isTextChar_of_mem_normal {m : Decimal} : ∀ c ∈ m.normal.1, isTextChar c := by
  intro c hc
  simp only [Decimal.normal, List.mem_reverse] at hc
  exact isTextChar_of_mem_toDigits c (List.mem_reverse.mp ((List.dropWhile_suffix _).subset hc))

theorem isTextChar_of_mem_replicate {n : Nat} : ∀ c ∈ List.replicate n '0', isTextChar c := by
  intro c hc
  rw [List.eq_of_mem_replicate hc]
  decide

theorem isTextChar_of_mem_writeOut (hds : ∀ c ∈ ds, isTextChar c) :
    ∀ c ∈ writeOut ds e, isTextChar c := by
  unfold writeOut
  split
  · simp only [List.forall_mem_cons, List.forall_mem_append]
    exact ⟨⟨by decide, by decide, isTextChar_of_mem_replicate⟩, hds⟩
  · simp only [List.forall_mem_cons, List.forall_mem_append]
    refine ⟨⟨fun c hc => hds c (List.mem_of_mem_take hc), isTextChar_of_mem_replicate⟩,
      by decide, ?_⟩
    split
    · simp [isTextChar]
    · exact fun c hc => hds c (List.mem_of_mem_drop hc)

theorem isTextChar_of_mem_withExponent (hds : ∀ c ∈ ds, isTextChar c) :
    ∀ c ∈ withExponent .json ds e, isTextChar c := by
  unfold withExponent
  simp only [List.forall_mem_cons, List.forall_mem_append]
  refine ⟨⟨?_, by decide, ?_⟩, isTextChar_of_mem_toDigits⟩
  · split
    · simp only [List.forall_mem_cons] at hds ⊢
      exact ⟨hds.1, by decide, hds.2⟩
    · exact hds
  · split <;> simp [isTextChar, Style.json]

theorem isTextChar_of_mem_text : ∀ c ∈ d.text .json, isTextChar c := by
  have hsign : ∀ c ∈ (if d.negative then ['-'] else []), isTextChar c := by
    split <;> simp [isTextChar]
  unfold text
  simp only
  split
  · rw [List.forall_mem_append]
    exact ⟨hsign, by simp [isTextChar]⟩
  · rw [List.forall_mem_append]
    refine ⟨hsign, ?_⟩
    split
    · exact isTextChar_of_mem_writeOut isTextChar_of_mem_normal
    · exact isTextChar_of_mem_withExponent isTextChar_of_mem_normal

/-- The text of a double is never that of an integer. -/
theorem point_or_exponent_mem_text (d : Double) : '.' ∈ d.text .json ∨ 'e' ∈ d.text .json := by
  have hpoint : ∀ ds e, '.' ∈ writeOut ds e := by
    intro ds e
    unfold writeOut
    split <;> simp
  have hexponent : ∀ ds e, 'e' ∈ withExponent .json ds e := by simp [withExponent]
  unfold text
  simp only
  generalize (if d.negative then ['-'] else []) = sign
  split
  · simp
  · split
    · exact Or.inl (List.mem_append_right _ (hpoint _ _))
    · exact Or.inr (List.mem_append_right _ (hexponent _ _))

/-- The number is read back as itself from its printed form. -/
def ReadsBack (d : Double) : Prop :=
  Decoder.double.ofText (String.ofList (d.text .json)) = .ok d

instance (d : Double) : Decidable d.ReadsBack :=
  inferInstanceAs (Decidable (_ = _))

open Json.Reader

/-- A text of characters of numbers that is read as some value is read as a number. -/
theorem exists_number_of_value {cs : List Char} {fuel : Nat} {t : Tree} {rest : List Symbol}
    (hcs : ∀ c ∈ cs, isTextChar c) (h : value (fuel + 1) (cs.map Symbol.char) = (t, some rest)) :
    ∃ negative ds, cs = signed negative ds ∧ number negative (ds.map Symbol.char) = (t, some rest) := by
  cases cs with
  | nil => simp [value, skipSpace] at h
  | cons c cs =>
    rw [List.map_cons] at h
    cases hc : c.isDigit with
    | true =>
      rw [value_of_isDigit hc] at h
      exact ⟨false, c :: cs, rfl, h⟩
    | false =>
      have htext : c ∈ ['-', '+', '.', 'e'] := by simpa [isTextChar, hc] using hcs c (by simp)
      simp only [List.mem_cons, List.not_mem_nil, or_false] at htext
      obtain rfl | rfl | rfl | rfl := htext
      · rw [value_minus] at h
        exact ⟨true, cs, rfl, h⟩
      all_goals simp [value, skipSpace, isSpace] at h

theorem isSpace_eq_false_of_isTextChar {c : Char} (h : isTextChar c) : isSpace (.char c) = false := by
  simp only [isSpace, Bool.or_eq_false_iff, beq_eq_false_iff_ne]
  refine ⟨⟨⟨?_, ?_⟩, ?_⟩, ?_⟩ <;> rintro rfl <;> simp [isTextChar] at h

theorem skipSpace_eq_nil {cs : List Char} {rest : List Symbol} (hcs : ∀ c ∈ cs, isTextChar c)
    (hrest : rest <:+ cs.map Symbol.char) (h : skipSpace rest = []) : rest = [] := by
  refine List.eq_nil_iff_forall_not_mem.mpr fun a ha => ?_
  obtain ⟨c, hc, rfl⟩ := List.mem_map.mp (hrest.subset ha)
  have hspace := List.dropWhile_eq_nil_iff.mp h _ ha
  simp [isSpace_eq_false_of_isTextChar (hcs c hc)] at hspace

theorem not_all_digits {negative : Bool} {cs : List Char} (h : d.text .json = signed negative cs) :
    ¬ ∀ c ∈ cs, c.isDigit := by
  intro hcs
  have hdigit : ∀ c ∈ d.text .json, c = '-' ∨ c.isDigit := by
    rw [h, signed]
    intro c hc
    split at hc
    · exact (List.mem_cons.mp hc).imp_right (hcs c)
    · exact Or.inr (hcs c hc)
  obtain hpoint | hexponent := point_or_exponent_mem_text d
  · exact absurd (hdigit _ hpoint) (by decide)
  · exact absurd (hdigit _ hexponent) (by decide)

/-- The text of a double that is read back is a numeral with the double as its value. -/
theorem exists_readNumeral (h : d.ReadsBack) : ∃ negative cs x,
    d.text .json = signed negative cs ∧
    readNumeral negative (cs.map Symbol.char) = .ok (x, []) ∧ x.value = .ok (.double d) := by
  obtain ⟨t, rest, htree, hrest, hdecode⟩ := Decoder.exists_tree_of_ofSymbols h
  rw [Text.ofString, String.toList_ofList, Json.Reader.tree] at htree
  obtain ⟨negative, cs, htext, hnumber⟩ := exists_number_of_value isTextChar_of_mem_text htree
  unfold number at hnumber
  split at hnumber
  · rename_i x u hread
    obtain ⟨rfl, rfl⟩ : t = .number x.value ∧ u = rest := by simpa [eq_comm] using hnumber
    obtain ⟨hsuffix, hkind⟩ := readNumeral_ok hread
    have hcs : ∀ c ∈ cs, isTextChar c := fun c hc =>
      isTextChar_of_mem_text c (by rw [htext, signed]; split <;> simp [hc])
    obtain rfl := skipSpace_eq_nil hcs hsuffix hrest
    have hdouble : x.exponent.isSome ∨ x.fraction.isSome := by
      refine hkind.resolve_left fun hdigits => ?_
      obtain ⟨ds, hds, hall⟩ := exists_digits (cs.map Symbol.char)
      rw [← hdigits, List.append_nil] at hds
      obtain rfl : cs = ds := List.map_injective_iff.mpr (fun a b hab => by simpa using hab) hds
      exact not_all_digits htext hall
    refine ⟨negative, cs, x, htext, hread, ?_⟩
    cases hvalue : x.value with
    | error e => simp [hvalue, Decoder.double] at hdecode
    | ok v =>
      obtain ⟨d', rfl⟩ := exists_value_eq_double hdouble hvalue
      rw [hvalue] at hdecode
      exact congrArg (Except.ok ∘ Number.double) (Except.ok.inj hdecode)
  · simp at hnumber

/-- A double that is read back is read from its text, whatever ends it. -/
theorem value_text {fuel : Nat} {rest : List Symbol} (h : d.ReadsBack) (hr : EndsNumber rest) :
    value (fuel + 1) ((d.text .json).map Symbol.char ++ rest) =
      (.number (.ok (.double d)), some rest) := by
  obtain ⟨negative, cs, x, htext, hread, hvalue⟩ := exists_readNumeral h
  rw [htext, value_signed hr hread, hvalue]

end Double

namespace Number

open Json.Reader

/-- Integers are read back whatever they are. -/
def ReadsBack : Number → Prop
  | .double d => d.ReadsBack
  | _ => True

/-- A number that is read back is read from its text, whatever ends it. -/
theorem value_text {n : Number} {fuel : Nat} {rest : List Symbol} (h : n.ReadsBack)
    (hr : EndsNumber rest) :
    value (fuel + 1) (n.text.map Symbol.char ++ rest) = (.number (.ok n), some rest) := by
  cases n with
  | natural n =>
    have htext : Number.text (.natural n) = signed false (Nat.toDigits 10 n.val) := rfl
    have hvalue : integer false n.val = .natural n := by simp [integer]
    rw [htext, value_signed hr (readNumeral_toDigits _), value_toDigits n.isLt, hvalue]
  | negative n =>
    have htext : Number.text (.negative n) = signed true (Nat.toDigits 10 (n.val + 1)) := rfl
    have hbound : n.val + 1 ≤ twoTo 63 := n.isLt
    have hvalue : integer true (n.val + 1) = .negative n := by simp [integer, hbound]
    have hlt : n.val + 1 < twoTo 64 := lt_of_le_of_lt hbound (by decide)
    rw [htext, value_signed hr (readNumeral_toDigits _), value_toDigits hlt, hvalue]
  | double d => exact Double.value_text h hr

/-- The text of a number starts with no blank and closes no bracket. -/
theorem isTextChar_of_mem_text {n : Number} : ∀ c ∈ n.text, Double.isTextChar c := by
  cases n with
  | natural n => exact Double.isTextChar_of_mem_toDigits
  | negative n =>
    rw [Number.text, List.forall_mem_cons]
    exact ⟨by decide, Double.isTextChar_of_mem_toDigits⟩
  | double d => exact Double.isTextChar_of_mem_text

theorem text_ne_nil (n : Number) : n.text ≠ [] := by
  cases n with
  | natural n => exact Nat.toDigits_ne_nil
  | negative n => exact List.cons_ne_nil _ _
  | double d =>
    obtain h | h := d.point_or_exponent_mem_text
    · exact List.ne_nil_of_mem h
    · exact List.ne_nil_of_mem h

end Number

end Flowboard
