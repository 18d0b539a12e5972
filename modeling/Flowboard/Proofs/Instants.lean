import Flowboard.Proofs.Numeral
import Flowboard.Time.Reader

/-! Points in time are read back from their texts, leap seconds and years of any length included. -/
namespace Flowboard

open Text (padded digit? trimLeft isBlank)

namespace Text

variable {width n : Nat} {c : Char}

theorem isDigit_of_mem_padded : ∀ c ∈ padded width n, c.isDigit := by
  simp only [padded, paddedIn, List.forall_mem_append]
  refine ⟨fun c hc => ?_, fun c hc => Nat.isDigit_of_mem_toDigits (by decide) (by decide) hc⟩
  rw [List.eq_of_mem_replicate hc]
  decide

theorem ofDigitChars_padded : Nat.ofDigitChars 10 (padded width n) 0 = n := by
  rw [padded, paddedIn, Nat.ofDigitChars_append, Nat.ofDigitChars_replicate_zero, Nat.mul_zero,
    Nat.ofDigitChars_ten_toDigits]

theorem padded_ne_nil : padded width n ≠ [] := by
  simp [padded, paddedIn, Nat.toDigits_ne_nil]

theorem length_padded (hw : 0 < width) (h : n < 10 ^ width) : (padded width n).length = width := by
  have hle := (Nat.length_toDigits_le_iff (by decide) hw).mpr h
  simp only [padded, paddedIn, List.length_append, List.length_replicate]
  omega

end Text

namespace Timestamp.Reader

variable {c : Char} {cs rest : List Char} {width n acc : Nat}

/-- No digit follows. -/
def EndsDigits (rest : List Char) : Prop :=
  rest.head?.all fun c => !c.isDigit

theorem moreDigits_append (hcs : ∀ c ∈ cs, c.isDigit) (hlength : cs.length ≤ width)
    (hrest : cs.length = width ∨ EndsDigits rest) (hn : Nat.ofDigitChars 10 cs acc < twoTo 63) :
    moreDigits width acc (cs ++ rest) = .ok (Nat.ofDigitChars 10 cs acc, rest) := by
  induction cs generalizing width acc with
  | nil =>
    match width, rest, hrest with
    | 0, rest, _ => rfl
    | width + 1, [], _ => rfl
    | width + 1, c :: rest, hrest =>
      have hc : c.isDigit = false := by simpa [EndsDigits] using hrest
      simp [moreDigits, digit?, hc]
  | cons c cs ih =>
    obtain ⟨width, rfl⟩ := Nat.exists_eq_succ_of_ne_zero (Nat.ne_zero_of_lt hlength)
    obtain ⟨hc, hcs⟩ := List.forall_mem_cons.mp hcs
    rw [Nat.ofDigitChars_cons] at hn ⊢
    have hfits := lt_of_le_of_lt (Json.Reader.le_ofDigitChars cs _) hn
    simp only [List.cons_append, moreDigits, digit?, hc, if_true]
    rw [if_pos hfits]
    exact ih hcs (by simpa using hlength) (by simpa using hrest) hn

theorem numeral_append (hcs : ∀ c ∈ cs, c.isDigit) (hne : cs ≠ []) (hlength : cs.length ≤ width)
    (hrest : cs.length = width ∨ EndsDigits rest) (hn : Nat.ofDigitChars 10 cs 0 < twoTo 63) :
    numeral width (cs ++ rest) = .ok (Nat.ofDigitChars 10 cs 0, rest) := by
  obtain ⟨c, cs, rfl⟩ := List.exists_cons_of_ne_nil hne
  have hc : c.isDigit := hcs c List.mem_cons_self
  rw [← moreDigits_append hcs hlength hrest hn]
  simp [numeral, hc]

theorem numeral_padded {w : Nat} (hlength : (padded w n).length ≤ width)
    (hrest : (padded w n).length = width ∨ EndsDigits rest) (hn : n < twoTo 63) :
    numeral width (padded w n ++ rest) = .ok (n, rest) := by
  have h := numeral_append Text.isDigit_of_mem_padded Text.padded_ne_nil hlength hrest
  rw [Text.ofDigitChars_padded] at h
  exact h hn

theorem trimLeft_of_isDigit (hcs : ∀ c ∈ cs, c.isDigit) (hne : cs ≠ []) :
    trimLeft (cs ++ rest) = cs ++ rest := by
  obtain ⟨c, cs, rfl⟩ := List.exists_cons_of_ne_nil hne
  exact Text.trimLeft_cons_of_not_blank
    (Text.isBlank_eq_false_of_isDigit (hcs c List.mem_cons_self))

/-- Two digits. -/
theorem bounded_padded {least greatest : Nat} (hl : least ≤ n) (hg : n ≤ greatest) (h : n < 100) :
    bounded 2 least greatest (padded 2 n ++ rest) = .ok (n, rest) := by
  have hlength : (padded 2 n).length = 2 := Text.length_padded (by decide) h
  rw [bounded, trimLeft_of_isDigit Text.isDigit_of_mem_padded Text.padded_ne_nil,
    numeral_padded hlength.le (Or.inl hlength) (h.trans (by decide))]
  exact if_pos ⟨hl, hg⟩

theorem separator_cons (hc : isBlank c = false) : separator c (c :: rest) = .ok rest := by
  rw [separator, Text.trimLeft_cons_of_not_blank hc]
  exact if_pos rfl

/-- The fraction of a second with the digits that it is written with. -/
theorem fraction_padded {w : Nat} (hw : 0 < w) (hw9 : w ≤ 9) (h : n < 10 ^ w)
    (hrest : EndsDigits rest) :
    fraction ('.' :: padded w n ++ rest) = .ok (n * tenTo (9 - w), rest) := by
  have hlength := Text.length_padded hw h
  have hn : n < twoTo 63 :=
    (h.trans_le (Nat.pow_le_pow_right (by decide) hw9)).trans (by decide)
  have hdrop : rest.dropWhile Char.isDigit = rest := by
    cases rest with
    | nil => rfl
    | cons c rest =>
      have hc : c.isDigit = false := by simpa [EndsDigits] using hrest
      simp [hc]
  have hread : numeral 9 (padded w n ++ rest) = .ok (n, rest) :=
    numeral_padded (hlength.trans_le hw9) (Or.inr hrest) hn
  simp only [List.cons_append, fraction, hread]
  simp [bind, Except.bind, hlength, hdrop]

/-- The part of a second is read back from its digits, whatever follows it. -/
theorem fraction_fractionText (hn : n < 1000000000) (hrest : EndsDigits rest)
    (hpoint : rest.head? ≠ some '.') : fraction (fractionText n ++ rest) = .ok (n, rest) := by
  unfold fractionText
  split
  · subst n
    cases rest with
    | nil => rfl
    | cons c rest =>
      rw [List.nil_append, fraction]
      simpa using hpoint
  split
  · have h := fraction_padded (w := 3) (n := n / 1000000) (by decide) (by decide) (by omega) hrest
    rw [h, show tenTo (9 - 3) = 1000000 from rfl]
    congr 2
    omega
  split
  · have h := fraction_padded (w := 6) (n := n / 1000) (by decide) (by decide) (by omega) hrest
    rw [h, show tenTo (9 - 6) = 1000 from rfl]
    congr 2
    omega
  · have h := fraction_padded (w := 9) (n := n) (by decide) (by decide) hn hrest
    rw [h, show tenTo (9 - 9) = 1 from rfl, Nat.mul_one]

theorem year_range {y : Int} (h : y.natAbs ≤ 262143) : -(twoTo 31 : Int) ≤ y ∧ y < twoTo 31 := by
  have h31 : 262143 < twoTo 31 := by decide
  generalize twoTo 31 = limit at h31
  omega

theorem year_sign {m : Nat} {c : Char} {y : Int} (hc : c = '-' ∧ y = -m ∨ c = '+' ∧ y = m)
    (hm : m ≤ 262143) (hrest : EndsDigits rest) :
    year (c :: padded 4 m ++ rest) = .ok (y, rest) := by
  have hread : numeral (padded 4 m ++ rest).length (padded 4 m ++ rest) = .ok (m, rest) :=
    numeral_padded (by simp) (Or.inr hrest) (lt_of_le_of_lt hm (by decide))
  have hrange := year_range (y := y) (by omega)
  -- with the bound itself in place, the kernel would count down differences from it
  obtain ⟨limit, hlimit⟩ : ∃ limit, limit = twoTo 31 := ⟨_, rfl⟩
  unfold year
  rw [← hlimit] at hrange ⊢
  obtain ⟨rfl, rfl⟩ | ⟨rfl, rfl⟩ := hc
  · simp only [List.cons_append, Text.trimLeft_cons_of_not_blank (c := '-') (by decide), hread,
      bind, Except.bind]
    exact if_pos hrange
  · simp only [List.cons_append, Text.trimLeft_cons_of_not_blank (c := '+') (by decide), hread,
      bind, Except.bind]
    exact if_pos hrange

theorem year_plain {m : Nat} (hm : m ≤ 9999) : year (padded 4 m ++ rest) = .ok ((m : Int), rest) := by
  have hlength : (padded 4 m).length = 4 := Text.length_padded (by decide) (by omega)
  have hread : numeral 4 (padded 4 m ++ rest) = .ok (m, rest) :=
    numeral_padded hlength.le (Or.inl hlength) (lt_of_le_of_lt hm (by decide))
  have hrange := year_range (y := m) (by omega)
  have hne : padded 4 m ≠ [] := Text.padded_ne_nil
  obtain ⟨c, cs, hcs⟩ := List.exists_cons_of_ne_nil hne
  have hc : c.isDigit := Text.isDigit_of_mem_padded c (hcs ▸ List.mem_cons_self)
  have hminus : c ≠ '-' := by rintro rfl; exact absurd hc (by decide)
  have hplus : c ≠ '+' := by rintro rfl; exact absurd hc (by decide)
  obtain ⟨limit, hlimit⟩ : ∃ limit, limit = twoTo 31 := ⟨_, rfl⟩
  unfold year
  rw [← hlimit] at hrange ⊢
  rw [trimLeft_of_isDigit Text.isDigit_of_mem_padded Text.padded_ne_nil]
  rw [hcs, List.cons_append] at hread ⊢
  split
  · exact absurd (List.cons.inj ‹_›).1 hminus
  · exact absurd (List.cons.inj ‹_›).1 hplus
  · simp only [hread, bind, Except.bind]
    exact if_pos hrange

/-- A year is read back from its text, with or without a sign. -/
theorem year_yearText {y : Int} (hy : Date.firstYear ≤ y ∧ y ≤ Date.lastYear)
    (hrest : EndsDigits rest) : year (Date.yearText y ++ rest) = .ok (y, rest) := by
  have hfirst : Date.firstYear = -262143 := rfl
  have hlast : Date.lastYear = 262142 := rfl
  unfold Date.yearText
  split
  · rw [year_plain (by omega)]
    congr 2
    omega
  · refine year_sign ?_ (by omega) hrest
    split
    · exact Or.inl ⟨rfl, by omega⟩
    · exact Or.inr ⟨rfl, by omega⟩

end Timestamp.Reader

theorem Date.daysIn_le (year : Int) (month : Nat) : Date.daysIn year month ≤ 31 := by
  unfold Date.daysIn
  split_ifs <;> decide

namespace Timestamp

open Reader

/-- The parts of a point in time are read back from its text. -/
theorem reading_text (t : Timestamp) : reading (t.textWith ['Z']) = .ok
    ⟨t.date.year, t.date.month, t.date.day, t.second / 3600, t.second / 60 % 60,
      t.second % 60 + t.nanos / 1000000000, t.nanos % 1000000000, 0⟩ := by
  obtain ⟨hfirst, hlast, hmonth, hmonth', hday, hday'⟩ := t.date.valid
  have hdays := Date.daysIn_le t.date.year t.date.month
  obtain ⟨hsecond, hnanos⟩ := t.valid
  have hdash : ∀ rest, separator '-' ('-' :: rest) = .ok rest :=
    fun _ => separator_cons (by decide)
  have hcolon : ∀ rest, separator ':' (':' :: rest) = .ok rest :=
    fun _ => separator_cons (by decide)
  have hzone : zone (Text.trimLeft ['Z']) = .ok (0, []) := rfl
  simp only [textWith, Date.text, clockText, List.append_assoc, List.cons_append]
  rw [reading, year_yearText ⟨hfirst, hlast⟩ (by simp [EndsDigits])]
  simp only [bind, Except.bind, hdash]
  rw [bounded_padded (n := t.date.month) hmonth hmonth' (by omega)]
  simp only [hdash]
  rw [bounded_padded (n := t.date.day) hday (by omega) (by omega)]
  simp only [divider, true_or, if_true]
  rw [bounded_padded (n := t.second / 3600) (by omega) (by omega) (by omega)]
  simp only [hcolon]
  rw [bounded_padded (n := t.second / 60 % 60) (by omega) (by omega) (by omega)]
  simp only [hcolon]
  rw [bounded_padded (n := t.second % 60 + t.nanos / 1000000000) (by omega) (by omega) (by omega)]
  simp only
  rw [fraction_fractionText (Nat.mod_lt _ (by decide)) (by simp [EndsDigits]) (by simp)]
  simp only [hzone]
  rfl

/-- The parts of a point in time make it up again, leap seconds included. -/
theorem timestamp_reading (t : Timestamp) : Reading.timestamp
    ⟨t.date.year, t.date.month, t.date.day, t.second / 3600, t.second / 60 % 60,
      t.second % 60 + t.nanos / 1000000000, t.nanos % 1000000000, 0⟩ = .ok t := by
  obtain ⟨date, second, nanos, hvalid⟩ := t
  have hlocal : ofLocal? date second nanos 0 = some ⟨date, second, nanos, hvalid⟩ := by
    have hsecond : second < 86400 := hvalid.1
    have hpos : ¬ ((second : Int) - 0 < 0) := by omega
    have hday : (second : Int) - 0 < 86400 := by omega
    have hsame : ((second : Int) - 0).toNat = second := by omega
    simp only [ofLocal?, if_neg hpos, if_pos hday, hsame, of?, dif_pos hvalid]
  obtain ⟨hsecond, hnanos⟩ := hvalid
  simp only [Reading.timestamp, Date.of?_self]
  by_cases hleap : nanos < 1000000000
  · have hs : second % 60 + nanos / 1000000000 = second % 60 := by omega
    have hn : nanos % 1000000000 = nanos := by omega
    have hsum : 3600 * (second / 3600) + 60 * (second / 60 % 60) + second % 60 = second := by omega
    have hne : second % 60 ≠ 60 := by omega
    simp [hs, hn, hne, hsum, hlocal]
  · have hs : second % 60 + nanos / 1000000000 = 60 := by omega
    have hn : nanos % 1000000000 + 1000000000 = nanos := by omega
    have hsum : 3600 * (second / 3600) + 60 * (second / 60 % 60) + 59 = second := by omega
    simp [hs, hn, hsum, hlocal]

/-- A point in time is read back from its text. -/
theorem parse_text (t : Timestamp) : parse t.text = .ok t := by
  simp only [parse, text, String.toList_ofList, reading_text, bind, Except.bind]
  exact timestamp_reading t

end Timestamp

end Flowboard
