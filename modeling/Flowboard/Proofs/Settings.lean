import Flowboard.Config
import Flowboard.Proofs.Numeral

/-! The settings that are numbers: which bytes in the environment give them. The bytes are the UTF-8
form of a text, and the text is a numeral. -/
namespace Flowboard.Text

variable {b : UInt8} {bytes rest : List UInt8} {found : List Symbol} {p : Partial} {s : String}
  {cs : List Char} {n bound : Nat}

theorem encode_eq (s : String) : encode s = s.toList.flatMap String.utf8EncodeChar := by
  rw [encode, String.toUTF8, ← String.utf8Encode_toList, List.utf8Encode,
    List.toList_data_toByteArray]

theorem lead_one (h : b.toNat < 0x80) : lead b = .inl (.char (Char.ofNat b.toNat)) := by
  simp [lead, UInt8.lt_iff_toNat_lt, h]

theorem lead_two (h : 0xC2 ≤ b.toNat) (h' : b.toNat < 0xE0) :
    lead b = .inr ⟨b.toNat % 0x20, 1, 1, 0x80, 0xBF⟩ := by
  simp only [lead, UInt8.lt_iff_toNat_lt, UInt8.reduceToNat]
  grind

theorem lead_three (h : 0xE0 ≤ b.toNat) (h' : b.toNat < 0xF0) :
    lead b = .inr ⟨b.toNat % 0x10, 1, 2, if b.toNat = 0xE0 then 0xA0 else 0x80,
      if b.toNat = 0xED then 0x9F else 0xBF⟩ := by
  simp only [lead, UInt8.lt_iff_toNat_lt, ← UInt8.toNat_inj, UInt8.reduceToNat]
  grind

theorem lead_four (h : 0xF0 ≤ b.toNat) (h' : b.toNat ≤ 0xF4) :
    lead b = .inr ⟨b.toNat % 8, 1, 3, if b.toNat = 0xF0 then 0x90 else 0x80,
      if b.toNat = 0xF4 then 0x8F else 0xBF⟩ := by
  simp only [lead, UInt8.lt_iff_toNat_lt, ← UInt8.toNat_inj, UInt8.reduceToNat]
  grind

theorem lead_stray (h : 0x80 ≤ b.toNat ∧ b.toNat < 0xC2 ∨ 0xF4 < b.toNat) :
    lead b = .inl (.stray 1) := by
  simp only [lead, UInt8.lt_iff_toNat_lt, ← UInt8.toNat_inj, UInt8.reduceToNat]
  grind

/-- A byte in the middle of a character. -/
theorem symbolsFrom_more (hl : p.least.toNat ≤ b.toNat) (hg : b.toNat ≤ p.greatest.toNat)
    (ho : p.owed ≠ 1) : symbolsFrom found (some p) (b :: rest) =
      symbolsFrom found
        (some ⟨p.value * 64 + b.toNat % 64, p.taken + 1, p.owed - 1, 0x80, 0xBF⟩) rest := by
  simp [symbolsFrom, UInt8.le_iff_toNat_le, hl, hg, ho]

theorem mem_symbolsFrom {x : Symbol} (h : x ∈ found) (p : Option Partial) : x ∈ symbolsFrom found p bytes := by
  fun_induction symbolsFrom found p bytes <;> grind

/-- Unless a byte is stray, one follows that belongs to the character under way. -/
theorem exists_more (h : ∀ n, .stray n ∉ symbolsFrom found (some p) bytes) :
    ∃ b rest, bytes = b :: rest ∧ p.least.toNat ≤ b.toNat ∧ b.toNat ≤ p.greatest.toNat := by
  cases bytes with
  | nil => exact absurd (by simp [symbolsFrom]) (h p.taken)
  | cons b rest =>
    by_contra hout
    refine h p.taken ?_
    have hrange : ¬ (p.least ≤ b ∧ b ≤ p.greatest) := fun hb =>
      hout ⟨b, rest, rfl, UInt8.le_iff_toNat_le.mp hb.1, UInt8.le_iff_toNat_le.mp hb.2⟩
    rw [symbolsFrom, if_neg hrange]
    dsimp only
    split <;> exact mem_symbolsFrom (by simp) _

/-- The bytes of the character with a number: no more of them than it takes, and none for half of a
pair of surrogates. -/
inductive Spells (n : Nat) : List UInt8 → Prop
  | one {a : UInt8} (lt : n < 0x80) (first : a.toNat = n) : Spells n [a]
  | two {a b : UInt8} (ge : 0x80 ≤ n) (lt : n < 0x800) (first : a.toNat = n / 64 + 0xC0)
      (second : b.toNat = n % 64 + 0x80) : Spells n [a, b]
  | three {a b c : UInt8} (ge : 0x800 ≤ n) (lt : n < 0xD800 ∨ 0xDFFF < n ∧ n < 0x10000)
      (first : a.toNat = n / 4096 + 0xE0) (second : b.toNat = n / 64 % 64 + 0x80)
      (third : c.toNat = n % 64 + 0x80) : Spells n [a, b, c]
  | four {a b c d : UInt8} (ge : 0x10000 ≤ n) (lt : n < 0x110000)
      (first : a.toNat = n / 262144 + 0xF0) (second : b.toNat = n / 4096 % 64 + 0x80)
      (third : c.toNat = n / 64 % 64 + 0x80) (fourth : d.toNat = n % 64 + 0x80) :
      Spells n [a, b, c, d]

theorem Spells.isValidChar (h : Spells n bytes) : n.isValidChar := by
  have hlt : n < 0xD800 ∨ 0xDFFF < n ∧ n < 0x110000 := by cases h <;> omega
  exact hlt

theorem spells_encodeChar (c : Char) : Spells c.val.toNat (String.utf8EncodeChar c) := by
  have hvalid : c.val.toNat < 0xD800 ∨ 0xDFFF < c.val.toNat ∧ c.val.toNat < 0x110000 := c.valid
  have hbyte {k m : Nat} (hk : k < 256) (h : k = m) : (UInt8.ofNat k).toNat = m :=
    (Nat.mod_eq_of_lt hk).trans h
  rw [String.utf8EncodeChar.eq_1]
  split
  · exact .one (by omega) (hbyte (by omega) rfl)
  split
  · exact .two (by omega) (by omega) (hbyte (by omega) (by omega)) (hbyte (by omega) rfl)
  split
  · exact .three (by omega) (by omega) (hbyte (by omega) (by omega)) (hbyte (by omega) rfl)
      (hbyte (by omega) rfl)
  · exact .four (by omega) (by omega) (hbyte (by omega) (by omega)) (hbyte (by omega) rfl)
      (hbyte (by omega) rfl) (hbyte (by omega) rfl)

/-- A character has one form in bytes. -/
theorem Spells.unique {others : List UInt8} (h : Spells n bytes) (ho : Spells n others) :
    bytes = others := by
  have hlen : bytes.length = others.length := by
    cases h <;> cases ho <;> first | rfl | omega
  cases h <;> cases ho <;> simp_all [← UInt8.toNat_inj]

/-- A number of parts of six bits is taken apart into the last part and the ones before it. -/
theorem six_div (m k : Nat) : (m * 64 + k % 64) / 64 = m := by
  omega

theorem six_mod (m k : Nat) : (m * 64 + k % 64) % 64 = k % 64 := by
  rw [Nat.mul_add_mod_self_right, Nat.mod_mod]

section

variable {P Q : Prop} [Decidable P] [Decidable Q] {l g : UInt8} {v t o m : Nat}

theorem bounds_of_six (hb : b.toNat = m % 64 + 0x80) :
    0x80 ≤ b.toNat ∧ b.toNat ≤ 0xBF ∧ b.toNat % 64 = m % 64 := by
  omega

/-- The six bits of a byte in the middle of a character join the others. -/
theorem symbolsFrom_middle (hb : b.toNat = m % 64 + 0x80) (ho : o ≠ 1) :
    symbolsFrom found (some ⟨v, t, o, 0x80, 0xBF⟩) (b :: rest) =
      symbolsFrom found (some ⟨v * 64 + m % 64, t + 1, o - 1, 0x80, 0xBF⟩) rest := by
  obtain ⟨hl, hg, hbits⟩ := bounds_of_six hb
  rw [← hbits]
  exact symbolsFrom_more hl hg ho

/-- The second of three bytes or more may have narrower bounds. -/
theorem symbolsFrom_second (hb : b.toNat = m % 64 + 0x80) (least : P → l.toNat ≤ b.toNat)
    (greatest : Q → b.toNat ≤ g.toNat) (ho : o ≠ 1) :
    symbolsFrom found (some ⟨v, t, o, if P then l else 0x80, if Q then g else 0xBF⟩) (b :: rest) =
      symbolsFrom found (some ⟨v * 64 + m % 64, t + 1, o - 1, 0x80, 0xBF⟩) rest := by
  obtain ⟨hl, hg, hbits⟩ := bounds_of_six hb
  rw [← hbits]
  refine symbolsFrom_more ?_ ?_ ho <;> dsimp only <;> split
  exacts [least ‹_›, hl, greatest ‹_›, hg]

/-- The last byte of a character. -/
theorem symbolsFrom_last (hb : b.toNat = m % 64 + 0x80) (hn : v * 64 + m % 64 = n) :
    symbolsFrom found (some ⟨v, t, 1, 0x80, 0xBF⟩) (b :: rest) =
      symbolsFrom (.char (Char.ofNat n) :: found) none rest := by
  obtain ⟨hl, hg, hbits⟩ := bounds_of_six hb
  simp [symbolsFrom, UInt8.le_iff_toNat_le, hl, hg, hbits, hn]

theorem exists_middle (h : ∀ n, .stray n ∉ symbolsFrom found (some ⟨v, t, o, 0x80, 0xBF⟩) bytes) :
    ∃ b rest, bytes = b :: rest ∧ b.toNat = b.toNat % 64 + 0x80 := by
  obtain ⟨b, rest, rfl, hl, hg⟩ := exists_more h
  have hl : 0x80 ≤ b.toNat := hl
  have hg : b.toNat ≤ 0xBF := hg
  exact ⟨b, rest, rfl, by omega⟩

theorem exists_second (hl : 0x80 ≤ l.toNat) (hg : g.toNat ≤ 0xBF)
    (h : ∀ n, .stray n ∉ symbolsFrom found
      (some ⟨v, t, o, if P then l else 0x80, if Q then g else 0xBF⟩) bytes) :
    ∃ b rest, bytes = b :: rest ∧ b.toNat = b.toNat % 64 + 0x80 ∧ (P → l.toNat ≤ b.toNat) ∧
      (Q → b.toNat ≤ g.toNat) := by
  obtain ⟨b, rest, rfl, least, greatest⟩ := exists_more h
  simp only [apply_ite UInt8.toNat, UInt8.reduceToNat] at least greatest
  refine ⟨b, rest, rfl, ?_, fun hP => ?_, fun hQ => ?_⟩
  · split at least <;> split at greatest <;> omega
  · rwa [if_pos hP] at least
  · rwa [if_pos hQ] at greatest

end

/-- The bytes of a character are read as the character. -/
theorem symbolsFrom_spells (h : Spells n bytes) (found : List Symbol) (rest : List UInt8) :
    symbolsFrom found none (bytes ++ rest) =
      symbolsFrom (.char (Char.ofNat n) :: found) none rest := by
  cases h with
  | @one a lt first =>
    rw [List.singleton_append, symbolsFrom, lead_one (by omega), first]
  | @two a b ge lt first second =>
    have hn : a.toNat % 0x20 * 64 + n % 64 = n := by omega
    rw [List.cons_append, List.singleton_append, symbolsFrom, lead_two (by omega) (by omega)]
    exact symbolsFrom_last second hn
  | @three a b c ge lt first second third =>
    have hn : (a.toNat % 0x10 * 64 + n / 64 % 64) * 64 + n % 64 = n := by
      rw [show a.toNat % 0x10 = n / 64 / 64 by omega, Nat.div_add_mod', Nat.div_add_mod']
    have hleast : a.toNat = 0xE0 → 0xA0 ≤ b.toNat := by omega
    have hgreatest : a.toNat = 0xED → b.toNat ≤ 0x9F := by omega
    rw [List.cons_append, List.cons_append, List.singleton_append, symbolsFrom,
      lead_three (by omega) (by omega)]
    exact (symbolsFrom_second second hleast hgreatest (by decide)).trans (symbolsFrom_last third hn)
  | @four a b c d ge lt first second third fourth =>
    have hn : ((a.toNat % 8 * 64 + n / 4096 % 64) * 64 + n / 64 % 64) * 64 + n % 64 = n := by
      rw [show a.toNat % 8 = n / 64 / 64 / 64 by omega, show 4096 = 64 * 64 from rfl,
        ← Nat.div_div_eq_div_mul, Nat.div_add_mod', Nat.div_add_mod', Nat.div_add_mod']
    have hleast : a.toNat = 0xF0 → 0x90 ≤ b.toNat := by omega
    have hgreatest : a.toNat = 0xF4 → b.toNat ≤ 0x8F := by omega
    rw [List.cons_append, List.cons_append, List.cons_append, List.singleton_append, symbolsFrom,
      lead_four (by omega) (by omega)]
    exact (symbolsFrom_second second hleast hgreatest (by decide)).trans
      ((symbolsFrom_middle third (by decide)).trans (symbolsFrom_last fourth hn))

/-- Where no byte is stray, the bytes start with those of a character. -/
theorem exists_spells (h : ∀ w, .stray w ∉ symbolsFrom found none (b :: bytes)) :
    ∃ n first rest, b :: bytes = first ++ rest ∧ Spells n first := by
  rw [symbolsFrom] at h
  by_cases h₁ : b.toNat < 0x80
  · exact ⟨_, [b], bytes, rfl, .one h₁ rfl⟩
  by_cases hout : b.toNat < 0xC2 ∨ 0xF4 < b.toNat
  · rw [lead_stray (by omega)] at h
    exact absurd (mem_symbolsFrom (by simp) _) (h 1)
  obtain ⟨hfirst, hlast⟩ : 0xC2 ≤ b.toNat ∧ b.toNat ≤ 0xF4 := by omega
  by_cases h₂ : b.toNat < 0xE0
  · rw [lead_two hfirst h₂] at h
    obtain ⟨c, rest, rfl, hc⟩ := exists_middle h
    have hb : b.toNat = b.toNat % 0x20 + 0xC0 := by omega
    refine ⟨b.toNat % 0x20 * 64 + c.toNat % 64, [b, c], rest, rfl, .two (by omega) (by omega) ?_ ?_⟩
    · rw [six_div, ← hb]
    · rw [six_mod, ← hc]
  have h₂ := Nat.le_of_not_lt h₂
  by_cases h₃ : b.toNat < 0xF0
  · rw [lead_three h₂ h₃] at h
    dsimp only at h
    obtain ⟨c, more, rfl, hc, hleast, hgreatest⟩ := exists_second (by simp) (by simp) h
    rw [symbolsFrom_second hc hleast hgreatest (by decide)] at h
    simp only [UInt8.reduceToNat] at hleast hgreatest
    obtain ⟨d, rest, rfl, hd⟩ := exists_middle h
    have hb : b.toNat = b.toNat % 0x10 + 0xE0 := by omega
    refine ⟨(b.toNat % 0x10 * 64 + c.toNat % 64) * 64 + d.toNat % 64, [b, c, d], rest, rfl,
      .three (by omega) (by omega) ?_ ?_ ?_⟩
    · rw [show 4096 = 64 * 64 from rfl, ← Nat.div_div_eq_div_mul, six_div, six_div, ← hb]
    · rw [six_div, six_mod, ← hc]
    · rw [six_mod, ← hd]
  · have h₃ := Nat.le_of_not_lt h₃
    rw [lead_four h₃ hlast] at h
    dsimp only at h
    obtain ⟨c, more, rfl, hc, hleast, hgreatest⟩ := exists_second (by simp) (by simp) h
    rw [symbolsFrom_second hc hleast hgreatest (by decide)] at h
    simp only [UInt8.reduceToNat] at hleast hgreatest
    obtain ⟨d, more, rfl, hd⟩ := exists_middle h
    rw [symbolsFrom_middle hd (by decide)] at h
    obtain ⟨e, rest, rfl, he⟩ := exists_middle h
    have hb : b.toNat = b.toNat % 8 + 0xF0 := by omega
    refine ⟨((b.toNat % 8 * 64 + c.toNat % 64) * 64 + d.toNat % 64) * 64 + e.toNat % 64,
      [b, c, d, e], rest, rfl, .four (by omega) (by omega) ?_ ?_ ?_ ?_⟩
    · rw [show 262144 = 64 * 64 * 64 from rfl, ← Nat.div_div_eq_div_mul, ← Nat.div_div_eq_div_mul,
        six_div, six_div, six_div, ← hb]
    · rw [show 4096 = 64 * 64 from rfl, ← Nat.div_div_eq_div_mul, six_div, six_div, six_mod, ← hc]
    · rw [six_div, six_mod, ← hd]
    · rw [six_mod, ← he]

/-- The bytes that spell a number are those of its character. -/
theorem ofNat_of_spells (h : Spells n bytes) : String.utf8EncodeChar (Char.ofNat n) = bytes := by
  have hc := spells_encodeChar (Char.ofNat n)
  rw [Char.toNat_val, Char.toNat_ofNat, if_pos h.isValidChar] at hc
  exact hc.unique h

/-- The bytes of a text are read as the text. -/
theorem symbolsFrom_encode (cs : List Char) (found : List Symbol) :
    symbolsFrom found none (cs.flatMap String.utf8EncodeChar) = found.reverse ++ cs.map .char := by
  induction cs generalizing found with
  | nil => simp [symbolsFrom]
  | cons c cs ih =>
    rw [List.flatMap_cons, symbolsFrom_spells (spells_encodeChar c), ih, Char.toNat_val,
      Char.ofNat_toNat]
    simp

/-- Bytes are read without a stray one only if they are the bytes of characters. -/
theorem exists_chars (h : ∀ w, .stray w ∉ symbolsFrom found none bytes) :
    ∃ cs : List Char, bytes = cs.flatMap String.utf8EncodeChar := by
  induction hlen : bytes.length using Nat.strongRecOn generalizing found bytes with
  | ind len ih =>
    cases bytes with
    | nil => exact ⟨[], rfl⟩
    | cons b bytes =>
      obtain ⟨n, first, rest, hsplit, hspells⟩ := exists_spells h
      rw [hsplit, symbolsFrom_spells hspells] at h
      have hshort : rest.length < len := by
        rw [← hlen, hsplit, List.length_append]
        cases hspells <;> simp
      obtain ⟨cs, rfl⟩ := ih _ hshort h rfl
      exact ⟨Char.ofNat n :: cs, by rw [hsplit, List.flatMap_cons, ofNat_of_spells hspells]⟩

/-- Exactly the UTF-8 bytes of a text are read as the text. -/
theorem decode?_eq_some_iff : decode? bytes = some s ↔ encode s = bytes := by
  have hread (t : String) : decode? (encode t) = some t := by
    simp [decode?, symbols, encode_eq, symbolsFrom_encode, List.filterMap_map, Function.comp_def]
  constructor
  · intro h
    have hno : ∀ w, .stray w ∉ symbolsFrom [] none bytes := by
      intro w hw
      rw [decode?, if_neg] at h
      · cases h
      · exact fun hall => by simpa using List.all_eq_true.mp hall _ hw
    obtain ⟨cs, hcs⟩ := exists_chars hno
    have henc : encode (String.ofList cs) = bytes := by rw [encode_eq, String.toList_ofList, hcs]
    rw [← henc, hread] at h
    rw [← Option.some.inj h, henc]
  · rintro rfl
    exact hread s

/-- A number in writing: decimal digits, at least one, with or without a plus sign before them. -/
def IsNumeral (s : List Char) (n : Nat) : Prop :=
  ∃ ds, (s = ds ∨ s = '+' :: ds) ∧ ds ≠ [] ∧ (∀ c ∈ ds, c.isDigit) ∧ Nat.ofDigitChars 10 ds 0 = n

/-- A number in writing between blanks. -/
def IsPaddedNumeral (s : List Char) (n : Nat) : Prop :=
  ∃ before core after, s = before ++ core ++ after ∧ (∀ c ∈ before, isBlank c) ∧
    (∀ c ∈ after, isBlank c) ∧ IsNumeral core n

theorem readDigits_eq_ok_iff {acc : Nat} (h : acc < bound) : readDigits bound cs acc = .ok n ↔
    (∀ c ∈ cs, c.isDigit) ∧ Nat.ofDigitChars 10 cs acc = n ∧ n < bound := by
  induction cs generalizing acc with
  | nil =>
    rw [readDigits, Nat.ofDigitChars_nil]
    constructor
    · intro hn
      cases hn
      exact ⟨by simp, rfl, h⟩
    · rintro ⟨-, rfl, -⟩
      rfl
  | cons c cs ih =>
    rw [readDigits, Nat.ofDigitChars_cons, digit?, List.forall_mem_cons]
    by_cases hc : c.isDigit
    · rw [if_pos hc]
      dsimp only
      split
      next hfits => rw [ih hfits, and_iff_right hc]
      next hlarge =>
        -- further digits only make the value larger
        have hge := Json.Reader.le_ofDigitChars cs (10 * acc + (c.toNat - '0'.toNat))
        constructor
        · intro hn
          cases hn
        · rintro ⟨-, rfl, hlt⟩
          omega
    · rw [if_neg hc]
      simp [hc]

/-- A numeral is read as its number, if that is below the bound. -/
theorem readUnsigned_eq_ok_iff (h : 0 < bound) :
    readUnsigned bound cs = .ok n ↔ IsNumeral cs n ∧ n < bound := by
  have hplus : ('+' : Char).isDigit = false := rfl
  fun_cases readUnsigned bound cs with
  | case1 => simp [IsNumeral]
  | case2 => simp [IsNumeral, hplus]
  | case3 rest hne =>
    rw [readDigits_eq_ok_iff h]
    constructor
    · rintro ⟨hdigits, hn, hlt⟩
      exact ⟨⟨rest, .inr rfl, hne, hdigits, hn⟩, hlt⟩
    · rintro ⟨⟨ds, rfl | hds, -, hdigits, hn⟩, hlt⟩
      · have := hdigits '+' (by simp)
        simp [hplus] at this
      · obtain rfl := List.tail_eq_of_cons_eq hds
        exact ⟨hdigits, hn, hlt⟩
  | case4 cs hnil hsign hplain =>
    rw [readDigits_eq_ok_iff h]
    constructor
    · rintro ⟨hdigits, hn, hlt⟩
      exact ⟨⟨cs, .inl rfl, hnil, hdigits, hn⟩, hlt⟩
    · rintro ⟨⟨ds, rfl | hds, -, hdigits, hn⟩, hlt⟩
      · exact ⟨hdigits, hn, hlt⟩
      · exact absurd hds (hplain ds)

theorem IsNumeral.not_blank (h : IsNumeral cs n) : ∀ c ∈ cs, isBlank c = false := by
  obtain ⟨ds, rfl | rfl, -, hdigits, -⟩ := h
  · exact fun c hc => isBlank_eq_false_of_isDigit (hdigits c hc)
  · exact List.forall_mem_cons.mpr ⟨rfl, fun c hc => isBlank_eq_false_of_isDigit (hdigits c hc)⟩

theorem trim_append {before core after : List Char} (hbefore : ∀ c ∈ before, isBlank c)
    (hafter : ∀ c ∈ after, isBlank c) (hcore : ∀ c ∈ core, isBlank c = false) (hne : core ≠ []) :
    trim (before ++ core ++ after) = core := by
  have hstart : trimLeft (before ++ core ++ after) = core ++ after := by
    obtain ⟨c, rest, rfl⟩ := List.exists_cons_of_ne_nil hne
    rw [trimLeft, List.append_assoc, List.dropWhile_append_of_pos hbefore, List.cons_append,
      List.dropWhile_cons_of_neg (by simp [hcore c (by simp)])]
  have hend : core.reverse.dropWhile isBlank = core.reverse := by
    obtain ⟨c, rest, hc⟩ := List.exists_cons_of_ne_nil (List.reverse_ne_nil_iff.mpr hne)
    have hmem : c ∈ core := List.mem_reverse.mp (hc ▸ List.mem_cons_self)
    rw [hc, List.dropWhile_cons_of_neg (by simp [hcore c hmem])]
  rw [trim, hstart, List.reverse_append,
    List.dropWhile_append_of_pos fun c hc => hafter c (List.mem_reverse.mp hc), hend,
    List.reverse_reverse]

theorem exists_trim (cs : List Char) : ∃ before after, cs = before ++ trim cs ++ after ∧
    (∀ c ∈ before, isBlank c) ∧ ∀ c ∈ after, isBlank c := by
  refine ⟨cs.takeWhile isBlank, ((trimLeft cs).reverse.takeWhile isBlank).reverse, ?_,
    fun c hc => List.mem_takeWhile_imp hc,
    fun c hc => List.mem_takeWhile_imp (List.mem_reverse.mp hc)⟩
  rw [trim, List.append_assoc, ← List.reverse_append, List.takeWhile_append_dropWhile,
    List.reverse_reverse, trimLeft, List.takeWhile_append_dropWhile]

/-- What is a numeral once blanks are taken off is one with blanks around it. -/
theorem isNumeral_trim_iff : IsNumeral (trim cs) n ↔ IsPaddedNumeral cs n := by
  constructor
  · intro h
    obtain ⟨before, after, hcs, hbefore, hafter⟩ := exists_trim cs
    exact ⟨before, trim cs, after, hcs, hbefore, hafter, h⟩
  · rintro ⟨before, core, after, rfl, hbefore, hafter, h⟩
    rwa [trim_append hbefore hafter h.not_blank]
    rintro rfl
    obtain ⟨ds, rfl | hds, hne, -⟩ := h
    · exact hne rfl
    · cases hds

end Flowboard.Text

namespace Flowboard

open Text (encode IsNumeral IsPaddedNumeral)

variable {bound n : Nat} {default : Fin bound} {cs : List Char} {env : Environment} {name : String}

/-- A variable is a text exactly if its bytes are the form of one. -/
theorem Environment.text?_eq_some_iff {s : String} :
    env.text? name = some s ↔ env.get? name = some (encode s) := by
  rw [Environment.text?, Option.bind_eq_some_iff]
  simp only [Text.decode?_eq_some_iff]
  constructor
  · rintro ⟨bytes, hget, rfl⟩
    exact hget
  · exact fun hget => ⟨_, hget, rfl⟩

/-- A variable is set to a text that is read as a number. -/
def Environment.Gives (env : Environment) (Reads : List Char → Nat → Prop) (name : String)
    (n : Nat) : Prop :=
  ∃ s, env.get? name = some (encode s) ∧ Reads s.toList n

namespace Config

/-- A setting is the number that is accepted, and one value in all cases in which none is. -/
structure Chosen (Accepted : Nat → Prop) (otherwise value : Nat) : Prop where
  of_accepted : ∀ n, Accepted n → value = n
  of_none : (∀ n, ¬ Accepted n) → value = otherwise

theorem numeralOr_of_isNumeral (h : IsNumeral cs n) (hn : n < bound) :
    (numeralOr default cs).val = n := by
  rw [numeralOr, (Text.readUnsigned_eq_ok_iff (by omega)).mpr ⟨h, hn⟩]
  simp [hn]

theorem numeralOr_of_not (h : ∀ n < bound, ¬ IsNumeral cs n) : numeralOr default cs = default := by
  unfold numeralOr
  split
  next n hn =>
    have hread := (Text.readUnsigned_eq_ok_iff default.pos).mp hn
    exact absurd hread.1 (h n hread.2)
  next => rfl

/-- The port is what a proper numeral says, and the default for everything else. -/
theorem chosen_portOf (env : Environment) (name : String) :
    Chosen (fun n => env.Gives IsNumeral name n ∧ n < 2 ^ 16) 5000
      (portOf (env.text? name)).val where
  of_accepted := by
    rintro n ⟨⟨s, hget, hs⟩, hn⟩
    rw [Environment.text?_eq_some_iff.mpr hget, portOf]
    exact numeralOr_of_isNumeral hs hn
  of_none h := by
    cases htext : env.text? name with
    | none => rfl
    | some s =>
      rw [portOf, numeralOr_of_not]
      · rfl
      · exact fun n hn hs => h n ⟨⟨s, Environment.text?_eq_some_iff.mp htext, hs⟩, hn⟩

/-- The time limit is what a proper numeral says, blanks around it or not, and the default for
everything else. -/
theorem chosen_timeoutSecsOf (env : Environment) (name : String) :
    Chosen (fun n => env.Gives IsPaddedNumeral name n ∧ 1 ≤ n ∧ n < 2 ^ 64) 30
      (timeoutSecsOf (env.text? name)).val where
  of_accepted := by
    rintro n ⟨⟨s, hget, hs⟩, hpos, hn⟩
    have hread : (numeralOr defaultTimeoutSecs (Text.trim s.toList)).val = n :=
      numeralOr_of_isNumeral (Text.isNumeral_trim_iff.mpr hs) hn
    rw [Environment.text?_eq_some_iff.mpr hget, timeoutSecsOf]
    simp only [hread, if_neg (show n ≠ 0 by omega)]
  of_none h := by
    cases htext : env.text? name with
    | none => rfl
    | some s =>
      rw [timeoutSecsOf]
      split
      next => rfl
      next hzero =>
        rw [numeralOr_of_not]
        · rfl
        · intro n hn hs
          rw [numeralOr_of_isNumeral hs hn] at hzero
          exact h n ⟨⟨s, Environment.text?_eq_some_iff.mp htext, Text.isNumeral_trim_iff.mp hs⟩,
            by omega, hn⟩

theorem timeoutSecsOf_ne_zero (text : Option String) : (timeoutSecsOf text).val ≠ 0 := by
  unfold timeoutSecsOf
  split
  · dsimp only
    split
    next => decide
    next hzero => exact hzero
  · decide

/-- The longest time of a run and the port are the numbers that the environment gives for them, if
these are in range. Blanks are allowed around the former only, which is never zero. -/
theorem numbers_of_environment (env : Environment) :
    Chosen
      (fun n => env.Gives IsPaddedNumeral "AGENTBLOCKS_EXEC_TIMEOUT_SECS" n ∧ 1 ≤ n ∧ n < 2 ^ 64)
      30 (ofEnvironment env).execution.timeoutSecs.val ∧
    (ofEnvironment env).execution.timeoutSecs.val ≠ 0 ∧
    Chosen (fun n => env.Gives IsNumeral "AGENTBLOCKS_PORT" n ∧ n < 2 ^ 16)
      5000 (ofEnvironment env).server.port.val :=
  ⟨chosen_timeoutSecsOf env _, timeoutSecsOf_ne_zero _, chosen_portOf env _⟩

example :
    let config := ofEnvironment
      [("AGENTBLOCKS_PORT", encode "+0080"), ("AGENTBLOCKS_EXEC_TIMEOUT_SECS", encode " 120 ")]
    (config.server.port.val, config.execution.timeoutSecs.val) = (80, 120) := by
  decide +kernel

end Config

end Flowboard
