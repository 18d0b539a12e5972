import Flowboard.Proofs.Layout
import Flowboard.Script.Straight
import Mathlib

/-! How programs are read: no name and no text of a statement ends its line or its literal. -/
namespace Flowboard.Script

open Straight

variable {c d : Char} {name text : String} {line rest s : List Char} {p : Program}

theorem hexChar?_control : ∀ n < 32,
    hexChar? ['0', '0', Text.hexDigit (n / 16), Text.hexDigit (n % 16)] = some (Char.ofNat n) := by
  decide

theorem all_le_control : ∀ n < 32,
    ['\\', 'u', '0', '0', Text.hexDigit (n / 16), Text.hexDigit (n % 16)].all (32 ≤ ·.toNat) := by
  decide

theorem escapedChar?_of_mem :
    ∀ p ∈ Text.shortEscapes, escapedChar? p.2 = some p.1 ∧ isHardEscape p.2 = false := by
  decide

theorem all_le_short : ∀ p ∈ Text.shortEscapes, ['\\', p.2].all (32 ≤ ·.toNat) := by
  decide

theorem scan_short (hc : escapedChar? d = some c) (hd : isHardEscape d = false) :
    scan '"' ('\\' :: d :: s) = (scan '"' s).map fun (text, rest) => (c :: text, rest) := by
  obtain ⟨hx, hu⟩ : d ≠ 'x' ∧ d ≠ 'u' := by
    constructor <;> rintro rfl <;> simp [isHardEscape] at hd
  rw [scan] <;> try simp [hx, hu]
  simp only [hd, hc]
  cases scan '"' s <;> rfl

theorem scan_number {n : Nat} (hn : n < 32) : scan '"'
      ('\\' :: 'u' :: '0' :: '0' :: Text.hexDigit (n / 16) :: Text.hexDigit (n % 16) :: s) =
    (scan '"' s).map fun (text, rest) => (Char.ofNat n :: text, rest) := by
  simp only [scan, hexChar?_control n hn]
  cases scan '"' s <;> rfl

theorem scan_self (hq : c ≠ '"') (hb : c ≠ '\\') (hn : c ≠ '\n') :
    scan '"' (c :: s) = (scan '"' s).map fun (text, rest) => (c :: text, rest) := by
  rw [scan, if_neg hq, if_neg hn]
  -- no escape starts with the character
  all_goals
    intros
    exact hb ‹_›

theorem scan_escape (c : Char) (s : List Char) : scan '"' (Text.escape c ++ s) =
    (scan '"' s).map fun (text, rest) => (c :: text, rest) := by
  obtain ⟨d, hmem, he⟩ | ⟨hc, he⟩ | ⟨he, hq, hb, hc⟩ := Text.escape_cases c
  · obtain ⟨hc, hd⟩ := escapedChar?_of_mem _ hmem
    simpa [he] using scan_short hc hd
  · simpa [he] using scan_number hc
  · have hn : c ≠ '\n' := by
      rintro rfl
      simp at hc
    simpa [he] using scan_self hq hb hn

/-- Escaped characters are scanned back up to the quote after them. -/
theorem scan_escaped (cs rest : List Char) :
    scan '"' (cs.flatMap Text.escape ++ '"' :: rest) = some (cs, rest) := by
  induction cs with
  | nil => simp [scan]
  | cons c cs ih => simp [scan_escape, ih]

theorem le_of_mem_escape (h : d ∈ Text.escape c) : 32 ≤ d.toNat := by
  obtain ⟨e, hmem, he⟩ | ⟨hc, he⟩ | ⟨he, -, -, hc⟩ := Text.escape_cases c <;> rw [he] at h
  · exact of_decide_eq_true (List.all_eq_true.mp (all_le_short _ hmem) d h)
  · exact of_decide_eq_true (List.all_eq_true.mp (all_le_control _ hc) d h)
  · obtain rfl := List.mem_singleton.mp h
    exact hc

theorem le_of_mem_quote (h : d ∈ Text.quote text) : 32 ≤ d.toNat := by
  simp only [Text.quote, List.mem_cons, List.mem_append, List.mem_flatMap, List.not_mem_nil,
    or_false] at h
  obtain rfl | ⟨c, -, hc⟩ | rfl := h
  · decide
  · exact le_of_mem_escape hc
  · decide

theorem isAlpha_eq_false_of_isDigit (h : c.isDigit) : c.isAlpha = false := by
  simp only [Char.isDigit, Bool.and_eq_true, decide_eq_true_eq, ge_iff_le,
    UInt32.le_iff_toNat_le] at h
  simp only [Char.isAlpha, Char.isUpper, Char.isLower, Bool.or_eq_false_iff, Bool.and_eq_false_iff,
    decide_eq_false_iff_not, ge_iff_le, UInt32.le_iff_toNat_le]
  have h9 : '9'.val.toNat = 57 := rfl
  have hA : 'A'.val.toNat = 65 := rfl
  have ha : 'a'.val.toNat = 97 := rfl
  omega

theorem reservedNames_eq : reservedNames = keywords ++ ["print"] := by
  decide

theorem hasNameShape_eq (cs : List Char) :
    hasNameShape cs = (cs.all isNameChar && cs.head?.any fun c => !c.isDigit) := by
  have hname : (fun c => c == '_' || c.isAlphanum) = isNameChar :=
    funext fun _ => Bool.or_comm _ _
  cases cs with
  | nil => rfl
  | cons c cs =>
    have hc : (c == '_' || c.isAlpha) = (isNameChar c && !c.isDigit) := by
      by_cases hu : c = '_'
      · subst c
        decide
      · cases hd : c.isDigit with
        | false => simp [isNameChar, Char.isAlphanum, hd, Bool.or_comm]
        | true => simp [isAlpha_eq_false_of_isDigit hd, hu]
    simp only [hasNameShape, hname, hc, List.all_cons, List.head?_cons, Option.any_some]
    exact Bool.and_right_comm _ _ _

/-- The names that nodes may give to variables are those that lines can bind. -/
theorem isPlainName_eq_isIdentifier (name : String) : isPlainName name = isIdentifier name := by
  simp only [isPlainName, isIdentifier, hasNameShape_eq, reservedNames_eq, List.contains_append,
    List.contains_cons, List.contains_nil, Bool.or_false, Bool.not_or, bne, Bool.and_assoc]

theorem isNameChar_of_mem (hname : isIdentifier name) (hc : c ∈ name.toList) : isNameChar c := by
  rw [← isPlainName_eq_isIdentifier] at hname
  simp only [isPlainName, Bool.and_eq_true, List.all_eq_true] at hname
  exact hname.1.1.1 c hc

theorem takeWhile_name (hname : isIdentifier name) (hc : isNameChar c = false) :
    (name.toList ++ c :: s).takeWhile isNameChar = name.toList := by
  rw [List.takeWhile_append_of_pos fun c hc => isNameChar_of_mem hname hc]
  simp [hc]

theorem text_assign (name value : String) : (Statement.assign name value).text =
    name.toList ++ " = ".toList ++ Text.quote value :=
  rfl

theorem text_printName (name : String) : (Statement.printName name).text =
    "print(".toList ++ name.toList ++ [')'] :=
  rfl

theorem text_printText (text : String) : (Statement.printText text).text =
    "print(".toList ++ Text.quote text ++ [')'] :=
  rfl

/-- The names of a statement can be bound. -/
def Named : Statement → Prop
  | .assign name _ => isIdentifier name
  | .printName name => isIdentifier name
  | .printText _ => True

theorem le_of_isNameChar (hc : isNameChar c) : 32 ≤ c.toNat := by
  by_contra h
  have hnone : ∀ n < 32, isNameChar (Char.ofNat n) = false := by decide
  have := hnone c.toNat (by omega)
  simp [hc] at this

theorem le_of_mem_all {cs : List Char} (h : cs.all fun c => 32 ≤ c.toNat) (hc : c ∈ cs) :
    32 ≤ c.toNat := by
  simpa using List.all_eq_true.mp h c hc

/-- A line is never broken: control characters stand in it by their escapes. -/
theorem le_of_mem_text {statement : Statement} (h : Named statement) (hc : c ∈ statement.text) :
    32 ≤ c.toNat := by
  cases statement with
  | assign name value =>
    simp only [text_assign, List.mem_append] at hc
    obtain (hc | hc) | hc := hc
    · exact le_of_isNameChar (isNameChar_of_mem h hc)
    · exact le_of_mem_all (by decide) hc
    · exact le_of_mem_quote hc
  | printName name =>
    simp only [text_printName, List.mem_append] at hc
    obtain (hc | hc) | hc := hc
    · exact le_of_mem_all (by decide) hc
    · exact le_of_isNameChar (isNameChar_of_mem h hc)
    · exact le_of_mem_all (by decide) hc
  | printText text =>
    simp only [text_printText, List.mem_append] at hc
    obtain (hc | hc) | hc := hc
    · exact le_of_mem_all (by decide) hc
    · exact le_of_mem_quote hc
    · exact le_of_mem_all (by decide) hc

/-- No statement breaks its line. -/
theorem newline_not_mem_text {statement : Statement} (h : Named statement) :
    '\n' ∉ statement.text :=
  fun hc => absurd (le_of_mem_text h hc) (by decide)

theorem lines_append (hline : '\n' ∉ line) : lines (line ++ '\n' :: rest) = line :: lines rest := by
  induction line with
  | nil => rfl
  | cons c line ih =>
    have hc : c ≠ '\n' := fun h => hline (by simp [h])
    have hmore := ih fun h => hline (List.mem_cons_of_mem _ h)
    rw [List.cons_append, lines]
    · simp [hmore]
    · simpa using hc

theorem lines_flatMap {ls : List (List Char)} (h : ∀ line ∈ ls, '\n' ∉ line) :
    lines (ls.flatMap (· ++ ['\n'])) = ls ++ [[]] := by
  induction ls with
  | nil => rfl
  | cons line ls ih =>
    obtain ⟨hline, hls⟩ := List.forall_mem_cons.mp h
    simp [lines_append hline, ih hls]

/-- The first line of each program. -/
def headerLine : List Char :=
  "# Generated Python Code".toList

theorem toList_source (p : Program) : p.source.toList =
    (headerLine :: p.statements.map Statement.text).flatMap (· ++ ['\n']) := by
  have hheader : Program.header.toList = headerLine ++ ['\n'] := by decide
  rw [Program.source, String.toList_ofList, hheader, List.flatMap_cons, List.flatMap_map]

/-- The lines of a program are its header and its statements, and an empty one at the end. -/
theorem lines_source (h : ∀ statement ∈ p.statements, Named statement) :
    lines p.source.toList = headerLine :: p.statements.map Statement.text ++ [[]] := by
  rw [toList_source]
  refine lines_flatMap (List.forall_mem_cons.mpr ⟨by decide, fun line hline => ?_⟩)
  obtain ⟨statement, hs, rfl⟩ := List.mem_map.mp hline
  exact newline_not_mem_text (h statement hs)

end Flowboard.Script
