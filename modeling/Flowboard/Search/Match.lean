import Flowboard.Script.Number
import Flowboard.Text.Traits
import Flowboard.Utility.Class

/-! Patterns with alternatives that are tried one after the other, in their order, until the rest of
the pattern matches. -/
namespace Flowboard.Search

/-- A class of characters with a short name. -/
inductive Category where
  | digit
  | space
  | word
  /-- blanks within a line -/
  | blank
  deriving DecidableEq, Repr

/-- An element of a set of characters. -/
inductive Item where
  | char (c : Char)
  | range (first last : Char)
  | category (kind : Category) (negated ascii : Bool)
  | named (name : String) (negated : Bool)
  deriving DecidableEq, Repr

/-- How often a part is tried: as often as possible first, as seldom as possible first, or as often
as possible and not less. -/
inductive Greed where
  | greedy
  | lazy
  | possessive
  deriving DecidableEq, Repr

inductive Pattern where
  | nothing
  | char (c : Char) (fold : Bool)
  | any (lines : Bool)
  | set (negated : Bool) (items : List Item) (fold : Bool)
  | both (a b : Pattern)
  | either (a b : Pattern)
  | repeated (least : Nat) (most : Option Nat) (greed : Greed) (a : Pattern)
  | group (n : Nat) (a : Pattern)
  /-- the first match is the only one -/
  | atomic (a : Pattern)
  | ahead (wanted : Bool) (a : Pattern)
  /-- a match of a known width that ends here -/
  | behind (wanted : Bool) (width : Nat) (a : Pattern)
  /-- the match of a group once more -/
  | again (n : Nat) (fold : Bool)
  | choice (n : Nat) (yes no : Pattern)
  /-- the start of the text, or of a line -/
  | start (lines : Bool)
  /-- the end of the text or before its last line feed, or the end of a line -/
  | finish (lines : Bool)
  | last
  deriving Repr

def isWord (ascii : Bool) (c : Char) : Bool :=
  c == '_' || (if ascii || c.toNat < 128 then c.isAlphanum else Script.isLetterOrDigit c)

def Category.contains (kind : Category) (ascii : Bool) (c : Char) : Bool :=
  match kind with
  | .digit => if ascii || c.toNat < 128 then c.isDigit else (Text.decimalValue? c).isSome
  | .space => if ascii then " \t\n\r\x0b\x0c".toList.contains c else Script.isSpace c
  | .word => isWord ascii c
  | .blank => c == ' ' || c == '\t'

def Item.contains (i : Item) (c : Char) : Bool :=
  match i with
  | .char d => c == d
  | .range a b => a ≤ c && c ≤ b
  | .category kind negated ascii => kind.contains ascii c != negated
  | .named name negated => Utility.inClass name c != negated

/-- The only lower case letter of a character. -/
def lowered (c : Char) : Char :=
  if c.toNat < 128 then c.toLower
  else
    match Text.lowerOf c with
    | [d] => d
    | _ => c

/-- The only upper case letter of a character. -/
def raised (c : Char) : Char :=
  if c.toNat < 128 then c.toUpper
  else
    match Text.upperOf c with
    | [d] => d
    | _ => c

/-- Whether two characters are the same, or the same letter if case does not count. -/
def sameChar (fold : Bool) (a b : Char) : Bool :=
  a == b || (fold && (lowered a == lowered b || raised a == raised b))

def inSet (negated : Bool) (items : List Item) (fold : Bool) (c : Char) : Bool :=
  (items.any fun i =>
    i.contains c || (fold && (i.contains (lowered c) || i.contains (raised c)))) != negated

/-- Whether a pattern takes exactly one character, and which ones. -/
def Pattern.single? : Pattern → Option (Char → Bool)
  | .char d fold => some (sameChar fold d)
  | .any lines => some fun c => lines || c != '\n'
  | .set negated items fold => some (inSet negated items fold)
  | _ => none

/-- The least and the greatest number of characters that a pattern takes. -/
def Pattern.width (groups : List (Nat × Nat × Option Nat)) : Pattern → Nat × Option Nat
  | .char _ _ => (1, some 1)
  | .any _ => (1, some 1)
  | .set _ _ _ => (1, some 1)
  | .both a b => sum (a.width groups) (b.width groups)
  | .either a b => span (a.width groups) (b.width groups)
  | .repeated least most _ a =>
    let (low, high) := a.width groups
    (least * low, do return (← most) * (← high))
  | .group _ a => a.width groups
  | .atomic a => a.width groups
  | .again n _ => ((groups.lookup n).map fun (a, b) => (a, b)).getD (0, none)
  | .choice _ yes no => span (yes.width groups) (no.width groups)
  | _ => (0, some 0)
where
  sum (a b : Nat × Option Nat) : Nat × Option Nat :=
    (a.1 + b.1, do return (← a.2) + (← b.2))
  span (a b : Nat × Option Nat) : Nat × Option Nat :=
    (min a.1 b.1, do return max (← a.2) (← b.2))

/-- The first and last places of groups; the last element holds the number of the group that was
closed last. -/
abbrev Groups := Array (Option (Nat × Nat))

inductive Outcome where
  | found (last : Nat) (groups : Groups)
  | failed
  /-- too many steps were taken -/
  | tired

/-- What the rest of a pattern makes of a place, with the steps that are left. -/
abbrev Rest := Nat → Groups → Nat → Outcome × Nat

/-- How many of the characters from a place on pass a test, up to a limit. -/
def runLength (text : Array Char) (ok : Char → Bool) (limit : Nat) : Nat → Nat → Nat → Nat
  | 0, _, n => n
  | fuel + 1, i, n =>
    if limit ≤ n then n
    else
      match text[i]? with
      | some c => if ok c then runLength text ok limit fuel (i + 1) (n + 1) else n
      | none => n

/-- Tries fewer and fewer characters until the rest matches. -/
def tryDown (i least : Nat) (groups : Groups) (rest : Rest) : Nat → Nat → Outcome × Nat
  | n, budget =>
    if budget = 0 then (.tired, 0)
    else if n < least then (.failed, budget)
    else
      match rest (i + n) groups (budget - 1) with
      | (.failed, budget) =>
        match n with
        | 0 => (.failed, budget)
        | m + 1 => tryDown i least groups rest m budget
      | r => r
termination_by n => n

/-- Tries more and more characters until the rest matches. -/
def tryUp (text : Array Char) (ok : Char → Bool) (i : Nat) (groups : Groups) (rest : Rest) :
    Nat → Nat → Nat → Outcome × Nat
  | 0, _, budget => (.failed, budget)
  | left + 1, n, budget =>
    if budget = 0 then (.tired, 0)
    else
      match rest (i + n) groups (budget - 1) with
      | (.failed, budget) =>
        match text[i + n]? with
        | some c =>
          if ok c then tryUp text ok i groups rest left (n + 1) budget else (.failed, budget)
        | none => (.failed, budget)
      | r => r

def sameStretch : Nat → Bool
  | 0 => true
  | _ + 1 =>
    false

/-- The answer of a rest that takes every place. -/
def accept : Rest :=
  fun i groups budget => (.found i groups, budget)

mutual

/-- Matches a pattern at a place so that the rest matches where it ends. -/
def attempt (text : Array Char) :
    Nat → Pattern → Nat → Groups → Nat → Rest → Outcome × Nat
  | 0, _, _, _, _, _ => (.tired, 0)
  | _, _, _, _, 0, _ => (.tired, 0)
  | fuel + 1, p, i, groups, budget + 1, rest =>
    let one (ok : Char → Bool) : Outcome × Nat :=
      match text[i]? with
      | some c => if ok c then rest (i + 1) groups budget else (.failed, budget)
      | none => (.failed, budget)
    let test (b : Bool) : Outcome × Nat :=
      if b then rest i groups budget else (.failed, budget)
    match p with
    | .nothing => rest i groups budget
    | .char d fold => one (sameChar fold d)
    | .any lines => one fun c => lines || c != '\n'
    | .set negated items fold => one (inSet negated items fold)
    | .both a b =>
      attempt text fuel a i groups budget fun j groups budget =>
        attempt text fuel b j groups budget rest
    | .either a b =>
      match attempt text fuel a i groups budget rest with
      | (.failed, budget) => attempt text fuel b i groups budget rest
      | r => r
    | .repeated least most greed a =>
      match a.single? with
      | some ok =>
        let limit := most.getD text.size
        match greed with
        | .lazy =>
          let n := runLength text ok least (least + 1) i 0
          if n < least then (.failed, budget)
          else tryUp text ok i groups rest (limit + 1 - least) least budget
        | .greedy =>
          let n := runLength text ok limit (text.size + 1) i 0
          tryDown i least groups rest n budget
        | .possessive =>
          let n := runLength text ok limit (text.size + 1) i 0
          if n < least then (.failed, budget) else rest (i + n) groups budget
      | none =>
        match greed with
        | .greedy => moreGreedy text fuel a least most 0 none i groups budget rest
        | .lazy => moreLazy text fuel a least most 0 none i groups budget rest
        | .possessive =>
          let r := moreGreedy text fuel a least most 0 none i groups budget accept
          r
    | .group n a =>
      attempt text fuel a i groups budget fun j groups budget =>
        let last := groups.size - 1
        rest j ((groups.setIfInBounds n (some (i, j))).setIfInBounds last (some (n, n))) budget
    | .atomic a =>
      let r := attempt text fuel a i groups budget accept
      r
    | .ahead wanted a =>
      match attempt text fuel a i groups budget accept with
      | (.found _ inner, budget) => if wanted then rest i inner budget else (.failed, budget)
      | (.failed, budget) => if wanted then (.failed, budget) else rest i groups budget
      | r => r
    | .behind wanted width a =>
      let matched : Outcome × Nat :=
        if i < width then (.failed, budget)
        else
          attempt text fuel a (i - width) groups budget fun j groups budget =>
            if j = i then (.found j groups, budget) else (.failed, budget)
      match matched with
      | (.found _ inner, budget) => if wanted then rest i inner budget else (.failed, budget)
      | (.failed, budget) => if wanted then (.failed, budget) else rest i groups budget
      | r => r
    | .again n _ =>
      match (groups[n]?).join with
      | some (a, b) =>
        if sameStretch (b - a) then rest (i + (b - a)) groups budget
        else (.failed, budget)
      | none => (.failed, budget)
    | .choice n yes no =>
      if ((groups[n]?).join).isSome then attempt text fuel yes i groups budget rest
      else attempt text fuel no i groups budget rest
    | .start lines => test (i = 0 || (lines && text[i - 1]? == some '\n'))
    | .finish lines =>
      test (i = text.size || (i + 1 = text.size && text[i]? == some '\n') ||
        (lines && text[i]? == some '\n'))
    | .last => test (i = text.size)

/-- Repeats a pattern as often as possible; `last` is where the last repetition started. -/
def moreGreedy (text : Array Char) :
    Nat → Pattern → Nat → Option Nat → Nat → Option Nat → Nat → Groups → Nat → Rest →
      Outcome × Nat
  | 0, _, _, _, _, _, _, _, _, _ => (.tired, 0)
  | fuel + 1, a, least, most, n, last, i, groups, budget, rest =>
    if most.all (n < ·) && (n < least || last ≠ some i) then
      match attempt text fuel a i groups budget fun j groups budget =>
          moreGreedy text fuel a least most (n + 1) (some i) j groups budget rest with
      | (.failed, budget) => if n < least then (.failed, budget) else rest i groups budget
      | r => r
    else if n < least then (.failed, budget)
    else rest i groups budget

/-- Repeats a pattern as seldom as possible. -/
def moreLazy (text : Array Char) :
    Nat → Pattern → Nat → Option Nat → Nat → Option Nat → Nat → Groups → Nat → Rest →
      Outcome × Nat
  | 0, _, _, _, _, _, _, _, _, _ => (.tired, 0)
  | fuel + 1, a, least, most, n, last, i, groups, budget, rest =>
    let further (budget : Nat) : Outcome × Nat :=
      if most.all (n < ·) && (n < least || last ≠ some i) then
        attempt text fuel a i groups budget fun j groups budget =>
          moreLazy text fuel a least most (n + 1) (some i) j groups budget rest
      else (.failed, budget)
    if n < least then further budget
    else
      match rest i groups budget with
      | (.failed, budget) => further budget
      | r => r

end

/-- How deep parts of patterns may stand in each other. -/
def depth : Nat := 100000000

/-- What the end of a match must be. -/
inductive Ending where
  | anywhere
  /-- at the end of the text -/
  | whole
  /-- not where the match started -/
  | further
  deriving DecidableEq, Repr

/-- The match of a pattern with a number of groups at a place; it is the first group itself. -/
def matchAt (text : Array Char) (p : Pattern) (count i : Nat) (ending : Ending) (budget : Nat) :
    Outcome × Nat :=
  let groups : Groups := Array.replicate (count + 2) none
  let rest : Rest := fun j groups budget =>
    if (ending = .whole && j ≠ text.size) || (ending = .further && j = i) then (.failed, budget)
    else (.found j groups, budget)
  match attempt text depth p i groups budget rest with
  | (.found j groups, budget) =>
    let first := ((groups[0]?).join.map (·.1)).getD i
    (.found j (groups.setIfInBounds 0 (some (first, j))), budget)
  | r => r

/-- The first match from a place on; `ending` is for a match at that place only. -/
def searchFrom (text : Array Char) (p : Pattern) (count : Nat) :
    Nat → Nat → Ending → Nat → Outcome × Nat
  | 0, _, _, budget => (.failed, budget)
  | left + 1, i, ending, budget =>
    match matchAt text p count i ending budget with
    | (.failed, budget) => searchFrom text p count left (i + 1) .anywhere budget
    | r => r

/-- All matches from a place on, up to a number; after an empty one, the next one is not an empty
one at the same place. -/
def searchAll (text : Array Char) (p : Pattern) (count : Nat) :
    Nat → Nat → Ending → Nat → Array Groups → Option (Array Groups)
  | 0, _, _, _, done => some done
  | most + 1, i, ending, budget, done =>
    if text.size < i then some done
    else
      match searchFrom text p count (text.size + 1 - i) i ending budget with
      | (.found j groups, budget) =>
        let first := ((groups[0]?).join.map (·.1)).getD j
        let ending := if first = j then .further else .anywhere
        searchAll text p count most j ending budget (done.push groups)
      | (.failed, _) => some done
      | (.tired, _) => none

/-- The number of steps that a search may take. -/
def patience : Nat := 30000000

end Flowboard.Search
