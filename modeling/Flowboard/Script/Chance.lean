import Flowboard.Double.Basic

/-! Numbers by chance: a register of 624 words whose turns give all the numbers that follow. -/
namespace Flowboard.Script.Chance

/-- A register, and how many of its words have been given away. -/
structure Register where
  words : Array UInt32
  place : Nat

def size : Nat := 624

/-- The first words for a seed of one word. -/
def plainStart (seed : UInt32) : Array UInt32 :=
  ((List.range (size - 1)).foldl (fun (p : Array UInt32 × UInt32) i =>
    let (words, last) := p
    let before : UInt32 := last ^^^ (last >>> 30)
    let word : UInt32 := 1812433253 * before + UInt32.ofNat (i + 1)
    (words.push word, word)) (#[seed], seed)).1

/-- The words of a number, the lowest one first; zero has one. -/
def keyOf (n : Nat) : Array UInt32 :=
  ((List.range (n.log2 / 32 + 1)).map fun i => UInt32.ofNat (n / twoTo (32 * i))).toArray

/-- Mixes each word with the one before it; the last word is the first one's neighbour too. -/
def mixed (factor : UInt32) (added : Nat → UInt32) (sign : Bool) (count : Nat)
    (start : Array UInt32 × Nat) : Array UInt32 × Nat :=
  (List.range count).foldl (fun (words, i) step =>
    let before := (words : Array UInt32).getD (i - 1) 0
    let turned := words.getD i 0 ^^^ ((before ^^^ (before >>> 30)) * factor)
    let word := if sign then turned + added step else turned - UInt32.ofNat i
    let words := words.setIfInBounds i word
    if i + 1 < size then (words, i + 1)
    else (words.setIfInBounds 0 word, 1)) start

def ofSeed (seed : Nat) : Register :=
  let key := keyOf seed
  let added (step : Nat) : UInt32 :=
    let j := step % key.size
    key.getD j 0 + UInt32.ofNat j
  let first := mixed 1664525 added true (max size key.size) (plainStart 19650218, 1)
  let second := mixed 1566083941 added false (size - 1) first
  ⟨second.1.setIfInBounds 0 0x80000000, size⟩

/-- Turns all words: each one becomes a mixture of its upper bit, the lower bits of the next one and
the word 397 places after it. -/
def turned (words : Array UInt32) : Array UInt32 :=
  (List.range size).foldl (fun (words : Array UInt32) i =>
    let y := (words.getD i 0 &&& 0x80000000) ||| (words.getD ((i + 1) % size) 0 &&& 0x7fffffff)
    let twist : UInt32 := if y &&& 1 = 0 then 0 else 0x9908b0df
    words.setIfInBounds i (words.getD ((i + 397) % size) 0 ^^^ (y >>> 1) ^^^ twist)) words

/-- A word as it is given away. -/
def tempered (x : UInt32) : UInt32 :=
  let x := x ^^^ (x >>> 11)
  let x := x ^^^ ((x <<< 7) &&& 0x9d2c5680)
  let x := x ^^^ ((x <<< 15) &&& 0xefc60000)
  x ^^^ (x >>> 18)

def next (r : Register) : UInt32 × Register :=
  let ⟨words, place⟩ := r
  let (words, place) := if size ≤ place then (turned words, 0) else (words, place)
  (tempered (words.getD place 0), ⟨words, place + 1⟩)

/-- A float from zero up to one of 53 digits. -/
def real (r : Register) : Float × Register :=
  let (a, r) := next r
  let (b, r) := next r
  ((Float.ofNat (a >>> 5).toNat * 67108864.0 + Float.ofNat (b >>> 6).toNat) *
    (1.0 / 9007199254740992.0), r)

/-- A natural number of so many bits: its words, the lowest one first, and of the last word the
upper bits. -/
def bits : Nat → Nat → Register → Nat × Register
  | 0, _, r => (0, r)
  | fuel + 1, k, r =>
    if k = 0 then (0, r)
    else
      let (w, r) := next r
      if k ≤ 32 then (w.toNat / twoTo (32 - k), r)
      else
        let (n, r) := bits fuel (k - 32) r
        (w.toNat + twoTo 32 * n, r)

/-- A natural number below another one: numbers of as many bits are tried until one is. -/
def below (n : Nat) : Nat → Register → Nat × Register
  | 0, r => (0, r)
  | fuel + 1, r =>
    let k := if n = 0 then 0 else n.log2 + 1
    let (m, r) := bits (k / 32 + 1) k r
    if m < n then (m, r) else below n fuel r

end Flowboard.Script.Chance
