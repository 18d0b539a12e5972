import Flowboard.Double.Basic
import Flowboard.Utility.Basic
import Flowboard.Utility.Class

/-! Programs about numbers, such as the prime factors of one, and checksums and digests: short
numbers that stand for long texts. -/
namespace Flowboard.Utility

/-- The prime factors of a number from a possible factor on, the least first. Each step divides or
goes on to the next possible factor. -/
def factorsFrom : Nat → Nat → Nat → List Nat
  | 0, n, _ => [n]
  | fuel + 1, n, d =>
    if n < 2 then []
    else if n < d * d then [n]
    else if n % d = 0 then d :: factorsFrom fuel (n / d) d
    else factorsFrom fuel n (if d = 2 then 3 else d + 2)

/-- The prime factors of a number, the least first. -/
def factors (n : Nat) : List Nat :=
  factorsFrom (min (Nat.sqrt n + Nat.log2 n + 2) 5000000) n 2

/-- Writes the prime factors of each of its arguments, or of the words it reads. -/
def factor (c : Call) : Effect :=
  let line (word : String) : Effect :=
    match Text.natural? word.toList with
    | some n =>
      let parts := (factors n).map fun f => " " ++ Text.naturalText f
      .writing (Text.naturalText n ++ ":" ++ String.join parts ++ "\n").toList
    | none => c.fails 1 ("'" ++ word ++ "' is not a valid positive integer")
  if c.args.isEmpty then
    match c.input.all? with
    | none => .stuck
    | some text =>
      let words := Text.wordsWhere (fun ch => ch == ' ' || ch == '\n' || ch == '\t') text
      { (words.map fun w => line (.ofList w)).foldl Effect.followed {} with waited := true }
  else (c.args.map line).foldl Effect.followed {}

/-- The remainder of eight more bits. -/
def checkByte (crc : UInt32) : UInt32 :=
  (List.range 8).foldl (fun r _ =>
    if r &&& 0x80000000 = 0 then r <<< 1 else (r <<< 1) ^^^ 0x04C11DB7) crc

/-- The remainders of all bytes in the highest place. -/
def checkTable : Array UInt32 :=
  ((List.range 256).map fun n => checkByte (UInt32.ofNat n <<< 24)).toArray

/-- The bytes of a number, the lowest one first, without zeros at its end. -/
def lengthBytes : Nat → Nat → List Nat
  | 0, _ => []
  | fuel + 1, n => if n = 0 then [] else n % 256 :: lengthBytes fuel (n / 256)

/-- The checksum of a text with its length behind it. -/
def cyclicCheck (s : List Char) : Nat :=
  let table := checkTable
  let step (crc : UInt32) (byte : Nat) : UInt32 :=
    (crc <<< 8) ^^^ table.getD (Nat.xor (crc >>> 24).toNat byte % 256) 0
  let crc := s.foldl (fun crc c => step crc c.toNat) 0
  ((lengthBytes 16 s.length).foldl step crc ^^^ 0xFFFFFFFF).toNat

/-- The name of an operand after a number, unless there is none. -/
def nameAfter (operands : List String) (name : String) : List Char :=
  if operands.isEmpty then [] else ' ' :: name.toList

/-- Writes the checksum and length of each operand. -/
def cksum (c : Call) : Effect :=
  c.withOptions {} fun o =>
    c.each o.operands 1 plainName fun name p =>
      .ofAll p fun text =>
        (Text.naturalText (cyclicCheck text) ++ " " ++ Text.naturalText text.length).toList ++
          nameAfter o.operands name ++ ['\n']

/-- The sum of the bytes of a text; before each one, the sum is turned round by one bit. -/
def turningSum (s : List Char) : Nat :=
  s.foldl (fun n c => (n / 2 + n % 2 * 32768 + c.toNat) % 65536) 0

/-- Writes a sum and the number of blocks of each operand. -/
def sum (c : Call) : Effect :=
  c.withOptions { flags := ['r'] } fun o =>
    c.each o.operands 1 plainName fun name p =>
      .ofAll p fun text =>
        List.replicate (5 - (Text.naturalText (turningSum text)).length) '0' ++
          (Text.naturalText (turningSum text)).toList ++ ' ' ::
          Text.padLeft 5 (Nat.toDigits 10 ((text.length + 1023) / 1024)) ++
          nameAfter o.operands name ++ ['\n']

/-- An alphabet whose characters stand for so many bits each, in groups of so many. -/
structure Alphabet where
  chars : List Char
  bits : Nat
  group : Nat

def base64Alphabet : Alphabet :=
  ⟨"ABCDEFGHIJKLMNOPQRSTUVWXYZabcdefghijklmnopqrstuvwxyz0123456789+/".toList, 6, 4⟩

def base32Alphabet : Alphabet :=
  ⟨"ABCDEFGHIJKLMNOPQRSTUVWXYZ234567".toList, 5, 8⟩

/-- The lowest `n` bits of a number, the highest first. -/
def bitsOf (n value : Nat) : List Bool :=
  ((List.range n).map fun i => value / twoTo (n - 1 - i) % 2 == 1)

def ofBits (bits : List Bool) : Nat :=
  bits.foldl (fun n b => 2 * n + (if b then 1 else 0)) 0

/-- Pieces of so many items; the last one may be shorter. Each uses up one of the fuel. -/
def chunks {α : Type} (size : Nat) : Nat → List α → List (List α)
  | 0, _ => []
  | _, [] => []
  | fuel + 1, xs => xs.take size :: chunks size fuel (xs.drop size)

/-- One group of characters for a few bytes, filled up with equals signs. -/
def Alphabet.encodeGroup (a : Alphabet) (s : List Char) : List Char :=
  let bits := s.flatMap fun c => bitsOf 8 c.toNat
  let missing := (a.bits - bits.length % a.bits) % a.bits
  let digits := (chunks a.bits (bits.length + 1) (bits ++ List.replicate missing false)).map
    fun bs => a.chars.getD (ofBits bs) '='
  digits ++ List.replicate (a.group - digits.length) '='

def Alphabet.encode (a : Alphabet) (s : List Char) : List Char :=
  (chunks (a.bits * a.group / 8) (s.length + 1) s).flatMap a.encodeGroup

/-- The bytes of a text, or as many as there are before something else. -/
def Alphabet.decode (a : Alphabet) (s : List Char) : List Char × Bool :=
  let body := s.takeWhile (· != '=')
  let fill := (s.dropWhile (· != '=')).all (· == '=')
  let digits := body.takeWhile a.chars.contains
  let bits := digits.flatMap fun c => bitsOf a.bits ((a.chars.idxOf? c).getD 0)
  let bytes := (chunks 8 (bits.length + 1) bits).filter fun bs => bs.length == 8
  (bytes.map fun bs => Char.ofNat (ofBits bs),
    fill && digits.length == body.length && s.length % a.group == 0)

/-- A text broken into lines of so many characters. -/
def wrapped (width : Nat) (s : List Char) : List Char :=
  if width = 0 then s else (chunks width (s.length + 1) s).flatMap fun l => l ++ ['\n']

/-- Writes its operand in an alphabet, or reads it back. -/
def encoding (a : Alphabet) (c : Call) : Effect :=
  c.withOptions { flags := "di".toList, valued := ['w'], long := [("decode", 'd'),
      ("ignore-garbage", 'i'), ("wrap", 'w')] } fun o =>
    c.each (o.operands.take 1) 1 id fun _ p =>
      match p.all? with
      | none => .stuck
      | some text =>
        if o.has 'd' then
          let kept := text.filter fun ch =>
            ch != '\n' && (!o.has 'i' || a.chars.contains ch || ch == '=')
          let (bytes, right) := a.decode kept
          if right then .writing bytes
          else { c.fails 1 "invalid input" with output := .of bytes }
        else
          let width := ((o.value? 'w').bind fun s => Text.natural? s.toList).getD 76
          .writing (wrapped width (a.encode text))

/-- The message in blocks of `size` bytes: a one, zeros, and the length in bits follow it, for which
there is an eighth of a block. -/
def messageBlocks (size : Nat) (lengthFirst : Bool) (s : List Char) : List (List Nat) :=
  let bytes := s.map Char.toNat
  let n := bytes.length
  let zeros := (2 * size - size / 8 - 1 - n % size) % size
  let length := (List.range (size / 8)).map fun i => 8 * n / twoTo (8 * i) % 256
  let ending := if lengthFirst then length.reverse else length
  chunks size (n / size + 2) (bytes ++ 0x80 :: (List.replicate zeros 0 ++ ending))

def wordsOf (highFirst : Bool) (block : List Nat) : Array UInt32 :=
  ((chunks 4 17 block).map fun w =>
    let w := if highFirst then w else w.reverse
    UInt32.ofNat (w.foldl (fun n b => 256 * n + b) 0)).toArray

def rotateLeft (x : UInt32) (n : UInt32) : UInt32 :=
  (x <<< n) ||| (x >>> (32 - n))

def rotateRight (x : UInt32) (n : UInt32) : UInt32 :=
  (x >>> n) ||| (x <<< (32 - n))

/-- A word in hexadecimal digits, its bytes turned round if `lowFirst`. -/
def wordText (lowFirst : Bool) (x : UInt32) : List Char :=
  let bytes := (List.range 4).map fun i => x.toNat / twoTo (8 * i) % 256
  (if lowFirst then bytes else bytes.reverse).flatMap (Text.paddedIn 16 2)

/-- The first bits of the fraction of the `root`-th root of a number. -/
def rootFraction (bits root n : Nat) : Nat :=
  let target := n * twoTo (bits * root)
  -- the greatest number whose power is not above the target, bit by bit
  let r := (List.range (bits + 8)).foldl (fun r i =>
    let candidate := r + twoTo (bits + 7 - i)
    if Nat.pow candidate root ≤ target then candidate else r) 0
  r % twoTo bits

def primes (count : Nat) : List Nat :=
  (((List.range 420).drop 2).filter fun n =>
    (List.range n).all fun d => d < 2 || n % d != 0).take count

def sha256Constants : Array UInt32 :=
  ((primes 64).map fun p => UInt32.ofNat (rootFraction 32 3 p)).toArray

def sha256Start : Array UInt32 :=
  ((primes 8).map fun p => UInt32.ofNat (rootFraction 32 2 p)).toArray

/-- The second halves of the fractions of the next eight primes. -/
def sha224Start : Array UInt32 :=
  (((primes 16).drop 8).map fun p => UInt32.ofNat (rootFraction 64 2 p)).toArray

def sha256Schedule (block : Array UInt32) : Array UInt32 :=
  (List.range 48).foldl (fun w i =>
    let t := i + 16
    let a := w.getD (t - 15) 0
    let b := w.getD (t - 2) 0
    let s0 := rotateRight a 7 ^^^ rotateRight a 18 ^^^ (a >>> 3)
    let s1 := rotateRight b 17 ^^^ rotateRight b 19 ^^^ (b >>> 10)
    w.push (w.getD (t - 16) 0 + s0 + w.getD (t - 7) 0 + s1)) block

def addWords (a b : Array UInt32) : Array UInt32 :=
  (List.range a.size).map (fun i => a.getD i 0 + b.getD i 0) |>.toArray

def sha256Block (constants : Array UInt32) (state block : Array UInt32) : Array UInt32 :=
  let w := sha256Schedule block
  let step (v : Array UInt32) (i : Nat) : Array UInt32 :=
    let x (j : Nat) : UInt32 := v.getD j 0
    let s1 := rotateRight (x 4) 6 ^^^ rotateRight (x 4) 11 ^^^ rotateRight (x 4) 25
    let choice := (x 4 &&& x 5) ^^^ ((x 4 ^^^ 0xFFFFFFFF) &&& x 6)
    let t1 := x 7 + s1 + choice + constants.getD i 0 + w.getD i 0
    let s0 := rotateRight (x 0) 2 ^^^ rotateRight (x 0) 13 ^^^ rotateRight (x 0) 22
    let majority := (x 0 &&& x 1) ^^^ (x 0 &&& x 2) ^^^ (x 1 &&& x 2)
    #[t1 + s0 + majority, x 0, x 1, x 2, x 3 + t1, x 4, x 5, x 6]
  addWords state ((List.range 64).foldl step state)

def sha256From (start : Array UInt32) (s : List Char) : List Char :=
  let constants := sha256Constants
  let state := (messageBlocks 64 true s).foldl (fun v block =>
    sha256Block constants v (wordsOf true block)) start
  state.toList.flatMap (wordText false)

def sha256 (s : List Char) : List Char :=
  sha256From sha256Start s

def sha224 (s : List Char) : List Char :=
  (sha256From sha224Start s).take 56

def sha1Block (state block : Array UInt32) : Array UInt32 :=
  let w := (List.range 64).foldl (fun (w : Array UInt32) i =>
    let t := i + 16
    w.push (rotateLeft
      (w.getD (t - 3) 0 ^^^ w.getD (t - 8) 0 ^^^ w.getD (t - 14) 0 ^^^ w.getD (t - 16) 0) 1)) block
  let step (v : Array UInt32) (i : Nat) : Array UInt32 :=
    let x (j : Nat) : UInt32 := v.getD j 0
    let (f, k) : UInt32 × UInt32 :=
      if i < 20 then ((x 1 &&& x 2) ||| ((x 1 ^^^ 0xFFFFFFFF) &&& x 3), 0x5A827999)
      else if i < 40 then (x 1 ^^^ x 2 ^^^ x 3, 0x6ED9EBA1)
      else if i < 60 then
        ((x 1 &&& x 2) ||| (x 1 &&& x 3) ||| (x 2 &&& x 3), 0x8F1BBCDC)
      else (x 1 ^^^ x 2 ^^^ x 3, 0xCA62C1D6)
    #[rotateLeft (x 0) 5 + f + x 4 + k + w.getD i 0, x 0, rotateLeft (x 1) 30, x 2, x 3]
  addWords state ((List.range 80).foldl step state)

def sha1 (s : List Char) : List Char :=
  let start : Array UInt32 := #[0x67452301, 0xEFCDAB89, 0x98BADCFE, 0x10325476, 0xC3D2E1F0]
  ((messageBlocks 64 true s).foldl (fun v block => sha1Block v (wordsOf true block)) start).toList
    |>.flatMap (wordText false)

/-- How far the rounds turn their words. -/
def md5Turns : Array UInt32 :=
  #[7, 12, 17, 22, 5, 9, 14, 20, 4, 11, 16, 23, 6, 10, 15, 21]

/-- The constants of the rounds: the whole parts of `2 ^ 32` times the sines of 1, 2, … -/
def md5Constants : Array UInt32 :=
  (List.range 64).map (fun i =>
    (Float.floor (Float.abs (Float.sin (Float.ofNat (i + 1))) * 4294967296.0)).toUInt32)
    |>.toArray

def md5Block (constants : Array UInt32) (state block : Array UInt32) : Array UInt32 :=
  let step (v : Array UInt32) (i : Nat) : Array UInt32 :=
    let x (j : Nat) : UInt32 := v.getD j 0
    let flipped (y : UInt32) : UInt32 := y ^^^ 0xFFFFFFFF
    let (f, g) : UInt32 × Nat :=
      if i < 16 then ((x 1 &&& x 2) ||| (flipped (x 1) &&& x 3), i)
      else if i < 32 then ((x 3 &&& x 1) ||| (flipped (x 3) &&& x 2), (5 * i + 1) % 16)
      else if i < 48 then (x 1 ^^^ x 2 ^^^ x 3, (3 * i + 5) % 16)
      else (x 2 ^^^ (x 1 ||| flipped (x 3)), 7 * i % 16)
    let sum := f + x 0 + constants.getD i 0 + block.getD g 0
    #[x 3, x 1 + rotateLeft sum (md5Turns.getD (4 * (i / 16) + i % 4) 0), x 1, x 2]
  addWords state ((List.range 64).foldl step state)

def md5 (s : List Char) : List Char :=
  let constants := md5Constants
  let start : Array UInt32 := #[0x67452301, 0xEFCDAB89, 0x98BADCFE, 0x10325476]
  ((messageBlocks 64 false s).foldl
    (fun v block => md5Block constants v (wordsOf false block)) start).toList
    |>.flatMap (wordText true)

def rotateRight64 (x : UInt64) (n : UInt64) : UInt64 :=
  (x >>> n) ||| (x <<< (64 - n))

def sha512Constants : Array UInt64 :=
  ((primes 80).map fun p => UInt64.ofNat (rootFraction 64 3 p)).toArray

def sha512Start : Array UInt64 :=
  ((primes 8).map fun p => UInt64.ofNat (rootFraction 64 2 p)).toArray

def sha384Start : Array UInt64 :=
  (((primes 16).drop 8).map fun p => UInt64.ofNat (rootFraction 64 2 p)).toArray

def sha512Schedule (block : Array UInt64) : Array UInt64 :=
  (List.range 64).foldl (fun w i =>
    let t := i + 16
    let a := w.getD (t - 15) 0
    let b := w.getD (t - 2) 0
    let s0 := rotateRight64 a 1 ^^^ rotateRight64 a 8 ^^^ (a >>> 7)
    let s1 := rotateRight64 b 19 ^^^ rotateRight64 b 61 ^^^ (b >>> 6)
    w.push (w.getD (t - 16) 0 + s0 + w.getD (t - 7) 0 + s1)) block

def sha512Block (constants : Array UInt64) (state block : Array UInt64) : Array UInt64 :=
  let w := sha512Schedule block
  let step (v : Array UInt64) (i : Nat) : Array UInt64 :=
    let x (j : Nat) : UInt64 := v.getD j 0
    let s1 := rotateRight64 (x 4) 14 ^^^ rotateRight64 (x 4) 18 ^^^ rotateRight64 (x 4) 41
    let choice := (x 4 &&& x 5) ^^^ ((x 4 ^^^ 0xFFFFFFFFFFFFFFFF) &&& x 6)
    let t1 := x 7 + s1 + choice + constants.getD i 0 + w.getD i 0
    let s0 := rotateRight64 (x 0) 28 ^^^ rotateRight64 (x 0) 34 ^^^ rotateRight64 (x 0) 39
    let majority := (x 0 &&& x 1) ^^^ (x 0 &&& x 2) ^^^ (x 1 &&& x 2)
    #[t1 + s0 + majority, x 0, x 1, x 2, x 3 + t1, x 4, x 5, x 6]
  let last := (List.range 80).foldl step state
  ((List.range 8).map fun i => state.getD i 0 + last.getD i 0).toArray

def sha512From (start : Array UInt64) (s : List Char) : List Char :=
  let constants := sha512Constants
  let words (block : List Nat) : Array UInt64 :=
    ((chunks 8 17 block).map fun w =>
      UInt64.ofNat (w.foldl (fun n b => 256 * n + b) 0)).toArray
  let state := (messageBlocks 128 true s).foldl (fun v block =>
    sha512Block constants v (words block)) start
  state.toList.flatMap fun x => Text.paddedIn 16 16 x.toNat

def sha512 (s : List Char) : List Char :=
  sha512From sha512Start s

def sha384 (s : List Char) : List Char :=
  (sha512From sha384Start s).take 96

/-- The orders in which the words of a block are taken in each round. -/
def blakeOrders : List (List Nat) :=
  [[0, 1, 2, 3, 4, 5, 6, 7, 8, 9, 10, 11, 12, 13, 14, 15],
   [14, 10, 4, 8, 9, 15, 13, 6, 1, 12, 0, 2, 11, 7, 5, 3],
   [11, 8, 12, 0, 5, 2, 15, 13, 10, 14, 3, 6, 7, 1, 9, 4],
   [7, 9, 3, 1, 13, 12, 11, 14, 2, 6, 5, 10, 4, 0, 15, 8],
   [9, 0, 5, 7, 2, 4, 10, 15, 14, 1, 11, 12, 6, 8, 3, 13],
   [2, 12, 6, 10, 0, 11, 8, 3, 4, 13, 7, 5, 15, 14, 1, 9],
   [12, 5, 1, 15, 14, 13, 4, 10, 0, 7, 6, 3, 9, 2, 8, 11],
   [13, 11, 7, 14, 12, 1, 3, 9, 5, 0, 15, 4, 8, 6, 2, 10],
   [6, 15, 14, 9, 11, 3, 0, 8, 12, 2, 13, 7, 1, 4, 10, 5],
   [10, 2, 8, 4, 7, 6, 1, 5, 15, 11, 9, 14, 3, 12, 13, 0]]

/-- The places of the four words that are mixed: columns first, then diagonals. -/
def blakeQuarters : List (Nat × Nat × Nat × Nat) :=
  [(0, 4, 8, 12), (1, 5, 9, 13), (2, 6, 10, 14), (3, 7, 11, 15),
   (0, 5, 10, 15), (1, 6, 11, 12), (2, 7, 8, 13), (3, 4, 9, 14)]

/-- A family of digests: words of so many bits, how far words are turned, how many rounds there
are, and the first state. -/
structure Blake where
  bits : Nat
  turns : Nat × Nat × Nat × Nat
  rounds : Nat
  start : List Nat

def blakeLong : Blake :=
  ⟨64, (32, 24, 16, 63), 12, sha512Start.toList.map (·.toNat)⟩

def blakeShort : Blake :=
  ⟨32, (16, 12, 8, 7), 10, sha256Start.toList.map (·.toNat)⟩

namespace Blake

def turn (b : Blake) (x n : Nat) : Nat :=
  Nat.lor (x / twoTo n) (x * twoTo (b.bits - n) % twoTo b.bits)

/-- Mixes four words with two words of the block. -/
def mix (b : Blake) (v : Array Nat) (q : Nat × Nat × Nat × Nat) (x y : Nat) : Array Nat :=
  let (ia, ib, ic, id) := q
  let (t1, t2, t3, t4) := b.turns
  let m := twoTo b.bits
  let at_ (i : Nat) : Nat := v.getD i 0
  let a := (at_ ia + at_ ib + x) % m
  let d := b.turn (Nat.xor (at_ id) a) t1
  let c := (at_ ic + d) % m
  let e := b.turn (Nat.xor (at_ ib) c) t2
  let a := (a + e + y) % m
  let d := b.turn (Nat.xor d a) t3
  let c := (c + d) % m
  let e := b.turn (Nat.xor e c) t4
  (((v.setIfInBounds ia a).setIfInBounds ib e).setIfInBounds ic c).setIfInBounds id d

/-- Takes in one block; `count` bytes have been taken in with it. -/
def compress (b : Blake) (state : List Nat) (block : List Nat) (count : Nat) (last : Bool) :
    List Nat :=
  let words := ((chunks (b.bits / 8) 17 block).map fun w =>
    w.reverse.foldl (fun n x => 256 * n + x) 0).toArray
  let m := twoTo b.bits
  let v := (state ++ b.start).toArray
  let v := v.modify 12 (Nat.xor (count % m))
  let v := v.modify 13 (Nat.xor (count / m % m))
  let v := if last then v.modify 14 (Nat.xor (m - 1)) else v
  let v := (List.range b.rounds).foldl (fun v r =>
    let order := blakeOrders.getD (r % 10) []
    (blakeQuarters.zip (List.range 8)).foldl (fun v (q, i) =>
      b.mix v q (words.getD (order.getD (2 * i) 0) 0) (words.getD (order.getD (2 * i + 1) 0) 0)) v) v
  (List.range 8).map fun i =>
    Nat.xor (state.getD i 0) (Nat.xor (v.getD i 0) (v.getD (i + 8) 0))

/-- Takes in blocks one after the other; the last one is filled up with zeros. -/
def absorb (b : Blake) (size total : Nat) : List (List Nat) → Nat → List Nat → List Nat
  | [], _, state => state
  | [block], _, state =>
    b.compress state (block ++ List.replicate (size - block.length) 0) total true
  | block :: rest, count, state =>
    b.absorb size total rest (count + size) (b.compress state block (count + size) false)

/-- The digest of a text with a key and of so many bytes, as bytes. Further settings, two bytes for
the shape of a tree first, turn the first state; the ones that a text alone has are ones. -/
def digest (b : Blake) (length : Nat) (key text : List Nat) (settings : List Nat) :
    List Nat :=
  let size := 2 * b.bits
  let keyed := if key.isEmpty then [] else key ++ List.replicate (size - key.length) 0
  let message := keyed ++ text
  let blocks := if message.isEmpty then [[]] else chunks size (message.length / size + 2) message
  let width := b.bits / 8
  let all := length :: key.length :: settings
  let words := chunks width 9 (all ++ List.replicate (8 * width - all.length) 0)
  let state := (b.start.zip words).map fun (h, w) =>
    Nat.xor h (w.reverse.foldl (fun n x => 256 * n + x) 0)
  let final := b.absorb size message.length blocks 0 state
  (final.flatMap fun w =>
    (List.range (b.bits / 8)).map fun i => w / twoTo (8 * i) % 256).take length

end Blake

def rotateLeft64 (x : UInt64) (n : Nat) : UInt64 :=
  if n % 64 = 0 then x else (x <<< UInt64.ofNat n) ||| (x >>> UInt64.ofNat (64 - n))

/-- The state of the register that makes the constants of the rounds, before each of its steps. -/
def spongeBits : List Bool :=
  ((List.range 168).foldl (fun (bits, r) _ =>
    let next := if 128 ≤ r then Nat.xor (2 * r % 256) 0x71 else 2 * r
    (decide (r % 2 = 1) :: bits, next)) (([] : List Bool), 1)).1.reverse

/-- The constants of the rounds: seven bits each, which stand at places less one than powers of two. -/
def spongeConstants : List UInt64 :=
  (chunks 7 25 spongeBits).map fun bits =>
    (bits.zip [0, 1, 3, 7, 15, 31, 63]).foldl (fun (c : UInt64) (b, place) =>
      if b then c ||| ((1 : UInt64) <<< UInt64.ofNat place) else c) 0

/-- How far each lane is turned: the places are visited in one round, and the distances grow. -/
def spongeTurns : Array Nat :=
  ((List.range 24).foldl (fun (turns, x, y) t =>
    ((turns : Array Nat).setIfInBounds (x + 5 * y) ((t + 1) * (t + 2) / 2 % 64), y,
      (2 * x + 3 * y) % 5)) (Array.replicate 25 0, 1, 0)).1

def spongeRound (turns : Array Nat) (lanes : Array UInt64) (constant : UInt64) : Array UInt64 :=
  let at_ (a : Array UInt64) (x y : Nat) : UInt64 := a.getD (x % 5 + 5 * (y % 5)) 0
  let columns := (Array.range 5).map fun x =>
    (List.range 5).foldl (fun c y => c ^^^ at_ lanes x y) (0 : UInt64)
  let lanes := lanes.mapIdx fun i lane =>
    lane ^^^ columns.getD ((i % 5 + 4) % 5) 0 ^^^ rotateLeft64 (columns.getD ((i % 5 + 1) % 5) 0) 1
  let moved := (Array.range 25).foldl (fun (b : Array UInt64) i =>
    let (x, y) := (i % 5, i / 5)
    b.setIfInBounds (y + 5 * ((2 * x + 3 * y) % 5))
      (rotateLeft64 (lanes.getD i 0) (turns.getD i 0))) (Array.replicate 25 0)
  let lanes := moved.mapIdx fun i lane =>
    let (x, y) := (i % 5, i / 5)
    lane ^^^ ((at_ moved (x + 1) y ^^^ 0xFFFFFFFFFFFFFFFF) &&& at_ moved (x + 2) y)
  lanes.modify 0 (· ^^^ constant)

/-- All rounds. -/
def spongeTurn (turns : Array Nat) (constants : List UInt64) (lanes : Array UInt64) :
    Array UInt64 :=
  constants.foldl (spongeRound turns) lanes

def laneBytes (lanes : Array UInt64) : List Nat :=
  lanes.toList.flatMap fun l => (List.range 8).map fun i => l.toNat / twoTo (8 * i) % 256

/-- Takes so many bytes out of a state that is turned after each block. -/
def spongeOutput (turns : Array Nat) (constants : List UInt64) (rate : Nat) :
    Nat → Nat → Array UInt64 → List Nat
  | 0, _, _ => []
  | fuel + 1, length, lanes =>
    let block := (laneBytes lanes).take (min rate length)
    if length ≤ rate then block
    else block ++ spongeOutput turns constants rate fuel (length - rate) (spongeTurn turns constants lanes)

/-- A digest of so many bytes: blocks of `rate` bytes go into the state one after the other. After
the text stand the mark of the family and a last one. -/
def sponge (rate mark length : Nat) (text : List Nat) : List Nat :=
  let (turns, constants) := (spongeTurns, spongeConstants)
  let zeros := rate - 1 - text.length % rate
  let filled := if zeros = 0 then text ++ [mark + 128]
    else text ++ mark :: (List.replicate (zeros - 1) 0 ++ [128])
  let lanes := (chunks rate (filled.length / rate + 1) filled).foldl (fun lanes block =>
    let words := (chunks 8 26 block).map fun w =>
      UInt64.ofNat (w.reverse.foldl (fun n x => 256 * n + x) 0)
    spongeTurn turns constants ((words.zip (List.range 25)).foldl (fun (s : Array UInt64) (w, i) =>
      s.modify i (· ^^^ w)) lanes)) (Array.replicate 25 0)
  spongeOutput turns constants rate (length / rate + 2) length lanes

/-- The digest of each operand before its name, or whether files have the digests that a text
tells. -/
def digestWith (label : String) (f : Options → List Char → List Char) (valued : List Char)
    (c : Call) : Effect :=
  let table : OptionTable :=
    { flags := "btczTqSw".toList, valued
      long := [("binary", 'b'), ("text", 't'), ("check", 'c'), ("zero", 'z'), ("tag", 'T'),
        ("quiet", 'q'), ("status", 'S'), ("warn", 'w'), ("length", 'l')] }
  c.withOptions table fun o =>
    let ending : Char := if o.has 'z' then '\x00' else '\n'
    c.each o.operands 1 plainName fun name p =>
      if o.has 'c' then
        c.fails 1 (name ++ ": no properly formatted checksum lines found")
      else
        .ofAll p fun text =>
          if o.has 'T' then
            (label ++ " (" ++ name ++ ") = ").toList ++ f o text ++ [ending]
          else
            f o text ++ ' ' :: (if o.has 'b' then '*' else ' ') :: (name.toList ++ [ending])

/-- The digest of each operand before its name. -/
def digest (label : String) (f : List Char → List Char) (c : Call) : Effect :=
  digestWith label (fun _ => f) [] c

/-- Digests of a length that can be chosen. -/
def b2sum (c : Call) : Effect :=
  let length (o : Options) : Nat :=
    ((o.value? 'l').bind fun s => Text.natural? s.toList).getD 512
  let label := "BLAKE2b"
  digestWith label (fun o text =>
    let n := if length o = 0 then 64 else length o / 8
    (blakeLong.digest n [] (text.map Char.toNat) [1, 1]).flatMap (Text.paddedIn 16 2)) ['l'] c

end Flowboard.Utility
