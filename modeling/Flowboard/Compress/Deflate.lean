import Flowboard.Compress.Code

/-! How texts are made shorter and read again: what has stood before is told by its place, and all
else by codes. -/
namespace Flowboard.Compress

/-- A part of a text: a byte, or a piece of what has stood before. -/
inductive Symbol where
  | literal (b : UInt8)
  | copy (length distance : Nat)
  deriving DecidableEq, Repr

/-- How hard a text is searched for pieces that have stood before. -/
structure Effort where
  /-- a piece of this length makes the search for a better one shorter -/
  good : Nat
  /-- a piece of this length is taken at once -/
  lazy : Nat
  /-- a piece of this length ends the search -/
  nice : Nat
  /-- how many places are tried -/
  chain : Nat
  /-- the first piece that is found is taken -/
  fast : Bool

/-- The effort of each level. -/
def Effort.ofLevel (level : Nat) : Effort :=
  match level with
  | 1 => ⟨4, 4, 8, 4, true⟩
  | 2 => ⟨4, 5, 16, 8, true⟩
  | 3 => ⟨4, 6, 32, 32, true⟩
  | 4 => ⟨4, 4, 16, 16, false⟩
  | 5 => ⟨8, 16, 32, 32, false⟩
  | 6 => ⟨8, 16, 128, 128, false⟩
  | 7 => ⟨8, 32, 128, 256, false⟩
  | 8 => ⟨32, 128, 258, 1024, false⟩
  | _ => ⟨32, 258, 258, 4096, false⟩

def windowSize : Nat := 32768

/-- The greatest distance of a piece. -/
def farthest : Nat := 32506

/-- How much of a text is kept ahead. -/
def aheadSize : Nat := 262

/-- How often each symbol occurs, for bytes and lengths and for distances. The end occurs once. -/
def frequencies (symbols : Array Symbol) : Array Nat × Array Nat := Id.run do
  let mut literals := (Array.replicate 286 0).setIfInBounds 256 1
  let mut distances := Array.replicate 30 0
  for s in symbols do
    match s with
    | .literal b => literals := literals.modify b.toNat (· + 1)
    | .copy length distance =>
      literals := literals.modify (257 + classOf lengthClasses length) (· + 1)
      distances := distances.modify (classOf distanceClasses distance) (· + 1)
  return (literals, distances)

/-- How many bits symbols take. -/
def bitCost (literals distances literalLengths distanceLengths : Array Nat) : Nat := Id.run do
  let mut total := 0
  for i in [0:literals.size] do
    let extra := if i < 257 then 0 else (lengthClasses.getD (i - 257) (0, 0)).2
    total := total + literals.getD i 0 * (literalLengths.getD i 0 + extra)
  for i in [0:distances.size] do
    let extra := (distanceClasses.getD i (0, 0)).2
    total := total + distances.getD i 0 * (distanceLengths.getD i 0 + extra)
  return total

/-- The number of lengths up to the last one that is not zero. -/
def usedCount (lengths : Array Nat) (least : Nat) : Nat :=
  let rec go : Nat → Nat
    | 0 => 0
    | k + 1 => if lengths.getD k 0 ≠ 0 then k + 1 else go k
  max least (go lengths.size)

/-- Lengths of codes told one after the other: each is a code, a number that follows it and how many
bits that has. A length that is repeated is told once. -/
def runLengths (lengths : List Nat) : List (Nat × Nat × Nat) :=
  go (lengths.length + 1) none lengths
where
  go : Nat → Option Nat → List Nat → List (Nat × Nat × Nat)
    | 0, _, _ => []
    | _, _, [] => []
    | fuel + 1, last, l :: rest =>
      -- how many follow, up to the most that can be told at once
      let most := if l = 0 then 138 else if last == some l then 6 else 7
      let least := if l = 0 || last == some l then 3 else 4
      let count := 1 + ((rest.takeWhile (· == l)).take (most - 1)).length
      let after := rest.drop (count - 1)
      let told : List (Nat × Nat × Nat) :=
        if count < least then List.replicate count (l, 0, 0)
        else if l ≠ 0 then
          if last == some l then [(16, count - 3, 2)] else [(l, 0, 0), (16, count - 4, 2)]
        else if count ≤ 10 then [(17, count - 3, 3)]
        else [(18, count - 11, 7)]
      told ++ go fuel (some l) after

/-- Writes symbols by their codes. -/
def putSymbols (symbols : Array Symbol) (literalLengths distanceLengths : Array Nat)
    (start : Writer) : Writer := Id.run do
  let literalCodes := codesOf literalLengths
  let distanceCodes := codesOf distanceLengths
  let mut w := start
  for s in symbols do
    match s with
    | .literal b => w := w.put (literalCodes.getD b.toNat 0) (literalLengths.getD b.toNat 0)
    | .copy length distance =>
      let i := classOf lengthClasses length
      let (base, extra) := lengthClasses.getD i (0, 0)
      w := w.put (literalCodes.getD (257 + i) 0) (literalLengths.getD (257 + i) 0)
      w := w.put (length - base) extra
      let j := classOf distanceClasses distance
      let (base, extra) := distanceClasses.getD j (0, 0)
      w := w.put (distanceCodes.getD j 0) (distanceLengths.getD j 0)
      w := w.put (distance - base) extra
  return w.put (literalCodes.getD 256 0) (literalLengths.getD 256 0)

/-- Writes bytes as they are. -/
def putStored (bytes : Array UInt8) (last : Bool) (w : Writer) : Writer :=
  let w := (w.put (if last then 1 else 0) 3).align
  let w := (w.put bytes.size 16).put (65535 - bytes.size) 16
  bytes.foldl (fun w b => w.putByte b) w

/-- Writes a block in the shortest of three ways: as it is, with codes that need not be told, or with
codes of its own. -/
def putBlock (symbols : Array Symbol) (bytes : Array UInt8) (last : Bool) (w : Writer) : Writer :=
  let (literals, distances) := frequencies symbols
  let literalLengths := codeLengths literals 15
  let distanceLengths := codeLengths distances 15
  let literalCount := usedCount literalLengths 257
  let distanceCount := usedCount distanceLengths 1
  let told := runLengths (literalLengths.extract 0 literalCount).toList ++
    runLengths (distanceLengths.extract 0 distanceCount).toList
  let tellingFreq := told.foldl (fun f (code, _, _) => f.modify code (· + 1)) (Array.replicate 19 0)
  let tellingLengths := codeLengths tellingFreq 7
  let order := tellingOrder.map fun i => tellingLengths.getD i 0
  let tellingCount := max 4 (order.length - (order.reverse.takeWhile (· == 0)).length)
  let tellingBits := told.foldl (fun n (code, _, extra) => n + tellingLengths.getD code 0 + extra) 0
  let ownBits := bitCost literals distances literalLengths distanceLengths + tellingBits +
    3 * tellingCount + 14
  let fixedBits := bitCost literals distances fixedLengths fixedDistances
  let own := (ownBits + 10) / 8
  let fixed := (fixedBits + 10) / 8
  let least := min own fixed
  let flag := if last then 1 else 0
  let w := if bytes.size + 4 ≤ least then putStored bytes last w
    else if fixed ≤ own then
      putSymbols symbols fixedLengths fixedDistances (w.put (2 + flag) 3)
    else
      let w := w.put (4 + flag) 3
      let w := ((w.put (literalCount - 257) 5).put (distanceCount - 1) 5).put (tellingCount - 4) 4
      let w := (order.take tellingCount).foldl (fun w l => w.put l 3) w
      let codes := codesOf tellingLengths
      let w := told.foldl (fun w (code, n, extra) =>
        (w.put (codes.getD code 0) (tellingLengths.getD code 0)).put n extra) w
      putSymbols symbols literalLengths distanceLengths w
  if last then w.align else w

/-- The number of three bytes, by which places are found. -/
def placeHash (data : Array UInt8) (i : Nat) : Nat :=
  let byte (k : Nat) : Nat := (data.getD (i + k) 0).toNat
  Nat.xor (Nat.xor (byte 0 * 1024) (byte 1 * 32)) (byte 2) % 32768

/-- How many bytes from two places on are the same, up to a limit. -/
def sameLength (data : Array UInt8) (a b : Nat) : Nat → Nat → Nat
  | 0, n => n
  | limit + 1, n => if data.getD (a + n) 0 = data.getD (b + n) 0 then
      sameLength data a b limit (n + 1) else n

/-- The longest piece that has stood before, if it is longer than one that is known: its length and
its place. Places are tried from the latest one on. -/
def longest (data : Array UInt8) (earlier : Array Nat) (e : Effort) (at_ first known : Nat)
    (ahead floor : Nat) : Nat × Option Nat := Id.run do
  let chain := if e.good ≤ known then e.chain / 4 else e.chain
  let nice := min e.nice ahead
  let limit := max floor (at_ - farthest)
  let mut best := known
  let mut place : Option Nat := none
  let mut current := first
  for _ in [0:chain] do
    let candidate := data.getD (current + best) 0 = data.getD (at_ + best) 0
    if candidate then
      let length := sameLength data current at_ (min 258 ahead) 0
      if best < length then
        best := length
        place := some current
        if nice ≤ length then break
    current := earlier.getD current 0
    if current ≤ limit then break
  return (min best ahead, place)

/-- What is known while a text is searched. -/
structure Search where
  /-- the latest place of each number, and of each place the one before; zero is no place -/
  heads : Array Nat := Array.replicate 32768 0
  earlier : Array Nat
  symbols : Array Symbol := #[]
  writer : Writer := {}
  /-- where the block starts -/
  start : Nat := 0
  /-- where the window starts -/
  floor : Nat := 0
  at_ : Nat := 0
  /-- the last piece that was found, and the one before it -/
  length : Nat := 2
  place : Nat := 0
  /-- a byte waits to be written -/
  waits : Bool := false

/-- How many symbols a block has at most. -/
def blockSize : Nat := 16383

namespace Search

/-- Notes a place, and gives the latest one with the same number. -/
def insert (s : Search) (data : Array UInt8) (i : Nat) : Nat × Search :=
  let h := placeHash data i
  let head := s.heads.getD h 0
  match s with
  | { heads, earlier, symbols, writer, start, floor, at_, length, place, waits } =>
    (head, { heads := heads.setIfInBounds h i, earlier := earlier.setIfInBounds i head
             symbols, writer, start, floor, at_, length, place, waits })

/-- Notes the places after one. -/
def insertAll (data : Array UInt8) (last : Nat) : Nat → Nat → Search → Search
  | 0, _, s => s
  | n + 1, i, s => insertAll data last n (i + 1) (if i ≤ last then (s.insert data i).2 else s)

/-- Writes the block if it is full. -/
def flush (data : Array UInt8) (upTo : Nat) (s : Search) : Search :=
  if s.symbols.size < blockSize then s
  else
    { s with
      writer := putBlock s.symbols (data.extract s.start upTo) false s.writer
      symbols := #[]
      start := upTo }

def push (symbol : Symbol) (s : Search) : Search :=
  match s with
  | { heads, earlier, symbols, writer, start, floor, at_, length, place, waits } =>
    { heads, earlier, symbols := symbols.push symbol, writer, start, floor, at_, length, place
      waits }

/-- Moves the window if little is ahead in it. -/
def slide (size : Nat) (s : Search) : Search :=
  let ahead := min size (s.floor + 2 * windowSize) - s.at_
  if ahead < aheadSize && windowSize + farthest ≤ s.at_ - s.floor then
    { s with floor := s.floor + windowSize }
  else s

/-- One step that takes the first piece that is found. -/
def stepFast (data : Array UInt8) (e : Effort) (s : Search) : Search :=
  let s := s.slide data.size
  let ahead := min data.size (s.floor + 2 * windowSize) - s.at_
  let (head, s) := if 3 ≤ ahead then s.insert data s.at_ else (0, s)
  let (length, place) := if s.floor < head && s.at_ - head ≤ farthest then
      longest data s.earlier e s.at_ head 2 ahead s.floor
    else (2, none)
  match place with
  | some place =>
    if 3 ≤ length then
      let s := s.push (.copy length (s.at_ - place))
      let s := if length ≤ e.lazy && 3 ≤ ahead - length then
          insertAll data data.size (length - 1) (s.at_ + 1) s
        else s
      let s := { s with at_ := s.at_ + length }
      flush data s.at_ s
    else literal s
  | none => literal s
where
  literal (s : Search) : Search :=
    let s := s.push (.literal (data.getD s.at_ 0))
    let s := { s with at_ := s.at_ + 1 }
    flush data s.at_ s

/-- One step that takes a piece only if there is no longer one at the next place. -/
def stepLazy (data : Array UInt8) (e : Effort) (s : Search) : Search :=
  let s := s.slide data.size
  let ahead := min data.size (s.floor + 2 * windowSize) - s.at_
  let (head, s) := if 3 ≤ ahead then s.insert data s.at_ else (0, s)
  let before := s.length
  let placeBefore := s.place
  let (length, place) :=
    if s.floor < head && before < e.lazy && s.at_ - head ≤ farthest then
      let (length, place) := longest data s.earlier e s.at_ head before ahead s.floor
      let place := place.getD placeBefore
      -- a short piece from far away is not worth it
      if length ≤ 5 && length = 3 && 4096 < s.at_ - place then (2, place) else (length, place)
    else (2, placeBefore)
  if 3 ≤ before && length ≤ before then
    let last := s.at_ + ahead - 3
    let s := s.push (.copy before (s.at_ - 1 - placeBefore))
    let s := insertAll data last (before - 2) (s.at_ + 1) s
    let s := { s with at_ := s.at_ + before - 1, length := 2, place, waits := false }
    flush data s.at_ s
  else if s.waits then
    let s := s.push (.literal (data.getD (s.at_ - 1) 0))
    let s := flush data s.at_ s
    { s with at_ := s.at_ + 1, length, place }
  else { s with at_ := s.at_ + 1, length, place, waits := true }

/-- Takes steps to the end of a text. -/
def run (data : Array UInt8) (e : Effort) : Nat → Search → Search
  | 0, s => s
  | fuel + 1, s =>
    if data.size ≤ s.at_ then s
    else run data e fuel (if e.fast then stepFast data e s else stepLazy data e s)

end Search

/-- Bytes as they are in blocks of the greatest size. -/
def storedBlocks (data : Array UInt8) : Nat → Nat → Writer → Writer
  | 0, _, w => w
  | fuel + 1, i, w =>
    if data.size ≤ i + 65535 then putStored (data.extract i data.size) true w
    else storedBlocks data fuel (i + 65535) (putStored (data.extract i (i + 65535)) false w)

/-- A text made shorter with the effort of a level. -/
def deflate (level : Nat) (data : Array UInt8) : Array UInt8 :=
  if level = 0 then (storedBlocks data (data.size / 65535 + 2) 0 {}).bytes
  else
    let s := Search.run data (.ofLevel level) (data.size + 1)
      { earlier := Array.replicate data.size 0 }
    let s := if s.waits then s.push (.literal (data.getD (s.at_ - 1) 0)) else s
    (putBlock s.symbols (data.extract s.start data.size) true s.writer).bytes

/-- Why a text cannot be read. -/
inductive ReadFault where
  /-- it ends too early -/
  | truncated
  | badBlock
  | badStored
  | badCodes
  | badSymbol
  | tooFar
  deriving DecidableEq, Repr

/-- Bytes that are read bit by bit, and what has come out so far. -/
structure Reader where
  data : Array UInt8
  /-- the place of the next bit -/
  bit : Nat := 0
  output : Array UInt8 := #[]

abbrev Reading := StateT Reader (Except ReadFault)

/-- The next bit. -/
def nextBit : Reading Nat := fun r =>
  match r.data[r.bit / 8]? with
  | some b => .ok (b.toNat / Nat.shiftLeft 1 (r.bit % 8) % 2, { r with bit := r.bit + 1 })
  | none => .error .truncated

/-- The number of the next bits, the lowest one first. -/
def nextBits : Nat → Reading Nat
  | 0 => return 0
  | n + 1 => do
    let low ← nextBit
    let rest ← nextBits n
    return low + 2 * rest

/-- A code as it is read: how many symbols have each length, and the symbols by their codes. -/
structure Table where
  counts : Array Nat
  symbols : Array Nat

def tableOf (lengths : Array Nat) : Table := Id.run do
  let counts := (lengthCounts lengths).setIfInBounds 0 0
  let mut symbols := #[]
  for l in [1:16] do
    if counts.getD l 0 ≠ 0 then
      for i in [0:lengths.size] do
        if lengths.getD i 0 = l then symbols := symbols.push i
  return ⟨counts, symbols⟩

/-- The symbol whose code comes next: codes of each length follow those of the length before. -/
def nextSymbol (t : Table) : Reading Nat :=
  go 15 1 0 0 0
where
  go : Nat → Nat → Nat → Nat → Nat → Reading Nat
    | 0, _, _, _, _ => throw .badSymbol
    | fuel + 1, length, code, first, index => do
      let code := code + (← nextBit)
      let count := t.counts.getD length 0
      if code < first + count then return t.symbols.getD (index + (code - first)) 0
      else go fuel (length + 1) (2 * code) (2 * (first + count)) (index + count)

def putOut (b : UInt8) : Reading Unit :=
  modify fun ⟨data, bit, output⟩ => ⟨data, bit, output.push b⟩

/-- Writes a piece of what has come out again. -/
def copyOut (distance : Nat) : Nat → Reading Unit
  | 0 => return
  | n + 1 => do
    let r ← get
    putOut (r.output.getD (r.output.size - distance) 0)
    copyOut distance n

/-- The symbols of a block up to its end. -/
def readSymbols (literals distances : Table) : Nat → Reading Unit
  | 0 => throw .truncated
  | fuel + 1 => do
    let s ← nextSymbol literals
    if s < 256 then
      putOut (UInt8.ofNat s)
      readSymbols literals distances fuel
    else if s = 256 then return
    else
      match lengthClasses[s - 257]? with
      | none => throw .badSymbol
      | some (base, extra) =>
        let length := base + (← nextBits extra)
        match distanceClasses[← nextSymbol distances]? with
        | none => throw .badSymbol
        | some (base, extra) =>
          let distance := base + (← nextBits extra)
          if (← get).output.size < distance then throw .tooFar
          copyOut distance length
          readSymbols literals distances fuel

/-- Blocks up to the last one. Each block uses up one of the fuel. -/
def readBlocks (symbols : Nat) : Nat → Reading Unit
  | 0 => throw .truncated
  | fuel + 1 => do
    let last ← nextBit
    match ← nextBits 2 with
    | 1 => readSymbols (tableOf fixedLengths) (tableOf fixedDistances) symbols
    | _ => throw .badBlock
    if last = 1 then return else readBlocks symbols fuel

/-- The text that was made shorter, from a place on, and the place after it. -/
def inflate (data : Array UInt8) (start : Nat) : Except ReadFault (Array UInt8 × Nat) :=
  let bits := 8 * data.size + 1
  match (readBlocks bits bits).run { data, bit := 8 * start } with
  | .ok (_, r) => .ok (r.output, (r.bit + 7) / 8)
  | .error e => .error e

/-- The remainders of all bytes, with the lowest bit first. -/
def checkTable : Array UInt32 :=
  ((List.range 256).map fun n =>
    (List.range 8).foldl (fun (r : UInt32) _ =>
      if r &&& 1 = 0 then r >>> 1 else (r >>> 1) ^^^ 0xEDB88320) (UInt32.ofNat n)).toArray

/-- The remainder of a text, which goes on from the one of the text before. -/
def cyclicSum (before : UInt32) (data : Array UInt8) : UInt32 :=
  let table := checkTable
  let step (crc : UInt32) (b : UInt8) : UInt32 :=
    (crc >>> 8) ^^^ table.getD ((crc ^^^ b.toUInt32) &&& 255).toNat 0
  data.foldl step (before ^^^ 0xFFFFFFFF) ^^^ 0xFFFFFFFF

/-- Two sums of a text modulo a prime, which go on from those of the text before. -/
def doubleSum (before : Nat) (data : Array UInt8) : Nat :=
  let (a, b) := data.foldl (fun (a, b) (c : UInt8) =>
    let a := (a + c.toNat) % 65521
    (a, (b + a) % 65521)) (before % 65536, before / 65536)
  b * 65536 + a

/-- The bytes of a number, the lowest one first. -/
def lowFirst : Nat → Nat → List UInt8
  | 0, _ => []
  | k + 1, n => UInt8.ofNat (n % 256) :: lowFirst k (n / 256)

/-- The number of bytes, the lowest one first. -/
def ofLowFirst : List UInt8 → Nat
  | [] => 0
  | b :: bs => b.toNat + 256 * ofLowFirst bs

end Flowboard.Compress
