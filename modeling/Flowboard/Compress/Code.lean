/-! Codes of bits: how long the code of each symbol is, and which bits it has. -/
namespace Flowboard.Compress

/-- Bytes that are written bit by bit, the lowest bit of a byte first. -/
structure Writer where
  bytes : Array UInt8 := #[]
  /-- bits that do not yet fill a byte, and their number -/
  held : Nat := 0
  count : Nat := 0

namespace Writer

/-- Moves whole bytes out. -/
def drain : Nat → Writer → Writer
  | 0, w => w
  | fuel + 1, w =>
    if w.count < 8 then w
    else drain fuel
      { bytes := w.bytes.push (UInt8.ofNat (w.held % 256)), held := w.held / 256
        count := w.count - 8 }

/-- Writes the lowest bits of a number. -/
def put (w : Writer) (value bits : Nat) : Writer :=
  drain 8 { w with held := w.held + Nat.shiftLeft value w.count, count := w.count + bits }

/-- Fills the last byte up. -/
def align (w : Writer) : Writer :=
  if w.count = 0 then w
  else { bytes := w.bytes.push (UInt8.ofNat (w.held % 256)), held := 0, count := 0 }

def putByte (w : Writer) (b : UInt8) : Writer :=
  w.put b.toNat 8

end Writer

/-- The order of nodes: rare ones first, and of two that are as rare the flatter one. -/
def comesBefore (freq depth : Array Nat) (n m : Nat) : Bool :=
  freq.getD n 0 < freq.getD m 0 ||
    (freq.getD n 0 == freq.getD m 0 && depth.getD n 0 ≤ depth.getD m 0)

/-- Moves the node at a place of a heap down to where it belongs. Places are counted from one. -/
def sift (freq depth : Array Nat) (size start : Nat) (nodes : Array Nat) : Array Nat := Id.run do
  let mut heap := nodes
  let v := heap.getD start 0
  let mut k := start
  for _ in [0:32] do
    let mut j := 2 * k
    if size < j then break
    if j < size && comesBefore freq depth (heap.getD (j + 1) 0) (heap.getD j 0) then j := j + 1
    if comesBefore freq depth v (heap.getD j 0) then break
    heap := heap.setIfInBounds k (heap.getD j 0)
    k := j
  return heap.setIfInBounds k v

/-- The lengths of codes for symbols that occur so often: the whole text gets as short as it can with
codes that are not longer than a limit. At least two symbols get codes. -/
def codeLengths (given : Array Nat) (limit : Nat) : Array Nat := Id.run do
  let elems := given.size
  let total := 2 * elems + 1
  let mut freq := given ++ Array.replicate (total - elems) 0
  let mut depth := Array.replicate total 0
  let mut heap := Array.replicate (total + 1) 0
  let mut size := 0
  let mut greatest : Nat := 0
  let mut any := false
  for n in [0:elems] do
    if freq.getD n 0 ≠ 0 then
      size := size + 1
      heap := heap.setIfInBounds size n
      greatest := n
      any := true
  for _ in [0:2] do
    if size < 2 then
      let node := if !any then 0 else if greatest < 2 then greatest + 1 else 0
      if !any || greatest < 2 then greatest := node
      any := true
      size := size + 1
      heap := heap.setIfInBounds size node
      freq := freq.setIfInBounds node 1
  for i in [0:size / 2] do
    heap := sift freq depth size (size / 2 - i) heap
  -- the nodes in the order in which they were joined, last first
  let mut joined : List Nat := []
  let mut dad := Array.replicate total 0
  let mut node := elems
  for _ in [0:elems] do
    if size < 2 then break
    let n := heap.getD 1 0
    heap := heap.setIfInBounds 1 (heap.getD size 0)
    size := size - 1
    heap := sift freq depth size 1 heap
    let m := heap.getD 1 0
    joined := m :: n :: joined
    freq := freq.setIfInBounds node (freq.getD n 0 + freq.getD m 0)
    depth := depth.setIfInBounds node (max (depth.getD n 0) (depth.getD m 0) + 1)
    dad := (dad.setIfInBounds n node).setIfInBounds m node
    heap := heap.setIfInBounds 1 node
    node := node + 1
    heap := sift freq depth size 1 heap
  -- each node is one bit longer than the one above it
  let mut lengths := Array.replicate total 0
  let mut counts := Array.replicate (limit + 2) 0
  let mut overflow : Nat := 0
  for n in joined do
    let mut bits := lengths.getD (dad.getD n 0) 0 + 1
    if limit < bits then
      bits := limit
      overflow := overflow + 1
    lengths := lengths.setIfInBounds n bits
    if n < elems then counts := counts.setIfInBounds bits (counts.getD bits 0 + 1)
  if 0 < overflow then
    for _ in [0:overflow] do
      if overflow = 0 then break
      let mut bits := limit - 1
      for _ in [0:limit] do
        if counts.getD bits 0 ≠ 0 then break
        bits := bits - 1
      counts := counts.setIfInBounds bits (counts.getD bits 0 - 1)
      counts := counts.setIfInBounds (bits + 1) (counts.getD (bits + 1) 0 + 2)
      counts := counts.setIfInBounds limit (counts.getD limit 0 - 1)
      overflow := overflow - 2
    -- the rarest symbols get the longest codes
    let mut leaves := joined.reverse.filter (· < elems)
    for i in [0:limit] do
      let bits := limit - i
      let n := counts.getD bits 0
      for leaf in leaves.take n do
        lengths := lengths.setIfInBounds leaf bits
      leaves := leaves.drop n
  return lengths.extract 0 elems

/-- So many bits in the opposite order. -/
def reversed : Nat → Nat → Nat
  | 0, _ => 0
  | bits + 1, n => n % 2 * Nat.shiftLeft 1 bits + reversed bits (n / 2)

/-- The first code of each length, given how many codes have each length. -/
def firstCodes (counts : Array Nat) : Array Nat := Id.run do
  let mut first := #[0]
  let mut code := 0
  for bits in [1:17] do
    code := 2 * (code + (if bits = 1 then 0 else counts.getD (bits - 1) 0))
    first := first.push code
  return first

/-- How many codes have each length. -/
def lengthCounts (lengths : Array Nat) : Array Nat :=
  lengths.foldl (fun counts l => counts.modify l (· + 1)) (Array.replicate 17 0)

/-- The codes of symbols, with their bits in the order in which they are written. -/
def codesOf (lengths : Array Nat) : Array Nat := Id.run do
  let mut next := firstCodes (lengthCounts lengths)
  let mut codes := #[]
  for l in lengths do
    if l = 0 then codes := codes.push 0
    else
      codes := codes.push (reversed l (next.getD l 0))
      next := next.modify l (· + 1)
  return codes

/-- The least length of each code for lengths, and how many bits follow it. -/
def lengthClasses : Array (Nat × Nat) :=
  #[(3, 0), (4, 0), (5, 0), (6, 0), (7, 0), (8, 0), (9, 0), (10, 0), (11, 1), (13, 1), (15, 1),
    (17, 1), (19, 2), (23, 2), (27, 2), (31, 2), (35, 3), (43, 3), (51, 3), (59, 3), (67, 4),
    (83, 4), (99, 4), (115, 4), (131, 5), (163, 5), (195, 5), (227, 5), (258, 0)]

/-- The least distance of each code for distances, and how many bits follow it. -/
def distanceClasses : Array (Nat × Nat) :=
  #[(1, 0), (2, 0), (3, 0), (4, 0), (5, 1), (7, 1), (9, 2), (13, 2), (17, 3), (25, 3), (33, 4),
    (49, 4), (65, 5), (97, 5), (129, 6), (193, 6), (257, 7), (385, 7), (513, 8), (769, 8),
    (1025, 9), (1537, 9), (2049, 10), (3073, 10), (4097, 11), (6145, 11), (8193, 12), (12289, 12),
    (16385, 13), (24577, 13)]

/-- The last class whose least value is not above a value. -/
def classOf (classes : Array (Nat × Nat)) (n : Nat) : Nat :=
  let rec go : Nat → Nat
    | 0 => 0
    | k + 1 => if (classes.getD (k + 1) (n + 1, 0)).1 ≤ n then k + 1 else go k
  go (classes.size - 1)

/-- The lengths of the codes that need not be told. -/
def fixedLengths : Array Nat :=
  Array.replicate 144 8 ++ Array.replicate 112 9 ++ Array.replicate 24 7 ++ Array.replicate 8 8

def fixedDistances : Array Nat :=
  Array.replicate 30 5

/-- The order in which the lengths of the codes for lengths are told. -/
def tellingOrder : List Nat :=
  [16, 17, 18, 0, 8, 7, 9, 6, 10, 5, 11, 4, 12, 3, 13, 2, 14, 1, 15]

end Flowboard.Compress
