import Flowboard.Proofs.Canvas

/-! The order of the canvas as the only stable sort of nodes by the bit patterns of their places. -/
namespace Flowboard

open Canvas

/-- The total order that IEEE 754 gives to bit patterns: those with a sign first, and among these the
greater one first. -/
def Binary64.TotalLE (a b : BitVec 64) : Prop :=
  match a.msb, b.msb with
  | false, false => a ≤ b
  | true, true => b ≤ a
  | negative, _ => negative

/-- Bit for bit the same place. -/
def Position.Same (a b : Position) : Prop :=
  a.y.bits = b.y.bits ∧ a.x.bits = b.x.bits

/-- Higher up, or as high and not farther to the right. -/
def Position.NotAfter (a b : Position) : Prop :=
  if a.y.bits = b.y.bits then Binary64.TotalLE a.x.bits b.x.bits else Binary64.TotalLE a.y.bits b.y.bits

/-- The indices of nodes, each once, by the places of the nodes; those of nodes in the same place
keep their order. -/
structure StableSort (nodes : List Node) (visit : List Nat) : Prop where
  perm : visit.Perm (List.range nodes.length)
  sorted : visit.Pairwise fun i j => ∀ a b, nodes[i]? = some a → nodes[j]? = some b →
    a.position.NotAfter b.position
  stable : visit.Pairwise fun i j => ∀ a b, nodes[i]? = some a → nodes[j]? = some b →
    a.position.Same b.position → i < j

variable {nodes others : List Node} {visit : List Nat} {i j : Nat}

/-- The rank as a number: without a sign the bits themselves, and with one their mirror image below
zero. -/
theorem Binary64.rank_eq (b : Binary64) :
    b.rank = (if b.bits.msb then 0x7FFFFFFFFFFFFFFF - b.bits.toNat else b.bits.toNat : Int) := by
  have hlt := b.bits.isLt
  have hmsb := BitVec.msb_eq_decide b.bits
  simp only [rank, magnitude, BitVec.toNat_setWidth]
  split <;> simp_all <;> omega

theorem Binary64.bits_eq_iff (a b : Binary64) : a.bits = b.bits ↔ a.rank = b.rank := by
  refine ⟨fun h => by rw [rank_eq, rank_eq, h], fun h => BitVec.eq_of_toNat_eq ?_⟩
  have ha := BitVec.msb_eq_decide a.bits
  have hb := BitVec.msb_eq_decide b.bits
  rw [rank_eq, rank_eq] at h
  split at h <;> split at h <;> simp_all <;> omega

/-- The order of the canvas compares bit patterns; -0 comes before 0. -/
theorem Binary64.totalLE_bits_iff (a b : Binary64) :
    TotalLE a.bits b.bits ↔ a.rank ≤ b.rank := by
  have ha := BitVec.msb_eq_decide a.bits
  have hb := BitVec.msb_eq_decide b.bits
  simp only [TotalLE, rank_eq, BitVec.le_def]
  cases hma : a.bits.msb <;> cases hmb : b.bits.msb <;> simp_all <;> omega

/-- The order of the bit patterns is the one by which nodes are sorted. -/
theorem Position.notAfter_iff_le (a b : Position) : a.NotAfter b ↔ a.le b := by
  simp only [NotAfter, Binary64.bits_eq_iff, Binary64.totalLE_bits_iff, le, Bool.or_eq_true,
    Bool.and_eq_true, decide_eq_true_eq, beq_iff_eq]
  split <;> omega

theorem Position.same_iff_le (a b : Position) : a.Same b ↔ a.le b ∧ b.le a := by
  simp only [Same, Binary64.bits_eq_iff, le, Bool.or_eq_true, Bool.and_eq_true, decide_eq_true_eq,
    beq_iff_eq]
  omega

theorem spot_lt_iff {a b : Node} : spot a i < spot b j ↔
    a.position.NotAfter b.position ∧ (a.position.Same b.position → i < j) := by
  simp only [spot, Prod.Lex.toLex_lt_toLex, Position.NotAfter, Position.Same,
    Binary64.bits_eq_iff, Binary64.totalLE_bits_iff]
  split <;> omega

/-- To be sorted stably is to be in the strict order of the spots. -/
theorem stableSort_iff : StableSort nodes visit ↔
    visit.Perm (List.range nodes.length) ∧ visit.Pairwise (Before nodes) := by
  constructor
  · intro h
    refine ⟨h.perm, (h.sorted.and h.stable).imp_of_mem fun {i j} hi hj hs => ?_⟩
    have hlt : ∀ k ∈ visit, k < nodes.length := fun k hk => by simpa using h.perm.mem_iff.mp hk
    have ha := List.getElem?_eq_getElem (hlt i hi)
    have hb := List.getElem?_eq_getElem (hlt j hj)
    exact ⟨_, _, ha, hb, spot_lt_iff.mpr ⟨hs.1 _ _ ha hb, hs.2 _ _ ha hb⟩⟩
  · rintro ⟨hperm, hbefore⟩
    have hspot : visit.Pairwise fun i j => ∀ a b, nodes[i]? = some a → nodes[j]? = some b →
        a.position.NotAfter b.position ∧ (a.position.Same b.position → i < j) :=
      hbefore.imp fun ⟨a, b, ha, hb, hab⟩ c d hc hd => by
        obtain rfl := Option.some.inj (ha.symm.trans hc)
        obtain rfl := Option.some.inj (hb.symm.trans hd)
        exact spot_lt_iff.mp hab
    exact ⟨hperm, hspot.imp fun h a b ha hb => (h a b ha hb).1,
      hspot.imp fun h a b ha hb => (h a b ha hb).2⟩

/-- The order of the canvas is a stable sort. -/
theorem stableSort_indices (nodes : List Node) : StableSort nodes (indices nodes) :=
  stableSort_iff.mpr ⟨indices_perm nodes, indices_pairwise nodes⟩

/-- There is no other stable sort than the order of the canvas. -/
theorem StableSort.eq_indices (h : StableSort nodes visit) : visit = indices nodes := by
  obtain ⟨hperm, hbefore⟩ := stableSort_iff.mp h
  refine (hperm.trans (indices_perm nodes).symm).eq_of_pairwise (fun i j _ _ hij hji => ?_) hbefore
    (indices_pairwise nodes)
  exact (not_before_self (hij.trans hji)).elim

theorem spatialOrder_pairwise (nodes : List Node) :
    (spatialOrder nodes).Pairwise fun a b => a.position.le b.position := by
  apply List.pairwise_mergeSort
  · exact fun a b c => position_le_trans a.position b.position c.position
  · exact fun a b => position_le_total a.position b.position

/-- Nodes that have been sorted stay where they are. -/
theorem stableSort_spatialOrder (nodes : List Node) :
    StableSort (spatialOrder nodes) (List.range nodes.length) := by
  have hlt := List.pairwise_lt_range (n := nodes.length)
  refine ⟨by simp [spatialOrder], hlt.imp fun {i j} hij a b ha hb => ?_,
    hlt.imp fun hij _ _ _ _ _ => hij⟩
  obtain ⟨hi, rfl⟩ := List.getElem?_eq_some_iff.mp ha
  obtain ⟨hj, rfl⟩ := List.getElem?_eq_some_iff.mp hb
  exact (Position.notAfter_iff_le _ _).mpr
    (List.pairwise_iff_getElem.mp (spatialOrder_pairwise nodes) i j hi hj hij)

/-- Where no two nodes share a place, the order in which they are given does not matter. -/
theorem spatialOrder_congr (hperm : others.Perm nodes)
    (hne : nodes.Pairwise fun a b => ¬ a.position.Same b.position) :
    spatialOrder others = spatialOrder nodes := by
  have : Std.Symm fun a b : Node => ¬ a.position.Same b.position :=
    ⟨fun a b h hs => h ⟨hs.1.symm, hs.2.symm⟩⟩
  refine (((spatialOrder_perm others).trans hperm).trans (spatialOrder_perm nodes).symm).eq_of_pairwise
    (fun a b ha hb hab hba => ?_) (spatialOrder_pairwise others) (spatialOrder_pairwise nodes)
  have ha := hperm.mem_iff.mp ((spatialOrder_perm others).mem_iff.mp ha)
  have hb := (spatialOrder_perm nodes).mem_iff.mp hb
  by_contra h
  exact hne.forall ha hb h ((Position.same_iff_le _ _).mpr ⟨hab, hba⟩)

/-- There is one stable sort of nodes by their places, and it gives the order of the canvas. To sort
twice changes nothing, and the order in which nodes are given matters only for nodes in the same
place. -/
theorem spatialOrder_stable_sort (nodes : List Node) :
    (∃ visit, (spatialOrder nodes).map some = visit.map (nodes[·]?) ∧ StableSort nodes visit ∧
      ∀ other, StableSort nodes other → other = visit) ∧
    StableSort (spatialOrder nodes) (List.range nodes.length) ∧
    spatialOrder (spatialOrder nodes) = spatialOrder nodes ∧
    ∀ others, others.Perm nodes → (nodes.Pairwise fun a b => ¬ a.position.Same b.position) →
      spatialOrder others = spatialOrder nodes := by
  refine ⟨⟨indices nodes, map_spatialOrder nodes, stableSort_indices nodes, fun _ h => ?_⟩,
    stableSort_spatialOrder nodes, ?_, fun _ => spatialOrder_congr⟩
  · exact h.eq_indices
  · exact List.mergeSort_of_pairwise (spatialOrder_pairwise nodes)

/-- Three nodes as high as each other but for the sign of zero, and around them nodes that stand at
the infinities and at NaNs of either sign. -/
def levelNodes : List Node :=
  let node (id : String) (y : BitVec 64) : Node := ⟨id, .print "", ⟨.zero, ⟨y⟩⟩, [], []⟩
  [node "nowhere" 0x7FF8000000000001, node "level" 0, node "raised" 0x8000000000000000,
   node "again" 0, node "below" 0x7FF0000000000000, node "above" 0xFFF0000000000000,
   node "nowhere" 0xFFF8000000000000]

theorem stableSort_level : StableSort levelNodes [6, 5, 2, 1, 3, 4, 0] where
  perm := by decide
  sorted := by
    simp only [Position.notAfter_iff_le]
    simp [levelNodes]
    decide
  stable := by
    simp only [Position.same_iff_le]
    simp [levelNodes]
    decide

/-- -0 is above 0, the infinities are around both and NaNs around these, and the two nodes at 0 stay
as they were given. -/
theorem spatialOrder_stable_sort_level :
    (spatialOrder levelNodes).map some = [6, 5, 2, 1, 3, 4, 0].map (levelNodes[·]?) ∧
    spatialOrder (levelNodes.eraseIdx 3).reverse = spatialOrder (levelNodes.eraseIdx 3) := by
  obtain ⟨⟨visit, hvisit, -, honly⟩, -⟩ := spatialOrder_stable_sort levelNodes
  obtain ⟨-, -, -, hgiven⟩ := spatialOrder_stable_sort (levelNodes.eraseIdx 3)
  obtain rfl := honly _ stableSort_level
  have hne : (levelNodes.eraseIdx 3).Pairwise fun a b => ¬ a.position.Same b.position := by
    simp [levelNodes, Position.Same]
  exact ⟨hvisit, hgiven _ (List.reverse_perm _) hne⟩

end Flowboard
