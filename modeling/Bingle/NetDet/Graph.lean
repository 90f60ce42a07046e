import Mathlib

/-!
# The deterministic network: how its graph is built

`NetDetGraph::fill` (`bingle_core/src/util/net_det.rs`) builds two trees of the same depth, one
numbered upwards from node 0 and one downwards from the last node, and a row of the nodes between
them, each below a leaf of both.  Both trees are built by the same two loops, row by row; `Side` is
what differs.  The `k`-th node of a tree hangs below the `(k - 1) / b`-th, as in a heap.

Powers and logarithms are exact here; the program computes them in floating point.
-/

namespace Bingle.NetDet

/-! ## Depth -/

def sumPower (treeOrder n : ℕ) : ℕ :=
  if treeOrder = 1 then n else (treeOrder ^ n - 1) / (treeOrder - 1)

def invSumPower (treeOrder s : ℕ) : ℕ :=
  if treeOrder ≤ 1 then 0 else Nat.log treeOrder (1 + s * treeOrder - s)

def treeDepth (numberNodes treeOrder : ℕ) : ℕ := invSumPower treeOrder (numberNodes / 2)

/-- The middle row has room for the nodes that two trees of the first depth leave over. -/
def Room (numberNodes treeOrder : ℕ) : Prop :=
  numberNodes - sumPower treeOrder (treeDepth numberNodes treeOrder) * 2 ≤
    treeOrder ^ treeDepth numberNodes treeOrder

instance (numberNodes treeOrder : ℕ) : Decidable (Room numberNodes treeOrder) :=
  inferInstanceAs (Decidable (_ ≤ _))

def requiredDepth (numberNodes treeOrder : ℕ) : ℕ :=
  let depth := treeDepth numberNodes treeOrder
  let middleRowCapacity := treeOrder ^ depth
  let middleNodes := numberNodes - sumPower treeOrder depth * 2
  if middleNodes > middleRowCapacity then depth + 1 else depth

section Depth

variable {N b : ℕ}

lemma sumPower_eq_sum (hb : 2 ≤ b) (n : ℕ) : sumPower b n = ∑ k ∈ Finset.range n, b ^ k := by
  rw [sumPower, if_neg (by omega), Nat.geomSum_eq hb]

@[simp] lemma sumPower_zero (b : ℕ) : sumPower b 0 = 0 := by simp [sumPower]

lemma sumPower_succ (hb : 2 ≤ b) (n : ℕ) : sumPower b (n + 1) = sumPower b n + b ^ n := by
  rw [sumPower_eq_sum hb, sumPower_eq_sum hb, Finset.sum_range_succ]

lemma sumPower_succ' (hb : 2 ≤ b) (n : ℕ) : sumPower b (n + 1) = b * sumPower b n + 1 := by
  rw [sumPower_eq_sum hb, sumPower_eq_sum hb, geom_sum_succ]

lemma one_le_sumPower (hb : 2 ≤ b) {n : ℕ} (hn : 1 ≤ n) : 1 ≤ sumPower b n := by
  obtain ⟨d, rfl⟩ : ∃ d, n = d + 1 := ⟨n - 1, by omega⟩
  rw [sumPower_succ' hb]
  omega

lemma sumPower_le_iff_pow (hb : 2 ≤ b) (n s : ℕ) :
    sumPower b n ≤ s ↔ b ^ n ≤ 1 + s * b - s := by
  have hpow : b ^ n = (b - 1) * sumPower b n + 1 := by
    rw [sumPower, if_neg (by omega), Nat.mul_div_cancel']
    · have := Nat.one_le_pow n b (by omega)
      omega
    · simpa using Nat.sub_dvd_pow_sub_pow b 1 n
  obtain ⟨c, rfl⟩ : ∃ c, b = c + 2 := ⟨b - 2, by omega⟩
  have hs : 1 + s * (c + 2) - s = (c + 1) * s + 1 := by
    have : s * (c + 2) = (c + 1) * s + s := by ring
    omega
  rw [hpow, hs, Nat.add_le_add_iff_right]
  exact (Nat.mul_le_mul_left_iff (by omega)).symm

lemma sumPower_le_half_iff (hb : 2 ≤ b) (n : ℕ) :
    sumPower b n * 2 ≤ N ↔ n ≤ treeDepth N b := by
  have hhalf : sumPower b n * 2 ≤ N ↔ sumPower b n ≤ N / 2 := by omega
  have hpos : 1 + N / 2 * b - N / 2 ≠ 0 := by
    have := Nat.le_mul_of_pos_right (N / 2) (show 0 < b by omega)
    omega
  rw [hhalf, sumPower_le_iff_pow hb, treeDepth, invSumPower, if_neg (by omega),
    Nat.le_log_iff_pow_le (by omega) hpos]

lemma one_le_treeDepth (hN : 2 ≤ N) (hb : 2 ≤ b) : 1 ≤ treeDepth N b := by
  rw [← sumPower_le_half_iff hb, sumPower_succ hb]
  simpa using hN

lemma requiredDepth_of_room (h : Room N b) : requiredDepth N b = treeDepth N b :=
  if_neg (not_lt.mpr h)

lemma requiredDepth_of_not_room (h : ¬ Room N b) : requiredDepth N b = treeDepth N b + 1 :=
  if_pos (not_le.mp h)

lemma one_le_requiredDepth (hN : 2 ≤ N) (hb : 2 ≤ b) : 1 ≤ requiredDepth N b := by
  have h1 := one_le_treeDepth hN hb
  by_cases h : Room N b
  · rwa [requiredDepth_of_room h]
  · rw [requiredDepth_of_not_room h]
    omega

lemma trees_fit_iff_room (hb : 2 ≤ b) : sumPower b (requiredDepth N b) * 2 ≤ N ↔ Room N b := by
  rw [sumPower_le_half_iff hb]
  by_cases h : Room N b
  · simp [requiredDepth_of_room h, h]
  · simp [requiredDepth_of_not_room h, h]

lemma sumPower_requiredDepth_lt (hN : 2 ≤ N) (hb : 2 ≤ b) :
    sumPower b (requiredDepth N b) < N := by
  by_cases h : Room N b
  · have hpos := one_le_sumPower hb (one_le_requiredDepth hN hb)
    have hfit := (trees_fit_iff_room hb).mpr h
    omega
  · have hpos := one_le_sumPower hb (one_le_treeDepth hN hb)
    have hmore : b ^ treeDepth N b < N - sumPower b (treeDepth N b) * 2 := not_le.mp h
    rw [requiredDepth_of_not_room h, sumPower_succ hb]
    omega

lemma middle_le_capacity (hb : 2 ≤ b) :
    N - sumPower b (requiredDepth N b) * 2 ≤ b ^ requiredDepth N b := by
  by_cases h : Room N b
  · rw [requiredDepth_of_room h]
    exact h
  · have := (not_congr (trees_fit_iff_room hb)).mpr h
    omega

lemma exists_requiredDepth (hN : 2 ≤ N) (hb : 2 ≤ b) :
    ∃ row, requiredDepth N b = row + 1 ∧ 1 ≤ sumPower b (row + 1) ∧ sumPower b (row + 1) < N := by
  obtain ⟨row, hrow⟩ := Nat.exists_eq_add_of_le' (one_le_requiredDepth hN hb)
  have hpos := one_le_sumPower hb (one_le_requiredDepth hN hb)
  have hlt := sumPower_requiredDepth_lt hN hb
  rw [hrow] at hpos hlt
  exact ⟨row, hrow, hpos, hlt⟩

end Depth

/-! ## Building the graph -/

/-- The graph.  The two vectors are functions here, without a value beyond the last node. -/
structure NetDetGraph where
  numberNodes : ℕ
  treeOrder : ℕ
  fail : Bool := false
  rootNode : Option ℕ := none
  up : ℕ → Option ℕ := fun _ => none
  down : ℕ → List ℕ := fun _ => []

/-- What the two loops that build a tree do differently: what they do with its first node, and how
they go on from a node, to which one and whether they leave the row. -/
structure Side where
  root : NetDetGraph → ℕ → NetDetGraph
  advance : ℕ → ℕ × Bool

structure TreeLoop where
  graph : NetDetGraph
  n : ℕ
  prevRow : Option (List ℕ) := none
  /-- not in the program: all the nodes placed so far -/
  placed : List ℕ := []

namespace NetDetGraph

def setUp (g : NetDetGraph) (n parent : ℕ) : NetDetGraph :=
  { g with up := Function.update g.up n (some parent) }

def pushDown (g : NetDetGraph) (n child : ℕ) : NetDetGraph :=
  { g with down := Function.update g.down n (g.down n ++ [child]) }

def new (numberNodes treeOrder : ℕ) : NetDetGraph := { numberNodes, treeOrder }

def clear (g : NetDetGraph) : NetDetGraph :=
  { g with fail := true, rootNode := none, up := fun _ => none, down := fun _ => [] }

def setSize (g : NetDetGraph) : NetDetGraph :=
  { g with up := fun _ => none, down := fun _ => [] }

def attach (g : NetDetGraph) (parent n : ℕ) : NetDetGraph := (g.setUp n parent).pushDown parent n

end NetDetGraph

open NetDetGraph (attach)

/-- One row of a tree, from its `currentRow.len()`-th node; `lacking` nodes are left to place. -/
def growRow (side : Side) (prevRow : Option (List ℕ)) (rowCapacity : ℕ) :
    (lacking : ℕ) → NetDetGraph → ℕ → List ℕ → NetDetGraph × ℕ × List ℕ
  | 0, g, n, currentRow => (g, n, currentRow)
  | lacking + 1, g, n, currentRow =>
    let g := match prevRow with
      | none => side.root g n
      | some prev => attach g (prev.getD (currentRow.length * prev.length / rowCapacity) 0) n
    let (next, leave) := side.advance n
    if leave then (g, next, currentRow ++ [n])
    else growRow side prevRow rowCapacity lacking g next (currentRow ++ [n])

def growTree (side : Side) (treeOrder depth : ℕ) (g : NetDetGraph) (n : ℕ) : TreeLoop :=
  (List.range depth).foldl (fun loop row =>
    let rowCapacity := treeOrder ^ row
    let (graph, n, currentRow) :=
      growRow side loop.prevRow rowCapacity rowCapacity loop.graph loop.n []
    { graph, n, prevRow := some currentRow, placed := loop.placed ++ currentRow })
  { graph := g, n }

namespace NetDetGraph

def upperSide (numberNodes : ℕ) : Side where
  root g n := { g with rootNode := some n }
  advance n := (n + 1, decide (n + 1 ≥ numberNodes))

def lowerSide : Side where
  root g n :=
    let topRoot := g.rootNode.getD 0
    (g.setUp n topRoot).setUp topRoot n
  advance n := (n - 1, n == 0)

def upperTree (g : NetDetGraph) : TreeLoop :=
  growTree (upperSide g.numberNodes) g.treeOrder (requiredDepth g.numberNodes g.treeOrder)
    g.setSize 0

def lowerTree (g : NetDetGraph) : TreeLoop :=
  growTree lowerSide g.treeOrder (requiredDepth g.numberNodes g.treeOrder) g.upperTree.graph
    (g.numberNodes - 1)

def middleNodes (g : NetDetGraph) : ℕ := g.numberNodes - g.upperTree.n * 2

def placeMiddle (lastTop lastBottom : List ℕ) (outerNodes middleRowCapacity : ℕ) (g : NetDetGraph)
    (idx : ℕ) : NetDetGraph :=
  let nodeIndex := outerNodes + idx
  let outerNodeIndex := idx * lastBottom.length / middleRowCapacity
  let topParent := lastTop.getD outerNodeIndex 0
  let bottomLeaf := lastBottom.getD outerNodeIndex 0
  (((g.setUp nodeIndex topParent).pushDown nodeIndex bottomLeaf).pushDown topParent
    nodeIndex).pushDown bottomLeaf nodeIndex

def joinLeaf (lastTop : List ℕ) (g : NetDetGraph) (bottom : ℕ × ℕ) : NetDetGraph :=
  if (g.down bottom.1).isEmpty then
    let topLeaf := lastTop.getD bottom.2 0
    (g.pushDown bottom.1 topLeaf).pushDown topLeaf bottom.1
  else g

def fill (g : NetDetGraph) : NetDetGraph :=
  if g.numberNodes = 0 ∨ g.treeOrder < 1 then g.clear
  else if g.numberNodes = 1 then { g.setSize with rootNode := some 0, fail := false }
  else
    let lastTop := g.upperTree.prevRow.getD []
    let lastBottom := g.lowerTree.prevRow.getD []
    let middleRowCapacity := g.treeOrder ^ requiredDepth g.numberNodes g.treeOrder
    if g.middleNodes > middleRowCapacity then g.lowerTree.graph.clear
    else
      let middle := (List.range g.middleNodes).foldl
        (placeMiddle lastTop lastBottom g.upperTree.n middleRowCapacity) g.lowerTree.graph
      { lastBottom.zipIdx.foldl (joinLeaf lastTop) middle with fail := false }

end NetDetGraph

/-! ## One tree -/

def heapParent (b k : ℕ) : ℕ := (k - 1) / b

section Heap

variable {b k : ℕ}

lemma heapParent_le (b k : ℕ) : heapParent b k ≤ k - 1 := Nat.div_le_self _ _

lemma heapParent_lt (hk : 1 ≤ k) : heapParent b k < k := by
  have := heapParent_le b k
  omega

lemma heapParent_eq_iff (hb : 2 ≤ b) (hk : 1 ≤ k) (i : ℕ) :
    heapParent b k = i ↔ b * i + 1 ≤ k ∧ k ≤ b * i + b := by
  rw [heapParent, Nat.div_eq_iff (by omega), Nat.mul_comm i b]
  omega

lemma heap_induction {P : ℕ → Prop} (b : ℕ) {m : ℕ} (zero : P 0)
    (step : ∀ k, 1 ≤ k → k < m → P (heapParent b k) → P k) : ∀ k < m, P k := by
  intro k
  induction k using Nat.strong_induction_on with
  | _ k ih =>
    intro hk
    rcases Nat.eq_zero_or_pos k with rfl | hpos
    · exact zero
    · have hparent := heapParent_lt (b := b) hpos
      exact step k hpos hk (ih _ hparent (by omega))

lemma heapParent_row (hb : 2 ≤ b) (row j : ℕ) :
    heapParent b (sumPower b (row + 1) + j) = sumPower b row + j / b := by
  rw [heapParent, sumPower_succ' hb,
    show b * sumPower b row + 1 + j - 1 = j + b * sumPower b row by omega,
    Nat.add_mul_div_left _ _ (by omega), Nat.add_comm]

end Heap

/-- Hang the nodes with the numbers `ks` of a tree, each below its parent.  `ν` is the node with a
number. -/
def attachAll (b : ℕ) (ν : ℕ → ℕ) (g : NetDetGraph) (ks : List ℕ) : NetDetGraph :=
  ks.foldl (fun g k => attach g (ν (heapParent b k)) (ν k)) g

lemma attachAll_append (b : ℕ) (ν : ℕ → ℕ) (g : NetDetGraph) (ks ls : List ℕ) :
    attachAll b ν g (ks ++ ls) = attachAll b ν (attachAll b ν g ks) ls := List.foldl_append

def treeRow (b : ℕ) (ν : ℕ → ℕ) (row : ℕ) : List ℕ :=
  (List.range' (sumPower b row) (b ^ row)).map ν

@[simp] lemma length_treeRow (b : ℕ) (ν : ℕ → ℕ) (row : ℕ) :
    (treeRow b ν row).length = b ^ row := by
  simp [treeRow]

lemma treeRow_getD (b : ℕ) (ν : ℕ → ℕ) (row : ℕ) {i : ℕ} (hi : i < b ^ row) :
    (treeRow b ν row).getD i 0 = ν (sumPower b row + i) := by
  simp [treeRow, List.getD_eq_getElem?_getD, hi]

variable {b N : ℕ}

lemma treeRow_getD_parent (hb : 2 ≤ b) (ν : ℕ → ℕ) {row j : ℕ} (hj : j < b ^ (row + 1)) :
    (treeRow b ν row).getD (j * b ^ row / b ^ (row + 1)) 0 =
      ν (heapParent b (sumPower b (row + 1) + j)) := by
  have hlt : j / b < b ^ row := by
    rwa [Nat.div_lt_iff_lt_mul (by omega), ← pow_succ]
  rw [pow_succ', Nat.mul_div_mul_right _ _ (Nat.pow_pos (by omega)), treeRow_getD _ _ _ hlt,
    heapParent_row hb]

def Side.Numbers (side : Side) (N : ℕ) (ν : ℕ → ℕ) : Prop :=
  ∀ k, k + 1 < N → side.advance (ν k) = (ν (k + 1), false)

section Tree

variable {side : Side} {N b : ℕ} {ν : ℕ → ℕ}

lemma growRow_spec (hb : 2 ≤ b) (hν : side.Numbers N ν) (row : ℕ) {j lacking : ℕ}
    (hj : j + lacking = b ^ (row + 1)) (hN : sumPower b (row + 2) < N) (g : NetDetGraph) :
    growRow side (some (treeRow b ν row)) (b ^ (row + 1)) lacking g (ν (sumPower b (row + 1) + j))
        ((List.range' (sumPower b (row + 1)) j).map ν) =
      (attachAll b ν g (List.range' (sumPower b (row + 1) + j) lacking), ν (sumPower b (row + 2)),
        treeRow b ν (row + 1)) := by
  induction lacking generalizing j g with
  | zero =>
    obtain rfl : j = b ^ (row + 1) := by omega
    rw [growRow, ← sumPower_succ hb]
    rfl
  | succ lacking ih =>
    have hadvance := hν (sumPower b (row + 1) + j) (by
      rw [sumPower_succ hb] at hN
      omega)
    have hlt : j < b ^ (row + 1) := by omega
    have hparent := treeRow_getD_parent hb ν hlt
    have hrow : (List.range' (sumPower b (row + 1)) j).map ν ++ [ν (sumPower b (row + 1) + j)] =
        (List.range' (sumPower b (row + 1)) (j + 1)).map ν := by
      rw [List.range'_concat, List.map_append, List.map_singleton, Nat.one_mul]
    simp only [growRow, hadvance, Bool.false_eq_true, if_false, List.length_map, List.length_range',
      treeRow] at hparent ⊢
    rw [hparent, hrow, Nat.add_assoc]
    have hrest := ih (j := j + 1) (by omega)
      (attach g (ν (heapParent b (sumPower b (row + 1) + j))) (ν (sumPower b (row + 1) + j)))
    rw [treeRow] at hrest
    rw [hrest, List.range'_succ]
    rfl

lemma growTree_succ (side : Side) (b depth : ℕ) (g : NetDetGraph) (n : ℕ) :
    growTree side b (depth + 1) g n =
      let loop := growTree side b depth g n
      let r := growRow side loop.prevRow (b ^ depth) (b ^ depth) loop.graph loop.n []
      { graph := r.1, n := r.2.1, prevRow := some r.2.2, placed := loop.placed ++ r.2.2 } := by
  rw [growTree, List.range_succ, List.foldl_append]
  rfl

/-- **One tree**: every node but the first hangs below its parent. -/
theorem growTree_spec (hb : 2 ≤ b) (hν : side.Numbers N ν) (depth : ℕ)
    (hN : sumPower b (depth + 1) < N) (g : NetDetGraph) :
    growTree side b (depth + 1) g (ν 0) =
      { graph := attachAll b ν (side.root g (ν 0)) (List.range' 1 (sumPower b (depth + 1) - 1))
        n := ν (sumPower b (depth + 1))
        prevRow := some (treeRow b ν depth)
        placed := (List.range (sumPower b (depth + 1))).map ν } := by
  induction depth with
  | zero =>
    have hone : sumPower b 1 = 1 := by simp [sumPower_succ hb]
    have hadvance := hν 0 (by rw [hone] at hN; omega)
    simp [growTree, growRow, hadvance, hone, attachAll, treeRow]
  | succ depth ih =>
    have hsucc := sumPower_succ hb (depth + 1)
    have hpos := one_le_sumPower hb (n := depth + 1) (by omega)
    have hrow := growRow_spec hb hν depth (Nat.zero_add _) hN
      (attachAll b ν (side.root g (ν 0)) (List.range' 1 (sumPower b (depth + 1) - 1)))
    -- the new row goes on where the rows before it end
    have hall : List.range' 1 (sumPower b (depth + 1 + 1) - 1) =
        List.range' 1 (sumPower b (depth + 1) - 1) ++
          List.range' (sumPower b (depth + 1)) (b ^ (depth + 1)) := by
      rw [show sumPower b (depth + 1 + 1) - 1 =
          sumPower b (depth + 1) - 1 + b ^ (depth + 1) by omega,
        ← List.range'_append_1,
        show 1 + (sumPower b (depth + 1) - 1) = sumPower b (depth + 1) by omega]
    have hplaced : (List.range (sumPower b (depth + 1 + 1))).map ν =
        (List.range (sumPower b (depth + 1))).map ν ++ treeRow b ν (depth + 1) := by
      rw [hsucc, treeRow, ← List.map_append, List.range_eq_range', List.range_eq_range',
        ← List.range'_append_1, Nat.zero_add]
    simp only [Nat.add_zero, List.range'_zero, List.map_nil] at hrow
    rw [growTree_succ, ih (by omega), hplaced, hall, attachAll_append]
    dsimp only
    rw [hrow]

end Tree

/-! ## The edges -/

namespace NetDetGraph

variable (g : NetDetGraph) (n m x y : ℕ)

@[simp] lemma setUp_down : (g.setUp n m).down = g.down := rfl

@[simp] lemma pushDown_up : (g.pushDown n m).up = g.up := rfl

lemma setUp_up : (g.setUp n m).up x = if x = n then some m else g.up x := by
  simp [setUp, Function.update_apply]

@[simp] lemma mem_pushDown : y ∈ (g.pushDown n m).down x ↔ y ∈ g.down x ∨ (x = n ∧ y = m) := by
  by_cases h : x = n
  · subst h
    simp [pushDown]
  · simp [pushDown, h]

end NetDetGraph

section Edges

variable {b : ℕ} {ν : ℕ → ℕ} {g : NetDetGraph} {ks : List ℕ} {x y : ℕ}

@[simp] lemma attachAll_rootNode : (attachAll b ν g ks).rootNode = g.rootNode := by
  induction ks generalizing g with
  | nil => rfl
  | cons k ks ih => exact ih

lemma mem_attachAll_down :
    y ∈ (attachAll b ν g ks).down x ↔
      y ∈ g.down x ∨ ∃ k ∈ ks, x = ν (heapParent b k) ∧ y = ν k := by
  induction ks generalizing g with
  | nil => simp [attachAll]
  | cons k ks ih =>
    have hstep : attachAll b ν g (k :: ks) =
        attachAll b ν (attach g (ν (heapParent b k)) (ν k)) ks := rfl
    rw [hstep, ih, attach, NetDetGraph.mem_pushDown, NetDetGraph.setUp_down]
    simp only [List.mem_cons, exists_eq_or_imp, or_assoc]

lemma attachAll_up_of_not_mem (hx : ∀ k ∈ ks, ν k ≠ x) : (attachAll b ν g ks).up x = g.up x := by
  induction ks generalizing g with
  | nil => rfl
  | cons k ks ih =>
    have hrest := ih (g := attach g (ν (heapParent b k)) (ν k)) fun k' hk' =>
      hx k' (List.mem_cons_of_mem _ hk')
    refine hrest.trans ?_
    rw [attach, NetDetGraph.pushDown_up, NetDetGraph.setUp_up,
      if_neg (hx k List.mem_cons_self).symm]

lemma attachAll_up_of_mem {k : ℕ} (hk : k ∈ ks) (hinj : ∀ k' ∈ ks, ν k' = ν k → k' = k)
    (hnodup : ks.Nodup) : (attachAll b ν g ks).up (ν k) = some (ν (heapParent b k)) := by
  obtain ⟨before, after, rfl⟩ := List.append_of_mem hk
  have hafter : ∀ k' ∈ after, ν k' ≠ ν k := by
    intro k' hk' heq
    obtain rfl := hinj k' (by simp [hk']) heq
    simp [List.nodup_append, hk'] at hnodup
  have hstep : attachAll b ν g (before ++ k :: after) =
      attachAll b ν (attach (attachAll b ν g before) (ν (heapParent b k)) (ν k)) after := by
    rw [attachAll_append]
    rfl
  rw [hstep, attachAll_up_of_not_mem hafter, attach, NetDetGraph.pushDown_up, NetDetGraph.setUp_up,
    if_pos rfl]

end Edges

/-! ### The two trees -/

def mirror (N k : ℕ) : ℕ := N - 1 - k

lemma mirror_lt (hN : 1 ≤ N) (k : ℕ) : mirror N k < N := by
  rw [mirror]
  omega

lemma exists_mirror {S n : ℕ} (hn : n < N) (h : ¬ n < N - S) : ∃ k, k < S ∧ n = mirror N k :=
  ⟨N - 1 - n, by omega, by rw [mirror]; omega⟩

namespace NetDetGraph

def linkMiddle (N b : ℕ) (g : NetDetGraph) (k : ℕ) : NetDetGraph :=
  let top := heapParent b k
  (((g.setUp k top).pushDown k (mirror N top)).pushDown top k).pushDown (mirror N top) k

def MiddleEdge (N b k x y : ℕ) : Prop :=
  (x = k ∧ y = mirror N (heapParent b k)) ∨ (x = heapParent b k ∧ y = k) ∨
    (x = mirror N (heapParent b k) ∧ y = k)

def joinPair (N : ℕ) (g : NetDetGraph) (k : ℕ) : NetDetGraph :=
  if (g.down (mirror N k)).isEmpty then (g.pushDown (mirror N k) k).pushDown k (mirror N k) else g

end NetDetGraph

open NetDetGraph

lemma upperSide_numbers (N : ℕ) : (upperSide N).Numbers N id := by
  intro k hk
  simp [upperSide, hk]

lemma lowerSide_numbers (N : ℕ) : lowerSide.Numbers N (mirror N) := by
  intro k hk
  simp only [lowerSide, mirror, Prod.mk.injEq, beq_eq_false_iff_ne]
  omega

lemma placeMiddle_treeRow (hb : 2 ≤ b) (row : ℕ) (g : NetDetGraph) {idx : ℕ}
    (hidx : idx < b ^ (row + 1)) :
    placeMiddle (treeRow b id row) (treeRow b (mirror N) row) (sumPower b (row + 1))
      (b ^ (row + 1)) g
        idx = linkMiddle N b g (sumPower b (row + 1) + idx) := by
  simp only [placeMiddle, linkMiddle, length_treeRow, treeRow_getD_parent hb _ hidx, id_eq]

lemma joinLeaf_treeRow (row : ℕ) (g : NetDetGraph) :
    (treeRow b (mirror N) row).zipIdx.foldl (joinLeaf (treeRow b id row)) g =
      (List.range' (sumPower b row) (b ^ row)).foldl (joinPair N) g := by
  have hzip : (treeRow b (mirror N) row).zipIdx =
      (List.range (b ^ row)).map fun i => (mirror N (sumPower b row + i), i) := by
    refine List.ext_getElem (by simp) fun i hi hi' => ?_
    simp [treeRow]
  rw [hzip, List.foldl_map, List.range'_eq_map_range, List.foldl_map]
  refine List.foldl_ext _ _ _ fun g i hi => ?_
  simp only [joinLeaf, joinPair, treeRow_getD b id row (List.mem_range.mp hi), id_eq]

section Fill

variable {N b : ℕ}

def rooted (N b : ℕ) : NetDetGraph := { new N b with rootNode := some 0 }

def twoTrees (N b S : ℕ) : NetDetGraph :=
  let upper := attachAll b id (rooted N b) (List.range' 1 (S - 1))
  attachAll b (mirror N) ((upper.setUp (N - 1) 0).setUp 0 (N - 1)) (List.range' 1 (S - 1))

def linked (N b S : ℕ) : NetDetGraph :=
  (List.range' S (N - S * 2)).foldl (linkMiddle N b) (twoTrees N b S)

variable {S k row x y : ℕ}

lemma mem_treeNumbers : k ∈ List.range' 1 (S - 1) ↔ 1 ≤ k ∧ k < S := by
  rw [List.mem_range'_1]
  omega

lemma mem_middleNumbers : k ∈ List.range' S (N - S * 2) ↔ S ≤ k ∧ k < N - S := by
  rw [List.mem_range'_1]
  omega

lemma upperTree_new (hN : 2 ≤ N) (hb : 2 ≤ b) (hrow : requiredDepth N b = row + 1) :
    (new N b).upperTree =
      { graph := attachAll b id (rooted N b) (List.range' 1 (sumPower b (row + 1) - 1))
        n := sumPower b (row + 1)
        prevRow := some (treeRow b id row)
        placed := List.range (sumPower b (row + 1)) } := by
  have hlt := sumPower_requiredDepth_lt hN hb
  rw [hrow] at hlt
  have hspec := growTree_spec hb (upperSide_numbers N) row hlt (new N b).setSize
  rw [List.map_id] at hspec
  rw [upperTree]
  simp only [new, hrow]
  exact hspec

lemma lowerTree_new (hN : 2 ≤ N) (hb : 2 ≤ b) (hrow : requiredDepth N b = row + 1) :
    (new N b).lowerTree =
      { graph := twoTrees N b (sumPower b (row + 1))
        n := mirror N (sumPower b (row + 1))
        prevRow := some (treeRow b (mirror N) row)
        placed := (List.range (sumPower b (row + 1))).map (mirror N) } := by
  have hlt := sumPower_requiredDepth_lt hN hb
  rw [hrow] at hlt
  have hspec := growTree_spec hb (lowerSide_numbers N) row hlt (new N b).upperTree.graph
  simp only [upperTree_new hN hb hrow] at hspec
  have hstart : (new N b).lowerTree = growTree lowerSide b (requiredDepth N b)
      (new N b).upperTree.graph (mirror N 0) := rfl
  rw [hstart, upperTree_new hN hb hrow, hrow, hspec]
  simp [twoTrees, lowerSide, rooted, mirror]

theorem fill_new (hN : 2 ≤ N) (hb : 2 ≤ b) (hrow : requiredDepth N b = row + 1) :
    (new N b).fill =
      { (List.range' (sumPower b row) (b ^ row)).foldl (joinPair N)
          (linked N b (sumPower b (row + 1))) with fail := false } := by
  have hupper := upperTree_new hN hb hrow
  have hlower := lowerTree_new hN hb hrow
  have hcapacity := middle_le_capacity (N := N) hb
  rw [hrow] at hcapacity
  have hmiddle : (new N b).middleNodes = N - sumPower b (row + 1) * 2 := by
    rw [middleNodes, hupper]
    rfl
  have hfold : (List.range (N - sumPower b (row + 1) * 2)).foldl
      (placeMiddle (treeRow b id row) (treeRow b (mirror N) row) (sumPower b (row + 1))
        (b ^ (row + 1)))
      (twoTrees N b (sumPower b (row + 1))) = linked N b (sumPower b (row + 1)) := by
    rw [linked, List.range'_eq_map_range, List.foldl_map]
    refine List.foldl_ext _ _ _ fun g idx hidx => ?_
    rw [List.mem_range] at hidx
    exact placeMiddle_treeRow hb row g (by omega)
  have hnode : (new N b).numberNodes = N := rfl
  have horder : (new N b).treeOrder = b := rfl
  rw [fill, if_neg (by rw [hnode, horder]; omega), if_neg (by rw [hnode]; omega)]
  simp only [hmiddle, hnode, horder, hrow, hupper, hlower, Option.getD_some, hfold]
  rw [if_neg (by omega), joinLeaf_treeRow]

lemma fill_fail (hN : 1 ≤ N) (hb : 2 ≤ b) : (new N b).fill.fail = false := by
  rcases Nat.eq_or_lt_of_le hN with rfl | hN
  · have hb0 : b ≠ 0 := by omega
    simp [fill, new, hb0]
  · obtain ⟨row, hrow, -⟩ := exists_requiredDepth hN hb
    rw [fill_new hN hb hrow]

/-! ### The edges of the whole graph -/

variable {g : NetDetGraph} {ks : List ℕ}

lemma foldl_linkMiddle_up_of_not_mem (hx : x ∉ ks) :
    (ks.foldl (linkMiddle N b) g).up x = g.up x := by
  induction ks generalizing g with
  | nil => rfl
  | cons k ks ih =>
    rw [List.mem_cons, not_or] at hx
    rw [List.foldl_cons, ih hx.2]
    simp only [linkMiddle, pushDown_up, setUp_up, if_neg hx.1]

lemma foldl_linkMiddle_up_of_mem (hx : x ∈ ks) :
    (ks.foldl (linkMiddle N b) g).up x = some (heapParent b x) := by
  induction ks generalizing g with
  | nil => simp at hx
  | cons k ks ih =>
    rw [List.foldl_cons]
    by_cases hmem : x ∈ ks
    · exact ih hmem
    · obtain rfl := (List.mem_cons.mp hx).resolve_right hmem
      rw [foldl_linkMiddle_up_of_not_mem hmem]
      simp only [linkMiddle, pushDown_up, setUp_up, if_true]

lemma mem_foldl_linkMiddle_down :
    y ∈ (ks.foldl (linkMiddle N b) g).down x ↔
      y ∈ g.down x ∨ ∃ k ∈ ks, MiddleEdge N b k x y := by
  induction ks generalizing g with
  | nil => simp
  | cons k ks ih =>
    rw [List.foldl_cons, ih]
    simp only [linkMiddle, mem_pushDown, setUp_down, MiddleEdge, List.mem_cons, exists_eq_or_imp,
      or_assoc]

@[simp] lemma foldl_joinPair_up : (ks.foldl (joinPair N) g).up = g.up := by
  induction ks generalizing g with
  | nil => rfl
  | cons k ks ih =>
    rw [List.foldl_cons, ih, joinPair]
    split_ifs <;> rfl

lemma mem_foldl_joinPair_of_mem (h : y ∈ g.down x) :
    y ∈ (ks.foldl (joinPair N) g).down x := by
  induction ks generalizing g with
  | nil => exact h
  | cons k ks ih =>
    refine ih ?_
    rw [joinPair]
    split_ifs
    · simp [h]
    · exact h

lemma mem_foldl_joinPair (hnodup : ks.Nodup) (hks : ∀ k ∈ ks, ∀ k' ∈ ks, mirror N k ≠ k')
    (hlt : ∀ k ∈ ks, k < N) :
    y ∈ (ks.foldl (joinPair N) g).down x ↔ y ∈ g.down x ∨
      ∃ k ∈ ks, g.down (mirror N k) = [] ∧
        ((x = mirror N k ∧ y = k) ∨ (x = k ∧ y = mirror N k)) := by
  induction ks generalizing g with
  | nil => simp
  | cons k ks ih =>
    obtain ⟨hnew, hnodup'⟩ := List.nodup_cons.mp hnodup
    have hother : ∀ k' ∈ ks, (joinPair N g k).down (mirror N k') = g.down (mirror N k') := by
      intro k' hk'
      have hne : mirror N k' ≠ mirror N k := by
        intro heq
        have h1 := hlt k List.mem_cons_self
        have h2 := hlt k' (List.mem_cons_of_mem _ hk')
        rw [mirror, mirror] at heq
        exact hnew ((show k = k' by omega) ▸ hk')
      have hne' := hks k' (List.mem_cons_of_mem _ hk') k List.mem_cons_self
      rw [joinPair]
      split_ifs
      · simp [pushDown, Function.update_of_ne hne, Function.update_of_ne hne']
      · rfl
    rw [List.foldl_cons, ih hnodup'
      (fun k₁ h₁ k₂ h₂ => hks k₁ (List.mem_cons_of_mem _ h₁) k₂ (List.mem_cons_of_mem _ h₂))
      (fun k' hk' => hlt k' (List.mem_cons_of_mem _ hk'))]
    have hrest : (∃ k' ∈ ks, (joinPair N g k).down (mirror N k') = [] ∧
          ((x = mirror N k' ∧ y = k') ∨ (x = k' ∧ y = mirror N k'))) ↔
        ∃ k' ∈ ks, g.down (mirror N k') = [] ∧
          ((x = mirror N k' ∧ y = k') ∨ (x = k' ∧ y = mirror N k')) := by
      refine exists_congr fun k' => and_congr_right fun hk' => ?_
      rw [hother k' hk']
    rw [hrest]
    simp only [List.mem_cons, exists_eq_or_imp]
    rw [← or_assoc]
    refine or_congr_left ?_
    rw [joinPair]
    split_ifs with hempty
    · simp [List.isEmpty_iff.mp hempty, or_assoc]
    · simp [mt List.isEmpty_iff.mpr hempty]

section Linked

variable {S : ℕ}

lemma mem_linked_down {x y : ℕ} :
    y ∈ (linked N b S).down x ↔
      (∃ k, (1 ≤ k ∧ k < S) ∧ x = heapParent b k ∧ y = k) ∨
      (∃ k, (1 ≤ k ∧ k < S) ∧ x = mirror N (heapParent b k) ∧ y = mirror N k) ∨
      ∃ k, (S ≤ k ∧ k < N - S) ∧ MiddleEdge N b k x y := by
  have hroot : (rooted N b).down x = [] := rfl
  simp only [linked, twoTrees, mem_foldl_linkMiddle_down, mem_attachAll_down, setUp_down, hroot,
    mem_treeNumbers, mem_middleNumbers, List.not_mem_nil, false_or, or_assoc, id_eq]

lemma linked_up (hS : 1 ≤ S) (hlt : S < N) :
    (linked N b S).up 0 = some (N - 1) ∧ (linked N b S).up (N - 1) = some 0 ∧
      (∀ k, 1 ≤ k → k < N - S → (linked N b S).up k = some (heapParent b k)) ∧
      ∀ k, 1 ≤ k → k < S → (linked N b S).up (mirror N k) = some (mirror N (heapParent b k)) := by
  have hmiddle : ∀ {x}, ¬ (S ≤ x ∧ x < N - S) → (linked N b S).up x = (twoTrees N b S).up x := by
    intro x hx
    exact foldl_linkMiddle_up_of_not_mem fun hmem => hx (mem_middleNumbers.mp hmem)
  have hupper : ∀ {x}, (∀ k, 1 ≤ k → k < S → mirror N k ≠ x) → (twoTrees N b S).up x =
      if x = 0 then some (N - 1) else if x = N - 1 then some 0
      else (attachAll b id (rooted N b) (List.range' 1 (S - 1))).up x := by
    intro x hx
    refine (attachAll_up_of_not_mem fun k hk => ?_).trans ?_
    · obtain ⟨h1, h2⟩ := mem_treeNumbers.mp hk
      exact hx k h1 h2
    · rw [setUp_up, setUp_up]
  refine ⟨?_, ?_, fun k h1 h2 => ?_, fun k h1 h2 => ?_⟩
  · rw [hmiddle (by omega), hupper (fun k _ _ => by rw [mirror]; omega), if_pos rfl]
  · rw [hmiddle (by omega), hupper (fun k _ _ => by rw [mirror]; omega), if_neg (by omega),
      if_pos rfl]
  · by_cases hk : k < S
    · rw [hmiddle (by omega), hupper (fun m _ _ => by rw [mirror]; omega), if_neg (by omega),
        if_neg (by omega)]
      exact attachAll_up_of_mem (ν := id) (mem_treeNumbers.mpr ⟨h1, hk⟩) (fun _ _ heq => heq)
        (List.nodup_range' 1)
    · exact foldl_linkMiddle_up_of_mem (mem_middleNumbers.mpr ⟨not_lt.mp hk, h2⟩)
  · rw [hmiddle (by rw [mirror]; omega)]
    refine attachAll_up_of_mem (mem_treeNumbers.mpr ⟨h1, h2⟩) (fun k' hk' heq => ?_)
      (List.nodup_range' 1)
    have := mem_treeNumbers.mp hk'
    rw [mirror, mirror] at heq
    omega

end Linked

end Fill

/-! ## The shape -/

section Shape

variable {N b : ℕ}

namespace NetDetGraph

def neighbours (g : NetDetGraph) (n : ℕ) : Finset ℕ := ((g.up n).toList ++ g.down n).toFinset

lemma mem_neighbours {g : NetDetGraph} {n x : ℕ} :
    x ∈ g.neighbours n ↔ g.up n = some x ∨ x ∈ g.down n := by
  simp [neighbours, eq_comm]

def Leads (g : NetDetGraph) : ℕ → ℕ → Prop :=
  Relation.ReflTransGen fun n x => x ∈ g.neighbours n

def middleRow (g : NetDetGraph) : List ℕ := (List.range g.middleNodes).map (g.upperTree.n + ·)

/-- **The shape of the graph** that `fill` builds for `g`. -/
structure Shape (g : NetDetGraph) : Prop where
  symm : ∀ x < g.numberNodes, ∀ y ∈ g.fill.neighbours x, x ∈ g.fill.neighbours y
  connected : ∀ x < g.numberNodes, ∀ y < g.numberNodes, g.fill.Leads x y
  disjoint : (g.upperTree.placed ++ g.middleRow ++ g.lowerTree.placed).Nodup
  cover : ∀ n, n ∈ g.upperTree.placed ++ g.middleRow ++ g.lowerTree.placed ↔ n < g.numberNodes
  degree : ∀ n < g.numberNodes, (g.fill.neighbours n).card ≤ g.treeOrder + 1

end NetDetGraph

section Connected

variable {row : ℕ}

lemma fill_up (hN : 2 ≤ N) (hb : 2 ≤ b) (hrow : requiredDepth N b = row + 1) :
    (new N b).fill.up = (linked N b (sumPower b (row + 1))).up := by
  rw [fill_new hN hb hrow]
  exact foldl_joinPair_up

lemma mem_fill_down_of_linked (hN : 2 ≤ N) (hb : 2 ≤ b) (hrow : requiredDepth N b = row + 1)
    {x y : ℕ} (h : y ∈ (linked N b (sumPower b (row + 1))).down x) : y ∈ (new N b).fill.down x := by
  rw [fill_new hN hb hrow]
  exact mem_foldl_joinPair_of_mem h

/-- **The graph is connected**, whether or not the trees overlap: every node leads up to the roots,
and the roots lead down to every node. -/
theorem leads_fill (hN : 2 ≤ N) (hb : 2 ≤ b) {x y : ℕ} (hx : x < N) (hy : y < N) :
    (new N b).fill.Leads x y := by
  obtain ⟨row, hrow, hpos, hlt⟩ := exists_requiredDepth hN hb
  set S := sumPower b (row + 1) with hS
  obtain ⟨htop, hbottom, hupper, hlower⟩ := linked_up (b := b) hpos hlt
  rw [← fill_up hN hb hrow] at htop hbottom hupper hlower
  have hup : ∀ {n m}, (new N b).fill.up n = some m → (new N b).fill.Leads n m := fun h =>
    .single (mem_neighbours.mpr (Or.inl h))
  have hdown : ∀ {n m}, m ∈ (linked N b S).down n → (new N b).fill.Leads n m := fun h =>
    .single (mem_neighbours.mpr (Or.inr (mem_fill_down_of_linked hN hb hrow h)))
  have hcases : ∀ {n}, n < N → n < N - S ∨ ∃ k, k < S ∧ n = mirror N k := by
    intro n hn
    by_cases h : n < N - S
    · exact Or.inl h
    · exact Or.inr (exists_mirror hn h)
  have htoRoot : (new N b).fill.Leads x 0 := by
    rcases hcases hx with h | ⟨k, hk, rfl⟩
    · refine heap_induction (P := fun k => (new N b).fill.Leads k 0) b .refl ?_ x h
      exact fun k hk hkN ih => (hup (hupper k hk hkN)).trans ih
    · refine heap_induction (P := fun k => (new N b).fill.Leads (mirror N k) 0) b (hup hbottom) ?_
        k hk
      exact fun k hk hkS ih => (hup (hlower k hk hkS)).trans ih
  refine htoRoot.trans ?_
  rcases hcases hy with h | ⟨k, hk, rfl⟩
  · refine heap_induction (P := fun k => (new N b).fill.Leads 0 k) b .refl ?_ y h
    intro k hk hkN ih
    refine ih.trans (hdown (mem_linked_down.mpr ?_))
    by_cases hkS : k < S
    · exact Or.inl ⟨k, ⟨hk, hkS⟩, rfl, rfl⟩
    · exact Or.inr (Or.inr ⟨k, ⟨not_lt.mp hkS, hkN⟩, Or.inr (Or.inl ⟨rfl, rfl⟩)⟩)
  · refine heap_induction (P := fun k => (new N b).fill.Leads 0 (mirror N k)) b (hup htop) ?_ k hk
    intro k hk hkS ih
    exact ih.trans (hdown (mem_linked_down.mpr (Or.inr (Or.inl ⟨k, ⟨hk, hkS⟩, rfl, rfl⟩))))

end Connected

/-! ### Where the trees do not overlap -/

/-- The down edges that are meant: two trees with `S` nodes each, of which `S'` are above the last
row, and a node of the middle row below each of their leaves, or the leaves joined. -/
inductive Wired (N b S S' : ℕ) : ℕ → ℕ → Prop
  | upper {k : ℕ} (h1 : 1 ≤ k) (hk : k < N - S) : Wired N b S S' (heapParent b k) k
  | lower {k : ℕ} (h1 : 1 ≤ k) (hk : k < S) :
      Wired N b S S' (mirror N (heapParent b k)) (mirror N k)
  | middle {k : ℕ} (hS : S ≤ k) (hk : k < N - S) : Wired N b S S' k (mirror N (heapParent b k))
  | bottom {k : ℕ} (hS : S ≤ k) (hk : k < N - S) : Wired N b S S' (mirror N (heapParent b k)) k
  | joinTop {k : ℕ} (hS : S' ≤ k) (hk : k < S)
      (hfree : ∀ m, S ≤ m → m < N - S → heapParent b m ≠ k) : Wired N b S S' k (mirror N k)
  | joinBottom {k : ℕ} (hS : S' ≤ k) (hk : k < S)
      (hfree : ∀ m, S ≤ m → m < N - S → heapParent b m ≠ k) : Wired N b S S' (mirror N k) k

structure Sizes (N b S S' : ℕ) : Prop where
  order : 2 ≤ b
  tree : S = b * S' + 1
  fit : S * 2 ≤ N
  room : N - S ≤ b * S + 1

namespace Sizes

variable {S S' k : ℕ}

lemma of_room (hb : 2 ≤ b) (h : Room N b) {row : ℕ} (hrow : requiredDepth N b = row + 1) :
    Sizes N b (sumPower b (row + 1)) (sumPower b row) := by
  have hfit := (trees_fit_iff_room hb).mpr h
  have hcapacity := middle_le_capacity (N := N) hb
  have hnext := sumPower_succ hb (row + 1)
  rw [sumPower_succ' hb] at hnext
  rw [hrow] at hfit hcapacity
  exact ⟨hb, sumPower_succ' hb row, hfit, by omega⟩

lemma heapParent_lt_of_middle (h : Sizes N b S S') (h1 : 1 ≤ k) (hk : k < N - S) :
    heapParent b k < S := by
  have hroom := h.room
  rw [heapParent, Nat.div_lt_iff_lt_mul (by have := h.order; omega), Nat.mul_comm]
  omega

lemma heapParent_lt_iff (h : Sizes N b S S') (h1 : 1 ≤ k) : heapParent b k < S' ↔ k < S := by
  have htree := h.tree
  rw [heapParent, Nat.div_lt_iff_lt_mul (by have := h.order; omega), Nat.mul_comm]
  omega

lemma mirror_inj (h : Sizes N b S S') {m : ℕ} (hk : k < S) (hm : m < S)
    (heq : mirror N k = mirror N m) : k = m := by
  have hfit := h.fit
  rw [mirror, mirror] at heq
  omega

lemma le_mirror (h : Sizes N b S S') (hk : k < S) : N - S ≤ mirror N k := by
  have hfit := h.fit
  rw [mirror]
  omega

end Sizes

section Wired

variable {S S' row : ℕ}

lemma linked_down_leaf_eq_nil_iff (h : Sizes N b S S') {k : ℕ} (hleaf : S' ≤ k) (hk : k < S) :
    (linked N b S).down (mirror N k) = [] ↔ ∀ m, S ≤ m → m < N - S → heapParent b m ≠ k := by
  have hlower := h.le_mirror hk
  have hfit := h.fit
  rw [List.eq_nil_iff_forall_not_mem]
  constructor
  · intro hnil m hS hm heq
    refine hnil m (mem_linked_down.mpr (Or.inr (Or.inr ⟨m, ⟨hS, hm⟩, Or.inr (Or.inr ⟨?_, rfl⟩)⟩)))
    rw [heq]
  · intro hfree y hy
    rcases mem_linked_down.mp hy with
      ⟨m, ⟨h1, hm⟩, heq, -⟩ | ⟨m, ⟨h1, hm⟩, heq, -⟩ | ⟨m, ⟨hS, hm⟩, hedge⟩
    · have hparent := heapParent_lt (b := b) h1
      omega
    · have hparent := (h.heapParent_lt_iff h1).mpr hm
      have := h.mirror_inj hk (by have := heapParent_lt (b := b) h1; omega) heq
      omega
    · have hpos : 1 ≤ m := by have := h.tree; omega
      have hparent := h.heapParent_lt_of_middle hpos hm
      rcases hedge with ⟨heq, -⟩ | ⟨heq, -⟩ | ⟨heq, -⟩
      · omega
      · omega
      · exact hfree m hS hm (h.mirror_inj hk hparent heq).symm

lemma mem_fill_down (hN : 2 ≤ N) (hb : 2 ≤ b) (hrow : requiredDepth N b = row + 1)
    (h : Sizes N b (sumPower b (row + 1)) (sumPower b row)) {x y : ℕ} :
    y ∈ (new N b).fill.down x ↔ Wired N b (sumPower b (row + 1)) (sumPower b row) x y := by
  have hsucc := sumPower_succ hb row
  have hleaf : ∀ k, k ∈ List.range' (sumPower b row) (b ^ row) ↔
      sumPower b row ≤ k ∧ k < sumPower b (row + 1) := by
    intro k
    rw [List.mem_range'_1]
    omega
  have hfit := h.fit
  rw [fill_new hN hb hrow]
  dsimp only
  rw [mem_foldl_joinPair (List.nodup_range' 1), mem_linked_down]
  · simp only [hleaf]
    constructor
    · rintro ((⟨k, ⟨h1, hk⟩, rfl, rfl⟩ | ⟨k, ⟨h1, hk⟩, rfl, rfl⟩ |
        ⟨k, ⟨hS, hk⟩, ⟨rfl, rfl⟩ | ⟨rfl, rfl⟩ | ⟨rfl, rfl⟩⟩) | ⟨k, ⟨hS, hk⟩, hnil, hedge⟩)
      · exact .upper h1 (by omega)
      · exact .lower h1 hk
      · exact .middle hS hk
      · exact .upper (by have := h.tree; omega) hk
      · exact .bottom hS hk
      · have hfree := (linked_down_leaf_eq_nil_iff h hS hk).mp hnil
        rcases hedge with ⟨rfl, rfl⟩ | ⟨rfl, rfl⟩
        · exact .joinBottom hS hk hfree
        · exact .joinTop hS hk hfree
    · intro hwired
      cases hwired with
      | upper h1 hk =>
        by_cases hkS : y < sumPower b (row + 1)
        · exact Or.inl (Or.inl ⟨y, ⟨h1, hkS⟩, rfl, rfl⟩)
        · exact Or.inl (Or.inr (Or.inr ⟨y, ⟨not_lt.mp hkS, hk⟩, Or.inr (Or.inl ⟨rfl, rfl⟩)⟩))
      | lower h1 hk => exact Or.inl (Or.inr (Or.inl ⟨_, ⟨h1, hk⟩, rfl, rfl⟩))
      | middle hS hk => exact Or.inl (Or.inr (Or.inr ⟨x, ⟨hS, hk⟩, Or.inl ⟨rfl, rfl⟩⟩))
      | bottom hS hk =>
        exact Or.inl (Or.inr (Or.inr ⟨y, ⟨hS, hk⟩, Or.inr (Or.inr ⟨rfl, rfl⟩)⟩))
      | joinTop hS hk hfree =>
        exact Or.inr ⟨x, ⟨hS, hk⟩, (linked_down_leaf_eq_nil_iff h hS hk).mpr hfree,
          Or.inr ⟨rfl, rfl⟩⟩
      | joinBottom hS hk hfree =>
        exact Or.inr ⟨y, ⟨hS, hk⟩, (linked_down_leaf_eq_nil_iff h hS hk).mpr hfree,
          Or.inl ⟨rfl, rfl⟩⟩
  · intro k hk k' hk'
    rw [hleaf] at hk hk'
    have := h.le_mirror hk.2
    omega
  · intro k hk
    rw [hleaf] at hk
    omega

end Wired

structure Network (g : NetDetGraph) (N b S S' : ℕ) : Prop where
  sizes : Sizes N b S S'
  up_top : g.up 0 = some (N - 1)
  up_bottom : g.up (N - 1) = some 0
  up_upper : ∀ k, 1 ≤ k → k < N - S → g.up k = some (heapParent b k)
  up_lower : ∀ k, 1 ≤ k → k < S → g.up (mirror N k) = some (mirror N (heapParent b k))
  mem_down : ∀ x y, y ∈ g.down x ↔ Wired N b S S' x y

lemma network_fill (hN : 2 ≤ N) (hb : 2 ≤ b) (hroom : Room N b) {row : ℕ}
    (hrow : requiredDepth N b = row + 1) :
    Network (new N b).fill N b (sumPower b (row + 1)) (sumPower b row) := by
  have hsizes := Sizes.of_room hb hroom hrow
  have hpos : 1 ≤ sumPower b (row + 1) := one_le_sumPower hb (by omega)
  have hfit := hsizes.fit
  obtain ⟨htop, hbottom, hupper, hlower⟩ :=
    linked_up (b := b) hpos (show sumPower b (row + 1) < N by omega)
  rw [← fill_up hN hb hrow] at htop hbottom hupper hlower
  exact ⟨hsizes, htop, hbottom, hupper, hlower, fun x y => mem_fill_down hN hb hrow hsizes⟩

section Inversion

variable {S S' x y : ℕ}

lemma Wired.of_lt (h : Sizes N b S S') (hx : x < N - S) (hw : Wired N b S S' x y) :
    (1 ≤ y ∧ y < N - S ∧ heapParent b y = x) ∨ (S ≤ x ∧ y = mirror N (heapParent b x)) ∨
      (y = mirror N x ∧ (S' ≤ x ∧ x < S) ∧ ∀ m, S ≤ m → m < N - S → heapParent b m ≠ x) := by
  have htree := h.tree
  cases hw with
  | upper h1 hk => exact Or.inl ⟨h1, hk, rfl⟩
  | lower h1 hk =>
    have := h.le_mirror (heapParent_lt (b := b) h1 |>.trans hk)
    omega
  | middle hS hk => exact Or.inr (Or.inl ⟨hS, rfl⟩)
  | bottom hS hk =>
    have := h.le_mirror (h.heapParent_lt_of_middle (by omega) hk)
    omega
  | joinTop hS hk hfree => exact Or.inr (Or.inr ⟨rfl, ⟨hS, hk⟩, hfree⟩)
  | joinBottom hS hk hfree =>
    have := h.le_mirror hk
    omega

lemma Wired.of_upper (h : Sizes N b S S') (hx : x < S) (hw : Wired N b S S' x y) :
    (1 ≤ y ∧ y < N - S ∧ heapParent b y = x) ∨
      (y = mirror N x ∧ S' ≤ x ∧ ∀ m, S ≤ m → m < N - S → heapParent b m ≠ x) := by
  have hfit := h.fit
  rcases hw.of_lt h (by omega) with hup | ⟨hS, -⟩ | ⟨heq, ⟨hS, -⟩, hfree⟩
  · exact Or.inl hup
  · omega
  · exact Or.inr ⟨heq, hS, hfree⟩

lemma Wired.of_middle (h : Sizes N b S S') (hS : S ≤ x) (hx : x < N - S) (hw : Wired N b S S' x y) :
    y = mirror N (heapParent b x) := by
  rcases hw.of_lt h hx with ⟨h1, hk, rfl⟩ | ⟨-, heq⟩ | ⟨-, ⟨-, hk⟩, -⟩
  · have := h.heapParent_lt_of_middle h1 hk
    omega
  · exact heq
  · omega

lemma Wired.of_lower (h : Sizes N b S S') {k : ℕ} (hk : k < S)
    (hw : Wired N b S S' (mirror N k) y) :
    (∃ m, (1 ≤ m ∧ m < S) ∧ heapParent b m = k ∧ y = mirror N m) ∨
      (S ≤ y ∧ y < N - S ∧ heapParent b y = k) ∨
      (y = k ∧ S' ≤ k ∧ ∀ m, S ≤ m → m < N - S → heapParent b m ≠ k) := by
  have hfit := h.fit
  have htree := h.tree
  have hlower := h.le_mirror hk
  generalize hx : mirror N k = x at hw
  cases hw with
  | upper h1 hm =>
    have := h.heapParent_lt_of_middle h1 hm
    omega
  | @lower m h1 hm =>
    have := h.mirror_inj hk (heapParent_lt (b := b) h1 |>.trans hm) hx
    exact Or.inl ⟨m, ⟨h1, hm⟩, this.symm, rfl⟩
  | middle hS hm => omega
  | bottom hS hm =>
    have := h.mirror_inj hk (h.heapParent_lt_of_middle (by omega) hm) hx
    exact Or.inr (Or.inl ⟨hS, hm, this.symm⟩)
  | joinTop hS hm hfree => omega
  | joinBottom hS hm hfree =>
    obtain rfl := h.mirror_inj hk hm hx
    exact Or.inr (Or.inr ⟨rfl, hS, hfree⟩)

end Inversion

namespace Network

variable {g : NetDetGraph} {S S' x y : ℕ}

lemma part (h : Network g N b S S') (hx : x < N) :
    x < S ∨ (S ≤ x ∧ x < N - S) ∨ ∃ k, k < S ∧ x = mirror N k := by
  have hfit := h.sizes.fit
  by_cases hlow : x < N - S
  · omega
  · exact Or.inr (Or.inr (exists_mirror hx hlow))

lemma symm (h : Network g N b S S') (hx : x < N) (hy : y ∈ g.neighbours x) :
    x ∈ g.neighbours y := by
  have hfit := h.sizes.fit
  have htree := h.sizes.tree
  rw [mem_neighbours] at hy ⊢
  rw [h.mem_down] at hy ⊢
  rcases hy with hup | hw
  · by_cases hlow : x < N - S
    · rcases Nat.eq_zero_or_pos x with rfl | hpos
      · rw [h.up_top, Option.some.injEq] at hup
        exact Or.inl (hup ▸ h.up_bottom)
      · rw [h.up_upper x hpos hlow, Option.some.injEq] at hup
        exact Or.inr (hup ▸ .upper hpos hlow)
    · obtain ⟨k, hk, rfl⟩ := exists_mirror hx hlow
      rcases Nat.eq_zero_or_pos k with rfl | hpos
      · rw [show mirror N 0 = N - 1 from rfl, h.up_bottom, Option.some.injEq] at hup
        exact Or.inl (hup ▸ h.up_top)
      · rw [h.up_lower k hpos hk, Option.some.injEq] at hup
        exact Or.inr (hup ▸ .lower hpos hk)
  · cases hw with
    | upper h1 hk => exact Or.inl (h.up_upper y h1 hk)
    | lower h1 hk => exact Or.inl (h.up_lower _ h1 hk)
    | middle hS hk => exact Or.inr (.bottom hS hk)
    | bottom hS hk => exact Or.inr (.middle hS hk)
    | joinTop hS hk hfree => exact Or.inr (.joinBottom hS hk hfree)
    | joinBottom hS hk hfree => exact Or.inr (.joinTop hS hk hfree)

lemma card_down_le (h : Network g N b S S') (hx : x < N) : (g.down x).toFinset.card ≤ b := by
  have horder := h.sizes.order
  have hone : ∀ {z}, (g.down x).toFinset ⊆ {z} → (g.down x).toFinset.card ≤ b := fun hsub =>
    (Finset.card_le_card hsub).trans (by rw [Finset.card_singleton]; omega)
  have hkids : ∀ {k} (f : ℕ → ℕ),
      (g.down x).toFinset ⊆ (Finset.Icc (b * k + 1) (b * k + b)).image f →
      (g.down x).toFinset.card ≤ b := fun f hsub =>
    ((Finset.card_le_card hsub).trans Finset.card_image_le).trans (by rw [Nat.card_Icc]; omega)
  have hmem : ∀ {y}, y ∈ (g.down x).toFinset → Wired N b S S' x y := fun hy =>
    (h.mem_down x _).mp (List.mem_toFinset.mp hy)
  have hIcc : ∀ {k m}, 1 ≤ m → heapParent b m = k → m ∈ Finset.Icc (b * k + 1) (b * k + b) :=
    fun h1 heq => Finset.mem_Icc.mpr ((heapParent_eq_iff horder h1 _).mp heq)
  rcases h.part hx with hx | ⟨hS, hx⟩ | ⟨k, hk, rfl⟩
  · by_cases hfree : S' ≤ x ∧ ∀ m, S ≤ m → m < N - S → heapParent b m ≠ x
    · refine hone (z := mirror N x) fun y hy => Finset.mem_singleton.mpr ?_
      rcases (hmem hy).of_upper h.sizes hx with ⟨h1, hy, heq⟩ | ⟨heq, -⟩
      · by_cases hyS : y < S
        · have := (h.sizes.heapParent_lt_iff h1).mpr hyS
          omega
        · exact absurd heq (hfree.2 y (not_lt.mp hyS) hy)
      · exact heq
    · refine hkids (k := x) id fun y hy => ?_
      rcases (hmem hy).of_upper h.sizes hx with ⟨h1, -, heq⟩ | ⟨-, hno⟩
      · exact Finset.mem_image.mpr ⟨y, hIcc h1 heq, rfl⟩
      · exact absurd hno hfree
  · exact hone fun y hy => Finset.mem_singleton.mpr ((hmem hy).of_middle h.sizes hS hx)
  · by_cases hfree : S' ≤ k ∧ ∀ m, S ≤ m → m < N - S → heapParent b m ≠ k
    · refine hone (z := k) fun y hy => Finset.mem_singleton.mpr ?_
      rcases (hmem hy).of_lower h.sizes hk with ⟨m, ⟨h1, hm⟩, heq, -⟩ | ⟨hS, hy, heq⟩ | ⟨heq, -⟩
      · have := (h.sizes.heapParent_lt_iff h1).mpr hm
        omega
      · exact absurd heq (hfree.2 y hS hy)
      · exact heq
    · refine hkids (k := k) (fun m => if m < S then mirror N m else m) fun y hy => ?_
      rcases (hmem hy).of_lower h.sizes hk with ⟨m, ⟨h1, hm⟩, heq, rfl⟩ | ⟨hS, -, heq⟩ | ⟨-, hno⟩
      · exact Finset.mem_image.mpr ⟨m, hIcc h1 heq, if_pos hm⟩
      · have hpos : 1 ≤ y := by have := h.sizes.tree; omega
        exact Finset.mem_image.mpr ⟨y, hIcc hpos heq, if_neg (not_lt.mpr hS)⟩
      · exact absurd hno hfree

lemma degree (h : Network g N b S S') (hx : x < N) : (g.neighbours x).card ≤ b + 1 := by
  have hup : (g.up x).toList.toFinset.card ≤ 1 := by
    cases g.up x <;> simp
  have hdown := h.card_down_le hx
  rw [neighbours, List.toFinset_append]
  refine (Finset.card_union_le _ _).trans ?_
  omega

end Network

lemma parts_new (hN : 2 ≤ N) (hb : 2 ≤ b) {row : ℕ} (hrow : requiredDepth N b = row + 1) :
    (new N b).upperTree.placed = List.range (sumPower b (row + 1)) ∧
      (new N b).middleRow = List.range' (sumPower b (row + 1)) (N - sumPower b (row + 1) * 2) ∧
      (new N b).lowerTree.placed = (List.range (sumPower b (row + 1))).map (mirror N) := by
  rw [middleRow, middleNodes, upperTree_new hN hb hrow, lowerTree_new hN hb hrow]
  exact ⟨rfl, List.range'_eq_map_range.symm, rfl⟩

lemma parts_nodup {S : ℕ} (hfit : S * 2 ≤ N) :
    (List.range S ++ List.range' S (N - S * 2) ++ (List.range S).map (mirror N)).Nodup := by
  have hmirror : ((List.range S).map (mirror N)).Nodup := by
    refine List.Nodup.map_on (fun k hk m hm heq => ?_) List.nodup_range
    rw [List.mem_range] at hk hm
    rw [mirror, mirror] at heq
    omega
  rw [List.nodup_append, List.nodup_append]
  refine ⟨⟨List.nodup_range, List.nodup_range' 1, ?_⟩, hmirror, ?_⟩
  · intro x hx y hy
    rw [List.mem_range] at hx
    rw [List.mem_range'_1] at hy
    omega
  · intro x hx y hy
    obtain ⟨k, hk, rfl⟩ := List.mem_map.mp hy
    rw [List.mem_append, List.mem_range, List.mem_range'_1] at hx
    rw [List.mem_range] at hk
    rw [mirror]
    omega

lemma mem_parts {S : ℕ} (hfit : S * 2 ≤ N) (n : ℕ) :
    n ∈ List.range S ++ List.range' S (N - S * 2) ++ (List.range S).map (mirror N) ↔ n < N := by
  rw [List.mem_append, List.mem_append, List.mem_range, List.mem_range'_1]
  constructor
  · rintro ((h | h) | h)
    · omega
    · omega
    · obtain ⟨k, hk, rfl⟩ := List.mem_map.mp h
      rw [List.mem_range] at hk
      rw [mirror]
      omega
  · intro h
    by_cases hlow : n < N - S
    · omega
    · obtain ⟨k, hk, rfl⟩ := exists_mirror h hlow
      exact Or.inr (List.mem_map_of_mem (List.mem_range.mpr hk))

/-- **The shape of the network.**  `fill` succeeds, and what it builds has the shape it is meant to
have exactly if the middle row has room. -/
theorem shape_iff_room {N b : ℕ} (hN : 2 ≤ N) (hb : 2 ≤ b) :
    (new N b).fill.fail = false ∧ ((new N b).Shape ↔ Room N b) := by
  refine ⟨fill_fail (by omega) hb, ?_⟩
  obtain ⟨row, hrow, hpos, hlt⟩ := exists_requiredDepth hN hb
  obtain ⟨hupper, hmiddle, hlower⟩ := parts_new hN hb hrow
  have hfit := trees_fit_iff_room (N := N) hb
  rw [hrow] at hfit
  constructor
  · intro h
    by_contra hroom
    -- the deepest node of the lower tree is in the upper one too
    have hover := (not_congr hfit).mpr hroom
    have hdisjoint := h.disjoint
    rw [hupper, hmiddle, hlower, List.nodup_append] at hdisjoint
    refine hdisjoint.2.2 (N - sumPower b (row + 1)) ?_ (mirror N (sumPower b (row + 1) - 1)) ?_ ?_
    · exact List.mem_append_left _ (List.mem_range.mpr (by omega))
    · exact List.mem_map_of_mem (List.mem_range.mpr (by omega))
    · rw [mirror]
      omega
  · intro hroom
    have hnet := network_fill hN hb hroom hrow
    exact {
      symm := fun x hx y hy => hnet.symm hx hy
      connected := fun x hx y hy => leads_fill hN hb hx hy
      disjoint := by
        rw [hupper, hmiddle, hlower]
        exact parts_nodup (hfit.mpr hroom)
      cover := by
        rw [hupper, hmiddle, hlower]
        exact mem_parts (hfit.mpr hroom)
      degree := fun x hx => hnet.degree hx }

theorem shape_of_four : Room 4 2 ∧ (new 4 2).Shape := by
  have hroom : Room 4 2 := by
    norm_num [Room, treeDepth, invSumPower, sumPower]
  exact ⟨hroom, (shape_iff_room (by decide) (by decide)).2.mpr hroom⟩

lemma requiredDepth_five : requiredDepth 5 2 = 2 := by
  norm_num [requiredDepth, treeDepth, invSumPower, sumPower]

/-- **Five nodes of order 2**: the two trees have two rows each, and node 2 is in both.  The upper
root has an edge down to it, and it has none back. -/
theorem trees_overlap_five :
    (new 5 2).fill.fail = false ∧ 2 ∈ (new 5 2).upperTree.placed ∧ 2 ∈ (new 5 2).lowerTree.placed ∧
      2 ∈ (new 5 2).fill.neighbours 0 ∧ 0 ∉ (new 5 2).fill.neighbours 2 ∧ ¬ (new 5 2).Shape := by
  obtain ⟨hupper, -, hlower⟩ :=
    parts_new (N := 5) (b := 2) (by decide) (by decide) requiredDepth_five
  have hfill := fill_new (N := 5) (b := 2) (by decide) (by decide) requiredDepth_five
  have hsum : sumPower 2 1 = 1 ∧ sumPower 2 2 = 3 := by decide
  have hdown : 2 ∈ (new 5 2).fill.neighbours 0 ∧ 0 ∉ (new 5 2).fill.neighbours 2 := by
    rw [hfill, hsum.1, hsum.2]
    decide
  refine ⟨fill_fail (by decide) (by decide), ?_, ?_, hdown.1, hdown.2, fun h => ?_⟩
  · rw [hupper]
    decide
  · rw [hlower]
    decide
  · exact hdown.2 (h.symm 0 (by decide) 2 hdown.1)

end Shape

end Bingle.NetDet
