import Bingle.Lib.Checked
import Bingle.NetDet.Graph

/-!
# The depth of the network, and the rows it is built from

`required_depth` takes the greatest depth of which two trees fit, or one more.  `fillChecked` is
`fill` with every access to a row or to the two vectors as the source makes it.
-/

namespace Bingle.NetDet

open List
open Lib Lib.Checked NetDetGraph

def access (N n : ℕ) : Checked Unit := if n < N then .ok () else .error .index

def attachChecked (N : ℕ) (g : NetDetGraph) (prev : List ℕ) (upIdx n : ℕ) :
    Checked NetDetGraph := do
  let parent ← index prev upIdx
  access N n
  access N parent
  return attach g parent n

abbrev RootCheck := NetDetGraph → ℕ → Checked Unit

def lowerCheck (N : ℕ) : RootCheck := fun g n => do
  let topRoot ← expect g.rootNode "top root set"
  access N n
  access N topRoot

def growRowChecked (N : ℕ) (side : Side) (check : RootCheck) (prevRow : Option (List ℕ))
    (rowCapacity : ℕ) : (lacking : ℕ) → NetDetGraph → ℕ → List ℕ →
      Checked (NetDetGraph × ℕ × List ℕ)
  | 0, g, n, currentRow => return (g, n, currentRow)
  | lacking + 1, g, n, currentRow => do
    let g ← match prevRow with
      | none => do
        check g n
        pure (side.root g n)
      | some prev =>
        attachChecked N g prev (currentRow.length * prev.length / rowCapacity) n
    let (next, leave) := side.advance n
    if leave then return (g, next, currentRow ++ [n])
    growRowChecked N side check prevRow rowCapacity lacking g next (currentRow ++ [n])

def growTreeChecked (N : ℕ) (side : Side) (check : RootCheck) (treeOrder depth : ℕ)
    (g : NetDetGraph) (n : ℕ) : Checked TreeLoop :=
  (List.range depth).foldlM (fun loop row => do
    let rowCapacity := treeOrder ^ row
    let (graph, n, currentRow) ←
      growRowChecked N side check loop.prevRow rowCapacity rowCapacity loop.graph loop.n []
    return { graph, n, prevRow := some currentRow, placed := loop.placed ++ currentRow })
  { graph := g, n }

def placeMiddleChecked (N : ℕ) (lastTop lastBottom : List ℕ) (outerNodes middleRowCapacity : ℕ)
    (g : NetDetGraph) (idx : ℕ) : Checked NetDetGraph := do
  let topParent ← index lastTop (idx * lastBottom.length / middleRowCapacity)
  let bottomLeaf ← index lastBottom (idx * lastBottom.length / middleRowCapacity)
  access N (outerNodes + idx)
  access N topParent
  access N bottomLeaf
  return placeMiddle lastTop lastBottom outerNodes middleRowCapacity g idx

def joinLeafChecked (N : ℕ) (lastTop : List ℕ) (g : NetDetGraph) (bottom : ℕ × ℕ) :
    Checked NetDetGraph := do
  access N bottom.1
  if (g.down bottom.1).isEmpty then
    let topLeaf ← index lastTop bottom.2
    access N topLeaf
  return joinLeaf lastTop g bottom

def fillChecked (g : NetDetGraph) : Checked NetDetGraph :=
  if g.numberNodes = 0 ∨ g.treeOrder < 1 then return g.clear
  else if g.numberNodes = 1 then return { g.setSize with rootNode := some 0, fail := false }
  else do
    let depth := requiredDepth g.numberNodes g.treeOrder
    let upper ← growTreeChecked g.numberNodes (upperSide g.numberNodes) (fun _ _ => .ok ())
      g.treeOrder depth g.setSize 0
    let lower ← growTreeChecked g.numberNodes lowerSide (lowerCheck g.numberNodes)
      g.treeOrder depth upper.graph (g.numberNodes - 1)
    let lastTop := upper.prevRow.getD []
    let lastBottom := lower.prevRow.getD []
    let middleNodes := g.numberNodes - upper.n * 2
    let middleRowCapacity := g.treeOrder ^ depth
    if middleNodes > middleRowCapacity then return lower.graph.clear
    let middle ← (List.range middleNodes).foldlM
      (placeMiddleChecked g.numberNodes lastTop lastBottom upper.n middleRowCapacity) lower.graph
    let joined ← lastBottom.zipIdx.foldlM (joinLeafChecked g.numberNodes lastTop) middle
    return { joined with fail := false }

section Depth

variable {N b : ℕ}

lemma requiredDepth_least (hb : 2 ≤ b) :
    IsLeast {d | N - sumPower b d * 2 ≤ b ^ d} (requiredDepth N b) := by
  refine ⟨middle_le_capacity hb, fun d hd => ?_⟩
  by_contra hlt
  have hd : N - sumPower b d * 2 ≤ b ^ d := hd
  have hpos := Nat.one_le_pow d b (by omega)
  by_cases hdepth : d < treeDepth N b
  · -- one row more of both trees still fits, and has room for `b ^ d` nodes twice
    have hfit := (sumPower_le_half_iff (N := N) hb (d + 1)).mpr hdepth
    rw [sumPower_succ hb] at hfit
    omega
  · by_cases hroom : Room N b
    · rw [requiredDepth_of_room hroom] at hlt
      omega
    · rw [requiredDepth_of_not_room hroom] at hlt
      obtain rfl : d = treeDepth N b := by omega
      exact hroom hd

end Depth

/-! ## Accesses -/

variable {N n i b row : ℕ} {lastTop : List ℕ}

lemma access_of_lt (h : n < N) : access N n = .ok () := if_pos h

lemma index_of_lt {l : List ℕ} (h : i < l.length) : index l i = .ok (l.getD i 0) := by
  rw [index, List.getElem?_eq_getElem h, getD_eq_getElem?_getD, List.getElem?_eq_getElem h]
  rfl

lemma foldlM_eq_ok {α β : Type} {f : β → α → Checked β} {g : β → α → β} {l : List α}
    (h : ∀ b, ∀ a ∈ l, f b a = .ok (g b a)) (b : β) : l.foldlM f b = .ok (l.foldl g b) := by
  induction l generalizing b with
  | nil => rfl
  | cons a l ih =>
    rw [foldlM_cons, h b a mem_cons_self]
    exact ih (fun b a ha => h b a (mem_cons_of_mem _ ha)) (g b a)

lemma parentIndex_lt {j : ℕ} (hb : 2 ≤ b) (hj : j < b ^ (row + 1)) :
    j * b ^ row / b ^ (row + 1) < b ^ row := by
  rw [Nat.div_lt_iff_lt_mul (Nat.pow_pos (by omega)), Nat.mul_comm (b ^ row)]
  exact Nat.mul_lt_mul_of_pos_right hj (Nat.pow_pos (by omega))

lemma attachChecked_of_lt {upIdx : ℕ} (g : NetDetGraph) (prev : List ℕ)
    (hidx : upIdx < prev.length) (hparent : prev.getD upIdx 0 < N) (hn : n < N) :
    attachChecked N g prev upIdx n = .ok (attach g (prev.getD upIdx 0) n) := by
  rw [attachChecked, index_of_lt hidx]
  simp only [bind, Except.bind, access_of_lt hn, access_of_lt hparent]
  rfl

section Tree

variable {side : Side} (check : RootCheck) {N b : ℕ} {ν : ℕ → ℕ}

lemma growRowChecked_eq (hb : 2 ≤ b) (hν : side.Numbers N ν) (hlt : ∀ k < N, ν k < N) (row : ℕ)
    {j lacking : ℕ} (hj : j + lacking = b ^ (row + 1)) (hN : sumPower b (row + 2) < N)
    (g : NetDetGraph) :
    growRowChecked N side check (some (treeRow b ν row)) (b ^ (row + 1)) lacking g
        (ν (sumPower b (row + 1) + j)) ((List.range' (sumPower b (row + 1)) j).map ν) =
      .ok (growRow side (some (treeRow b ν row)) (b ^ (row + 1)) lacking g
        (ν (sumPower b (row + 1) + j)) ((List.range' (sumPower b (row + 1)) j).map ν)) := by
  induction lacking generalizing j g with
  | zero => rfl
  | succ lacking ih =>
    have hjlt : j < b ^ (row + 1) := by omega
    have hn : sumPower b (row + 1) + j + 1 < N := by
      rw [sumPower_succ hb] at hN
      omega
    have hparent : (treeRow b ν row).getD (j * b ^ row / b ^ (row + 1)) 0 < N := by
      rw [treeRow_getD_parent hb ν hjlt]
      have := heapParent_le b (sumPower b (row + 1) + j)
      exact hlt _ (by omega)
    have hattach := attachChecked_of_lt g (treeRow b ν row)
      (by simpa using parentIndex_lt hb hjlt) hparent
      (hlt _ (by omega : sumPower b (row + 1) + j < N))
    have hrow : (List.range' (sumPower b (row + 1)) j).map ν ++ [ν (sumPower b (row + 1) + j)] =
        (List.range' (sumPower b (row + 1)) (j + 1)).map ν := by
      rw [range'_concat, map_append, map_singleton, Nat.one_mul]
    simp only [growRowChecked, growRow, length_map, length_range', length_treeRow,
      hattach, hν _ hn, hrow, bind, Except.bind, Bool.false_eq_true, if_false]
    exact ih (j := j + 1) (by omega) _

lemma growTreeChecked_eq (hb : 2 ≤ b) (hν : side.Numbers N ν) (hlt : ∀ k < N, ν k < N)
    (g : NetDetGraph) (hcheck : check g (ν 0) = .ok ()) (depth : ℕ)
    (hN : sumPower b (depth + 1) < N) :
    growTreeChecked N side check b (depth + 1) g (ν 0) =
      .ok (growTree side b (depth + 1) g (ν 0)) := by
  induction depth with
  | zero =>
    have hone : sumPower b 1 = 1 := by simp [sumPower_succ hb]
    have hadvance := hν 0 (by rw [hone] at hN; omega)
    simp [growTreeChecked, growTree, growRowChecked, growRow, hcheck, hadvance]
  | succ depth ih =>
    have hless : sumPower b (depth + 1) < N := by
      rw [sumPower_succ hb] at hN
      omega
    have hspec := growTree_spec hb hν depth hless g
    have hrow := growRowChecked_eq check hb hν hlt depth (Nat.zero_add _) hN
      (growTree side b (depth + 1) g (ν 0)).graph
    have ih := ih hless
    rw [growTreeChecked] at ih ⊢
    rw [range_succ, foldlM_append, ih, growTree_succ side b (depth + 1)]
    simp only [Nat.add_zero, range'_zero, map_nil] at hrow
    rw [hspec] at hrow ⊢
    simp only [foldlM_cons, foldlM_nil, bind, Except.bind, hrow]
    rfl

end Tree

lemma treeRow_lt {ν : ℕ → ℕ} (hb : 2 ≤ b) (hlt : ∀ k < N, ν k < N)
    (hN : sumPower b (row + 1) < N) (hi : i < b ^ row) :
    (treeRow b ν row).getD i 0 < N := by
  rw [treeRow_getD b ν row hi]
  rw [sumPower_succ hb] at hN
  exact hlt _ (by omega)

lemma placeMiddleChecked_eq {outerNodes middleRowCapacity idx : ℕ} {lastBottom : List ℕ}
    (g : NetDetGraph) (hlen : lastTop.length = lastBottom.length)
    (hidx : idx * lastBottom.length / middleRowCapacity < lastBottom.length)
    (hlt : ∀ i < lastBottom.length, lastTop.getD i 0 < N ∧ lastBottom.getD i 0 < N)
    (hn : outerNodes + idx < N) :
    placeMiddleChecked N lastTop lastBottom outerNodes middleRowCapacity g idx =
      .ok (placeMiddle lastTop lastBottom outerNodes middleRowCapacity g idx) := by
  obtain ⟨htop, hbottom⟩ := hlt _ hidx
  rw [placeMiddleChecked, index_of_lt (hlen ▸ hidx), index_of_lt hidx]
  simp only [bind, Except.bind, access_of_lt hn, access_of_lt htop, access_of_lt hbottom]
  rfl

lemma joinLeafChecked_eq {bottom : ℕ × ℕ} (g : NetDetGraph)
    (hbottom : bottom.1 < N) (hidx : bottom.2 < lastTop.length)
    (htop : lastTop.getD bottom.2 0 < N) :
    joinLeafChecked N lastTop g bottom = .ok (joinLeaf lastTop g bottom) := by
  rw [joinLeafChecked, access_of_lt hbottom]
  simp only [bind, Except.bind, index_of_lt hidx, access_of_lt htop]
  split_ifs <;> rfl

lemma fillChecked_new (hN : 2 ≤ N) (hb : 2 ≤ b) :
    fillChecked (new N b) = .ok (new N b).fill := by
  obtain ⟨row, hrow, hpos, hlt⟩ := exists_requiredDepth hN hb
  have hmirror : ∀ k < N, mirror N k < N := fun k _ => mirror_lt (by omega) k
  have hcapacity := middle_le_capacity (N := N) hb
  have hupper := upperTree_new hN hb hrow
  have hlower := lowerTree_new hN hb hrow
  have hup : growTreeChecked N (upperSide N) (fun _ _ => .ok ()) b (requiredDepth N b)
      (new N b).setSize 0 = .ok (new N b).upperTree := by
    have h := growTreeChecked_eq (fun _ _ => .ok ()) hb (upperSide_numbers N)
      (fun _ h => h) (new N b).setSize rfl row hlt
    rw [← hrow] at h
    exact h
  have hdown : growTreeChecked N lowerSide (lowerCheck N) b (requiredDepth N b)
      (new N b).upperTree.graph (N - 1) = .ok (new N b).lowerTree := by
    have hroot : lowerCheck N (new N b).upperTree.graph (mirror N 0) = .ok () := by
      have hnode : (new N b).upperTree.graph.rootNode = some 0 := by
        rw [hupper]
        simp [rooted]
      rw [lowerCheck, hnode]
      simp only [expect, bind, Except.bind, access_of_lt (hmirror 0 (by omega)),
        access_of_lt (show 0 < N by omega)]
    have h := growTreeChecked_eq (lowerCheck N) hb (lowerSide_numbers N) hmirror _ hroot
      row hlt
    rw [← hrow] at h
    exact h
  have hrows : ∀ i < b ^ row,
      (treeRow b id row).getD i 0 < N ∧ (treeRow b (mirror N) row).getD i 0 < N := fun i hi =>
    ⟨treeRow_lt hb (fun _ h => h) hlt hi, treeRow_lt hb hmirror hlt hi⟩
  have hnode : (new N b).numberNodes = N := rfl
  have horder : (new N b).treeOrder = b := rfl
  rw [fillChecked, fill, if_neg (by rw [hnode, horder]; omega), if_neg (by rw [hnode]; omega),
    if_neg (by rw [hnode, horder]; omega), if_neg (by rw [hnode]; omega)]
  simp only [hnode, horder, hup, bind, Except.bind, middleNodes]
  simp only [hdown]
  simp only [hupper, hlower, Option.getD_some]
  rw [hrow] at hcapacity ⊢
  have hmiddle := foldlM_eq_ok (l := List.range (N - sumPower b (row + 1) * 2))
    (f := placeMiddleChecked N (treeRow b id row) (treeRow b (mirror N) row) (sumPower b (row + 1))
      (b ^ (row + 1))) (fun g idx hidx => placeMiddleChecked_eq g (by simp)
      (by
        rw [mem_range] at hidx
        rw [length_treeRow]
        exact parentIndex_lt hb (by omega))
      (by simpa using hrows) (by rw [mem_range] at hidx; omega))
    (twoTrees N b (sumPower b (row + 1)))
  have hjoin := fun g => foldlM_eq_ok (l := (treeRow b (mirror N) row).zipIdx)
    (f := joinLeafChecked N (treeRow b id row)) (fun g bottom hmem => by
      obtain ⟨hi, heq⟩ := mem_zipIdx' hmem
      rw [length_treeRow] at hi
      have hbottom : bottom.1 < N := by
        rw [heq, ← getD_eq_getElem _ 0]
        exact (hrows _ hi).2
      exact joinLeafChecked_eq g hbottom (by simpa using hi) (hrows _ hi).1) g
  simp only [hmiddle, hjoin, if_neg (not_lt.mpr hcapacity)]
  rfl

/-- **The depth of the network**: the least of which the middle row has room for what two trees
leave over; with it `fill` does not fail, and all its accesses are in range. -/
theorem required_depth_least {N b : ℕ} (hN : 2 ≤ N) (hb : 2 ≤ b) :
    IsLeast {d | N - sumPower b d * 2 ≤ b ^ d} (requiredDepth N b) ∧
      fillChecked (new N b) = .ok (new N b).fill ∧ (new N b).fill.fail = false :=
  ⟨requiredDepth_least hb, fillChecked_new hN hb, fill_fail (by omega) hb⟩

theorem required_depth_of_five :
    IsLeast {d | 5 - sumPower 2 d * 2 ≤ 2 ^ d} (requiredDepth 5 2) ∧
      fillChecked (new 5 2) = .ok (new 5 2).fill ∧ (new 5 2).fill.fail = false :=
  required_depth_least (by decide) (by decide)

end Bingle.NetDet
