import Bingle.Lib.Network

/-!
# Writes broadcast to replicas

A write is made at one site and broadcast to the others, which make it when its packet arrives, in
whatever order the packets come.  What a site shows is its last write.  With nothing under way all
sites have made the same writes, each in an order of its own (`Balanced`).
-/

namespace Lib

abbrev Replicas (ι ν : Type*) := World ι (List ν) ν

inductive Cast (ι ν : Type*)
  | skip
  | write (i : ι) (v : ν)
  | deliver (p : Packet ι ν)

namespace Replicas

variable {ι ν : Type*} [DecidableEq ι]

def start : Replicas ι ν := ⟨fun _ => [], 0⟩

def step [DecidableEq ν] (sites : Finset ι) (w : Replicas ι ν) : Cast ι ν → Replicas ι ν
  | .skip => w
  | .write i v =>
    if i ∈ sites then w.act i (w.node i ++ [v], broadcast i (sites.erase i) v) else w
  | .deliver p =>
    if p ∈ w.net then (w.take p).act p.dst (w.node p.dst ++ [p.msg], 0) else w

def pending (net : Multiset (Packet ι ν)) (i : ι) : Multiset ν :=
  (net.filter fun p => p.dst = i).map Packet.msg

@[simp] lemma pending_zero (i : ι) : pending (0 : Multiset (Packet ι ν)) i = 0 := rfl

@[simp] lemma pending_add (s t : Multiset (Packet ι ν)) (i : ι) :
    pending (s + t) i = pending s i + pending t i := by
  simp [pending, Multiset.filter_add]

lemma pending_cons (p : Packet ι ν) (net : Multiset (Packet ι ν)) (i : ι) :
    pending (p ::ₘ net) i = (if i = p.dst then {p.msg} else 0) + pending net i := by
  by_cases h : p.dst = i
  · simp [pending, h]
  · simp [pending, h, Ne.symm h]

lemma pending_broadcast (src : ι) (dsts : Finset ι) (v : ν) (i : ι) :
    pending (broadcast src dsts v) i = if i ∈ dsts then {v} else 0 := by
  rw [pending, broadcast, Multiset.filter_map, Multiset.map_map]
  change (dsts.val.filter fun dst => dst = i).map (fun _ => v) = _
  rw [Multiset.filter_eq', Multiset.map_replicate, Multiset.count_eq_of_nodup dsts.nodup]
  by_cases h : i ∈ dsts
  · rw [if_pos h, if_pos (Finset.mem_val.mpr h), Multiset.replicate_one]
  · rw [if_neg h, if_neg (mt Finset.mem_val.mp h), Multiset.replicate_zero]

def Balanced (sites : Finset ι) (w : Replicas ι ν) : Prop :=
  ∃ all : Multiset ν, ∀ i ∈ sites, (w.node i : Multiset ν) + pending w.net i = all

lemma balanced_start (sites : Finset ι) : Balanced sites (start : Replicas ι ν) :=
  ⟨0, fun i _ => by simp [start]⟩

lemma coe_snoc (l : List ν) (v : ν) : ((l ++ [v] : List ν) : Multiset ν) = (l : Multiset ν) + {v} :=
  (Multiset.coe_add l [v]).symm

/-- What an event writes, at one site and with a packet for each of the others. -/
def written (sites : Finset ι) : Cast ι ν → Multiset ν
  | .write i v => if i ∈ sites then {v} else 0
  | _ => 0

variable {sites : Finset ι} {j i : ι} {w : Replicas ι ν}

lemma made_step [DecidableEq ν] (w : Replicas ι ν) (e : Cast ι ν)
    (hj : j ∈ sites) : ((w.step sites e).node j : Multiset ν) + pending (w.step sites e).net j =
      (w.node j : Multiset ν) + pending w.net j + written sites e := by
  cases e with
  | skip => exact (add_zero _).symm
  | write i v =>
    simp only [Replicas.step, written]
    split_ifs with hi
    · -- the new write is made at one site and under way to the others
      rw [World.act_net, pending_add, pending_broadcast]
      by_cases hji : j = i
      · subst hji
        rw [World.act_node_self, coe_snoc, if_neg (Finset.notMem_erase j sites), add_zero,
          add_right_comm]
      · rw [World.act_node_of_ne w _ hji, if_pos (Finset.mem_erase.mpr ⟨hji, hj⟩), add_assoc]
    · exact (add_zero _).symm
  | deliver p =>
    simp only [Replicas.step, written, add_zero]
    split_ifs with hp
    · -- the write that arrives is no longer under way
      have hnet : p ::ₘ w.net.erase p = w.net := Multiset.cons_erase hp
      rw [World.act_net, World.take_net, add_zero, ← hnet, pending_cons, hnet]
      by_cases hjp : j = p.dst
      · subst hjp
        rw [World.act_node_self, coe_snoc, if_pos rfl, add_assoc]
      · rw [World.act_node_of_ne _ _ hjp, if_neg hjp, zero_add]
        rfl
    · rfl

lemma Balanced.step [DecidableEq ν] (h : Balanced sites w)
    (e : Cast ι ν) : Balanced sites (w.step sites e) := by
  obtain ⟨all, hall⟩ := h
  exact ⟨all + written sites e, fun j hj => by rw [made_step w e hj, hall j hj]⟩

lemma Balanced.perm (h : Balanced sites w) (hnet : w.net = 0)
    (hi : i ∈ sites) (hj : j ∈ sites) : (w.node i).Perm (w.node j) := by
  obtain ⟨all, hall⟩ := h
  have hi' := hall i hi
  have hj' := hall j hj
  rw [hnet, pending_zero, add_zero] at hi' hj'
  exact Multiset.coe_eq_coe.mp (hi'.trans hj'.symm)

/-- **Agreement.**  Let every site show its last write, or what was there at first.  With nothing
under way two sites show the same exactly when their last writes are the same. -/
theorem Balanced.last_eq_iff (h : Balanced sites w)
    (hnet : w.net = 0) (hi : i ∈ sites) (hj : j ∈ sites) (init : ν) :
    (w.node i).getLast?.getD init = (w.node j).getLast?.getD init ↔
      (w.node i).getLast? = (w.node j).getLast? := by
  have hperm := h.perm hnet hi hj
  constructor
  · intro heq
    cases hwi : (w.node i).getLast? with
    | none =>
      -- no writes here, so none there
      have hnil : w.node i = [] := List.getLast?_eq_none_iff.mp hwi
      rw [hnil] at hperm
      rw [hperm.nil_eq.symm, List.getLast?_nil]
    | some v =>
      cases hwj : (w.node j).getLast? with
      | none =>
        have hnil : w.node j = [] := List.getLast?_eq_none_iff.mp hwj
        rw [hnil] at hperm
        rw [hperm.eq_nil] at hwi
        simp at hwi
      | some v' =>
        rw [hwi, hwj] at heq
        exact congrArg some heq
  · intro heq
    rw [heq]

end Replicas

end Lib
