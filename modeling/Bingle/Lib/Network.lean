import Mathlib

/-!
# Nodes and packets in flight

Each node's own state, and the packets that have been sent and not yet delivered, a multiset.  A
node acts by replacing its state and sending packets (`World.act`); a packet is delivered by taking
it out of flight (`World.take`) and letting its destination act.
-/

namespace Lib

structure Packet (ι μ : Type*) where
  src : ι
  dst : ι
  msg : μ
deriving DecidableEq

structure World (ι σ μ : Type*) where
  node : ι → σ
  net : Multiset (Packet ι μ)

namespace World

variable {ι σ μ : Type*} [DecidableEq ι]

def act (w : World ι σ μ) (i : ι) (r : σ × Multiset (Packet ι μ)) : World ι σ μ :=
  ⟨Function.update w.node i r.1, w.net + r.2⟩

def take [DecidableEq μ] (w : World ι σ μ) (p : Packet ι μ) : World ι σ μ :=
  ⟨w.node, w.net.erase p⟩

variable (w : World ι σ μ)

@[simp] lemma act_node_self (i : ι) (r : σ × Multiset (Packet ι μ)) :
    (w.act i r).node i = r.1 := Function.update_self ..

@[simp] lemma act_node_of_ne {i j : ι} (r : σ × Multiset (Packet ι μ)) (h : j ≠ i) :
    (w.act i r).node j = w.node j := Function.update_of_ne h ..

lemma act_net (i : ι) (r : σ × Multiset (Packet ι μ)) :
    (w.act i r).net = w.net + r.2 := rfl

lemma act_same (i : ι) : w.act i (w.node i, 0) = w := by
  simp [act]

lemma take_net [DecidableEq μ] (p : Packet ι μ) : (w.take p).net = w.net.erase p := rfl

variable {w} {Q : Packet ι μ → Prop} {i : ι} {r : σ × Multiset (Packet ι μ)}

lemma forall_node_act {Q : ι → σ → Prop} (h : ∀ i, Q i (w.node i)) (hr : Q i r.1) :
    ∀ j, Q j ((w.act i r).node j) := by
  intro j
  by_cases hj : j = i
  · subst hj
    rwa [act_node_self]
  · rw [act_node_of_ne w r hj]
    exact h j

lemma forall_net_act (h : ∀ p ∈ w.net, Q p) (hr : ∀ p ∈ r.2, Q p) :
    ∀ p ∈ (w.act i r).net, Q p := by
  intro p hp
  rcases Multiset.mem_add.mp hp with hp | hp
  · exact h p hp
  · exact hr p hp

lemma mem_net_of_act (hr : ∀ p ∈ r.2, Q p) {p : Packet ι μ}
    (hp : p ∈ (w.act i r).net) (hQ : ¬ Q p) : p ∈ w.net :=
  (Multiset.mem_add.mp hp).resolve_right fun h => hQ (hr p h)

lemma forall_net_take [DecidableEq μ] (h : ∀ p ∈ w.net, Q p) (q : Packet ι μ) :
    ∀ p ∈ (w.take q).net, Q p :=
  fun p hp => h p (Multiset.mem_of_mem_erase hp)

end World

def broadcast {ι μ : Type*} (src : ι) (dsts : Finset ι) (msg : μ) : Multiset (Packet ι μ) :=
  dsts.val.map fun dst => ⟨src, dst, msg⟩

lemma mem_broadcast {ι μ : Type*} {src : ι} {dsts : Finset ι} {msg : μ} {p : Packet ι μ} :
    p ∈ broadcast src dsts msg ↔ p.src = src ∧ p.dst ∈ dsts ∧ p.msg = msg := by
  simp only [broadcast, Multiset.mem_map, Finset.mem_val]
  constructor
  · rintro ⟨dst, hdst, rfl⟩
    exact ⟨rfl, hdst, rfl⟩
  · rintro ⟨rfl, hdst, rfl⟩
    exact ⟨p.dst, hdst, rfl⟩

end Lib
