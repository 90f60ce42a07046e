import Bingle.Mutex.Node
import Bingle.Lib.Run

/-!
# The grants one node sends

One node on its own, with whatever the others send it.  A ghost keeps the grants sent: to whom, and
until when the lease the node recorded runs.  A grant is over when its holder's release arrives,
when the holder is pruned, or when its lease has run out; the node's own stay inside is over when it
leaves.
-/

namespace Bingle.Mutex

open Option

def Msg.isGrant : Msg → Bool
  | .reply tag _ => tag ≠ some "membership_only"
  | _ => false

def grants (sent : Multiset Packet) : Multiset NodeId :=
  (sent.filter fun p => p.msg.isGrant).map Lib.Packet.dst

@[simp] lemma grants_zero : grants 0 = 0 := rfl

@[simp] lemma grants_add (a b : Multiset Packet) : grants (a + b) = grants a + grants b := by
  rw [grants, Multiset.filter_add, Multiset.map_add]
  rfl

@[simp] lemma grants_grantReply (st : Inner) (selfId id : NodeId) :
    grants {⟨selfId, id, st.grantReply⟩} = {id} := rfl

lemma grants_broadcast (selfId : NodeId) (ids : Finset NodeId) {msg : Msg}
    (hmsg : msg.isGrant = false) : grants (Lib.broadcast selfId ids msg) = 0 := by
  rw [grants, Multiset.map_eq_zero, Multiset.filter_eq_nil]
  intro p hp
  rw [(Lib.mem_broadcast.mp hp).2.2, hmsg]
  exact Bool.false_ne_true

@[simp] lemma grants_gossip (old st : Inner) (selfId : NodeId) :
    grants (old.gossip st selfId) = 0 := by
  rw [Inner.gossip]
  split_ifs
  · exact grants_broadcast selfId _ rfl
  · rfl

/-! ## The node on its own -/

/-- A node with a clock and the leases of its grants. -/
structure Voter where
  inner : Inner
  now : ℕ := 0
  leases : Multiset (NodeId × ℕ) := 0

namespace Voter

inductive Event
  | request (fromId : NodeId) (ts : ℤ) (knownIds : Option (Finset NodeId))
  | reply (fromId : NodeId) (responseTag : Option String) (knownIds : Option (Finset NodeId))
  | release (fromId : NodeId) (knownIds : Option (Finset NodeId))
  | acquire
  | enter
  | leave
  | prune (unreachable : Finset NodeId)
  | tick (d : ℕ)
deriving DecidableEq

variable (selfId : NodeId) (leaseDuration : ℕ)

/-- The section an event runs, and the packets sent after it.  A node runs one `acquire` at a time,
and does not send to itself, so it is never among its unreachable peers. -/
def act (v : Voter) : Event → Inner × Multiset Packet
  | .request fromId ts known => v.inner.handleRequest selfId leaseDuration v.now fromId ts known
  | .reply fromId tag known => v.inner.handleReply selfId fromId tag known
  | .release fromId known => v.inner.handleRelease selfId leaseDuration v.now fromId known
  | .acquire =>
    if v.inner.currentRequestTs = none ∧ v.inner.inCs = false then
      (v.inner.beginRequest selfId, 0)
    else (v.inner, 0)
  | .enter =>
    match v.inner.currentRequestTs with
    | some ts =>
      if v.inner.inCs = false ∧ v.inner.canEnter selfId v.now then
        (v.inner.enter selfId leaseDuration v.now ts, 0)
      else (v.inner, 0)
    | none => (v.inner, 0)
  | .leave => if v.inner.inCs then v.inner.leave selfId leaseDuration v.now else (v.inner, 0)
  | .prune unreachable => (v.inner.pruneUnreachable (unreachable.erase selfId), 0)
  | .tick _ => (v.inner, 0)

def standing (v : Voter) : Event → Multiset (NodeId × ℕ)
  | .release fromId _ => v.leases.filter fun g => g.1 ≠ fromId
  | .prune unreachable => v.leases.filter fun g => g.1 ∉ unreachable.erase selfId
  | .leave => if v.inner.inCs then v.leases.filter fun g => g.1 ≠ selfId else v.leases
  | _ => v.leases

def newLeases (r : Inner × Multiset Packet) : Multiset (NodeId × ℕ) :=
  (grants r.2).map fun id => (id, (r.1.lastHolder.map Holder.deadline).getD 0)

def elapsed : Event → ℕ
  | .tick d => d
  | _ => 0

def step (v : Voter) (e : Event) : Voter where
  inner := (v.act selfId leaseDuration e).1
  now := v.now + elapsed e
  leases := v.standing selfId e + newLeases (v.act selfId leaseDuration e)

def init (members : Finset NodeId) : Voter := { inner := { dynamicNodeIds := insert selfId members } }

def Lawful (v : Voter) (e : Event) : Prop :=
  ∀ y ∈ grants (v.act selfId leaseDuration e).2,
    (v.act selfId leaseDuration e).1.inCs = false ∧
      ∀ g ∈ v.standing selfId e, g.1 ≠ y → g.2 ≤ v.now

instance (v : Voter) (e : Event) : Decidable (v.Lawful selfId leaseDuration e) :=
  inferInstanceAs (Decidable (∀ y ∈ grants (v.act selfId leaseDuration e).2, _ ∧ _))

/-- A release that finds a deferred request finds the node outside, and the vote free, run out, with
the releaser, or with the one to be granted. -/
def ReleaseSafe (v : Voter) : Event → Prop
  | .release fromId _ =>
    ∀ r ∈ v.inner.deferred.head?, v.inner.inCs = false ∧
      ∀ h ∈ v.inner.lastHolder, h.id = fromId ∨ h.id = r.2 ∨ h.deadline ≤ v.now
  | _ => True

structure Backed (v : Voter) : Prop where
  running : ∀ g ∈ v.leases, v.now < g.2 →
    ∃ h ∈ v.inner.lastHolder, h.id = g.1 ∧ g.2 ≤ h.deadline
  recorded : v.inner.inCs = false → ∀ h ∈ v.inner.lastHolder, (h.id, h.deadline) ∈ v.leases
  inside : v.inner.inCs = true → ∀ h ∈ v.inner.lastHolder, h.id = selfId
  bounded : ∀ g ∈ v.leases, g.2 ≤ v.now + leaseDuration

end Voter

/-! ## What each section grants -/

namespace Inner

variable (st : Inner) (selfId fromId : NodeId) (leaseDuration now : ℕ)

lemma handleRequest_grants (ts : ℤ) (known : Option (Finset NodeId)) :
    let r := st.handleRequest selfId leaseDuration now fromId ts known
    r.1.inCs = st.inCs ∧
      (r.1.lastHolder = st.lastHolder ∧ grants r.2 = 0 ∨
        st.inCs = false ∧ st.heldAgainst now fromId = false ∧ grants r.2 = {fromId} ∧
          ∃ deadline, r.1.lastHolder = some ⟨fromId, ts, deadline⟩ ∧
            (deadline = now + leaseDuration ∨ st.lastHolder = some ⟨fromId, ts, deadline⟩)) := by
  simp only [handleRequest]
  split_ifs with hcs hheld hgrant
  · exact ⟨rfl, Or.inl ⟨rfl, grants_gossip _ _ _⟩⟩
  · exact ⟨rfl, Or.inl ⟨rfl, grants_gossip _ _ _⟩⟩
  · refine ⟨rfl, Or.inr ⟨eq_false_of_ne_true hcs, eq_false_of_ne_true hheld, by simp, _, rfl, ?_⟩⟩
    simp only [updateMembership]
    cases hlast : st.lastHolder with
    | none => exact Or.inl rfl
    | some h =>
      simp only
      split_ifs with hretry
      · exact Or.inr (by rw [← hretry.1, ← hretry.2])
      · exact Or.inl rfl
  · exact ⟨rfl, Or.inl ⟨rfl, grants_gossip _ _ _⟩⟩

lemma handleReply_grants (tag : Option String) (known : Option (Finset NodeId)) :
    let r := st.handleReply selfId fromId tag known
    r.1.inCs = st.inCs ∧ r.1.lastHolder = st.lastHolder ∧ grants r.2 = 0 := by
  simp only [handleReply]
  split_ifs <;> exact ⟨rfl, rfl, grants_gossip _ _ _⟩

lemma free_eq_filter :
    (if st.lastHolder.any (fun h => h.id = fromId) then { st with lastHolder := none } else st) =
      { st with lastHolder := st.lastHolder.filter fun h => h.id ≠ fromId } := by
  obtain ⟨lamport, reqTs, acks, deferred, lastHolder, inCs, ids⟩ := st
  cases lastHolder with
  | none => rfl
  | some h => by_cases hid : h.id = fromId <;> simp [hid, Option.filter]

lemma handleRelease_grants (known : Option (Finset NodeId)) :
    let r := st.handleRelease selfId leaseDuration now fromId known
    r.1.inCs = st.inCs ∧
      match st.deferred with
      | [] => r.1.lastHolder = st.lastHolder.filter (fun h => h.id ≠ fromId) ∧ grants r.2 = 0
      | (ts, id) :: _ =>
        grants r.2 = {id} ∧ r.1.lastHolder = some ⟨id, ts, now + leaseDuration⟩ := by
  obtain ⟨lamport, reqTs, acks, deferred, lastHolder, inCs, ids⟩ := st
  simp only [handleRelease, free_eq_filter, grants_add, grants_gossip, zero_add]
  cases deferred with
  | nil => exact ⟨rfl, rfl, rfl⟩
  | cons r rest => exact ⟨rfl, rfl, rfl⟩

lemma leave_grants :
    let r := st.leave selfId leaseDuration now
    r.1.inCs = false ∧
      match st.deferred with
      | [] => r.1.lastHolder = none ∧ grants r.2 = 0
      | (ts, id) :: _ =>
        grants r.2 = {id} ∧ r.1.lastHolder = some ⟨id, ts, now + leaseDuration⟩ := by
  obtain ⟨lamport, reqTs, acks, deferred, lastHolder, inCs, ids⟩ := st
  have hrelease : ∀ ids' known', grants (Lib.broadcast selfId ids' (.release known')) = 0 :=
    fun ids' _ => grants_broadcast selfId ids' rfl
  simp only [leave, grants_add, hrelease, add_zero]
  cases deferred with
  | nil => exact ⟨trivial, rfl, rfl⟩
  | cons r rest => exact ⟨trivial, rfl, rfl⟩

end Inner

/-! ## One event -/

namespace Voter

variable {selfId : NodeId} {leaseDuration : ℕ} {v : Voter}

variable {inner : Inner} {y : NodeId} {ts : ℤ} {deadline : ℕ} {e : Event}
  {r : Inner × Multiset Packet}

lemma Backed.same (h : v.Backed selfId leaseDuration) {now : ℕ}
    (hnow : v.now ≤ now) (hholder : inner.lastHolder = v.inner.lastHolder)
    (hcs : inner.inCs = v.inner.inCs) : Backed selfId leaseDuration ⟨inner, now, v.leases⟩ where
  running g hg hlt := hholder ▸ h.running g hg (lt_of_le_of_lt hnow hlt)
  recorded hout := by
    rw [hholder]
    exact h.recorded (hcs ▸ hout)
  inside hin := by
    rw [hholder]
    exact h.inside (hcs ▸ hin)
  bounded g hg := (h.bounded g hg).trans (Nat.add_le_add_right hnow _)

lemma Backed.filter (h : v.Backed selfId leaseDuration) (keep : NodeId → Bool)
    (hholder : inner.lastHolder = v.inner.lastHolder.filter fun x => keep x.id)
    (hcs : inner.inCs = v.inner.inCs) :
    Backed selfId leaseDuration ⟨inner, v.now, v.leases.filter fun g => keep g.1⟩ where
  running g hg hlt := by
    obtain ⟨hg, hkeep⟩ := Multiset.mem_filter.mp hg
    obtain ⟨x, hx, hid, hle⟩ := h.running g hg hlt
    refine ⟨x, ?_, hid, hle⟩
    rw [hholder, mem_def, filter_eq_some_iff]
    exact ⟨hx, hid ▸ hkeep⟩
  recorded hout x hx := by
    rw [hholder, mem_def, filter_eq_some_iff] at hx
    exact Multiset.mem_filter.mpr ⟨h.recorded (hcs ▸ hout) x hx.1, hx.2⟩
  inside hin x hx := by
    rw [hholder, mem_def, filter_eq_some_iff] at hx
    exact h.inside (hcs ▸ hin) x hx.1
  bounded g hg := h.bounded g (Multiset.mem_of_mem_filter hg)

lemma Backed.grant (h : v.Backed selfId leaseDuration) {leases : Multiset (NodeId × ℕ)}
    (hsub : leases ⊆ v.leases) (hover : ∀ g ∈ leases, g.1 ≠ y → g.2 ≤ v.now)
    (hdeadline : deadline ≤ v.now + leaseDuration)
    (hlater : ∀ g ∈ leases, v.now < g.2 → g.1 = y → g.2 ≤ deadline)
    (hholder : inner.lastHolder = some ⟨y, ts, deadline⟩) (hcs : inner.inCs = false) :
    Backed selfId leaseDuration ⟨inner, v.now, leases + {(y, deadline)}⟩ where
  running g hg hlt := by
    refine ⟨_, hholder, ?_⟩
    rcases Multiset.mem_add.mp hg with hg | hg
    · have hy : g.1 = y := by
        by_contra hne
        exact absurd hlt (not_lt.mpr (hover g hg hne))
      exact ⟨hy.symm, hlater g hg hlt hy⟩
    · rw [Multiset.mem_singleton] at hg
      subst hg
      exact ⟨rfl, le_rfl⟩
  recorded _ x hx := by
    rw [hholder, mem_def, some.injEq] at hx
    subst hx
    exact Multiset.mem_add.mpr (Or.inr (Multiset.mem_singleton_self _))
  inside hin := absurd hin (by simp [hcs])
  bounded g hg := by
    rcases Multiset.mem_add.mp hg with hg | hg
    · exact h.bounded g (hsub hg)
    · rw [Multiset.mem_singleton] at hg
      subst hg
      exact hdeadline

lemma Backed.over_of_not_heldAgainst (h : v.Backed selfId leaseDuration) {fromId : NodeId}
    (hheld : v.inner.heldAgainst v.now fromId = false) {g : NodeId × ℕ} (hg : g ∈ v.leases)
    (hne : g.1 ≠ fromId) : g.2 ≤ v.now := by
  by_contra hlt
  obtain ⟨x, hx, hid, hle⟩ := h.running g hg (not_le.mp hlt)
  rw [Inner.heldAgainst, show v.inner.lastHolder = some x from hx] at hheld
  simp only [decide_eq_false_iff_not, not_and, not_lt] at hheld
  exact hlt (hle.trans (hheld (hid ▸ hne)))

lemma lawful_of_grants_eq_zero (h0 : grants (v.act selfId leaseDuration e).2 = 0) :
    v.Lawful selfId leaseDuration e := by
  intro y hy
  rw [h0] at hy
  exact absurd hy (Multiset.notMem_zero y)

lemma newLeases_zero (h0 : grants r.2 = 0) : newLeases r = 0 := by
  rw [newLeases, h0, Multiset.map_zero]

lemma newLeases_singleton
    (hy : grants r.2 = {y}) (hholder : r.1.lastHolder = some ⟨y, ts, deadline⟩) :
    newLeases r = {(y, deadline)} := by
  rw [newLeases, hy, hholder, Multiset.map_singleton]
  rfl

lemma lawful_of_grants_eq (hy : grants (v.act selfId leaseDuration e).2 = {y})
    (hcs : (v.act selfId leaseDuration e).1.inCs = false)
    (hover : ∀ g ∈ v.standing selfId e, g.1 ≠ y → g.2 ≤ v.now) :
    v.Lawful selfId leaseDuration e := by
  intro y' hy'
  rw [hy, Multiset.mem_singleton] at hy'
  subst hy'
  exact ⟨hcs, hover⟩

lemma Backed.request (h : v.Backed selfId leaseDuration) (fromId : NodeId) (ts : ℤ)
    (known : Option (Finset NodeId)) :
    v.Lawful selfId leaseDuration (.request fromId ts known) ∧
      (v.step selfId leaseDuration (.request fromId ts known)).Backed selfId leaseDuration := by
  obtain ⟨hcs, hcase⟩ := v.inner.handleRequest_grants selfId fromId leaseDuration v.now ts known
  rcases hcase with ⟨hholder, h0⟩ | ⟨hout, hheld, hgrants, deadline, hholder, hdeadline⟩
  · refine ⟨lawful_of_grants_eq_zero h0, ?_⟩
    have hstep := h.same le_rfl hholder hcs
    simpa [step, act, elapsed, standing, newLeases_zero h0] using hstep
  · have hover : ∀ g ∈ v.leases, g.1 ≠ fromId → g.2 ≤ v.now :=
      fun g hg hne => h.over_of_not_heldAgainst hheld hg hne
    refine ⟨lawful_of_grants_eq hgrants (hcs.trans hout) hover, ?_⟩
    have hlater : ∀ g ∈ v.leases, v.now < g.2 → g.1 = fromId → g.2 ≤ deadline := by
      intro g hg hlt _
      rcases hdeadline with rfl | hold
      · exact h.bounded g hg
      · obtain ⟨x, hx, -, hle⟩ := h.running g hg hlt
        rw [hold, mem_def, some.injEq] at hx
        subst hx
        exact hle
    have hbound : deadline ≤ v.now + leaseDuration := by
      rcases hdeadline with rfl | hold
      · exact le_rfl
      · exact h.bounded _ (h.recorded hout _ hold)
    have hstep := h.grant (Multiset.Subset.refl _) hover hbound hlater hholder (hcs.trans hout)
    simpa [step, act, elapsed, standing, newLeases_singleton hgrants hholder] using hstep

lemma Backed.release_iff (h : v.Backed selfId leaseDuration) (fromId : NodeId)
    (known : Option (Finset NodeId)) :
    v.Lawful selfId leaseDuration (.release fromId known) ↔
      v.ReleaseSafe (.release fromId known) := by
  obtain ⟨hcs, hcase⟩ := v.inner.handleRelease_grants selfId fromId leaseDuration v.now known
  cases hd : v.inner.deferred with
  | nil =>
    rw [hd] at hcase
    exact iff_of_true (lawful_of_grants_eq_zero hcase.2) (by simp [ReleaseSafe, hd])
  | cons r rest =>
    obtain ⟨ts, y⟩ := r
    rw [hd] at hcase
    have hlawful : v.Lawful selfId leaseDuration (.release fromId known) ↔
        v.inner.inCs = false ∧ ∀ g ∈ v.leases, g.1 ≠ fromId → g.1 ≠ y → g.2 ≤ v.now := by
      simp [Lawful, act, standing, hcase.1, hcs]
    rw [hlawful]
    simp only [ReleaseSafe, hd, List.head?_cons, mem_def, some.injEq, forall_eq']
    refine and_congr_right fun hout => ⟨fun hover x hx => ?_, fun hsafe g hg hfrom hy => ?_⟩
    · by_contra! hne
      obtain ⟨hfrom, hy, hlt⟩ := hne
      exact absurd (hover _ (h.recorded hout x hx) hfrom hy) (not_le.mpr hlt)
    · by_contra hlt
      obtain ⟨x, hx, hid, hle⟩ := h.running g hg (not_le.mp hlt)
      rcases hsafe x hx with hx | hx | hx
      · exact hfrom (hid ▸ hx)
      · exact hy (hid ▸ hx)
      · exact hlt (hle.trans hx)

lemma Backed.release (h : v.Backed selfId leaseDuration) (fromId : NodeId)
    (known : Option (Finset NodeId))
    (hlawful : v.Lawful selfId leaseDuration (.release fromId known)) :
    (v.step selfId leaseDuration (.release fromId known)).Backed selfId leaseDuration := by
  obtain ⟨hcs, hcase⟩ := v.inner.handleRelease_grants selfId fromId leaseDuration v.now known
  cases hd : v.inner.deferred with
  | nil =>
    rw [hd] at hcase
    have hstep := h.filter (fun id => id ≠ fromId) hcase.1 hcs
    simpa [step, act, elapsed, standing, newLeases_zero hcase.2] using hstep
  | cons r rest =>
    rw [hd] at hcase
    have hy := hlawful r.2 (by rw [act, hcase.1]; exact Multiset.mem_singleton_self _)
    have hsub : v.standing selfId (.release fromId known) ⊆ v.leases :=
      Multiset.subset_of_le (Multiset.filter_le _ _)
    have hstep := h.grant hsub hy.2 le_rfl (fun g hg _ _ => h.bounded g (hsub hg)) hcase.2 hy.1
    simpa [step, act, elapsed, standing, newLeases_singleton hcase.1 hcase.2] using hstep

lemma Backed.leave (h : v.Backed selfId leaseDuration) :
    v.Lawful selfId leaseDuration .leave ∧
      (v.step selfId leaseDuration .leave).Backed selfId leaseDuration := by
  by_cases hin : v.inner.inCs = true
  · have hact : v.act selfId leaseDuration .leave = v.inner.leave selfId leaseDuration v.now := by
      rw [act, if_pos hin]
    have hstanding : v.standing selfId .leave = v.leases.filter fun g => g.1 ≠ selfId := by
      rw [standing, if_pos hin]
    have hover : ∀ g ∈ v.standing selfId .leave, g.2 ≤ v.now := by
      intro g hg
      rw [hstanding, Multiset.mem_filter] at hg
      by_contra hlt
      obtain ⟨x, hx, hid, -⟩ := h.running g hg.1 (not_le.mp hlt)
      exact hg.2 (hid ▸ h.inside hin x hx)
    obtain ⟨hcs, hcase⟩ := v.inner.leave_grants selfId leaseDuration v.now
    rw [← hact] at hcs hcase
    have hsub : v.standing selfId .leave ⊆ v.leases :=
      hstanding ▸ Multiset.subset_of_le (Multiset.filter_le _ _)
    cases hd : v.inner.deferred with
    | nil =>
      rw [hd] at hcase
      refine ⟨lawful_of_grants_eq_zero hcase.2, ?_⟩
      rw [step, newLeases_zero hcase.2, add_zero]
      exact ⟨fun g hg hlt => absurd hlt (not_lt.mpr (hover g hg)), by simp [hcase.1],
        by simp [hcase.1], fun g hg => h.bounded g (hsub hg)⟩
    | cons r rest =>
      rw [hd] at hcase
      refine ⟨lawful_of_grants_eq hcase.1 hcs fun g hg _ => hover g hg, ?_⟩
      rw [step, newLeases_singleton hcase.1 hcase.2]
      exact h.grant hsub (fun g hg _ => hover g hg) le_rfl
        (fun g hg _ _ => h.bounded g (hsub hg)) hcase.2 hcs
  · have hact : v.act selfId leaseDuration .leave = (v.inner, 0) := by rw [act, if_neg hin]
    have h0 : grants (v.act selfId leaseDuration .leave).2 = 0 := by rw [hact]; rfl
    refine ⟨lawful_of_grants_eq_zero h0, ?_⟩
    have hstep : Backed selfId leaseDuration ⟨v.inner, v.now, v.leases⟩ := h.same le_rfl rfl rfl
    simpa [step, elapsed, standing, hin, newLeases, hact] using hstep

lemma Backed.enter (h : v.Backed selfId leaseDuration) :
    (v.step selfId leaseDuration .enter).Backed selfId leaseDuration := by
  have hsame : Backed selfId leaseDuration ⟨v.inner, v.now, v.leases⟩ := h.same le_rfl rfl rfl
  cases hts : v.inner.currentRequestTs with
  | none => simpa [step, act, elapsed, hts, standing, newLeases] using hsame
  | some ts =>
    by_cases hcan : v.inner.inCs = false ∧ v.inner.canEnter selfId v.now = true
    · have hstep : Backed selfId leaseDuration
          ⟨v.inner.enter selfId leaseDuration v.now ts, v.now, v.leases⟩ := by
        refine ⟨fun g hg hlt => ⟨_, rfl, ?_, h.bounded g hg⟩, nofun, ?_, h.bounded⟩
        · obtain ⟨x, hx, hid, hle⟩ := h.running g hg hlt
          have hfree := hcan.2
          rw [Inner.canEnter, show v.inner.lastHolder = some x from hx] at hfree
          simp only [decide_eq_true_eq] at hfree
          rcases hfree.2 with hself | hdone
          · exact hself.symm.trans hid
          · exact absurd (hle.trans hdone) (not_le.mpr hlt)
        · rintro - x hx
          rw [Inner.enter, mem_def, some.injEq] at hx
          exact hx ▸ rfl
      simpa [step, act, elapsed, hts, hcan, standing, newLeases] using hstep
    · simpa [step, act, elapsed, hts, hcan, standing, newLeases] using hsame

lemma Backed.lawful_iff (h : v.Backed selfId leaseDuration) (e : Event) :
    v.Lawful selfId leaseDuration e ↔ v.ReleaseSafe e := by
  cases e with
  | request fromId ts known => exact iff_of_true (h.request fromId ts known).1 trivial
  | reply fromId tag known =>
    have h0 := (v.inner.handleReply_grants selfId fromId tag known).2.2
    exact iff_of_true (lawful_of_grants_eq_zero h0) trivial
  | release fromId known => exact h.release_iff fromId known
  | acquire =>
    refine iff_of_true (lawful_of_grants_eq_zero ?_) trivial
    rw [act]
    split_ifs <;> rfl
  | enter =>
    refine iff_of_true (lawful_of_grants_eq_zero ?_) trivial
    simp only [act]
    split
    · split_ifs <;> rfl
    · rfl
  | leave => exact iff_of_true h.leave.1 trivial
  | prune unreachable => exact iff_of_true (lawful_of_grants_eq_zero rfl) trivial
  | tick d => exact iff_of_true (lawful_of_grants_eq_zero rfl) trivial

lemma Backed.step (h : v.Backed selfId leaseDuration) (e : Event)
    (hlawful : v.Lawful selfId leaseDuration e) :
    (v.step selfId leaseDuration e).Backed selfId leaseDuration := by
  cases e with
  | request fromId ts known => exact (h.request fromId ts known).2
  | reply fromId tag known =>
    obtain ⟨hcs, hholder, h0⟩ := v.inner.handleReply_grants selfId fromId tag known
    have hstep := h.same le_rfl hholder hcs
    simpa [Voter.step, act, elapsed, standing, newLeases_zero h0] using hstep
  | release fromId known => exact h.release fromId known hlawful
  | acquire =>
    have hstep : Backed selfId leaseDuration
        ⟨(v.act selfId leaseDuration .acquire).1, v.now, v.leases⟩ := by
      refine h.same le_rfl ?_ ?_ <;>
      · rw [act]
        split_ifs <;> rfl
    have h0 : newLeases (v.act selfId leaseDuration .acquire) = 0 := by
      rw [act]
      split_ifs <;> rfl
    simpa [Voter.step, elapsed, standing, h0] using hstep
  | enter => exact h.enter
  | leave => exact h.leave.2
  | prune unreachable =>
    have hstep : Backed selfId leaseDuration
        ⟨v.inner.pruneUnreachable (unreachable.erase selfId), v.now, _⟩ :=
      h.filter (fun id => id ∉ unreachable.erase selfId) rfl rfl
    simpa only [Voter.step, act, elapsed, standing, newLeases, grants_zero, Multiset.map_zero,
      add_zero, decide_eq_true_eq] using hstep
  | tick d =>
    have hstep : Backed selfId leaseDuration ⟨v.inner, v.now + d, v.leases⟩ :=
      h.same (Nat.le_add_right _ _) rfl rfl
    simpa [Voter.step, act, elapsed, standing, newLeases] using hstep

lemma backed_init (members : Finset NodeId) :
    (init selfId members).Backed selfId leaseDuration := by
  refine ⟨?_, ?_, ?_, ?_⟩ <;> simp [init]

/-- **One grant at a time.**  A node grants nobody while it is inside and nobody but `X` while a
grant to `X` is not over, exactly when every release that finds a deferred request finds the node
outside and its vote free, run out, with the releaser or with the one to be granted. -/
theorem one_grant_at_a_time_iff (selfId : NodeId) (leaseDuration : ℕ) (members : Finset NodeId)
    (es : List Event) :
    Lib.Along (step selfId leaseDuration) (Lawful selfId leaseDuration) (init selfId members) es ↔
      Lib.Along (step selfId leaseDuration) ReleaseSafe (init selfId members) es := by
  constructor
  · exact Lib.Along.of_invariant (fun v e hb hl => Backed.step hb e hl)
      (fun v e hb hl => (Backed.lawful_iff hb e).mp hl) (backed_init members)
  · exact Lib.Along.of_invariant
      (fun v e hb hs => Backed.step hb e ((Backed.lawful_iff hb e).mpr hs))
      (fun v e hb hs => (Backed.lawful_iff hb e).mpr hs) (backed_init members)

def strangersRelease : List Event :=
  [.request "x" 1 none, .request "y" 2 none, .release "z" none]

theorem strangers_release_grants_second :
    ¬ Lib.Along (step "n" 1000) (Lawful "n" 1000) (init "n" {"x", "y", "z"}) strangersRelease := by
  decide

end Voter

end Bingle.Mutex
