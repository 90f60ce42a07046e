import Bingle.Lib.Network

/-!
# One node of the distributed mutex

`ModifiedLamportDistributedMutex` (`bingle_core/src/distributed_mutex/mod.rs`): Lamport's mutual
exclusion with all-node grants and leases.  Each function is one section of the source under the
lock, with the messages it sends after the lock is dropped.  The retry loop of `acquire` is two of
them, `tryEnter` (the check, before and after the wait) and `broadcastRequest` (after a timeout).
-/

namespace Bingle.Mutex

abbrev NodeId := String

def i64Add (a b : ℤ) : ℤ := Int.bmod (a + b) (2 ^ 64)

/-- The messages of the protocol (`MutexRequest`, `MutexResponse`, `MutexRelease`).  A reply carries
no timestamp of the request it answers. -/
inductive Msg
  | request (lamportTimestamp : ℤ) (knownIds : Option (Finset NodeId))
  | reply (responseTag : Option String) (knownIds : Option (Finset NodeId))
  | release (knownIds : Option (Finset NodeId))
deriving DecidableEq

def Msg.knownIds : Msg → Option (Finset NodeId)
  | .request _ known => known
  | .reply _ known => known
  | .release known => known

abbrev Packet := Lib.Packet NodeId Msg

structure Holder where
  id : NodeId
  ts : ℤ
  deadline : ℕ
deriving DecidableEq, Repr

/-- `Inner`: what a node of the mutex keeps under its lock. -/
structure Inner where
  lamport : ℤ := 0
  currentRequestTs : Option ℤ := none
  acks : Finset NodeId := ∅
  deferred : List (ℤ × NodeId) := []
  /-- the holder last granted (or itself, inside) with its lease -/
  lastHolder : Option Holder := none
  inCs : Bool := false
  dynamicNodeIds : Finset NodeId := ∅
deriving DecidableEq

def before (a b : ℤ × NodeId) : Bool := a.1 < b.1 ∨ a.1 = b.1 ∧ a.2 < b.2

def insertDeferred (r : ℤ × NodeId) : List (ℤ × NodeId) → List (ℤ × NodeId)
  | [] => [r]
  | q :: rest =>
    if r = q then q :: rest
    else if before r q then r :: q :: rest
    else q :: insertDeferred r rest

lemma mem_insertDeferred {r q : ℤ × NodeId} {rs : List (ℤ × NodeId)} :
    q ∈ insertDeferred r rs ↔ q = r ∨ q ∈ rs := by
  induction rs with
  | nil => simp [insertDeferred]
  | cons p rest ih =>
    unfold insertDeferred
    split_ifs with hp
    · subst hp; simp
    · simp
    · simp only [List.mem_cons, ih]
      tauto

namespace Inner

def requiredAcks (st : Inner) : ℕ := st.dynamicNodeIds.card

def updateMembership (st : Inner) (fromId : NodeId) (knownIds : Option (Finset NodeId)) : Inner :=
  { st with dynamicNodeIds := insert fromId st.dynamicNodeIds ∪ knownIds.getD ∅ }

def heldAgainst (st : Inner) (now : ℕ) (id : NodeId) : Bool :=
  match st.lastHolder with
  | some h => h.id ≠ id ∧ h.deadline > now
  | none => false

def defer (st : Inner) (ts : ℤ) (fromId : NodeId) : Inner :=
  { st with deferred := insertDeferred (ts, fromId) st.deferred }

def grantNow (st : Inner) (selfId : NodeId) (ts : ℤ) (fromId : NodeId) : Bool :=
  match st.currentRequestTs with
  | none => true
  | some myTs => before (ts, fromId) (myTs, selfId)

def grant (st : Inner) (leaseDuration now : ℕ) (ts : ℤ) (fromId : NodeId) : Inner :=
  let deadline := match st.lastHolder with
    | some h => if h.id = fromId ∧ h.ts = ts then h.deadline else now + leaseDuration
    | none => now + leaseDuration
  { st with
    lastHolder := some ⟨fromId, ts, deadline⟩
    deferred := st.deferred.filter fun r => r.2 ≠ fromId }

def grantReply (st : Inner) : Msg := .reply none (some st.dynamicNodeIds)

def peers (st : Inner) (selfId : NodeId) : Finset NodeId := st.dynamicNodeIds.erase selfId

def broadcastMembership (st : Inner) (selfId : NodeId) : Multiset Packet :=
  Lib.broadcast selfId (st.peers selfId) (.reply (some "membership_only") (some st.dynamicNodeIds))

def gossip (old st : Inner) (selfId : NodeId) : Multiset Packet :=
  if st.dynamicNodeIds ≠ old.dynamicNodeIds then st.broadcastMembership selfId else 0

def handleRequest (st : Inner) (selfId : NodeId) (leaseDuration now : ℕ) (fromId : NodeId) (ts : ℤ)
    (knownIds : Option (Finset NodeId)) : Inner × Multiset Packet :=
  let old := st
  let st := { st with lamport := i64Add (max st.lamport ts) 1 }
  let st := st.updateMembership fromId knownIds
  let news := old.gossip st selfId
  if st.inCs then (st.defer ts fromId, news)
  else if st.heldAgainst now fromId then (st.defer ts fromId, news)
  else if st.grantNow selfId ts fromId then
    let st := st.grant leaseDuration now ts fromId
    (st, news + {⟨selfId, fromId, st.grantReply⟩})
  else (st.defer ts fromId, news)

/-- `handle_reply`: while requesting, a reply that is not gossip counts as a grant. -/
def handleReply (st : Inner) (selfId fromId : NodeId) (responseTag : Option String)
    (knownIds : Option (Finset NodeId)) : Inner × Multiset Packet :=
  let old := st
  let st := st.updateMembership fromId knownIds
  let news := old.gossip st selfId
  if st.currentRequestTs.isSome ∧ responseTag ≠ some "membership_only" then
    ({ st with acks := insert fromId st.acks }, news)
  else (st, news)

def grantDeferred (st : Inner) (selfId : NodeId) (leaseDuration now : ℕ) : Inner × Multiset Packet :=
  match st.deferred with
  | [] => (st, 0)
  | (ts, id) :: rest =>
    let st := { st with deferred := rest, lastHolder := some ⟨id, ts, now + leaseDuration⟩ }
    (st, {⟨selfId, id, st.grantReply⟩})

/-- `handle_release`: the holder's vote is free again; the earliest deferred request gets the vote,
whoever the release is from. -/
def handleRelease (st : Inner) (selfId : NodeId) (leaseDuration now : ℕ) (fromId : NodeId)
    (knownIds : Option (Finset NodeId)) : Inner × Multiset Packet :=
  let old := st
  let st := st.updateMembership fromId knownIds
  let news := old.gossip st selfId
  let st :=
    if st.lastHolder.any (fun h => h.id = fromId) then { st with lastHolder := none } else st
  let (st, reply) := st.grantDeferred selfId leaseDuration now
  (st, news + reply)

def beginRequest (st : Inner) (selfId : NodeId) : Inner :=
  let ts := i64Add st.lamport 1
  { st with lamport := ts, currentRequestTs := some ts, acks := {selfId} }

def broadcastRequest (st : Inner) (selfId : NodeId) (ts : ℤ) : Multiset Packet :=
  Lib.broadcast selfId (st.peers selfId) (.request ts (some st.dynamicNodeIds))

def pruneUnreachable (st : Inner) (unreachable : Finset NodeId) : Inner :=
  { st with
    dynamicNodeIds := st.dynamicNodeIds \ unreachable
    deferred := st.deferred.filter fun r => r.2 ∉ unreachable
    lastHolder := st.lastHolder.filter fun h => h.id ∉ unreachable }

def canEnter (st : Inner) (selfId : NodeId) (now : ℕ) : Bool :=
  let voteFree : Bool := match st.lastHolder with
    | none => true
    | some h => h.id = selfId ∨ h.deadline ≤ now
  st.acks.card ≥ st.requiredAcks ∧ voteFree

def enter (st : Inner) (selfId : NodeId) (leaseDuration now : ℕ) (ts : ℤ) : Inner :=
  { st with inCs := true, lastHolder := some ⟨selfId, ts, now + leaseDuration⟩ }

/-- `acquire`, after the critical section: the vote goes to the earliest deferred request, the cycle
is over, and every peer is told. -/
def leave (st : Inner) (selfId : NodeId) (leaseDuration now : ℕ) : Inner × Multiset Packet :=
  let (st, reply) := { st with lastHolder := none }.grantDeferred selfId leaseDuration now
  let st := { st with inCs := false, currentRequestTs := none, acks := ∅ }
  (st, reply +
    Lib.broadcast selfId (st.peers selfId) (.release (some st.dynamicNodeIds)))

def handle (st : Inner) (selfId : NodeId) (leaseDuration now : ℕ) (fromId : NodeId) :
    Msg → Inner × Multiset Packet
  | .request ts known => st.handleRequest selfId leaseDuration now fromId ts known
  | .reply tag known => st.handleReply selfId fromId tag known
  | .release known => st.handleRelease selfId leaseDuration now fromId known

/-! ## What each section does to the vote

`holderId` is the vote; the other fields matter for a node's own request.  One lemma per section
says what it leaves of both. -/

def holderId (st : Inner) : Option NodeId := st.lastHolder.map Holder.id

section Effects

variable (st : Inner) (selfId fromId : NodeId) (leaseDuration now : ℕ)

lemma handleRequest_effect (ts : ℤ) (known : Option (Finset NodeId)) :
    (st.handleRequest selfId leaseDuration now fromId ts known).1.acks = st.acks ∧
    (st.handleRequest selfId leaseDuration now fromId ts known).1.currentRequestTs =
      st.currentRequestTs ∧
    (st.handleRequest selfId leaseDuration now fromId ts known).1.inCs = st.inCs ∧
    ((st.handleRequest selfId leaseDuration now fromId ts known).1.holderId = st.holderId ∨
      st.inCs = false ∧ st.heldAgainst now fromId = false ∧
        (st.handleRequest selfId leaseDuration now fromId ts known).1.holderId = some fromId) := by
  unfold handleRequest
  dsimp only
  split_ifs with hcs hheld hgrant
  · exact ⟨rfl, rfl, rfl, Or.inl rfl⟩
  · exact ⟨rfl, rfl, rfl, Or.inl rfl⟩
  · exact ⟨rfl, rfl, rfl, Or.inr ⟨eq_false_of_ne_true hcs, eq_false_of_ne_true hheld, rfl⟩⟩
  · exact ⟨rfl, rfl, rfl, Or.inl rfl⟩

lemma handleReply_effect (tag : Option String) (known : Option (Finset NodeId)) :
    (st.handleReply selfId fromId tag known).1.holderId = st.holderId ∧
    (st.handleReply selfId fromId tag known).1.currentRequestTs = st.currentRequestTs ∧
    (st.handleReply selfId fromId tag known).1.inCs = st.inCs ∧
    ((st.handleReply selfId fromId tag known).1.acks = st.acks ∨
      st.currentRequestTs.isSome ∧ tag ≠ some "membership_only" ∧
        (st.handleReply selfId fromId tag known).1.acks = insert fromId st.acks) := by
  unfold handleReply
  dsimp only
  split_ifs with h
  · exact ⟨rfl, rfl, rfl, Or.inr ⟨h.1, h.2, rfl⟩⟩
  · exact ⟨rfl, rfl, rfl, Or.inl rfl⟩

lemma grantDeferred_effect :
    (st.grantDeferred selfId leaseDuration now).1.acks = st.acks ∧
    (st.grantDeferred selfId leaseDuration now).1.currentRequestTs = st.currentRequestTs ∧
    (st.grantDeferred selfId leaseDuration now).1.inCs = st.inCs ∧
    (st.grantDeferred selfId leaseDuration now).1.dynamicNodeIds = st.dynamicNodeIds ∧
    (st.grantDeferred selfId leaseDuration now).1.holderId =
      (st.deferred.head?.map Prod.snd <|> st.holderId) := by
  unfold grantDeferred
  cases hd : st.deferred with
  | nil => simp
  | cons r rest => exact ⟨rfl, rfl, rfl, rfl, rfl⟩

lemma handleRelease_effect (known : Option (Finset NodeId)) :
    (st.handleRelease selfId leaseDuration now fromId known).1.acks = st.acks ∧
    (st.handleRelease selfId leaseDuration now fromId known).1.currentRequestTs =
      st.currentRequestTs ∧
    (st.handleRelease selfId leaseDuration now fromId known).1.inCs = st.inCs ∧
    (st.handleRelease selfId leaseDuration now fromId known).1.holderId =
      (st.deferred.head?.map Prod.snd <|>
        if st.holderId = some fromId then none else st.holderId) := by
  have hcond : (st.updateMembership fromId known).lastHolder.any (fun h => h.id = fromId) = true ↔
      st.holderId = some fromId := by
    unfold updateMembership holderId
    cases st.lastHolder <;> simp
  unfold handleRelease
  dsimp only
  split_ifs with h hid hid
  · obtain ⟨ha, hc, hi, -, hh⟩ := grantDeferred_effect
      { st.updateMembership fromId known with lastHolder := none } selfId leaseDuration now
    exact ⟨ha, hc, hi, hh⟩
  · exact absurd (hcond.mp h) hid
  · exact absurd (hcond.mpr hid) h
  · obtain ⟨ha, hc, hi, -, hh⟩ :=
      grantDeferred_effect (st.updateMembership fromId known) selfId leaseDuration now
    exact ⟨ha, hc, hi, hh⟩

lemma leave_effect :
    (st.leave selfId leaseDuration now).1.acks = ∅ ∧
    (st.leave selfId leaseDuration now).1.currentRequestTs = none ∧
    (st.leave selfId leaseDuration now).1.inCs = false := ⟨rfl, rfl, rfl⟩

end Effects

/-! ## Everything stays among the members -/

def Within (members : Finset NodeId) (p : Packet) : Prop :=
  p.src ∈ members ∧ p.dst ∈ members ∧ p.msg.knownIds.getD ∅ ⊆ members

structure Settled (members : Finset NodeId) (st : Inner) : Prop where
  known : st.dynamicNodeIds = members
  acks : st.acks ⊆ members
  deferred : ∀ r ∈ st.deferred, r.2 ∈ members

section Members

variable {members : Finset NodeId} {st : Inner} {selfId fromId : NodeId} {leaseDuration now : ℕ}

variable {known : Option (Finset NodeId)}

lemma Settled.updateMembership (h : st.Settled members) (hfrom : fromId ∈ members)
    (hknown : known.getD ∅ ⊆ members) :
    (st.updateMembership fromId known).dynamicNodeIds = members := by
  rw [Inner.updateMembership, h.known, Finset.insert_eq_of_mem hfrom,
    Finset.union_eq_left.mpr hknown]

lemma Settled.defer (h : st.Settled members) (hfrom : fromId ∈ members) (ts : ℤ) :
    (st.defer ts fromId).Settled members where
  known := h.known
  acks := h.acks
  deferred := fun r hr => by
    rcases mem_insertDeferred.mp hr with rfl | hr
    · exact hfrom
    · exact h.deferred r hr

lemma Settled.grant (h : st.Settled members) (ts : ℤ) :
    (st.grant leaseDuration now ts fromId).Settled members where
  known := h.known
  acks := h.acks
  deferred := fun r hr => h.deferred r (List.mem_of_mem_filter hr)

lemma Settled.within_grantReply (h : st.Settled members) (hself : selfId ∈ members)
    (hfrom : fromId ∈ members) : Within members ⟨selfId, fromId, st.grantReply⟩ :=
  ⟨hself, hfrom, h.known.subset⟩

lemma Settled.within_broadcast (h : st.Settled members) (hself : selfId ∈ members) {msg : Msg}
    (hmsg : msg.knownIds = some st.dynamicNodeIds) :
    ∀ p ∈ Lib.broadcast selfId (st.peers selfId) msg, Within members p := by
  intro p hp
  obtain ⟨hsrc, hdst, hm⟩ := Lib.mem_broadcast.mp hp
  refine ⟨hsrc ▸ hself, h.known ▸ Finset.mem_of_mem_erase hdst, ?_⟩
  rw [hm, hmsg]
  exact h.known.subset

lemma Settled.within_grantDeferred (h : st.Settled members) (hself : selfId ∈ members) :
    (st.grantDeferred selfId leaseDuration now).1.Settled members ∧
      ∀ p ∈ (st.grantDeferred selfId leaseDuration now).2, Within members p := by
  unfold Inner.grantDeferred
  cases hd : st.deferred with
  | nil => exact ⟨h, fun p hp => absurd hp (Multiset.notMem_zero p)⟩
  | cons r rest =>
    have hmem : ∀ q ∈ r :: rest, q.2 ∈ members := hd ▸ h.deferred
    refine ⟨⟨h.known, h.acks, fun q hq => hmem q (List.mem_cons_of_mem r hq)⟩, fun p hp => ?_⟩
    rw [Multiset.mem_singleton] at hp
    subst hp
    exact ⟨hself, hmem r List.mem_cons_self, h.known.subset⟩

lemma Settled.gossip_eq_zero (h : st.Settled members) {st' : Inner}
    (h' : st'.dynamicNodeIds = members) : st.gossip st' selfId = 0 := by
  unfold Inner.gossip
  rw [if_neg (not_not_intro (h'.trans h.known.symm))]

lemma Settled.handleRequest (h : st.Settled members) (hself : selfId ∈ members)
    (hfrom : fromId ∈ members) (ts : ℤ) (hknown : known.getD ∅ ⊆ members) :
    (st.handleRequest selfId leaseDuration now fromId ts known).1.Settled members ∧
      ∀ p ∈ (st.handleRequest selfId leaseDuration now fromId ts known).2, Within members p := by
  have hdyn : ({ st with lamport := i64Add (max st.lamport ts) 1 }.updateMembership fromId
      known).dynamicNodeIds = members := h.updateMembership hfrom hknown
  have hup : ({ st with lamport := i64Add (max st.lamport ts) 1 }.updateMembership fromId
      known).Settled members := ⟨hdyn, h.acks, h.deferred⟩
  have hnone : ∀ p ∈ (0 : Multiset Packet), Within members p :=
    fun p hp => absurd hp (Multiset.notMem_zero p)
  simp only [Inner.handleRequest, h.gossip_eq_zero hdyn]
  split_ifs
  · exact ⟨hup.defer hfrom ts, hnone⟩
  · exact ⟨hup.defer hfrom ts, hnone⟩
  · refine ⟨hup.grant ts, fun p hp => ?_⟩
    rw [zero_add, Multiset.mem_singleton] at hp
    subst hp
    exact (hup.grant ts).within_grantReply hself hfrom
  · exact ⟨hup.defer hfrom ts, hnone⟩

lemma Settled.handleReply (h : st.Settled members) (hfrom : fromId ∈ members) (tag : Option String)
    (hknown : known.getD ∅ ⊆ members) :
    (st.handleReply selfId fromId tag known).1.Settled members ∧
      ∀ p ∈ (st.handleReply selfId fromId tag known).2, Within members p := by
  have hdyn := h.updateMembership hfrom hknown
  have hnone : ∀ p ∈ (0 : Multiset Packet), Within members p :=
    fun p hp => absurd hp (Multiset.notMem_zero p)
  simp only [Inner.handleReply, h.gossip_eq_zero hdyn]
  split_ifs
  · exact ⟨⟨hdyn, Finset.insert_subset hfrom h.acks, h.deferred⟩, hnone⟩
  · exact ⟨⟨hdyn, h.acks, h.deferred⟩, hnone⟩

lemma Settled.handleRelease (h : st.Settled members) (hself : selfId ∈ members)
    (hfrom : fromId ∈ members) (hknown : known.getD ∅ ⊆ members) :
    (st.handleRelease selfId leaseDuration now fromId known).1.Settled members ∧
      ∀ p ∈ (st.handleRelease selfId leaseDuration now fromId known).2, Within members p := by
  have hdyn := h.updateMembership hfrom hknown
  have hup : (st.updateMembership fromId known).Settled members := ⟨hdyn, h.acks, h.deferred⟩
  have hfree : ({ st.updateMembership fromId known with lastHolder := none }).Settled members :=
    ⟨hdyn, h.acks, h.deferred⟩
  simp only [Inner.handleRelease, h.gossip_eq_zero hdyn, zero_add]
  split_ifs
  · exact hfree.within_grantDeferred hself
  · exact hup.within_grantDeferred hself

lemma Settled.handle (h : st.Settled members) {p : Packet} (hp : Within members p) :
    (st.handle p.dst leaseDuration now p.src p.msg).1.Settled members ∧
      ∀ q ∈ (st.handle p.dst leaseDuration now p.src p.msg).2, Within members q := by
  obtain ⟨src, dst, msg⟩ := p
  obtain ⟨hsrc, hdst, hknown⟩ := hp
  cases msg with
  | request ts known => exact h.handleRequest hdst hsrc ts hknown
  | reply tag known => exact h.handleReply hsrc tag hknown
  | release known => exact h.handleRelease hdst hsrc hknown

lemma Settled.leave (h : st.Settled members) (hself : selfId ∈ members) :
    (st.leave selfId leaseDuration now).1.Settled members ∧
      ∀ p ∈ (st.leave selfId leaseDuration now).2, Within members p := by
  have hfree : ({ st with lastHolder := none } : Inner).Settled members :=
    ⟨h.known, h.acks, h.deferred⟩
  have hgrant : (({ st with lastHolder := none } : Inner).grantDeferred selfId leaseDuration
      now).1.Settled members ∧ ∀ p ∈ (({ st with lastHolder := none } : Inner).grantDeferred selfId
        leaseDuration now).2, Within members p := hfree.within_grantDeferred hself
  obtain ⟨hs, hp⟩ := hgrant
  have hs' : (st.leave selfId leaseDuration now).1.Settled members :=
    ⟨hs.known, Finset.empty_subset _, hs.deferred⟩
  refine ⟨hs', fun p hp' => ?_⟩
  rcases Multiset.mem_add.mp hp' with hp' | hp'
  · exact hp p hp'
  · exact hs'.within_broadcast hself rfl p hp'

end Members

end Inner

end Bingle.Mutex
