import Bingle.Mutex.Node
import Bingle.Lib.Run

/-!
# Mutual exclusion of the relay-init mutex

A cluster of mutex nodes over an asynchronous network.  A node gives its vote to one holder at a
time and a requester enters with every vote.  Stale messages break that: a grant carries no
timestamp, so a duplicate from an earlier cycle is counted for a later request; and a release from
an earlier cycle frees a vote given since.
-/

namespace Bingle.Mutex

open Lib (run Along)

structure Cluster extends Lib.World NodeId Inner Msg where
  now : ℕ := 0

/-- What can happen: time passes, a node starts a request cycle, (re)sends its request, enters or
leaves the critical section, or finds peers unreachable, and a packet arrives. -/
inductive Event
  | tick (d : ℕ)
  | acquire (i : NodeId)
  | sendRequest (i : NodeId)
  | enter (i : NodeId)
  | leave (i : NodeId)
  | prune (i : NodeId) (unreachable : Finset NodeId)
  | deliver (p : Packet)
deriving DecidableEq

namespace Cluster

def act (w : Cluster) (i : NodeId) (r : Inner × Multiset Packet) : Cluster :=
  { w with toWorld := w.toWorld.act i r }

/-- One event.  An event that cannot happen changes nothing; a node runs one `acquire` at a time. -/
def step (leaseDuration : ℕ) (w : Cluster) : Event → Cluster
  | .tick d => { w with now := w.now + d }
  | .acquire i =>
    if (w.node i).currentRequestTs = none ∧ (w.node i).inCs = false then
      w.act i ((w.node i).beginRequest i, 0)
    else w
  | .sendRequest i =>
    match (w.node i).currentRequestTs with
    | some ts =>
      if (w.node i).inCs then w else w.act i (w.node i, (w.node i).broadcastRequest i ts)
    | none => w
  | .enter i =>
    match (w.node i).currentRequestTs with
    | some ts =>
      if (w.node i).inCs = false ∧ (w.node i).canEnter i w.now then
        w.act i ((w.node i).enter i leaseDuration w.now ts, 0)
      else w
    | none => w
  | .leave i =>
    if (w.node i).inCs then w.act i ((w.node i).leave i leaseDuration w.now) else w
  | .prune i unreachable => w.act i ((w.node i).pruneUnreachable unreachable, 0)
  | .deliver p =>
    if p ∈ w.net then
      ({ w with toWorld := w.toWorld.take p }).act p.dst
        ((w.node p.dst).handle p.dst leaseDuration w.now p.src p.msg)
    else w

def init (members : Finset NodeId) : Cluster :=
  { node := fun i => { dynamicNodeIds := insert i members }, net := 0 }

def Counts (w : Cluster) (x i : NodeId) : Prop :=
  (w.node x).currentRequestTs.isSome ∧ i ∈ (w.node x).acks

instance (w : Cluster) (x i : NodeId) : Decidable (w.Counts x i) :=
  inferInstanceAs (Decidable (_ ∧ _))

/-! ## What is assumed, and the condition -/

/-- The setting: the members are fixed and only they act, no message is lost (so no peer is found
unreachable), and no member's recorded lease has run out. -/
def Agreed (members : Finset NodeId) (w : Cluster) (e : Event) : Prop :=
  (∀ i ∈ members, ∀ h ∈ (w.node i).lastHolder, w.now < h.deadline) ∧
    match e with
    | .acquire i | .sendRequest i | .enter i | .leave i => i ∈ members
    | .prune _ _ => False
    | .tick _ | .deliver _ => True

instance (members : Finset NodeId) (w : Cluster) : ∀ e, Decidable (w.Agreed members e)
  | .acquire _ | .sendRequest _ | .enter _ | .leave _ => inferInstanceAs (Decidable (_ ∧ _ ∈ members))
  | .prune _ _ => inferInstanceAs (Decidable (_ ∧ False))
  | .tick _ | .deliver _ => inferInstanceAs (Decidable (_ ∧ True))

/-- A delivery respects the votes that are counted.

* A grant that a requester counts is a vote the granter still gives it.
* A release finds the receiver's vote with a requester that counts it only if it comes from someone
  else and the vote goes to nobody else next. -/
def VoteKept (w : Cluster) : Event → Prop
  | .deliver ⟨i, x, .reply tag _⟩ =>
    (w.node x).currentRequestTs.isSome → tag ≠ some "membership_only" →
      (w.node i).holderId = some x
  | .deliver ⟨s, i, .release _⟩ =>
    ∀ x ∈ (w.node i).holderId, w.Counts x i →
      s ≠ x ∧ ∀ r ∈ (w.node i).deferred.head?, r.2 = x
  | _ => True

instance (w : Cluster) : ∀ e, Decidable (w.VoteKept e)
  | .deliver ⟨_, _, .reply _ _⟩ => inferInstanceAs (Decidable (_ → _ → _))
  | .deliver ⟨_, _, .release _⟩ => inferInstanceAs (Decidable (∀ _ ∈ _, _ → _ ∧ ∀ _ ∈ _, _))
  | .deliver ⟨_, _, .request _ _⟩ => isTrue trivial
  | .tick _ | .acquire _ | .sendRequest _ | .enter _ | .leave _ | .prune _ _ => isTrue trivial

/-! ## The invariant -/

structure Safe (members : Finset NodeId) (w : Cluster) : Prop where
  votes : ∀ x i, i ≠ x → w.Counts x i → (w.node i).holderId = some x
  inside : ∀ x, (w.node x).inCs = true →
    x ∈ members ∧ (w.node x).currentRequestTs.isSome ∧ members ⊆ (w.node x).acks ∧
      (w.node x).holderId = some x

variable {members : Finset NodeId} {w : Cluster} {i : NodeId} {r : Inner × Multiset Packet}

lemma Safe.exclusive (h : w.Safe members) {x y : NodeId}
    (hx : (w.node x).inCs = true) (hy : (w.node y).inCs = true) : x = y := by
  by_contra hne
  obtain ⟨-, hreq, hall, -⟩ := h.inside x hx
  obtain ⟨hy_mem, -, -, hy_holder⟩ := h.inside y hy
  have hgiven := h.votes x y (Ne.symm hne) ⟨hreq, hall hy_mem⟩
  exact hne (Option.some.inj (hgiven.symm.trans hy_holder))

lemma Safe.act (h : w.Safe members)
    (hcounted : r.1.currentRequestTs.isSome → ∀ j ∈ r.1.acks, j ≠ i →
      (w.node j).holderId = some i) (hkept : ∀ x, x ≠ i → w.Counts x i → r.1.holderId = some x)
    (hinside : r.1.inCs = true → i ∈ members ∧ r.1.currentRequestTs.isSome ∧
      members ⊆ r.1.acks ∧ r.1.holderId = some i) :
    (w.act i r).Safe members := by
  have hself : (w.act i r).node i = r.1 := Lib.World.act_node_self ..
  have hother : ∀ j, j ≠ i → (w.act i r).node j = w.node j :=
    fun j hj => Lib.World.act_node_of_ne _ _ hj
  refine ⟨fun x j hjx hc => ?_, fun x hx => ?_⟩
  · by_cases hx : x = i
    · subst hx
      rw [Counts, hself] at hc
      rw [hother j hjx]
      exact hcounted hc.1 j hc.2 hjx
    · rw [Counts, hother x hx] at hc
      by_cases hj : j = i
      · subst hj
        rw [hself]
        exact hkept x hx hc
      · rw [hother j hj]
        exact h.votes x j hjx hc
  · by_cases hxi : x = i
    · subst hxi
      rw [hself] at hx ⊢
      exact hinside hx
    · rw [hother x hxi] at hx ⊢
      exact h.inside x hx

structure Inv (members : Finset NodeId) (w : Cluster) : Prop where
  safe : w.Safe members
  settled : ∀ i ∈ members, (w.node i).Settled members
  within : ∀ p ∈ w.net, Inner.Within members p

lemma Inv.act (h : w.Inv members) (hsafe : (w.act i r).Safe members) (hset : r.1.Settled members)
    (hsent : ∀ p ∈ r.2, Inner.Within members p) : (w.act i r).Inv members where
  safe := hsafe
  settled := Lib.World.forall_node_act (Q := fun j (st : Inner) => j ∈ members → st.Settled members)
    h.settled fun _ => hset
  within := Lib.World.forall_net_act h.within hsent

/-! ## One event -/

section Step

variable {members : Finset NodeId} {leaseDuration : ℕ} {w : Cluster}

variable {i s : NodeId} {known : Option (Finset NodeId)}

lemma holder_of_not_heldAgainst {st : Inner} {now : ℕ} {x : NodeId}
    (hlease : ∀ h ∈ st.lastHolder, now < h.deadline) (hheld : st.heldAgainst now i = false)
    (hx : st.holderId = some x) : x = i := by
  unfold Inner.holderId at hx
  obtain ⟨h, hh, rfl⟩ := Option.map_eq_some_iff.mp hx
  by_contra hne
  have hdl := hlease h hh
  simp [Inner.heldAgainst, hh, hne, hdl] at hheld

lemma Safe.acquire (h : w.Safe members) (hout : (w.node i).inCs = false) :
    (w.act i ((w.node i).beginRequest i, 0)).Safe members := by
  refine h.act (fun _ j hj hji => ?_) (fun x hx hc => h.votes x i (Ne.symm hx) hc) (fun hin => ?_)
  · exact absurd (Finset.mem_singleton.mp hj) hji
  · exact absurd (hout.symm.trans hin) Bool.false_ne_true

lemma Safe.sendRequest (h : w.Safe members) (i : NodeId) (out : Multiset Packet) :
    (w.act i (w.node i, out)).Safe members :=
  h.act (fun hreq j hj hji => h.votes i j hji ⟨hreq, hj⟩)
    (fun x hx hc => h.votes x i (Ne.symm hx) hc) (h.inside i)

lemma Safe.enter (h : w.Safe members) (hi : i ∈ members)
    (hset : (w.node i).Settled members) (hlease : ∀ g ∈ (w.node i).lastHolder, w.now < g.deadline)
    {ts : ℤ} (hreq : (w.node i).currentRequestTs = some ts)
    (hcan : (w.node i).canEnter i w.now = true) :
    (w.act i ((w.node i).enter i leaseDuration w.now ts, 0)).Safe members := by
  unfold Inner.canEnter at hcan
  simp only [Bool.decide_and, Bool.and_eq_true, decide_eq_true_eq, Inner.requiredAcks,
    hset.known] at hcan
  obtain ⟨hcard, hfree⟩ := hcan
  have hall : (w.node i).acks = members := Finset.eq_of_subset_of_card_le hset.acks hcard
  have hreq' : (w.node i).currentRequestTs.isSome := by rw [hreq]; rfl
  refine h.act (fun _ j hj hji => h.votes i j hji ⟨hreq', hj⟩) (fun x hx hc => ?_)
    (fun _ => ⟨hi, hreq', hall.symm.subset, rfl⟩)
  have hheld : (w.node i).heldAgainst w.now i = false := by
    unfold Inner.heldAgainst
    cases hh : (w.node i).lastHolder with
    | none => rfl
    | some g => simpa [hh, imp_iff_not_or] using hfree
  exact absurd (holder_of_not_heldAgainst hlease hheld (h.votes x i (Ne.symm hx) hc)) hx

lemma Safe.leave (h : w.Safe members) (hin : (w.node i).inCs = true) :
    (w.act i ((w.node i).leave i leaseDuration w.now)).Safe members := by
  obtain ⟨hacks, -, hout⟩ := (w.node i).leave_effect i leaseDuration w.now
  refine h.act (fun _ j hj => ?_) (fun x hx hc => ?_) (fun hin' => ?_)
  · rw [hacks] at hj
    exact absurd hj (Finset.notMem_empty j)
  · obtain ⟨-, -, -, hown⟩ := h.inside i hin
    exact absurd (Option.some.inj ((h.votes x i (Ne.symm hx) hc).symm.trans hown)) hx
  · exact absurd (hout.symm.trans hin') Bool.false_ne_true

lemma Safe.request (h : w.Safe members)
    (hlease : ∀ g ∈ (w.node i).lastHolder, w.now < g.deadline) (ts : ℤ)
    (known : Option (Finset NodeId)) :
    (w.act i ((w.node i).handleRequest i leaseDuration w.now s ts known)).Safe members := by
  obtain ⟨hacks, hreq, hcs, hvote⟩ :=
    (w.node i).handleRequest_effect i s leaseDuration w.now ts known
  refine h.act (fun hr j hj hji => ?_) (fun x hx hc => ?_) (fun hin => ?_)
  · exact h.votes i j hji ⟨hreq ▸ hr, hacks ▸ hj⟩
  · have hgiven := h.votes x i (Ne.symm hx) hc
    rcases hvote with hvote | ⟨-, hheld, hvote⟩
    · exact hvote.trans hgiven
    · rw [hvote, holder_of_not_heldAgainst hlease hheld hgiven]
  · rw [hcs] at hin
    rw [hreq, hacks]
    rcases hvote with hvote | ⟨hout, -⟩
    · exact hvote ▸ h.inside i hin
    · exact absurd (hout.symm.trans hin) Bool.false_ne_true

lemma Safe.reply (h : w.Safe members) {tag : Option String}
    (hkept : w.VoteKept (.deliver ⟨s, i, .reply tag known⟩)) :
    (w.act i ((w.node i).handleReply i s tag known)).Safe members := by
  obtain ⟨hvote, hreq, hcs, hacks⟩ := (w.node i).handleReply_effect i s tag known
  refine h.act (fun hr j hj hji => ?_) (fun x hx hc => ?_) (fun hin => ?_)
  · rw [hreq] at hr
    rcases hacks with hacks | ⟨-, htag, hacks⟩ <;> rw [hacks] at hj
    · exact h.votes i j hji ⟨hr, hj⟩
    · rcases Finset.mem_insert.mp hj with rfl | hj
      · exact hkept hr htag
      · exact h.votes i j hji ⟨hr, hj⟩
  · exact hvote.trans (h.votes x i (Ne.symm hx) hc)
  · obtain ⟨hmem, hr, hall, hown⟩ := h.inside i (hcs ▸ hin)
    refine ⟨hmem, hreq ▸ hr, ?_, hvote ▸ hown⟩
    rcases hacks with hacks | ⟨-, -, hacks⟩ <;> rw [hacks]
    · exact hall
    · exact hall.trans (Finset.subset_insert _ _)

lemma Safe.release (h : w.Safe members) (hkept : w.VoteKept (.deliver ⟨s, i, .release known⟩)) :
    (w.act i ((w.node i).handleRelease i leaseDuration w.now s known)).Safe members := by
  obtain ⟨hacks, hreq, hcs, hvote⟩ := (w.node i).handleRelease_effect i s leaseDuration w.now known
  have hstays : ∀ x, (w.node i).holderId = some x → w.Counts x i →
      ((w.node i).handleRelease i leaseDuration w.now s known).1.holderId = some x := by
    intro x hx hc
    obtain ⟨hne, hnext⟩ := hkept x hx hc
    rw [hvote, hx, if_neg (by simpa using hne.symm)]
    cases hd : (w.node i).deferred.head? with
    | none => rfl
    | some r => exact congrArg some (hnext r hd)
  refine h.act (fun hr j hj hji => ?_) (fun x hx hc => ?_) (fun hin => ?_)
  · exact h.votes i j hji ⟨hreq ▸ hr, hacks ▸ hj⟩
  · exact hstays x (h.votes x i (Ne.symm hx) hc) hc
  · obtain ⟨hmem, hr, hall, hown⟩ := h.inside i (hcs ▸ hin)
    rw [hreq, hacks]
    exact ⟨hmem, hr, hall, hstays i hown ⟨hr, hall hmem⟩⟩

theorem Inv.step (h : w.Inv members) {e : Event} (hagreed : w.Agreed members e)
    (hkept : w.VoteKept e) : (w.step leaseDuration e).Inv members := by
  have hnone : ∀ p ∈ (0 : Multiset Packet), Inner.Within members p :=
    fun p hp => absurd hp (Multiset.notMem_zero p)
  obtain ⟨hlease, hactor⟩ := hagreed
  cases e with
  | tick d => exact ⟨⟨h.safe.votes, h.safe.inside⟩, h.settled, h.within⟩
  | prune i ids => exact absurd hactor id
  | acquire i =>
    have hi : i ∈ members := hactor
    simp only [Cluster.step]
    split_ifs with hidle
    · refine h.act (h.safe.acquire hidle.2) ?_ hnone
      exact ⟨(h.settled i hi).known, Finset.singleton_subset_iff.mpr hi, (h.settled i hi).deferred⟩
    · exact h
  | sendRequest i =>
    have hi : i ∈ members := hactor
    simp only [Cluster.step]
    split
    · split_ifs
      · exact h
      · exact h.act (h.safe.sendRequest i _) (h.settled i hi)
          ((h.settled i hi).within_broadcast hi rfl)
    · exact h
  | enter i =>
    have hi : i ∈ members := hactor
    simp only [Cluster.step]
    split
    case h_1 ts hts =>
        split_ifs with hcan
        · refine h.act (h.safe.enter hi (h.settled i hi) (hlease i hi) hts hcan.2) ?_ hnone
          exact ⟨(h.settled i hi).known, (h.settled i hi).acks, (h.settled i hi).deferred⟩
        · exact h
    case h_2 => exact h
  | leave i =>
    have hi : i ∈ members := hactor
    simp only [Cluster.step]
    split_ifs with hin
    · have hleave : ((w.node i).leave i leaseDuration w.now).1.Settled members ∧
          ∀ q ∈ ((w.node i).leave i leaseDuration w.now).2, Inner.Within members q :=
        (h.settled i hi).leave hi
      exact h.act (h.safe.leave hin) hleave.1 hleave.2
    · exact h
  | deliver p =>
    simp only [Cluster.step]
    split_ifs with hp
    · have hw := h.within p hp
      have hhandle : ((w.node p.dst).handle p.dst leaseDuration w.now p.src p.msg).1.Settled
          members ∧ ∀ q ∈ ((w.node p.dst).handle p.dst leaseDuration w.now p.src p.msg).2,
            Inner.Within members q := (h.settled p.dst hw.2.1).handle hw
      have htake : ({ w with toWorld := w.toWorld.take p } : Cluster).Inv members :=
        ⟨⟨h.safe.votes, h.safe.inside⟩, h.settled, Lib.World.forall_net_take h.within p⟩
      refine htake.act ?_ hhandle.1 hhandle.2
      obtain ⟨s, i, msg⟩ := p
      cases msg with
      | request ts known => exact htake.safe.request (hlease i hw.2.1) ts known
      | reply tag known => exact htake.safe.reply hkept
      | release known => exact htake.safe.release hkept
    · exact h

lemma init_inv (members : Finset NodeId) : (Cluster.init members).Inv members where
  safe := ⟨fun _ _ _ hc => absurd hc.1 Bool.false_ne_true,
    fun _ hin => absurd hin Bool.false_ne_true⟩
  settled := fun _ hi => ⟨Finset.insert_eq_of_mem hi, Finset.empty_subset _,
    fun _ hr => absurd hr List.not_mem_nil⟩
  within := fun p hp => absurd hp (Multiset.notMem_zero p)

end Step

end Cluster

def insideAfter (members : Finset NodeId) (leaseDuration : ℕ) (es : List Event) : Set NodeId :=
  {x | ((run (Cluster.step leaseDuration) (Cluster.init members) es).node x).inCs = true}

/-- **Mutual exclusion.**  In any run of a cluster in the agreed setting: if every delivery respects
the votes that are counted, at most one node is inside the critical section when the run ends. -/
theorem mutual_exclusion (members : Finset NodeId) (leaseDuration : ℕ) (es : List Event)
    (h : Along (Cluster.step leaseDuration) (fun w e => w.Agreed members e ∧ w.VoteKept e)
      (Cluster.init members) es) : (insideAfter members leaseDuration es).Subsingleton := by
  have hinv : (run (Cluster.step leaseDuration) (Cluster.init members) es).Inv members :=
    Lib.run_invariant (I := fun w => w.Inv members) (fun w e hw he => Cluster.Inv.step hw he.1 he.2)
      (Cluster.init_inv members) h
  exact fun x hx y hy => hinv.safe.exclusive hx hy

def twoNodes : Finset NodeId := {"A", "B"}

def handOver : List Event :=
  [.acquire "A", .sendRequest "A", .deliver ⟨"A", "B", .request 1 (some twoNodes)⟩,
    .deliver ⟨"B", "A", .reply none (some twoNodes)⟩, .enter "A",
    .acquire "B", .sendRequest "B", .deliver ⟨"B", "A", .request 3 (some twoNodes)⟩,
    .leave "A", .deliver ⟨"A", "B", .release (some twoNodes)⟩,
    .deliver ⟨"A", "B", .reply none (some twoNodes)⟩, .enter "B"]

theorem handOver_exclusive :
    "B" ∈ insideAfter twoNodes 1000 handOver ∧ (insideAfter twoNodes 1000 handOver).Subsingleton :=
  ⟨by show _ = true; decide, mutual_exclusion twoNodes 1000 handOver (by decide)⟩

/-- `B` is granted twice; the second grant stays in flight while `B` enters and leaves.  The release
of `A` stays in flight while it enters again.  Then the old release frees `B`'s vote, and the old
grant is all `B` needs. -/
def staleGrant : List Event :=
  [.acquire "B", .sendRequest "B", .sendRequest "B",
    .deliver ⟨"B", "A", .request 1 (some twoNodes)⟩,
    .deliver ⟨"B", "A", .request 1 (some twoNodes)⟩,
    .deliver ⟨"A", "B", .reply none (some twoNodes)⟩, .enter "B", .leave "B",
    .deliver ⟨"B", "A", .release (some twoNodes)⟩,
    .acquire "A", .sendRequest "A", .deliver ⟨"A", "B", .request 4 (some twoNodes)⟩,
    .deliver ⟨"B", "A", .reply none (some twoNodes)⟩, .enter "A", .leave "A",
    .acquire "A", .sendRequest "A", .deliver ⟨"A", "B", .request 5 (some twoNodes)⟩,
    .deliver ⟨"B", "A", .reply none (some twoNodes)⟩, .enter "A",
    .deliver ⟨"A", "B", .release (some twoNodes)⟩,
    .acquire "B", .deliver ⟨"A", "B", .reply none (some twoNodes)⟩, .enter "B"]

theorem both_inside :
    ¬ ∀ (members : Finset NodeId) (leaseDuration : ℕ) (es : List Event), 2 ≤ members.card →
      Along (Cluster.step leaseDuration) (fun w e => w.Agreed members e) (Cluster.init members) es →
      (insideAfter members leaseDuration es).Subsingleton := by
  intro h
  have hA : "A" ∈ insideAfter twoNodes 1000 staleGrant := by show _ = true; decide
  have hB : "B" ∈ insideAfter twoNodes 1000 staleGrant := by show _ = true; decide
  exact absurd (h twoNodes 1000 staleGrant (by decide) (by decide) hA hB) (by decide)

end Bingle.Mutex
