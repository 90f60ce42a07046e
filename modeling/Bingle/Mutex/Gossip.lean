import Bingle.Lib.Gossip
import Bingle.Mutex.Grants

/-!
# How the mutex spreads its members

Every message of the mutex brings along the ids that its sender knows, and a node that learns an id
tells everyone it knows (`broadcast_membership`), after it has dropped the lock: a section of its
own.  What a thread has still to send counts as in flight.  All sends succeed, so no node is ever
pruned; some of the ids have no running node.
-/

namespace Bingle.Mutex

open Lib (run Rumour)
open Lib.Gossip (Move)

def Inner.broadcastRelease (st : Inner) (selfId : NodeId) : Multiset Packet :=
  Lib.broadcast selfId (st.peers selfId) (.release (some st.dynamicNodeIds))

structure Group extends Lib.World NodeId Inner Msg where
  now : ℕ := 0
  dueMembership : Multiset NodeId := 0
  dueRelease : Multiset NodeId := 0
  /-- not in the program: who has broadcast a request or its membership -/
  told : Finset NodeId := ∅
  /-- not in the program: how many membership broadcasts have been sent -/
  broadcasts : ℕ := 0

namespace Group

inductive Event
  | tick (d : ℕ)
  | acquire (i : NodeId)
  | sendRequest (i : NodeId)
  | enter (i : NodeId)
  | leave (i : NodeId)
  | sendMembership (i : NodeId)
  | sendRelease (i : NodeId)
  | deliver (p : Packet)
deriving DecidableEq

def act (w : Group) (i : NodeId) (r : Inner × Multiset Packet) : Group :=
  { w with toWorld := w.toWorld.act i r }

def ownReplies (sent : Multiset Packet) : Multiset Packet := sent.filter fun p => p.msg.isGrant

def receive (leaseDuration : ℕ) (w : Group) (p : Packet) : Group :=
  let st := w.node p.dst
  let r := st.handle p.dst leaseDuration w.now p.src p.msg
  { ({ w with toWorld := w.toWorld.take p }).act p.dst (r.1, ownReplies r.2) with
    dueMembership :=
      if r.1.dynamicNodeIds ≠ st.dynamicNodeIds then p.dst ::ₘ w.dueMembership
      else w.dueMembership }

def step (running : Finset NodeId) (leaseDuration : ℕ) (w : Group) : Event → Group
  | .tick d => { w with now := w.now + d }
  | .acquire i =>
    if i ∈ running ∧ (w.node i).currentRequestTs = none ∧ (w.node i).inCs = false then
      w.act i ((w.node i).beginRequest i, 0)
    else w
  | .sendRequest i =>
    match (w.node i).currentRequestTs with
    | some ts =>
      if i ∈ running ∧ (w.node i).inCs = false then
        { w.act i (w.node i, (w.node i).broadcastRequest i ts) with told := insert i w.told }
      else w
    | none => w
  | .enter i =>
    match (w.node i).currentRequestTs with
    | some ts =>
      if i ∈ running ∧ (w.node i).inCs = false ∧ (w.node i).canEnter i w.now then
        w.act i ((w.node i).enter i leaseDuration w.now ts, 0)
      else w
    | none => w
  | .leave i =>
    if i ∈ running ∧ (w.node i).inCs then
      let r := (w.node i).leave i leaseDuration w.now
      { w.act i (r.1, ownReplies r.2) with dueRelease := i ::ₘ w.dueRelease }
    else w
  | .sendMembership i =>
    if i ∈ w.dueMembership then
      { w.act i (w.node i, (w.node i).broadcastMembership i) with
        dueMembership := w.dueMembership.erase i
        told := insert i w.told
        broadcasts := w.broadcasts + 1 }
    else w
  | .sendRelease i =>
    if i ∈ running ∧ i ∈ w.dueRelease then
      { w.act i (w.node i, (w.node i).broadcastRelease i) with
        dueRelease := w.dueRelease.erase i }
    else w
  | .deliver p =>
    if p ∈ w.net then
      if p.dst ∈ running then w.receive leaseDuration p
      else { w with toWorld := w.toWorld.take p }
    else w

def init (given : NodeId → Finset NodeId) : Group :=
  { node := fun i => { dynamicNodeIds := insert i (given i) }, net := 0 }

/-- No message is in flight, and no thread has still to tell what its node has learnt. -/
def Quiet (w : Group) : Prop := w.net = 0 ∧ w.dueMembership = 0

instance (w : Group) : Decidable w.Quiet := inferInstanceAs (Decidable (_ ∧ _))

def rumour (p : Packet) : Rumour NodeId := ⟨p.src, p.dst, p.msg.knownIds.getD ∅⟩

def view (w : Group) : Lib.Gossip NodeId where
  known i := (w.node i).dynamicNodeIds
  flight := w.net.map rumour
  due := w.dueMembership
  told := w.told
  announced := w.broadcasts

end Group

/-! ## What the handlers learn and send -/

namespace Inner

variable (st : Inner) (selfId fromId : NodeId) (leaseDuration now : ℕ)

def Tells (selfId : NodeId) (r : Inner × Multiset Packet) : Prop :=
  ∀ p ∈ r.2, p.src = selfId ∧ p.msg.knownIds = some r.1.dynamicNodeIds

lemma tells_broadcast {msg : Msg} (hmsg : msg.knownIds = some st.dynamicNodeIds)
    (ids : Finset NodeId) : Tells selfId (st, Lib.broadcast selfId ids msg) := by
  intro p hp
  obtain ⟨hsrc, -, rfl⟩ := Lib.mem_broadcast.mp hp
  exact ⟨hsrc, hmsg⟩

lemma tells_gossip {old st' : Inner} (h : st'.dynamicNodeIds = st.dynamicNodeIds) :
    Tells selfId (st', old.gossip st selfId) := by
  intro p hp
  rw [gossip] at hp
  split_ifs at hp
  · rw [h]
    exact tells_broadcast st selfId rfl _ p hp
  · exact absurd hp (Multiset.notMem_zero p)

lemma Tells.add {selfId : NodeId} {st : Inner} {a b : Multiset Packet} (ha : Tells selfId (st, a))
    (hb : Tells selfId (st, b)) : Tells selfId (st, a + b) := by
  intro p hp
  exact (Multiset.mem_add.mp hp).elim (ha p) (hb p)

lemma tells_grantDeferred : Tells selfId (st.grantDeferred selfId leaseDuration now) := by
  unfold grantDeferred
  cases st.deferred with
  | nil => exact fun p hp => absurd hp (Multiset.notMem_zero p)
  | cons r rest =>
    intro p hp
    rw [Multiset.mem_singleton] at hp
    subst hp
    exact ⟨rfl, rfl⟩

lemma handle_spreads (msg : Msg) :
    (st.handle selfId leaseDuration now fromId msg).1.dynamicNodeIds =
        insert fromId st.dynamicNodeIds ∪ msg.knownIds.getD ∅ ∧
      Tells selfId (st.handle selfId leaseDuration now fromId msg) := by
  cases msg with
  | request ts known =>
    simp only [handle, handleRequest]
    split_ifs
    · exact ⟨rfl, tells_gossip _ selfId rfl⟩
    · exact ⟨rfl, tells_gossip _ selfId rfl⟩
    · refine ⟨rfl, (tells_gossip _ selfId rfl).add fun p hp => ?_⟩
      rw [Multiset.mem_singleton] at hp
      subst hp
      exact ⟨rfl, rfl⟩
    · exact ⟨rfl, tells_gossip _ selfId rfl⟩
  | reply tag known =>
    simp only [handle, handleReply]
    split_ifs
    · exact ⟨rfl, tells_gossip _ selfId rfl⟩
    · exact ⟨rfl, tells_gossip _ selfId rfl⟩
  | release known =>
    simp only [handle, handleRelease, free_eq_filter]
    have hdyn := (grantDeferred_effect
      { st.updateMembership fromId known with
        lastHolder := (st.updateMembership fromId known).lastHolder.filter fun h => h.id ≠ fromId }
      selfId leaseDuration now).2.2.2.1
    exact ⟨hdyn,
      (tells_gossip _ selfId hdyn).add (tells_grantDeferred _ selfId leaseDuration now)⟩

lemma leave_spreads :
    (st.leave selfId leaseDuration now).1.dynamicNodeIds = st.dynamicNodeIds ∧
      Tells selfId (st.leave selfId leaseDuration now) := by
  have hdyn :=
    (grantDeferred_effect { st with lastHolder := none } selfId leaseDuration now).2.2.2.1
  have hgrant := tells_grantDeferred { st with lastHolder := none } selfId leaseDuration now
  exact ⟨hdyn, Tells.add hgrant (tells_broadcast _ selfId rfl _)⟩

end Inner

/-! ## Every section is gossip -/

namespace Group

variable {running : Finset NodeId} {leaseDuration : ℕ} {w : Group} {i : NodeId}

variable {r : Inner × Multiset Packet}

lemma known_act (h : r.1.dynamicNodeIds = (w.node i).dynamicNodeIds) :
    (fun j => ((w.act i r).node j).dynamicNodeIds) = (view w).known := by
  funext j
  by_cases hj : j = i
  · subst hj
    rw [show (w.act j r).node j = r.1 from w.toWorld.act_node_self j r]
    exact h
  · rw [show (w.act i r).node j = w.node j from w.toWorld.act_node_of_ne r hj]
    rfl

lemma view_act (h : r.1.dynamicNodeIds = (w.node i).dynamicNodeIds) :
    (w.act i r).view = w.view.send (r.2.map rumour) := by
  rw [view, Lib.Gossip.send, known_act h]
  simp only [view, act, Lib.World.act_net, Multiset.map_add]

lemma rumours_of_tells (h : Inner.Tells i r) :
    ∀ m ∈ (ownReplies r.2).map rumour, m.src = i ∧ m.ids ⊆ r.1.dynamicNodeIds := by
  intro m hm
  obtain ⟨p, hp, rfl⟩ := Multiset.mem_map.mp hm
  obtain ⟨hsrc, hknown⟩ := h p (Multiset.mem_of_mem_filter hp)
  exact ⟨hsrc, by rw [rumour, hknown, Option.getD_some]⟩

lemma map_rumour_broadcast (w : Group) (i : NodeId) {msg : Msg}
    (hmsg : msg.knownIds = some (w.node i).dynamicNodeIds) :
    (Lib.broadcast i ((w.node i).peers i) msg).map rumour = w.view.announcement i := by
  rw [Lib.broadcast, Multiset.map_map, Lib.Gossip.announcement]
  refine Multiset.map_congr rfl fun dst _ => ?_
  simp [rumour, hmsg, view]

lemma view_broadcast (w : Group) (i : NodeId) {msg : Msg}
    (hmsg : msg.knownIds = some (w.node i).dynamicNodeIds) :
    (w.act i (w.node i, Lib.broadcast i ((w.node i).peers i) msg)).view =
      w.view.send (w.view.announcement i) := by
  rw [view_act rfl, map_rumour_broadcast w i hmsg]

lemma view_receive {p : Packet} (hp : p ∈ w.net) :
    (w.receive leaseDuration p).view =
      (w.view.receive (rumour p)).send ((ownReplies
        ((w.node p.dst).handle p.dst leaseDuration w.now p.src p.msg).2).map rumour) := by
  have hlearned : ((w.node p.dst).handle p.dst leaseDuration w.now p.src p.msg).1.dynamicNodeIds =
      w.view.learned (rumour p) :=
    ((w.node p.dst).handle_spreads p.dst p.src leaseDuration w.now p.msg).1
  have hknown : (w.receive leaseDuration p).view.known = (w.view.receive (rumour p)).known := by
    funext j
    by_cases hj : j = p.dst
    · subst hj
      rw [show (w.view.receive (rumour p)).known p.dst = w.view.learned (rumour p) from
        w.view.receive_known_self (rumour p), ← hlearned]
      exact congrArg Inner.dynamicNodeIds (Lib.World.act_node_self _ _ _)
    · rw [w.view.receive_known_of_ne (m := rumour p) hj]
      exact congrArg Inner.dynamicNodeIds (Lib.World.act_node_of_ne _ _ hj)
  have hflight : (w.receive leaseDuration p).view.flight =
      (w.view.receive (rumour p)).flight + (ownReplies
        ((w.node p.dst).handle p.dst leaseDuration w.now p.src p.msg).2).map rumour := by
    simp only [view, receive, act, Lib.World.act_net, Lib.World.take_net, Multiset.map_add,
      Lib.Gossip.receive, Multiset.map_erase_of_mem _ _ hp]
  have hdue : (w.receive leaseDuration p).view.due = (w.view.receive (rumour p)).due := by
    simp only [view, receive, hlearned, Lib.Gossip.receive]
    rfl
  rw [Lib.Gossip.send, ← hknown, ← hflight, ← hdue]
  rfl

/-- **Every section is gossip.** -/
theorem step_moves (e : Event) :
    Relation.ReflTransGen (Move running) w.view (step running leaseDuration w e).view := by
  cases e with
  | tick d => exact .refl
  | acquire i =>
    rw [step]
    split_ifs with h
    · rw [view_act rfl]
      exact .single (.send (by simp))
    · exact .refl
  | sendRequest i =>
    rw [step]
    cases hts : (w.node i).currentRequestTs with
    | none => exact .refl
    | some ts =>
      dsimp only
      split_ifs with h
      · have heq : ({ w.act i (w.node i, (w.node i).broadcastRequest i ts) with
            told := insert i w.told } : Group).view = w.view.announce i :=
          congrArg (fun g : Lib.Gossip NodeId => { g with told := insert i w.told })
            (view_broadcast w i rfl)
        rw [heq]
        exact .single (.announce h.1)
      · exact .refl
  | enter i =>
    rw [step]
    cases hts : (w.node i).currentRequestTs with
    | none => exact .refl
    | some ts =>
      dsimp only
      split_ifs with h
      · rw [view_act rfl]
        exact .single (.send (by simp))
      · exact .refl
  | leave i =>
    rw [step]
    split_ifs with h
    · obtain ⟨hdyn, htells⟩ := (w.node i).leave_spreads i leaseDuration w.now
      have hview := view_act (w := w) (i := i) (r := (((w.node i).leave i leaseDuration w.now).1,
        ownReplies ((w.node i).leave i leaseDuration w.now).2)) hdyn
      refine hview ▸ .single (.send fun m hm => ?_)
      obtain ⟨rfl, hids⟩ := rumours_of_tells htells m hm
      exact ⟨h.1, hids.trans hdyn.subset⟩
    · exact .refl
  | sendMembership i =>
    rw [step]
    split_ifs with h
    · have heq : ({ w.act i (w.node i, (w.node i).broadcastMembership i) with
          dueMembership := w.dueMembership.erase i, told := insert i w.told,
          broadcasts := w.broadcasts + 1 } : Group).view = w.view.announceDue i :=
        congrArg (fun g : Lib.Gossip NodeId => { g with
          due := w.dueMembership.erase i, told := insert i w.told,
          announced := w.broadcasts + 1 }) (view_broadcast w i rfl)
      rw [heq]
      exact .single (.announceDue h)
    · exact .refl
  | sendRelease i =>
    rw [step]
    split_ifs with h
    · have hview : (w.act i (w.node i, (w.node i).broadcastRelease i)).view =
          w.view.send (w.view.announcement i) := view_broadcast w i rfl
      refine hview ▸ .single (.send fun m hm => ?_)
      obtain ⟨rfl, -, hids⟩ := Lib.Gossip.mem_announcement.mp hm
      exact ⟨h.1, hids.subset⟩
    · exact .refl
  | deliver p =>
    rw [step]
    split_ifs with hp hdst
    · rw [view_receive hp]
      have hreceive : Move running w.view (w.view.receive (rumour p)) :=
        .receive (Multiset.mem_map_of_mem rumour hp) hdst
      refine (Relation.ReflTransGen.single hreceive).tail (.send fun m hm => ?_)
      obtain ⟨hdyn, htells⟩ := (w.node p.dst).handle_spreads p.dst p.src leaseDuration w.now p.msg
      obtain ⟨hsrc, hids⟩ := rumours_of_tells htells m hm
      refine ⟨hsrc ▸ hdst, hids.trans ?_⟩
      rw [hsrc, hdyn]
      exact (w.view.receive_known_self (rumour p)).symm.subset
    · have heq : ({ w with toWorld := w.toWorld.take p } : Group).view =
          w.view.drop (rumour p) := by
        simp only [view, Lib.World.take, Lib.Gossip.drop, Multiset.map_erase_of_mem _ _ hp]
      rw [heq]
      exact .single (.drop (Multiset.mem_map_of_mem rumour hp) hdst)
    · exact .refl

lemma run_moves (es : List Event) (w : Group) :
    Relation.ReflTransGen (Move running) w.view (run (step running leaseDuration) w es).view := by
  induction es generalizing w with
  | nil => exact .refl
  | cons e es ih => exact (step_moves e).trans (ih _)

def allIds (running : Finset NodeId) (given : NodeId → Finset NodeId) : Finset NodeId :=
  running ∪ running.biUnion given

lemma subset_allIds (running : Finset NodeId) (given : NodeId → Finset NodeId) :
    running ⊆ allIds running given := Finset.subset_union_left

lemma within_init (running : Finset NodeId) (given : NodeId → Finset NodeId) :
    (init given).view.Within running (allIds running given) where
  known := by
    intro i hi
    refine Finset.insert_subset (subset_allIds running given hi) ?_
    exact (Finset.subset_biUnion_of_mem given hi).trans Finset.subset_union_right
  flight := by
    intro m hm
    exact absurd hm (Multiset.notMem_zero m)
  due := by
    intro i hi
    exact absurd hi (Multiset.notMem_zero i)

/-- **Membership gossip ends and spreads.**  For any running nodes and any interleaving: no more
membership broadcasts are sent than the running nodes had ids to learn; and when nothing is in
flight, every running node among the ids of a node that has broadcast has all the ids of that node.
-/
theorem membership_gossip (running : Finset NodeId) (given : NodeId → Finset NodeId)
    (leaseDuration : ℕ) (es : List Event) :
    let w := run (step running leaseDuration) (init given) es
    w.broadcasts ≤ ∑ i ∈ running, (allIds running given \ insert i (given i)).card ∧
      (w.Quiet → ∀ a ∈ w.told, ∀ b ∈ (w.node a).dynamicNodeIds, b ∈ running →
        (w.node a).dynamicNodeIds ⊆ (w.node b).dynamicNodeIds) := by
  intro w
  have hmoves : Relation.ReflTransGen (Move running) (init given).view w.view := run_moves es _
  refine ⟨?_, fun hquiet a ha b hb hrun => ?_⟩
  · have hle := (Lib.Gossip.announced_le (subset_allIds running given) hmoves
      (within_init running given)).2
    have hfirst : (init given).view.announced + ((init given).view.due.card +
        (init given).view.unknown running (allIds running given)) =
      ∑ i ∈ running, (allIds running given \ insert i (given i)).card := by
      simp [init, view, Lib.Gossip.unknown]
    rw [hfirst] at hle
    exact le_trans (Nat.le_add_right _ _) hle
  · have hspread : w.view.Spread running := by
      refine Lib.Gossip.spread_of_moves hmoves fun a ha => ?_
      exact absurd ha (Finset.notMem_empty a)
    have hview : w.view.Quiet := by
      refine ⟨?_, hquiet.2⟩
      rw [view, hquiet.1, Multiset.map_zero]
    exact Lib.Gossip.known_subset_of_quiet hspread hview ha hb hrun

/-- `A` asks `B`, of whom only `A` has heard; `B` grants, and tells `A` whom it knows. -/
def firstRequest : List Event :=
  let both : Option (Finset NodeId) := some {"A", "B"}
  [.acquire "A", .sendRequest "A", .deliver ⟨"A", "B", .request 1 both⟩, .sendMembership "B",
    .deliver ⟨"B", "A", .reply none both⟩,
    .deliver ⟨"B", "A", .reply (some "membership_only") both⟩]

theorem quiet_after_broadcasts :
    let w := run (step {"A", "B"} 1000) (init fun i => if i = "A" then {"B"} else ∅) firstRequest
    w.Quiet ∧ w.told = {"A", "B"} ∧
      (w.node "A").dynamicNodeIds ⊆ (w.node "B").dynamicNodeIds := by
  intro w
  have hquiet : w.Quiet := by decide
  exact ⟨hquiet, by decide, (membership_gossip _ _ 1000 firstRequest).2 hquiet "A" (by decide) "B"
    (by decide) (by decide)⟩

end Group

end Bingle.Mutex
