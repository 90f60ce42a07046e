import Bingle.Frpt.Link
import Bingle.Lib.Network
import Bingle.Lib.Run

/-!
# Two transports over one session

Both sides send and receive, any number of calls at a time.  The network loses, repeats and reorders
packets: a packet that was sent stays in flight, and is delivered as often as the run says.
-/

namespace Bingle.Frpt

open Lib (run Along)

/-- The two sides, each with the other's endpoint as its only key, and the packets. -/
abbrev Net := Lib.World Bool (Party Unit) Datagram

inductive Event
  | send (i : Bool) (block : Bytes)
  | thread (i : Bool) (n : ℕ) (e : Party.SendStep)
  | receive (p : Lib.Packet Bool Datagram) (ackSent : Bool)
  | record (i : Bool) (d : Dispatch Unit)
  | deliver (i : Bool) (d : Dispatch Unit)

namespace Net

def step (w : Net) : Event → Net
  | .send i block =>
    match (w.node i).startSend () block with
    | .ok p => w.act i (p, 0)
    | .error _ => w
  | .thread i n e =>
    let out := ((w.node i).transmission n e).toList.map fun bytes =>
      (⟨i, !i, ⟨bytes, some ⟨0, n⟩⟩⟩ : Lib.Packet Bool Datagram)
    w.act i ((w.node i).sendStep n e, (out : Multiset _))
  | .receive p ackSent =>
    if p ∈ w.net then
      let r := (w.node p.dst).receive () p.msg ackSent
      let out := r.2.toList.map fun ack => (⟨p.dst, p.src, ack⟩ : Lib.Packet Bool Datagram)
      w.act p.dst (r.1, (out : Multiset _))
    else w
  | .record i d => w.act i ((w.node i).record d, 0)
  | .deliver i d => w.act i ((w.node i).deliver d, 0)

def init (mtu : ℕ) (retryDelays : List ℕ) : Net :=
  ⟨fun _ => { mtu, retryDelays, handleMessage := true }, 0⟩

/-- The condition on a step: a call is one of the first `2 ^ 16` of its side, and one that returns
`Ok` finds no dispatch of its id under way at the peer. -/
def Fits (w : Net) : Event → Prop
  | .send i _ => (w.node i).sends.length < 2 ^ 16
  | .thread i n .returnOk => ∀ s ∈ (w.node i).sends[n]?, ∀ d ∈ (w.node (!i)).dispatching,
      d.key.txId ≠ s.ackKey.txId
  | _ => True

instance (w : Net) : ∀ e, Decidable (w.Fits e)
  | .send _ _ => inferInstanceAs (Decidable (_ < _))
  | .thread _ _ .returnOk => inferInstanceAs (Decidable (∀ _ ∈ _, ∀ _ ∈ _, _ ≠ _))
  | .thread _ _ .transmit | .thread _ _ (.sendFails _) | .thread _ _ .timeout
  | .thread _ _ .giveUp | .receive _ _ | .record _ _ | .deliver _ _ => isTrue trivial

/-! ## The invariant -/

def up (w : Net) (i : Bool) : Set Datagram := {d | ⟨i, !i, d⟩ ∈ w.net ∧ d.origin.isSome = true}

def down (w : Net) (i : Bool) : Set Datagram := {d | ⟨!i, i, d⟩ ∈ w.net ∧ d.origin = none}

structure Linked (w : Net) : Prop where
  numbered : ∀ i, (w.node i).Numbered
  link : ∀ i, Link () 0 (w.node i) (w.node (!i)) (w.up i) (w.down i)
  across : ∀ p ∈ w.net, p.dst = !p.src

@[simp] lemma up_act_zero (w : Net) (i j : Bool) (p : Party Unit) :
    up (w.act i (p, 0)) j = w.up j := by
  simp [up, Lib.World.act]

@[simp] lemma down_act_zero (w : Net) (i j : Bool) (p : Party Unit) :
    down (w.act i (p, 0)) j = w.down j := by
  simp [down, Lib.World.act]

lemma forall_side {Q : Bool → Prop} (i : Bool) (h : Q i) (h' : Q (!i)) : ∀ j, Q j := by
  intro j
  cases i <;> cases j <;> first | exact h | exact h'

namespace Linked

variable {w : Net} {i : Bool} {p : Party Unit} {out : Multiset (Lib.Packet Bool Datagram)}

lemma act_sender (h : w.Linked) (hnum : p.Numbered) (hsame : Party.SameInbound (w.node i) p)
    (hout : ∀ x ∈ out, (x.src = i ∧ x.dst = !i) ∧ x.msg.origin.isSome = true)
    (hlink : Link () 0 p (w.node (!i)) (Net.up (w.act i (p, out)) i) (w.down i)) :
    Linked (w.act i (p, out)) := by
  have hne : (!i) ≠ i := by cases i <;> simp
  -- nothing comes from the other side, and no acknowledgement from this one
  have hold : ∀ x ∈ Lib.World.net (w.act i (p, out)), x.src ≠ i ∨ x.msg.origin = none →
      x ∈ w.net := by
    refine fun x hx hother => Lib.World.mem_net_of_act hout hx fun hQ => ?_
    rcases hother with hsrc | hnone
    · exact hsrc hQ.1.1
    · simp [hnone] at hQ
  refine ⟨?_, forall_side i ?_ ?_, ?_⟩
  · exact Lib.World.forall_node_act h.numbered hnum
  · rw [Lib.World.act_node_self, Lib.World.act_node_of_ne w _ hne]
    exact hlink.congr rfl (.refl _) (fun _ hd => hd)
      fun d hd => ⟨hold _ hd.1 (Or.inl hne), hd.2⟩
  · rw [Lib.World.act_node_of_ne w _ hne, Bool.not_not, Lib.World.act_node_self]
    have hlink' := h.link (!i)
    rw [Bool.not_not] at hlink'
    exact hlink'.congr rfl hsame (fun d hd => ⟨hold _ hd.1 (Or.inl hne), hd.2⟩)
      fun d hd => ⟨hold _ hd.1 (Or.inr hd.2), hd.2⟩
  · exact Lib.World.forall_net_act h.across fun x hx => by rw [(hout x hx).1.1, (hout x hx).1.2]

lemma act_receiver (h : w.Linked) (hsame : Party.SameOutbound (w.node i) p)
    (hout : ∀ x ∈ out, (x.src = i ∧ x.dst = !i) ∧ x.msg.origin = none)
    (hlink : Link () 0 (w.node (!i)) p (w.up (!i)) (Net.down (w.act i (p, out)) (!i))) :
    Linked (w.act i (p, out)) := by
  have hne : (!i) ≠ i := by cases i <;> simp
  -- nothing comes from the other side, and no data from this one
  have hold : ∀ x ∈ Lib.World.net (w.act i (p, out)),
      x.src ≠ i ∨ x.msg.origin.isSome = true → x ∈ w.net := by
    refine fun x hx hother => Lib.World.mem_net_of_act hout hx fun hQ => ?_
    rcases hother with hsrc | hsome
    · exact hsrc hQ.1.1
    · simp [hQ.2] at hsome
  refine ⟨?_, forall_side i ?_ ?_, ?_⟩
  · exact Lib.World.forall_node_act h.numbered (hsame.numbered (h.numbered i))
  · rw [Lib.World.act_node_self, Lib.World.act_node_of_ne w _ hne]
    exact (h.link i).congr hsame.sends (.refl _) (fun d hd => ⟨hold _ hd.1 (Or.inr hd.2), hd.2⟩)
      fun d hd => ⟨hold _ hd.1 (Or.inl hne), hd.2⟩
  · rw [Lib.World.act_node_of_ne w _ hne, Bool.not_not, Lib.World.act_node_self]
    exact hlink.congr rfl (.refl _) (fun d hd => ⟨hold _ hd.1 (Or.inl hne), hd.2⟩) fun _ hd => hd
  · exact Lib.World.forall_net_act h.across fun x hx => by rw [(hout x hx).1.1, (hout x hx).1.2]

lemma link_not (h : w.Linked) (i : Bool) :
    Link () 0 (w.node (!i)) (w.node i) (w.up (!i)) (w.down (!i)) := by
  have hlink := h.link (!i)
  rwa [Bool.not_not] at hlink

lemma receive (h : w.Linked) {i : Bool} {d : Datagram} (hd : ⟨!i, i, d⟩ ∈ w.net) (ackSent : Bool) :
    let r := (w.node i).receive () d ackSent
    Linked (w.act i (r.1, ((r.2.toList.map fun ack =>
      (⟨i, !i, ack⟩ : Lib.Packet Bool Datagram)) : Multiset _))) := by
  intro r
  cases horigin : d.origin with
  | none =>
    -- an acknowledgement
    obtain ⟨n, txId, b, hp, hb, hin⟩ := (h.link i).acks d ⟨hd, horigin⟩
    have hparse : parsePacket d.bytes = some (.ackComplete txId) := by
      rw [hb, parsePacket_ackCompletePacket]
    have hr : r = ((w.node i).completePendingAck ⟨(), (w.node i).endpointSessions (), txId⟩,
        none) := by simp only [r, Party.receive, hparse]
    rw [hr]
    have hcont := Party.completePendingAck_continues (w.node i)
      ⟨(), (w.node i).endpointSessions (), txId⟩
    refine h.act_sender (hcont.numbered (h.numbered i))
      (Party.completePendingAck_sameInbound ..) (by simp) ?_
    simp only [Option.toList_none, List.map_nil, Multiset.coe_nil, up_act_zero]
    exact (h.link i).completePendingAck (h.numbered i) ⟨hd, horigin⟩ hparse
  | some o =>
    -- a block
    have hup : d ∈ w.up (!i) := ⟨by simpa using hd, by simp [horigin]⟩
    obtain ⟨n, txId, b, -, hp, hb⟩ := (h.link_not i).data d hup
    have hparse : parsePacket d.bytes = some (.dataSingle txId b) := by
      rw [hb, parsePacket_buildDataSinglePacket]
    cases ackSent with
    | false =>
      have hr : r = (w.node i, none) := by simp [r, Party.receive, hparse]
      rw [hr]
      refine h.act_receiver ⟨rfl, rfl, rfl⟩ (by simp) ?_
      simpa using h.link_not i
    | true =>
      have hr : r = ({ w.node i with dispatching :=
          ⟨⟨(), (w.node i).endpointSessions (), txId⟩, b, false, d.origin⟩ ::
            (w.node i).dispatching },
          some { bytes := ackCompletePacket txId }) := by simp [r, Party.receive, hparse]
      refine h.act_receiver ?_ ?_ ((h.link_not i).receive hup fun a ha => ?_)
      · rw [hr]
        exact ⟨rfl, rfl, rfl⟩
      · rw [hr]
        intro x hx
        obtain rfl : x = ⟨i, !i, { bytes := ackCompletePacket txId }⟩ := by simpa using hx
        exact ⟨⟨rfl, rfl⟩, rfl⟩
      · rcases Multiset.mem_add.mp ha.1 with hmem | hmem
        · exact Or.inl ⟨hmem, ha.2⟩
        · obtain ⟨ack, hack, heq⟩ := List.mem_map.mp (Multiset.mem_coe.mp hmem)
          obtain rfl : ack = a := congrArg Lib.Packet.msg heq
          exact Or.inr (Option.mem_toList.mp hack)

lemma step (h : w.Linked) (e : Event) (hfits : w.Fits e) : Linked (w.step e) := by
  cases e with
  | send i block =>
    simp only [Net.step]
    split
    · rename_i p hp
      refine h.act_sender ((h.numbered i).startSend hp hfits) (Party.startSend_sameInbound hp)
        (by simp) ?_
      rw [up_act_zero]
      exact (h.link i).startSend hp
    · exact h
  | thread i n e =>
    have hcont := Party.sendStep_continues (w.node i) n e
    refine h.act_sender (hcont.numbered (h.numbered i)) (Party.sendStep_sameInbound _ n e) ?_ ?_
    · intro x hx
      obtain ⟨bytes, -, rfl⟩ := List.mem_map.mp (Multiset.mem_coe.mp hx)
      exact ⟨⟨rfl, rfl⟩, rfl⟩
    · refine (h.link i).sendStep n e ?_ fun d hd => ?_
      · rintro rfl
        exact hfits
      · rcases Multiset.mem_add.mp hd.1 with hmem | hmem
        · exact Or.inl ⟨hmem, hd.2⟩
        · obtain ⟨bytes, hbytes, heq⟩ := List.mem_map.mp (Multiset.mem_coe.mp hmem)
          obtain ⟨s, hs, rfl⟩ := Party.transmission_eq_some (Option.mem_toList.mp hbytes)
          exact Or.inr ⟨s, hs, (congrArg Lib.Packet.msg heq).symm⟩
  | receive p ackSent =>
    simp only [Net.step]
    split_ifs with hp
    · obtain ⟨src, dst, d⟩ := p
      obtain rfl : dst = !src := h.across _ hp
      have hp' : ⟨! !src, !src, d⟩ ∈ w.net := by rwa [Bool.not_not]
      have hreceive := h.receive hp' ackSent
      rwa [Bool.not_not] at hreceive
    · exact h
  | record i d =>
    refine h.act_receiver (Party.record_sameOutbound _ d) (by simp) ?_
    rw [down_act_zero]
    exact (h.link_not i).record (h.numbered (!i)) d
  | deliver i d =>
    refine h.act_receiver (Party.deliver_sameOutbound _ d) (by simp) ?_
    rw [down_act_zero]
    exact (h.link_not i).deliver d

end Linked

/-- **What returns `Ok` has been handed on** with exactly its block, on any network, as long as no
side makes more than `2 ^ 16` calls and no call returns while the peer is still dispatching its id.
-/
theorem ok_send_handed_on (mtu : ℕ) (retryDelays : List ℕ) (es : List Event)
    (hfits : Along step Fits (init mtu retryDelays) es) (i : Bool) (n : ℕ) (s : Sending Unit)
    (hs : ((run step (init mtu retryDelays) es).node i).sends[n]? = some s)
    (hok : s.result = some (.ok ())) :
    (some ⟨0, n⟩, s.block) ∈ ((run step (init mtu retryDelays) es).node (!i)).handed := by
  have h0 : (init mtu retryDelays).Linked := by
    refine ⟨fun _ => ⟨?_, rfl, ?_, ?_⟩, fun _ => ⟨rfl, ?_, ?_, ?_, ?_, ?_, ?_⟩, ?_⟩ <;>
      simp [init, up, down]
  exact ((Lib.run_invariant (fun _ e h hp => h.step e hp) h0 hfits).link i).ok n s hs hok

def firstRun : List Event :=
  [.send false [7], .thread false 0 .transmit,
    .receive ⟨false, true, ⟨buildDataSinglePacket 0 [7], some ⟨0, 0⟩⟩⟩ true,
    .record true ⟨⟨(), 0, 0⟩, [7], false, some ⟨0, 0⟩⟩,
    .deliver true ⟨⟨(), 0, 0⟩, [7], true, some ⟨0, 0⟩⟩,
    .receive ⟨true, false, ⟨ackCompletePacket 0, none⟩⟩ true,
    .thread false 0 .returnOk]

theorem first_block_handed_on :
    (some ⟨0, 0⟩, [7]) ∈ ((run step (init 1500 [2, 4, 8]) firstRun).node true).handed :=
  ok_send_handed_on 1500 [2, 4, 8] firstRun (by decide) false 0
    ⟨[7], ⟨(), 0, 0⟩, false, 0, true, some (.ok ())⟩ rfl rfl

def roundTrip (n : ℕ) (b : Bytes) : List Event :=
  [.send false b, .thread false n .transmit,
    .receive ⟨false, true, ⟨buildDataSinglePacket (UInt16.ofNat n) b, some ⟨0, n⟩⟩⟩ true,
    .record true ⟨⟨(), 0, UInt16.ofNat n⟩, b, false, some ⟨0, n⟩⟩,
    .deliver true ⟨⟨(), 0, UInt16.ofNat n⟩, b, true, some ⟨0, n⟩⟩,
    .receive ⟨true, false, ⟨ackCompletePacket (UInt16.ofNat n), none⟩⟩ true,
    .thread false n .returnOk]

def roundTrips (b : Bytes) (n : ℕ) : ℕ → List Event
  | 0 => []
  | k + 1 => roundTrip n b ++ roundTrips b (n + 1) k

/-- After `n` complete calls of side `false`: the peer knows their ids, and has been handed nothing
but their blocks. -/
structure Idle (n : ℕ) (w : Net) : Prop where
  mtu : (w.node false).mtu = 1500
  retryDelays : (w.node false).retryDelays = [2, 4, 8]
  sends : (w.node false).sends.length = n
  nextTxId : (w.node false).nextTxId = UInt16.ofNat n
  sessions : ∀ i, (w.node i).endpointSessions () = 0
  dispatching : (w.node true).dispatching = []
  known : ∀ m < n, ⟨(), 0, UInt16.ofNat m⟩ ∈ (w.node true).receivedSingleBlocks
  handed : ∀ x ∈ (w.node true).handed, ∃ m < n, x.1 = some ⟨0, m⟩

section Idle

variable {n : ℕ} {w : Net} {b : Bytes}

lemma Idle.roundTrip_spec (h : Idle n w) (hb : b.length + frptHeaderLen ≤ 1500) :
    (((run step w (roundTrip n b)).node false).mtu = 1500 ∧
      ((run step w (roundTrip n b)).node false).retryDelays = [2, 4, 8] ∧
      ((run step w (roundTrip n b)).node false).sends.length = n + 1 ∧
      ((run step w (roundTrip n b)).node false).nextTxId = UInt16.ofNat (n + 1) ∧
      ((run step w (roundTrip n b)).node false).endpointSessions () = 0 ∧
      ∃ s, ((run step w (roundTrip n b)).node false).sends[n]? = some s ∧
        s.result = some (.ok ()) ∧ s.block = b) ∧
    ((run step w (roundTrip n b)).node true).endpointSessions () = 0 ∧
      ((run step w (roundTrip n b)).node true).dispatching = [] ∧
      ((run step w (roundTrip n b)).node true).receivedSingleBlocks =
        insert ⟨(), 0, UInt16.ofNat n⟩ (w.node true).receivedSingleBlocks ∧
      (((run step w (roundTrip n b)).node true).handed = (w.node true).handed ∨
        ⟨(), 0, UInt16.ofNat n⟩ ∉ (w.node true).receivedSingleBlocks ∧
          ((run step w (roundTrip n b)).node true).handed =
            (w.node true).handed ++ [(some ⟨0, n⟩, b)]) := by
  obtain ⟨hmtu, hdelays, rfl, hnext, hsessions, hdispatching, -, -⟩ := h
  have hlen : ¬ 1500 < b.length + frptHeaderLen := hb.not_gt
  by_cases hknown : ⟨(), 0, UInt16.ofNat (w.node false).sends.length⟩ ∈
      (w.node true).receivedSingleBlocks <;>
    cases hhandler : (w.node true).handleMessage <;>
    simp [roundTrip, run, step, Lib.World.act, Party.startSend, hmtu, hlen, Party.transmission,
      Party.sendStep, Party.transmit, Party.setSend, Sending.packet, Party.receive, Party.record,
      Party.deliver, hknown, hhandler, Party.completePendingAck, Party.clearPendingAck,
      Party.returnOk, hdelays, hnext, hsessions, hdispatching]

lemma Idle.roundTrip (h : Idle n w) (hb : b.length + frptHeaderLen ≤ 1500) :
    Idle (n + 1) (run step w (roundTrip n b)) := by
  obtain ⟨⟨hmtu, hdelays, hsends, hnext, hsession, -⟩, hsession', hdispatching, hknown, hhanded⟩ :=
    h.roundTrip_spec hb
  have hprev : ∀ x ∈ (w.node true).handed, ∃ m < n + 1, x.1 = some ⟨0, m⟩ := fun x hx =>
    (h.handed x hx).imp fun m hm => ⟨hm.1.trans n.lt_succ_self, hm.2⟩
  refine ⟨hmtu, hdelays, hsends, hnext, fun i => ?_, hdispatching, fun m hm => ?_, fun x hx => ?_⟩
  · cases i
    · exact hsession
    · exact hsession'
  · rw [hknown]
    rcases Nat.lt_succ_iff_lt_or_eq.mp hm with hm | rfl
    · exact Finset.mem_insert_of_mem (h.known m hm)
    · exact Finset.mem_insert_self ..
  · rcases hhanded with heq | ⟨-, heq⟩ <;> rw [heq] at hx
    · exact hprev x hx
    · rcases List.mem_append.mp hx with hx | hx
      · exact hprev x hx
      · exact ⟨n, n.lt_succ_self, by rw [List.mem_singleton.mp hx]⟩

lemma Idle.roundTrips (h : Idle n w) (hb : b.length + frptHeaderLen ≤ 1500) (k : ℕ) :
    Idle (n + k) (run step w (roundTrips b n k)) := by
  induction k generalizing n w with
  | zero => exact h
  | succ k ih =>
    have hlater := ih (h.roundTrip hb)
    rw [Net.roundTrips, Lib.run_append, Nat.add_succ, ← Nat.succ_add]
    exact hlater

end Idle

/-- After `2 ^ 16` calls the ids start again, and the peer knows the first: the block is
acknowledged and lost. -/
theorem block_lost_after_wrap :
    ¬ ∀ (mtu : ℕ) (retryDelays : List ℕ) (es : List Event) (i : Bool) (n : ℕ) (s : Sending Unit),
      ((run step (init mtu retryDelays) es).node i).sends[n]? = some s →
      s.result = some (.ok ()) →
      (some ⟨0, n⟩, s.block) ∈ ((run step (init mtu retryDelays) es).node (!i)).handed := by
  intro h
  have hb : ([8] : Bytes).length + frptHeaderLen ≤ 1500 := by decide
  have h0 : Idle 0 (init 1500 [2, 4, 8]) := by
    constructor <;> simp [init]
  -- the id of call `2 ^ 16` is that of call 0
  obtain ⟨N, hpos, hwrap⟩ : ∃ N, 0 < N ∧ UInt16.ofNat N = UInt16.ofNat 0 := ⟨2 ^ 16, by decide, rfl⟩
  have hidle : Idle N (run step (init 1500 [2, 4, 8]) (roundTrips [8] 0 N)) := by
    have hidle := h0.roundTrips hb N
    rwa [Nat.zero_add] at hidle
  obtain ⟨⟨-, -, -, -, -, s, hs, hok, -⟩, -, -, -, hhanded⟩ := hidle.roundTrip_spec hb
  have hin := h 1500 [2, 4, 8] (roundTrips [8] 0 N ++ roundTrip N [8]) false N s
  rw [Lib.run_append] at hin
  have hmem := hin hs hok
  -- so the handler is not called, and it was never handed a block of call `N` before
  have hknown := hidle.known 0 hpos
  rw [← hwrap] at hknown
  rw [Bool.not_false, hhanded.resolve_right fun hnew => hnew.1 hknown] at hmem
  obtain ⟨m, hm, heq⟩ := hidle.handed _ hmem
  simp only [Option.some.injEq, Origin.mk.injEq, true_and] at heq
  exact absurd heq.symm hm.ne

end Net

end Bingle.Frpt
