import Bingle.Dtls.Debug
import Bingle.Turn.Isolation

/-!
# What arrives on the socket

`process_packet` (`bingle_core/src/dtls/network_mux_udp.rs`) tells STUN, DTLS and TURN apart by the
first byte.  TURN's handler (`create_turn_handler`, `bingle_core/src/engine/mod.rs`) takes the
payload out of a ChannelData message; what is for this node goes through `process_packet` once more,
as if it had arrived from the endpoint that the tables give for it.  That may be a relay's, which
has no address, and the STUN and TURN branches unwrap the address.
-/

namespace Bingle.Turn

open List Option
open Messages (Id SocketAddr)
open Outgoing (NetworkEndpoint)
open Lib (Checked)
open Lib.Checked (Ensures ensures_pure not_ensures_expect_none)

/-! ## Classes of packets -/

inductive MuxType
  | stun
  | zrtp
  | dtls
  | turnChannelData
  | rtp
  | unknown
deriving DecidableEq, Repr

def muxTypeFor : List UInt8 → MuxType
  | [] => .unknown
  | first :: _ =>
    if first ≤ 3 then .stun
    else if 16 ≤ first ∧ first ≤ 19 then .zrtp
    else if 20 ≤ first ∧ first ≤ 63 then .dtls
    else if 0x40 ≤ first ∧ first ≤ 0x7f then .turnChannelData
    else if 128 ≤ first ∧ first ≤ 191 then .rtp
    else .unknown

/-! ## The TURN handler -/

/-- `TurnClientHandlerImpl::handle_turn_incoming`, by the relays registered with `Listen`. -/
def clientTurnIncoming (allowedAddrToId : SocketAddr → Option Id)
    (senderAddress : Option SocketAddr) (packet : List UInt8) : Option Wrapped := do
  let (ch, len, _) ← parseChannelDataHeader packet
  let payload := (packet.drop 4).take len
  let relayAddr ← senderAddress
  let relayId ← allowedAddrToId relayAddr
  some ⟨relayAddr, ⟨none, some ch, some relayAddr, some relayId⟩, payload, false⟩

inductive TurnHandler
  | relay (tables : RelayHandler)
  | client (allowedAddrToId : SocketAddr → Option Id)

def TurnHandler.turn : TurnHandler → Option SocketAddr → SocketAddr → List UInt8 → Option Action
  | .relay tables => tables.relayTurn
  | .client allowedAddrToId =>
    turnHandler false fun senderAddress _ => clientTurnIncoming allowedAddrToId senderAddress

/-! ## A payload is shorter than its message -/

variable {packet message : List UInt8} {r : ℕ × ℕ × ℕ} {w : Wrapped} {sender : SocketAddr}
  {lastPublicAddr : Option SocketAddr} {ep : NetworkEndpoint}

lemma four_le_of_parseChannelDataHeader
    (h : parseChannelDataHeader packet = some r) : 4 ≤ packet.length := by
  match packet, h with
  | _ :: _ :: _ :: _ :: rest, _ => simp

lemma length_payload_lt (h : parseChannelDataHeader packet = some r) (len : ℕ) :
    ((packet.drop 4).take len).length < packet.length := by
  have h4 := four_le_of_parseChannelDataHeader h
  rw [length_take, length_drop]
  omega

lemma length_of_clientTurnIncoming {allowedAddrToId : SocketAddr → Option Id}
    {sender : Option SocketAddr} (hw : clientTurnIncoming allowedAddrToId sender packet = some w) :
    w.message.length < packet.length := by
  simp only [clientTurnIncoming, bind_eq_bind, bind_eq_some_iff,
    some.injEq] at hw
  obtain ⟨⟨ch, len, pad⟩, hparse, _, -, _, -, rfl⟩ := hw
  exact length_payload_lt hparse len

lemma length_of_relayTurnIncoming {t : RelayHandler} {localPub : SocketAddr}
    (hw : t.handleTurnIncoming (some sender) (some localPub) packet = some w) :
    w.message.length < packet.length := by
  cases hparse : parseChannelDataHeader packet with
  | none => simp [RelayHandler.handleTurnIncoming, hparse] at hw
  | some header =>
    obtain ⟨ch, len, pad⟩ := header
    cases hpair : t.chToPair ch with
    | none =>
      simp only [RelayHandler.handleTurnIncoming, hparse, hpair, bind_eq_bind,
        bind_some, bind_eq_some_iff, some.injEq] at hw
      obtain ⟨_, -, rfl⟩ := hw
      exact length_payload_lt hparse len
    | some pair =>
      obtain ⟨_, h⟩ := RelayHandler.handleTurnIncoming_mapped hparse hpair sender localPub
      rw [h, ite_none_right_eq_some, some.injEq] at hw
      obtain ⟨-, rfl⟩ := hw
      exact length_payload_lt hparse len

lemma turnHandler_eq_reprocess {amRelay : Bool}
    {handle : Option SocketAddr → Option SocketAddr → List UInt8 → Option Wrapped}
    (h : turnHandler amRelay handle lastPublicAddr sender packet = some (.reprocess ep message)) :
    ∃ localPub w, handle (some sender) (some localPub) packet = some w ∧ w.message = message := by
  simp only [turnHandler, bind_eq_bind, bind_eq_some_iff] at h
  obtain ⟨localPub, -, w, hw, h⟩ := h
  refine ⟨localPub, w, hw, ?_⟩
  split_ifs at h
  · exact (Action.reprocess.inj (some.inj h)).2
  · exact absurd (some.inj h) (by simp)
  · exact (Action.reprocess.inj (some.inj h)).2

lemma length_of_turn {h : TurnHandler}
    (ht : h.turn lastPublicAddr sender packet = some (.reprocess ep message)) :
    message.length < packet.length := by
  cases h with
  | relay tables =>
    obtain ⟨localPub, w, hw, rfl⟩ := turnHandler_eq_reprocess ht
    exact length_of_relayTurnIncoming hw
  | client allowedAddrToId =>
    rw [TurnHandler.turn] at ht
    obtain ⟨localPub, w, hw, rfl⟩ := turnHandler_eq_reprocess ht
    exact length_of_clientTurnIncoming hw

/-! ## One datagram -/

structure Mux where
  handleDtls : Bool
  handleStun : Bool
  handleTurn : Option TurnHandler
  lastPublicAddr : Option SocketAddr
  traceEnabled : Bool := false

inductive Delivery
  | dtls (source : NetworkEndpoint) (data : List UInt8)
  | stun (source : SocketAddr) (data : List UInt8)
  | forward (dest : SocketAddr) (packet : List UInt8)
deriving DecidableEq, Repr

namespace Mux

def processPacket (m : Mux) (source : NetworkEndpoint) (data : List UInt8) :
    Checked (List Delivery) :=
  if data = [] then return [] else
  match muxTypeFor data with
  | .dtls => do
      let _ ← Dtls.dtlsUdpToJson m.traceEnabled data
      return if m.handleDtls then [.dtls source data] else []
  | .stun =>
    if m.handleStun then do
      let addr ← Checked.expect source.inetSocketAddress "Stun messages must originate from an IP"
      return [.stun addr data]
    else return []
  | .turnChannelData =>
    match m.handleTurn with
    | none => return []
    | some h => do
        let addr ←
          Checked.expect source.inetSocketAddress "TURN messages must originate from an IP"
        match _ht : h.turn m.lastPublicAddr addr data with
        | none => return []
        | some (.write dest packet) => return [.forward dest packet]
        | some (.reprocess endpoint message) => processPacket m endpoint message
  | _ => return []
termination_by data.length
decreasing_by exact length_of_turn _ht

/-- A datagram on the receive loop, which reads it into a buffer of 2048 bytes and passes over what
comes from an IPv6 address. -/
def receive (m : Mux) (sender : SocketAddr) (datagram : List UInt8) : Checked (List Delivery) :=
  if datagram = [] ∨ sender.toList.head? = some '[' then return []
  else m.processPacket (.newDirect sender) (datagram.take 2048)

abbrev Received := NetworkEndpoint × List UInt8

def Unwraps (m : Mux) (p q : Received) : Prop :=
  ∃ h addr, m.handleTurn = some h ∧ muxTypeFor p.2 = .turnChannelData ∧
    p.1.inetSocketAddress = some addr ∧
      h.turn m.lastPublicAddr addr p.2 = some (.reprocess q.1 q.2)

/-- A packet that needs an address and has none: STUN or ChannelData, with its handler installed,
from a relay's endpoint. -/
def Unaddressed (m : Mux) (p : Received) : Prop :=
  p.1.inetSocketAddress = none ∧
    (muxTypeFor p.2 = .stun ∧ m.handleStun = true ∨
      muxTypeFor p.2 = .turnChannelData ∧ m.handleTurn.isSome)

/-! ## When a packet panics -/

lemma ne_nil_of_muxTypeFor {data : List UInt8} (h : muxTypeFor data ≠ .unknown) : data ≠ [] := by
  rintro rfl
  exact h rfl

section Panic

variable {m : Mux} {p : Received}

lemma processPacket_turn {h : TurnHandler} {addr : SocketAddr} (hh : m.handleTurn = some h)
    (hturn : muxTypeFor p.2 = .turnChannelData) (haddr : p.1.inetSocketAddress = some addr) :
    m.processPacket p.1 p.2 =
      match h.turn m.lastPublicAddr addr p.2 with
      | none => pure []
      | some (.write dest packet) => pure [.forward dest packet]
      | some (.reprocess endpoint message) => m.processPacket endpoint message := by
  rw [processPacket, if_neg (ne_nil_of_muxTypeFor (by simp [hturn]))]
  simp only [hturn, hh, haddr]
  change (match _ht : h.turn m.lastPublicAddr addr p.2 with
    | none => _
    | some (.write dest packet) => _
    | some (.reprocess endpoint message) => _) = _
  split <;> simp [*]

lemma processPacket_of_unwraps {q : Received} (h : m.Unwraps p q) :
    m.processPacket p.1 p.2 = m.processPacket q.1 q.2 := by
  obtain ⟨handler, addr, hh, hturn, haddr, hq⟩ := h
  rw [processPacket_turn hh hturn haddr, hq]

lemma not_ensures_of_unaddressed (h : m.Unaddressed p) :
    ¬ Ensures (m.processPacket p.1 p.2) fun _ => True := by
  obtain ⟨haddr, hclass⟩ := h
  rcases hclass with ⟨hstun, hhandler⟩ | ⟨hturn, hhandler⟩
  · rw [processPacket, if_neg (ne_nil_of_muxTypeFor (by simp [hstun]))]
    simp only [hstun, hhandler, if_true, haddr]
    exact not_ensures_expect_none
  · obtain ⟨h, hh⟩ := isSome_iff_exists.mp hhandler
    rw [processPacket, if_neg (ne_nil_of_muxTypeFor (by simp [hturn]))]
    simp only [hturn, hh, haddr]
    exact not_ensures_expect_none

/-- **One packet**: it does not panic, or its payload goes through once more, or it has no address
where one is expected. -/
lemma processPacket_cases (m : Mux) (p : Received) :
    Ensures (m.processPacket p.1 p.2) (fun _ => True) ∨ (∃ q, m.Unwraps p q) ∨ m.Unaddressed p := by
  by_cases hnil : p.2 = []
  · rw [processPacket, if_pos hnil]
    exact Or.inl (ensures_pure trivial)
  cases hclass : muxTypeFor p.2 with
  | turnChannelData =>
    cases hh : m.handleTurn with
    | none =>
      left
      rw [processPacket, if_neg hnil]
      simp only [hclass, hh]
      exact ensures_pure trivial
    | some h =>
      cases haddr : p.1.inetSocketAddress with
      | none => exact Or.inr (Or.inr ⟨haddr, Or.inr ⟨hclass, by simp [hh]⟩⟩)
      | some addr =>
        cases hturn : h.turn m.lastPublicAddr addr p.2 with
        | none =>
          left
          rw [processPacket_turn hh hclass haddr, hturn]
          exact ensures_pure trivial
        | some action =>
          cases action with
          | write dest packet =>
            left
            rw [processPacket_turn hh hclass haddr, hturn]
            exact ensures_pure trivial
          | reprocess endpoint message =>
            exact Or.inr (Or.inl ⟨(endpoint, message), h, addr, hh, hclass, haddr, hturn⟩)
  | stun =>
    by_cases hhandler : m.handleStun = true
    · cases haddr : p.1.inetSocketAddress with
      | none => exact Or.inr (Or.inr ⟨haddr, Or.inl ⟨hclass, hhandler⟩⟩)
      | some addr =>
        left
        rw [processPacket, if_neg hnil]
        simp only [hclass, hhandler, if_true, haddr]
        exact ensures_pure trivial
    · left
      rw [processPacket, if_neg hnil]
      simp only [hclass, hhandler]
      exact ensures_pure trivial
  | dtls =>
    left
    rw [processPacket, if_neg hnil]
    simp only [hclass]
    exact (Dtls.dtlsUdpToJson_ensures m.traceEnabled p.2).bind fun _ _ => ensures_pure trivial
  | zrtp | rtp | unknown =>
    left
    rw [processPacket, if_neg hnil]
    simp only [hclass]
    exact ensures_pure trivial

lemma ensures_processPacket_iff (m : Mux) (p : Received) :
    Ensures (m.processPacket p.1 p.2) (fun _ => True) ↔
      ∀ q, Relation.ReflTransGen m.Unwraps p q → ¬ m.Unaddressed q := by
  constructor
  · intro h q hpq
    have heq : m.processPacket p.1 p.2 = m.processPacket q.1 q.2 := by
      induction hpq with
      | refl => rfl
      | tail _ hstep ih => exact ih.trans (processPacket_of_unwraps hstep)
    intro hq
    exact not_ensures_of_unaddressed hq (heq ▸ h)
  · intro h
    induction hn : p.2.length using Nat.strong_induction_on generalizing p with
    | _ n ih =>
      rcases processPacket_cases m p with hok | ⟨q, hq⟩ | hbad
      · exact hok
      · have hlt : q.2.length < n := by
          obtain ⟨handler, addr, -, -, -, hturn⟩ := hq
          exact hn ▸ length_of_turn hturn
        rw [processPacket_of_unwraps hq]
        exact ih q.2.length hlt q (fun r hr => h r (hr.head hq)) rfl
      · exact absurd hbad (h p .refl)

end Panic

/-- **When packet processing panics.**  Whatever handlers are installed and whatever stands in the
tables, a datagram is processed without a panic exactly when no payload that it unwraps to, however
often, is STUN or ChannelData from a relay's endpoint. -/
theorem process_packet_panic_free_iff (m : Mux) (sender : SocketAddr) (data : List UInt8) :
    Ensures (m.processPacket (.newDirect sender) data) (fun _ => True) ↔
      ∀ q, Relation.ReflTransGen m.Unwraps (.newDirect sender, data) q → ¬ m.Unaddressed q :=
  ensures_processPacket_iff m (.newDirect sender, data)

def client (relayAddr : SocketAddr) : Mux where
  handleDtls := true
  handleStun := true
  handleTurn := some (.client fun addr => if addr = relayAddr then some "R" else none)
  lastPublicAddr := some "10.0.0.1:4433"

/-- The relay sends the client ChannelData on channel 0x4000: the payload of one is the first word
of a STUN binding request, that of the other is ChannelData again. -/
theorem channel_data_panics :
    (client "10.0.0.9:4433").processPacket (.newDirect "10.0.0.9:4433")
        [0x40, 0, 0, 4, 0, 1, 0, 0] =
        .error (.expect "Stun messages must originate from an IP") ∧
      (client "10.0.0.9:4433").processPacket (.newDirect "10.0.0.9:4433")
        [0x40, 0, 0, 4, 0x40, 0, 0, 0] =
        .error (.expect "TURN messages must originate from an IP") := by
  have hunwraps : ∀ b0 b1 b2 b3 : UInt8, (client "10.0.0.9:4433").Unwraps
      (.newDirect "10.0.0.9:4433", [0x40, 0, 0, 4, b0, b1, b2, b3])
      (⟨none, some 0x4000, some "10.0.0.9:4433", some "R"⟩, [b0, b1, b2, b3]) := by
    intro b0 b1 b2 b3
    refine ⟨_, "10.0.0.9:4433", rfl, rfl, rfl, ?_⟩
    simp [client, TurnHandler.turn, turnHandler, clientTurnIncoming, parseChannelDataHeader]
  constructor
  · rw [processPacket_of_unwraps (hunwraps 0 1 0 0), processPacket]
    rfl
  · rw [processPacket_of_unwraps (hunwraps 0x40 0 0 0), processPacket]
    rfl

end Mux

end Bingle.Turn
