import Bingle.Lib.Run
import Bingle.Messages.Handlers

/-!
# Who a channel carries packets for

A channel of a relay belongs to a pair of addresses.  `Engine::create_turn_handler`
(`bingle_core/src/engine/mod.rs`) passes packets on it to the address that `handle_turn_incoming`
answers with, which takes every sender that is not the source for the destination.
-/

namespace Bingle.Turn

open Messages (Id SocketAddr)
open Outgoing (NetworkEndpoint)

/-! ## The engine's part -/

inductive Action
  | reprocess (endpoint : NetworkEndpoint) (message : List UInt8)
  | write (dest : SocketAddr) (packet : List UInt8)
deriving DecidableEq, Repr

def turnHandler (amRelay : Bool)
    (handleTurnIncoming : Option SocketAddr → Option SocketAddr → List UInt8 → Option Wrapped)
    (lastPublicAddr : Option SocketAddr) (sender : SocketAddr) (packet : List UInt8) :
    Option Action := do
  let localPublicAddr ← lastPublicAddr
  let wrapped ← handleTurnIncoming (some sender) (some localPublicAddr) packet
  if amRelay then
    -- a pair with itself is this relay's own call through another relay
    if wrapped.isRelayLocal then some (.reprocess wrapped.networkEndpoint wrapped.message)
    else some (.write wrapped.ipAddress packet)
  else some (.reprocess wrapped.networkEndpoint wrapped.message)

def RelayHandler.relayTurn (t : RelayHandler) :
    Option SocketAddr → SocketAddr → List UInt8 → Option Action :=
  turnHandler true t.handleTurnIncoming

/-! ## Packets on a mapped channel -/

namespace RelayHandler

section Mapped

variable {t : RelayHandler} {packet : List UInt8} {ch len padding : ℕ} {s d : SocketAddr}

lemma handleTurnIncoming_mapped (hparse : parseChannelDataHeader packet = some (ch, len, padding))
    (hpair : t.chToPair ch = some (s, d)) (sender localPublicAddr : SocketAddr) :
    ∃ endpoint, t.handleTurnIncoming (some sender) (some localPublicAddr) packet =
      if (t.allowedAddrToId d).isSome then
        some ⟨if sender ≠ s then s else d, endpoint, (packet.drop 4).take len, s = d⟩
      else none := by
  cases hd : t.allowedAddrToId d with
  | none => exact ⟨.newDirect sender, by simp [handleTurnIncoming, hparse, hpair, hd]⟩
  | some destId =>
    cases hsender : t.allowedAddrToId sender with
    | none => exact ⟨.newDirect sender, by simp [handleTurnIncoming, hparse, hpair, hd, hsender]⟩
    | some relayId =>
      exact ⟨⟨none, some ch, some localPublicAddr, some relayId⟩,
        by simp [handleTurnIncoming, hparse, hpair, hd, hsender]⟩

lemma relayTurn_eq_write_iff (hparse : parseChannelDataHeader packet = some (ch, len, padding))
    (hpair : t.chToPair ch = some (s, d)) (lastPublicAddr : Option SocketAddr)
    (sender dest : SocketAddr) (p : List UInt8) :
    t.relayTurn lastPublicAddr sender packet = some (.write dest p) ↔
      lastPublicAddr ≠ none ∧ (t.allowedAddrToId d).isSome ∧ s ≠ d ∧
        dest = (if sender ≠ s then s else d) ∧ p = packet := by
  cases lastPublicAddr with
  | none => simp [relayTurn, turnHandler]
  | some localPublicAddr =>
    obtain ⟨endpoint, h⟩ := handleTurnIncoming_mapped hparse hpair sender localPublicAddr
    by_cases hd : (t.allowedAddrToId d).isSome
    · by_cases hsd : s = d
      · simp [relayTurn, turnHandler, h, hd, hsd]
      · simp only [relayTurn, turnHandler, Option.bind_eq_bind, Option.bind_some, h, hd, if_true,
          hsd, decide_false, Bool.false_eq_true, if_false, Option.some.injEq, Action.write.injEq,
          ne_eq, reduceCtorEq, not_false_eq_true, true_and]
        exact and_congr eq_comm eq_comm
    · simp [relayTurn, turnHandler, h, hd]

end Mapped

/-! ## The addresses in the tables -/

/-- The address stands in one of the tables. -/
def Names (t : RelayHandler) (addr : SocketAddr) : Prop :=
  (∃ ch s d, t.chToPair ch = some (s, d) ∧ (addr = s ∨ addr = d)) ∨
    (∃ id, t.allowedIdToAddr id = some addr) ∨ (t.allowedAddrToId addr).isSome

section Names

variable {t : RelayHandler} {addr source dest : SocketAddr}

lemma names_of_allow {id : Id} (h : (t.allow id source).Names addr) :
    t.Names addr ∨ addr = source := by
  simp only [Names, allow, Function.update_apply] at h ⊢
  grind

lemma names_of_allowIfAbsent {id : Id} (h : (t.allowIfAbsent id source).Names addr) :
    t.Names addr ∨ addr = source := by
  rw [allowIfAbsent] at h
  split_ifs at h
  · exact Or.inl h
  · exact names_of_allow h

lemma names_of_handleCall {seed : ℕ} {sourceId destId : Id}
    (h : (t.handleCall seed sourceId destId source dest).1.Names addr) :
    t.Names addr ∨ addr = source ∨ addr = dest := by
  rcases t.handleCall_cases seed sourceId destId source dest with heq | ⟨ch, heq⟩ <;> rw [heq] at h
  · exact Or.inl h
  · have hbind (hb : (t.bind ch source dest).Names addr) :
        t.Names addr ∨ addr = source ∨ addr = dest := by
      simp only [Names, bind, Function.update_apply] at hb ⊢
      grind
    rcases names_of_allowIfAbsent h with h | h
    · exact (names_of_allowIfAbsent h).elim hbind fun h => Or.inr (Or.inl h)
    · exact Or.inr (Or.inr h)

lemma names_of_write {lastPublicAddr : Option SocketAddr} {packet p : List UInt8}
    (h : t.relayTurn lastPublicAddr source packet = some (.write dest p)) : t.Names dest := by
  cases hparse : parseChannelDataHeader packet with
  | none => simp [relayTurn, turnHandler, handleTurnIncoming, hparse] at h
  | some header =>
    obtain ⟨ch, len, padding⟩ := header
    cases hpair : t.chToPair ch with
    | none =>
      -- a packet on no channel of the relay goes back to a sender that is registered
      have hback : (t.allowedAddrToId source).isSome ∧ source = dest := by
        cases hid : t.allowedAddrToId source <;>
          simp_all [relayTurn, turnHandler, handleTurnIncoming, Option.bind_eq_some_iff]
      exact Or.inr (Or.inr (hback.2 ▸ hback.1))
    | some pair =>
      obtain ⟨-, -, -, hdest, -⟩ := (relayTurn_eq_write_iff hparse hpair ..).mp h
      exact Or.inl ⟨ch, pair.1, pair.2, hpair, by split_ifs at hdest <;> simp [hdest]⟩

end Names

/-! ## The tables a relay can have -/

def reached (ops : List Op) : RelayHandler := Lib.run step new ops

/-! ## Isolation -/

/-- **Isolation.**  In every state of the relay's tables, a packet on a channel mapped to `(s, d)`
is passed on only from one of the two to the other *exactly when* it comes from one of them, or the
channel is the relay's own, or the relay would pass nothing on: it has no public address yet, or the
destination is not registered. -/
theorem forwarded_within_pair_iff {ops : List Op} {packet : List UInt8} {ch len padding : ℕ}
    {s d : SocketAddr} (hparse : parseChannelDataHeader packet = some (ch, len, padding))
    (hpair : (reached ops).chToPair ch = some (s, d)) (lastPublicAddr : Option SocketAddr)
    (sender : SocketAddr) :
    (∀ dest p, (reached ops).relayTurn lastPublicAddr sender packet = some (.write dest p) →
        sender = s ∧ dest = d ∨ sender = d ∧ dest = s) ↔
      sender = s ∨ sender = d ∨ s = d ∨ lastPublicAddr = none ∨
        (reached ops).allowedAddrToId d = none := by
  constructor
  · intro h
    by_contra hcond
    simp only [not_or] at hcond
    obtain ⟨hs, hd, hsd, hpub, hreg⟩ := hcond
    have hsent := (relayTurn_eq_write_iff hparse hpair lastPublicAddr sender s packet).mpr
      ⟨hpub, Option.isSome_iff_ne_none.mpr hreg, hsd, by rw [if_pos hs], rfl⟩
    rcases h s packet hsent with ⟨hs', _⟩ | ⟨hd', _⟩
    · exact hs hs'
    · exact hd hd'
  · intro hcond dest p hsent
    obtain ⟨hpub, hreg, hsd, rfl, rfl⟩ :=
      (relayTurn_eq_write_iff hparse hpair lastPublicAddr sender dest p).mp hsent
    rcases hcond with rfl | rfl | hsd' | hpub' | hreg'
    · exact Or.inl ⟨rfl, if_neg (not_not.mpr rfl)⟩
    · exact Or.inr ⟨rfl, if_pos (Ne.symm hsd)⟩
    · exact absurd hsd' hsd
    · exact absurd hpub' hpub
    · exact absurd hreg' (Option.isSome_iff_ne_none.mp hreg)

def bobCalled : List Op :=
  [.listen "BOB" "192.0.2.20:2000", .call 0 "ALICE" "BOB" "192.0.2.10:1000" "192.0.2.20:2000"]

def onFirstChannel : List UInt8 := [0x40, 0x00, 0x00, 0x04, 1, 2, 3, 4]

theorem bob_heard_by_alice :
    (reached bobCalled).relayTurn (some "192.0.2.1:5000") "192.0.2.20:2000" onFirstChannel =
        some (.write "192.0.2.10:1000" onFirstChannel) ∧
      ∀ dest p, (reached bobCalled).relayTurn (some "192.0.2.1:5000") "192.0.2.20:2000"
        onFirstChannel = some (.write dest p) →
          "192.0.2.20:2000" = "192.0.2.10:1000" ∧ dest = "192.0.2.20:2000" ∨
            "192.0.2.20:2000" = "192.0.2.20:2000" ∧ dest = "192.0.2.10:1000" := by
  have hparse : parseChannelDataHeader onFirstChannel = some (0x4000, 4, 0) := by decide
  have hpair : (reached bobCalled).chToPair 0x4000 =
      some ("192.0.2.10:1000", "192.0.2.20:2000") := by decide
  refine ⟨by decide, ?_⟩
  exact (forwarded_within_pair_iff hparse hpair (some "192.0.2.1:5000") "192.0.2.20:2000").mpr
    (Or.inr (Or.inl rfl))

/-- **Anyone is heard.**  A third node sends a packet on the channel of the two, and the relay
passes it on to the caller. -/
theorem stranger_heard_by_alice :
    (reached bobCalled).chToPair 0x4000 = some ("192.0.2.10:1000", "192.0.2.20:2000") ∧
      (reached bobCalled).relayTurn (some "192.0.2.1:5000") "203.0.113.6:9000" onFirstChannel =
        some (.write "192.0.2.10:1000" onFirstChannel) := by
  decide

end RelayHandler

end Bingle.Turn
