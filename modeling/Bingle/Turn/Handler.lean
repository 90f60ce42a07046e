import Bingle.Messages.Types

/-!
# The TURN tables of a node

A relay gives each pair of addresses that wants to talk a channel, and passes on what arrives on it.
`TurnRelayHandlerImpl` (`bingle_core/src/turn/turn_relay_handler_impl.rs`) keeps the channels and
the addresses registered with it; `TurnClientHandlerImpl` is the other side's table.  `allocChannel`
starts from a random number, which is its argument.
-/

namespace Bingle.Turn

open Messages (Id SocketAddr)
open Outgoing (NetworkEndpoint)

/-! ## The relay's tables -/

/-- The tables of a relay: channels and pairs, clients and addresses. -/
structure RelayHandler where
  chToPair : ℕ → Option (SocketAddr × SocketAddr)
  pairToCh : SocketAddr × SocketAddr → Option ℕ
  allowedIdToAddr : Id → Option SocketAddr
  allowedAddrToId : SocketAddr → Option Id

structure Wrapped where
  ipAddress : SocketAddr
  networkEndpoint : NetworkEndpoint
  message : List UInt8
  isRelayLocal : Bool
deriving DecidableEq, Repr

/-- `parse_channel_data_header`: the channel, the length of the data and of the padding after it. -/
def parseChannelDataHeader : List UInt8 → Option (ℕ × ℕ × ℕ)
  | b0 :: b1 :: b2 :: b3 :: rest =>
    let ch := b0.toNat * 256 + b1.toNat
    let len := b2.toNat * 256 + b3.toNat
    -- the data is padded to a multiple of four
    let paddedLen := (len + 3) / 4 * 4
    if rest.length < len then none
    else if rest.length < paddedLen then none
    else some (ch, len, paddedLen - len)
  | _ => none

def minCh : ℕ := 0x4000

def maxCh : ℕ := 0x7FFE

namespace RelayHandler

def new : RelayHandler := ⟨fun _ => none, fun _ => none, fun _ => none, fun _ => none⟩

variable (t : RelayHandler)

def allow (id : Id) (addr : SocketAddr) : RelayHandler :=
  { t with
    allowedIdToAddr := Function.update t.allowedIdToAddr id (some addr)
    allowedAddrToId := Function.update t.allowedAddrToId addr (some id) }

def bind (ch : ℕ) (source dest : SocketAddr) : RelayHandler :=
  { t with
    chToPair := Function.update t.chToPair ch (some (source, dest))
    pairToCh := Function.update t.pairToCh (source, dest) (some ch) }

def probe : ℕ → ℕ → Option ℕ
  | 0, _ => none
  | n + 1, candidate =>
    if (t.chToPair candidate).isNone then some candidate
    else probe n (if candidate = maxCh then minCh else candidate + 1)

def allocChannel (seed : ℕ) : Option ℕ :=
  t.probe (maxCh - minCh + 1) (minCh + seed % (maxCh - minCh + 1))

def handleListen (sourceId : Id) (source : SocketAddr) : RelayHandler := t.allow sourceId source

def allowIfAbsent (id : Id) (addr : SocketAddr) : RelayHandler :=
  if (t.allowedAddrToId addr).isSome then t else t.allow id addr

/-- `handle_call`: the channel of the pair, a new one if it has none; `none` is the source's −1. -/
def handleCall (seed : ℕ) (sourceId destId : Id) (source dest : SocketAddr) :
    RelayHandler × Option ℕ :=
  match t.pairToCh (source, dest) with
  | some ch => (t, some ch)
  | none =>
    match t.allocChannel seed with
    | none => (t, none)
    | some ch =>
      (((t.bind ch source dest).allowIfAbsent sourceId source).allowIfAbsent destId dest, some ch)

def handleCallResponse (source dest : SocketAddr) (channel : ℕ) (relayId : Id) : RelayHandler :=
  (t.bind channel source dest).allow relayId source

def handleTurnIncoming (senderAddress localPublicAddress : Option SocketAddr)
    (packet : List UInt8) : Option Wrapped := do
  let (ch, len, _) ← parseChannelDataHeader packet
  let payload := (packet.drop 4).take len
  match t.chToPair ch with
  | none =>
    -- no mapping: take it for a packet of a relay that has registered with us
    let senderAddr ← senderAddress
    let relayId ← t.allowedAddrToId senderAddr
    some ⟨senderAddr, ⟨none, some ch, some senderAddr, some relayId⟩, payload, false⟩
  | some (sourceAddr, destAddr) =>
    let _ ← t.allowedAddrToId destAddr
    let senderAddr ← senderAddress
    let networkEndpoint ← match t.allowedAddrToId senderAddr with
      | some relayId => localPublicAddress.map fun localPub =>
          (⟨none, some ch, some localPub, some relayId⟩ : NetworkEndpoint)
      | none => some (NetworkEndpoint.newDirect senderAddr)
    -- every sender other than the source is taken for the destination
    some ⟨if senderAddr ≠ sourceAddr then sourceAddr else destAddr, networkEndpoint, payload,
      sourceAddr = destAddr⟩

inductive Op
  | listen (sourceId : Id) (source : SocketAddr)
  | call (seed : ℕ) (sourceId destId : Id) (source dest : SocketAddr)
  | callResponse (source dest : SocketAddr) (channel : ℕ) (relayId : Id)
deriving DecidableEq, Repr

def step (t : RelayHandler) : Op → RelayHandler
  | .listen sourceId source => t.handleListen sourceId source
  | .call seed sourceId destId source dest => (t.handleCall seed sourceId destId source dest).1
  | .callResponse source dest channel relayId => t.handleCallResponse source dest channel relayId

/-! ## What the operations leave -/

variable {id i : Id} {addr a : SocketAddr}

lemma allow_allowedIdToAddr (h : (t.allow id addr).allowedIdToAddr i = some a) :
    t.allowedIdToAddr i = some a ∨ i = id ∧ a = addr := by
  by_cases hi : i = id
  · subst hi
    simp only [allow, Function.update_self, Option.some.injEq] at h
    exact Or.inr ⟨rfl, h.symm⟩
  · exact Or.inl (by simpa [allow, Function.update_of_ne hi] using h)

lemma handleCall_cases (seed : ℕ) (sourceId destId : Id) (source dest : SocketAddr) :
    (t.handleCall seed sourceId destId source dest).1 = t ∨
      ∃ ch, (t.handleCall seed sourceId destId source dest).1 =
        ((t.bind ch source dest).allowIfAbsent sourceId source).allowIfAbsent destId dest := by
  unfold handleCall
  cases t.pairToCh (source, dest) with
  | some ch => exact Or.inl rfl
  | none =>
    cases t.allocChannel seed with
    | none => exact Or.inl rfl
    | some ch => exact Or.inr ⟨ch, rfl⟩

lemma allowIfAbsent_allowedIdToAddr (h : (t.allowIfAbsent id addr).allowedIdToAddr i = some a) :
    t.allowedIdToAddr i = some a ∨ i = id ∧ a = addr := by
  rw [allowIfAbsent] at h
  split_ifs at h
  · exact Or.inl h
  · exact t.allow_allowedIdToAddr h

lemma handleCall_allowedIdToAddr {seed : ℕ} {sourceId destId : Id} {source dest : SocketAddr}
    (h : (t.handleCall seed sourceId destId source dest).1.allowedIdToAddr i = some a) :
    t.allowedIdToAddr i = some a ∨ (i = sourceId ∧ a = source) ∨ (i = destId ∧ a = dest) := by
  rcases t.handleCall_cases seed sourceId destId source dest with heq | ⟨ch, heq⟩
  · exact Or.inl (heq ▸ h)
  · rw [heq] at h
    rcases allowIfAbsent_allowedIdToAddr _ h with h | h
    · rcases allowIfAbsent_allowedIdToAddr _ h with h | h
      · exact Or.inl h
      · exact Or.inr (Or.inl h)
    · exact Or.inr (Or.inr h)

/-! ## Allocation -/

section Allocation

variable {t : RelayHandler} {n candidate seed ch : ℕ}

lemma first_le (seed : ℕ) : minCh + seed % (maxCh - minCh + 1) ≤ maxCh := by
  have hlt : seed % (maxCh - minCh + 1) < maxCh - minCh + 1 := Nat.mod_lt _ (by decide)
  simp only [minCh, maxCh] at hlt ⊢
  omega

lemma of_probe (hc : minCh ≤ candidate ∧ candidate ≤ maxCh) (h : t.probe n candidate = some ch) :
    (minCh ≤ ch ∧ ch ≤ maxCh) ∧ t.chToPair ch = none := by
  induction n generalizing candidate with
  | zero => cases h
  | succ n ih =>
    rw [probe] at h
    split_ifs at h with hfree hmax
    · obtain rfl := Option.some.inj h
      exact ⟨hc, Option.isNone_iff_eq_none.mp hfree⟩
    · exact ih ⟨le_rfl, by decide⟩ h
    · exact ih ⟨by omega, by omega⟩ h

lemma of_allocChannel (h : t.allocChannel seed = some ch) :
    (minCh ≤ ch ∧ ch ≤ maxCh) ∧ t.chToPair ch = none :=
  of_probe ⟨Nat.le_add_right _ _, first_le seed⟩ h

lemma isSome_of_probe (hc : candidate ≤ maxCh) (h : t.probe n candidate = none)
    (hch : minCh ≤ ch ∧ ch ≤ maxCh)
    (hreach : candidate ≤ ch ∧ ch < candidate + n ∨ ch + (maxCh - minCh + 1) < candidate + n) :
    (t.chToPair ch).isSome := by
  induction n generalizing candidate with
  | zero =>
    simp only [minCh, maxCh] at *
    omega
  | succ n ih =>
    by_cases heq : ch = candidate
    · subst heq
      by_contra hfree
      simp [probe, Option.not_isSome_iff_eq_none.mp hfree] at h
    · rw [probe] at h
      split_ifs at h with hfree hmax
      · refine ih (by decide) h (.inl ⟨hch.1, ?_⟩)
        simp only [minCh, maxCh] at *
        omega
      · exact ih (by omega) h (by omega)

/-- **Allocation is complete.**  What is allocated is a channel of the range that is not in use, and
nothing is allocated exactly if all 16383 are. -/
theorem alloc_channel_complete (t : RelayHandler) (seed : ℕ) :
    (∀ ch, t.allocChannel seed = some ch →
      ch ∈ Finset.Icc 0x4000 0x7FFE ∧ t.chToPair ch = none) ∧
    (t.allocChannel seed = none ↔ ∀ ch ∈ Finset.Icc 0x4000 0x7FFE, (t.chToPair ch).isSome) ∧
    (Finset.Icc 0x4000 0x7FFE).card = 16383 := by
  refine ⟨fun ch h => ?_, ⟨fun h ch hch => ?_, fun h => ?_⟩, by rw [Nat.card_Icc]⟩
  · obtain ⟨hrange, hfree⟩ := of_allocChannel h
    exact ⟨Finset.mem_Icc.mpr hrange, hfree⟩
  · -- the turn in which the loop comes to the channel
    obtain ⟨hmin, hmax⟩ := Finset.mem_Icc.mp hch
    refine isSome_of_probe (first_le seed) h ⟨hmin, hmax⟩ ?_
    rcases le_or_gt (minCh + seed % (maxCh - minCh + 1)) ch with hle | hlt
    · refine .inl ⟨hle, ?_⟩
      simp only [minCh, maxCh] at *
      omega
    · exact .inr (by omega)
  · cases halloc : t.allocChannel seed with
    | none => rfl
    | some ch =>
      obtain ⟨hrange, hfree⟩ := of_allocChannel halloc
      have hused := h ch (Finset.mem_Icc.mpr hrange)
      rw [hfree] at hused
      cases hused

end Allocation

end RelayHandler

/-! ## The client's table -/

structure ClientHandler where
  chToAddr : ℕ → Option SocketAddr
  pairToCh : SocketAddr × SocketAddr → Option ℕ

def ClientHandler.new : ClientHandler := ⟨fun _ => none, fun _ => none⟩

def ClientHandler.handleCalled (t : ClientHandler) (source dest : SocketAddr) (channel : ℕ) :
    ClientHandler where
  chToAddr := Function.update t.chToAddr channel (some source)
  pairToCh := Function.update (Function.update t.pairToCh (source, dest) (some channel))
    (dest, source) (some channel)

end Bingle.Turn
