import Mathlib

/-!
# The packet transport (FRPT)

`DtlsReliablePacketTransport` (`bingle_core/src/packet_transport/mod.rs`): blocks are sent as single
packets with a 16-bit transaction id, acknowledged by the receiver, and sent again until they are.
A block is acknowledged first, then its id is entered, then the handler is called.  An `Origin`, the
number of the `send` that a block comes from, is not in the program.
-/

namespace Bingle.Frpt

/-! ## Packets -/

def frptVersion : UInt8 := 0x1

def packetTypeDataSingle : UInt8 := 0x1

def packetTypeAckComplete : UInt8 := 0x4

def frptHeaderLen : ℕ := 4

abbrev Bytes := List UInt8

def buildHeader (packetType : UInt8) (txId : UInt16) : Bytes :=
  [((frptVersion &&& 0x0F) <<< 4) ||| (packetType &&& 0x0F), 0, (txId >>> 8).toUInt8,
    (txId &&& 0xFF).toUInt8]

def buildDataSinglePacket (txId : UInt16) (payload : Bytes) : Bytes :=
  buildHeader packetTypeDataSingle txId ++ payload

def ackCompletePacket (txId : UInt16) : Bytes := buildHeader packetTypeAckComplete txId

inductive ParsedPacket
  | dataSingle (txId : UInt16) (payload : Bytes)
  | ackComplete (txId : UInt16)
  | unsupportedFrpt
deriving DecidableEq, Repr

def parsePacket : Bytes → Option ParsedPacket
  | verType :: _flags :: hi :: lo :: payload =>
    if verType >>> 4 ≠ frptVersion then none
    else
      let packetType := verType &&& 0x0F
      let txId := (hi.toUInt16 <<< 8) ||| lo.toUInt16
      if packetType = packetTypeDataSingle then some (.dataSingle txId payload)
      else if packetType = packetTypeAckComplete ∧ payload = [] then some (.ackComplete txId)
      else some .unsupportedFrpt
  | _ => none

lemma txId_of_bytes (txId : UInt16) :
    ((txId >>> 8).toUInt8.toUInt16 <<< 8) ||| (txId &&& 0xFF).toUInt8.toUInt16 = txId := by
  have hn : txId.toNat < 65536 := txId.toNat_lt
  have h8 : UInt16.toNat 8 % 16 = 8 := rfl
  have h255 : UInt16.toNat 0xFF = 2 ^ 8 - 1 := rfl
  have hhi : txId.toNat / 2 ^ 8 < 2 ^ 8 := by omega
  apply UInt16.toNat_inj.mp
  simp only [UInt16.toNat_or, UInt16.toNat_shiftLeft, UInt8.toNat_toUInt16, UInt16.toNat_toUInt8,
    UInt16.toNat_shiftRight, UInt16.toNat_and]
  -- the two bytes do not overlap, so the `or` is a sum
  rw [h8, h255, Nat.and_two_pow_sub_one_eq_mod, Nat.mod_mod, Nat.shiftRight_eq_div_pow,
    Nat.mod_eq_of_lt hhi, Nat.shiftLeft_eq, Nat.mod_eq_of_lt (by omega), ← Nat.shiftLeft_eq,
    ← Nat.shiftLeft_add_eq_or_of_lt (by omega), Nat.shiftLeft_eq]
  omega

@[simp] lemma parsePacket_buildDataSinglePacket (txId : UInt16) (payload : Bytes) :
    parsePacket (buildDataSinglePacket txId payload) = some (.dataSingle txId payload) := by
  have hversion : (((frptVersion &&& 0x0F) <<< 4) ||| (packetTypeDataSingle &&& 0x0F)) >>> 4 =
      frptVersion := by decide
  have htype : (((frptVersion &&& 0x0F) <<< 4) ||| (packetTypeDataSingle &&& 0x0F)) &&& 0x0F =
      packetTypeDataSingle := by decide
  simp only [buildDataSinglePacket, buildHeader, List.cons_append, List.nil_append, parsePacket,
    hversion, htype, txId_of_bytes, ne_eq, not_true_eq_false, if_false, if_true]

@[simp] lemma parsePacket_ackCompletePacket (txId : UInt16) :
    parsePacket (ackCompletePacket txId) = some (.ackComplete txId) := by
  have hversion : (((frptVersion &&& 0x0F) <<< 4) ||| (packetTypeAckComplete &&& 0x0F)) >>> 4 =
      frptVersion := by decide
  have htype : (((frptVersion &&& 0x0F) <<< 4) ||| (packetTypeAckComplete &&& 0x0F)) &&& 0x0F =
      packetTypeAckComplete := by decide
  have hne : packetTypeAckComplete ≠ packetTypeDataSingle := by decide
  simp only [ackCompletePacket, buildHeader, parsePacket, hversion, htype, txId_of_bytes, ne_eq,
    not_true_eq_false, if_false, hne, and_self, if_true]

/-! ## The tables -/

/-- `AckKey` and `DeliveredKey`: an endpoint, its session generation, and a transaction id. -/
@[ext] structure TxKey (κ : Type*) where
  endpoint : κ
  generation : ℕ
  txId : UInt16
deriving DecidableEq

/-- `DtlsReliablePacketTransport`.  A waiter is the number of the `send` that waits. -/
structure Transport (κ : Type*) where
  mtu : ℕ
  retryDelays : List ℕ := [2, 4, 8]
  handleMessage : Bool := false
  nextTxId : UInt16 := 0
  endpointSessions : κ → ℕ := fun _ => 0
  pendingAcks : TxKey κ → Option ℕ := fun _ => none
  receivedSingleBlocks : Finset (TxKey κ) := ∅

def nextSessionGeneration (current : ℕ) : ℕ :=
  let next := (current + 1) % 2 ^ 64
  if next = 0 then 1 else next

structure Origin where
  process : ℕ
  index : ℕ
deriving DecidableEq, Repr

structure Datagram where
  bytes : Bytes
  origin : Option Origin := none
deriving DecidableEq, Repr

structure Sending (κ : Type*) where
  block : Bytes
  ackKey : TxKey κ
  due : Bool := true
  attempt : ℕ := 0
  acked : Bool := false
  result : Option (Except String Unit) := none
deriving DecidableEq

def Sending.packet {κ : Type*} (s : Sending κ) : Bytes :=
  buildDataSinglePacket s.ackKey.txId s.block

structure Dispatch (κ : Type*) where
  key : TxKey κ
  payload : Bytes
  recorded : Bool := false
  origin : Option Origin
deriving DecidableEq

/-- A transport with its sends, its handler threads and what was handed on. -/
structure Party (κ : Type*) extends Transport κ where
  sends : List (Sending κ) := []
  dispatching : List (Dispatch κ) := []
  handed : List (Option Origin × Bytes) := []

namespace Party

variable {κ : Type*} [DecidableEq κ]

def handleNewDtlsSession (p : Party κ) (k : κ) : Party κ :=
  { p with
    endpointSessions :=
      Function.update p.endpointSessions k (nextSessionGeneration (p.endpointSessions k))
    pendingAcks := fun key => if key.endpoint = k then none else p.pendingAcks key
    receivedSingleBlocks := p.receivedSingleBlocks.filter fun key => key.endpoint ≠ k }

/-! ## Sending -/

/-- `send`, up to the first packet: the length check, `next_tx_id` and `register_pending_ack`. -/
def startSend (p : Party κ) (to_ : κ) (block : Bytes) : Except String (Party κ) :=
  if block.length + frptHeaderLen > p.mtu then
    .error s!"[DtlsReliablePacketTransport::send] block length {block.length} exceeds DATA_SINGLE capacity {p.mtu - frptHeaderLen} for mtu {p.mtu}"
  else
    let ackKey := ⟨to_, p.endpointSessions to_, p.nextTxId⟩
    .ok { p with
      nextTxId := p.nextTxId + 1
      pendingAcks := Function.update p.pendingAcks ackKey (some p.sends.length)
      sends := p.sends ++ [{ block, ackKey }] }

def clearPendingAck (p : Party κ) (key : TxKey κ) : Party κ :=
  { p with pendingAcks := Function.update p.pendingAcks key none }

def setSend (p : Party κ) (n : ℕ) (s : Sending κ) : Party κ := { p with sends := p.sends.set n s }

def transmit (p : Party κ) (n : ℕ) (s : Sending κ) : Party κ := p.setSend n { s with due := false }

def failSend (p : Party κ) (n : ℕ) (s : Sending κ) (e : String) : Party κ :=
  (p.clearPendingAck s.ackKey).setSend n { s with due := false, result := some (.error e) }

def timeout (p : Party κ) (n : ℕ) (s : Sending κ) : Party κ :=
  p.setSend n { s with
    attempt := s.attempt + 1, due := decide (s.attempt + 1 < p.retryDelays.length) }

def returnOk (p : Party κ) (n : ℕ) (s : Sending κ) : Party κ :=
  p.setSend n { s with result := some (.ok ()) }

def giveUp (p : Party κ) (n : ℕ) (s : Sending κ) : Party κ :=
  p.failSend n s s!"[DtlsReliablePacketTransport::send] no ACK_COMPLETE received after {p.retryDelays.length} retries for tx_id={s.ackKey.txId.toNat}"

inductive SendStep
  | transmit
  | sendFails (e : String)
  | timeout
  | returnOk
  | giveUp
deriving DecidableEq, Repr

def sendStep (p : Party κ) (n : ℕ) (e : SendStep) : Party κ :=
  match p.sends[n]? with
  | none => p
  | some s =>
    if s.result.isSome then p
    else match e with
      | .transmit => if s.due then p.transmit n s else p
      | .sendFails e => if s.due then p.failSend n s e else p
      | .timeout =>
        if s.due ∨ s.acked ∨ p.retryDelays.length ≤ s.attempt then p else p.timeout n s
      | .returnOk =>
        if s.due ∨ ¬ s.acked ∨ p.retryDelays.length ≤ s.attempt then p else p.returnOk n s
      | .giveUp => if s.due ∨ s.attempt < p.retryDelays.length then p else p.giveUp n s

def transmission (p : Party κ) (n : ℕ) : SendStep → Option Bytes
  | .transmit => p.sends[n]?.bind fun s =>
      if s.result.isSome ∨ ¬ s.due then none else some s.packet
  | _ => none

/-! ## Receiving -/

def completePendingAck (p : Party κ) (key : TxKey κ) : Party κ :=
  match p.pendingAcks key with
  | some n =>
    { p.clearPendingAck key with sends := p.sends.modify n fun s => { s with acked := true } }
  | none => p

/-- `dispatch_inbound_packet`, its first section, with the acknowledgement it sends.  `ackSent` is
whether DTLS takes that. -/
def receive (p : Party κ) (from_ : κ) (d : Datagram) (ackSent : Bool) :
    Party κ × Option Datagram :=
  match parsePacket d.bytes with
  | none =>
    if p.handleMessage then ({ p with handed := p.handed ++ [(d.origin, d.bytes)] }, none)
    else (p, none)
  | some .unsupportedFrpt => (p, none)
  | some (.ackComplete txId) =>
    (p.completePendingAck ⟨from_, p.endpointSessions from_, txId⟩, none)
  | some (.dataSingle txId payload) =>
    if ackSent then
      let key := ⟨from_, p.endpointSessions from_, txId⟩
      ({ p with dispatching := { key, payload, origin := d.origin } :: p.dispatching },
        some { bytes := ackCompletePacket txId })
    else (p, none)

def record (p : Party κ) (d : Dispatch κ) : Party κ :=
  if d ∈ p.dispatching ∧ d.recorded = false then
    if d.key ∈ p.receivedSingleBlocks then { p with dispatching := p.dispatching.erase d }
    else
      { p with
        receivedSingleBlocks := insert d.key p.receivedSingleBlocks
        dispatching := { d with recorded := true } :: p.dispatching.erase d }
  else p

def deliver (p : Party κ) (d : Dispatch κ) : Party κ :=
  if d ∈ p.dispatching ∧ d.recorded = true then
    { p with
      dispatching := p.dispatching.erase d
      handed := if p.handleMessage then p.handed ++ [(d.origin, d.payload)] else p.handed }
  else p

end Party

end Bingle.Frpt
