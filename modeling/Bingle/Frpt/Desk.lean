import Mathlib
import Bingle.Frpt.Transport
import Bingle.Lib.Run

/-!
# Calls of `send`, section by section

`send` reads the session generation, takes a transaction id and enters itself among the pending
acknowledgements, in three sections; it then waits, and sends again.  Acknowledgements are
dispatched by other threads, and a reset of the endpoint moves the generation on and clears its
entries.
-/

namespace Bingle.Frpt

open Lib (run)

variable {κ : Type*}

/-! ## The sections -/

inductive CallPhase (κ : Type*)
  | idle
  | generationRead (to_ : κ) (generation : ℕ) (block : Bytes)
  | numbered (key : TxKey κ) (block : Bytes)
  | due (key : TxKey κ) (block : Bytes) (waits : Option (ℕ × ℕ))
  /-- `attempt` of so many waits are over -/
  | waiting (key : TxKey κ) (block : Bytes) (attempt waits : ℕ)
  | returned (key : Option (TxKey κ)) (result : Except String Unit)

namespace CallPhase

def key? : CallPhase κ → Option (TxKey κ)
  | numbered key _ | due key _ _ | waiting key _ _ _ => some key
  | returned key _ => key
  | idle | generationRead _ _ _ => none

def running : CallPhase κ → Option (TxKey κ)
  | numbered key _ | due key _ _ | waiting key _ _ _ => some key
  | returned _ _ | idle | generationRead _ _ _ => none

def registered : CallPhase κ → Bool
  | due _ _ _ | waiting _ _ _ _ | returned _ _ => true
  | idle | generationRead _ _ _ | numbered _ _ => false

def outstanding : CallPhase κ → Bool
  | idle | returned _ _ => false
  | generationRead _ _ _ | numbered _ _ | due _ _ _ | waiting _ _ _ _ => true

lemma key?_of_running {p : CallPhase κ} {key : TxKey κ} (h : p.running = some key) :
    p.key? = some key := by
  cases p <;> first | exact h | exact absurd h (Option.some_ne_none key).symm

end CallPhase

inductive AckPhase (κ : Type*)
  | idle
  | parsed (key : TxKey κ)
  /-- the entry of a call was taken out; its waiter is still to be told -/
  | matched (call : ℕ)

/-- A transport with the calls of `send` and the dispatches that run on it.  `dispatched` and
`emitted` are a log: the keys of acknowledgements dispatched, and the packets given to DTLS. -/
structure Desk (κ : Type*) extends Transport κ where
  call : ℕ → CallPhase κ := fun _ => .idle
  flag : ℕ → Bool := fun _ => false
  acking : ℕ → AckPhase κ := fun _ => .idle
  /-- resets that have moved the generation on and not cleared the pending acknowledgements -/
  bumped : List κ := []
  dispatched : List (TxKey κ) := []
  emitted : List Bytes := []

inductive DeskEvent (κ : Type*)
  /-- `send` begins: the length check, and `current_session_generation` -/
  | begin (n : ℕ) (to_ : κ) (block : Bytes)
  | number (n : ℕ)
  | register (n : ℕ)
  | transmit (n : ℕ)
  | sendFails (n : ℕ) (e : String)
  | timeout (n : ℕ)
  | wake (n : ℕ)
  | waitFails (n : ℕ) (e : String)
  | giveUp (n : ℕ)
  /-- a packet arrives; `ackSent` is whether DTLS takes its acknowledgement -/
  | packet (thread : ℕ) (sender : κ) (bytes : Bytes) (ackSent : Bool)
  | matchAck (thread : ℕ)
  | tell (thread : ℕ)
  /-- `handle_new_dtls_session`, the generation -/
  | newSession (endpoint : κ)
  /-- `handle_new_dtls_session`, the pending acknowledgements -/
  | clearAcks (endpoint : κ)
  | setRetryDelays (delays : List ℕ)

namespace Desk

def init (mtu : ℕ) : Desk κ := { mtu := mtu }

def setCall (d : Desk κ) (n : ℕ) (p : CallPhase κ) : Desk κ :=
  { d with call := Function.update d.call n p }

def setAcking (d : Desk κ) (thread : ℕ) (p : AckPhase κ) : Desk κ :=
  { d with acking := Function.update d.acking thread p }

def lengthError (mtu : ℕ) (block : Bytes) : String :=
  s!"[DtlsReliablePacketTransport::send] block length {block.length} exceeds DATA_SINGLE capacity {mtu - frptHeaderLen} for mtu {mtu}"

def noAckError (waits : ℕ) (txId : UInt16) : String :=
  s!"[DtlsReliablePacketTransport::send] no ACK_COMPLETE received after {waits} retries for tx_id={txId.toNat}"

section Step

variable [DecidableEq κ]

def failCall (d : Desk κ) (n : ℕ) (key : TxKey κ) (e : String) : Desk κ :=
  { d.setCall n (.returned (some key) (.error e)) with
    pendingAcks := Function.update d.pendingAcks key none }

def receive (d : Desk κ) (thread : ℕ) (sender : κ) (bytes : Bytes) (ackSent : Bool) : Desk κ :=
  match parsePacket bytes with
  | some (.ackComplete txId) =>
    let key : TxKey κ := ⟨sender, d.endpointSessions sender, txId⟩
    { d.setAcking thread (.parsed key) with dispatched := key :: d.dispatched }
  | some (.dataSingle txId _) =>
    if ackSent then { d with emitted := ackCompletePacket txId :: d.emitted } else d
  | _ => d

def step (d : Desk κ) : DeskEvent κ → Desk κ
  | .begin n to_ block =>
    match d.call n with
    | .idle =>
      if block.length + frptHeaderLen > d.mtu then
        d.setCall n (.returned none (.error (lengthError d.mtu block)))
      else d.setCall n (.generationRead to_ (d.endpointSessions to_) block)
    | _ => d
  | .number n =>
    match d.call n with
    | .generationRead to_ generation block =>
      { d.setCall n (.numbered ⟨to_, generation, d.nextTxId⟩ block) with
        nextTxId := d.nextTxId + 1 }
    | _ => d
  | .register n =>
    match d.call n with
    | .numbered key block =>
      { d.setCall n (.due key block none) with
        pendingAcks := Function.update d.pendingAcks key (some n) }
    | _ => d
  | .transmit n =>
    match d.call n with
    | .due key block waits =>
      -- the delays are read once, after the first packet
      let (attempt, waits) := waits.getD (0, d.retryDelays.length)
      { d.setCall n (.waiting key block attempt waits) with
        emitted := buildDataSinglePacket key.txId block :: d.emitted }
    | _ => d
  | .sendFails n e =>
    match d.call n with
    | .due key _ _ => d.failCall n key e
    | _ => d
  | .timeout n =>
    match d.call n with
    | .waiting key block attempt waits =>
      if d.flag n ∨ waits ≤ attempt then d
      else if attempt + 1 < waits then d.setCall n (.due key block (some (attempt + 1, waits)))
      else d.setCall n (.waiting key block (attempt + 1) waits)
    | _ => d
  | .wake n =>
    match d.call n with
    | .waiting key _ attempt waits =>
      if d.flag n ∧ attempt < waits then d.setCall n (.returned (some key) (.ok ())) else d
    | _ => d
  | .waitFails n e =>
    match d.call n with
    | .waiting key _ attempt waits => if attempt < waits then d.failCall n key e else d
    | _ => d
  | .giveUp n =>
    match d.call n with
    | .waiting key _ attempt waits =>
      if waits ≤ attempt then d.failCall n key (noAckError waits key.txId) else d
    | _ => d
  | .packet thread sender bytes ackSent =>
    match d.acking thread with
    | .idle => d.receive thread sender bytes ackSent
    | _ => d
  | .matchAck thread =>
    match d.acking thread with
    | .parsed key =>
      { d.setAcking thread ((d.pendingAcks key).elim .idle .matched) with
        pendingAcks := Function.update d.pendingAcks key none }
    | _ => d
  | .tell thread =>
    match d.acking thread with
    | .matched n => { d.setAcking thread .idle with flag := Function.update d.flag n true }
    | _ => d
  | .newSession endpoint =>
    { d with
      endpointSessions := Function.update d.endpointSessions endpoint
        (nextSessionGeneration (d.endpointSessions endpoint))
      bumped := endpoint :: d.bumped }
  | .clearAcks endpoint =>
    if endpoint ∈ d.bumped then
      { d with
        pendingAcks := fun key => if key.endpoint = endpoint then none else d.pendingAcks key
        bumped := d.bumped.erase endpoint }
    else d
  | .setRetryDelays delays => { d with retryDelays := delays }

/-! ## What one section can do -/

inductive Moves (d : Desk κ) : DeskEvent κ → Desk κ → Prop
  | rest {e : DeskEvent κ} {d' : Desk κ}
      (htable : ∀ key m, d'.pendingAcks key = some m → d.pendingAcks key = some m)
      (hcall : d'.call = d.call) (hflag : d'.flag = d.flag) (hacking : d'.acking = d.acking)
      (hdispatched : d'.dispatched = d.dispatched) (hemitted : d'.emitted = d.emitted)
      (hmtu : d'.mtu = d.mtu) : Moves d e d'
  | refuse {e : DeskEvent κ} (n : ℕ) (error : String) (hphase : d.call n = .idle) :
      Moves d e (d.setCall n (.returned none (.error error)))
  | begin {e : DeskEvent κ} (n : ℕ) (to_ : κ) (generation : ℕ) (block : Bytes)
      (hphase : d.call n = .idle) (hlength : block.length + frptHeaderLen ≤ d.mtu) :
      Moves d e (d.setCall n (.generationRead to_ generation block))
  | number (n : ℕ) (to_ : κ) (generation : ℕ) (block : Bytes)
      (hphase : d.call n = .generationRead to_ generation block) :
      Moves d (.number n) { d.setCall n (.numbered ⟨to_, generation, d.nextTxId⟩ block) with
        nextTxId := d.nextTxId + 1 }
  | register {e : DeskEvent κ} (n : ℕ) (key : TxKey κ) (block : Bytes)
      (hphase : d.call n = .numbered key block) :
      Moves d e { d.setCall n (.due key block none) with
        pendingAcks := Function.update d.pendingAcks key (some n) }
  | transmit {e : DeskEvent κ} (n : ℕ) (key : TxKey κ) (block : Bytes)
      (before : Option (ℕ × ℕ)) (attempt waits : ℕ) (hphase : d.call n = .due key block before) :
      Moves d e { d.setCall n (.waiting key block attempt waits) with
        emitted := buildDataSinglePacket key.txId block :: d.emitted }
  | retry {e : DeskEvent κ} (n : ℕ) (key : TxKey κ) (block : Bytes) (attempt waits : ℕ)
      (hphase : d.call n = .waiting key block attempt waits) :
      Moves d e (d.setCall n (.due key block (some (attempt + 1, waits))))
  | lastWait {e : DeskEvent κ} (n : ℕ) (key : TxKey κ) (block : Bytes) (attempt waits : ℕ)
      (hphase : d.call n = .waiting key block attempt waits) :
      Moves d e (d.setCall n (.waiting key block (attempt + 1) waits))
  | fail {e : DeskEvent κ} (n : ℕ) (key : TxKey κ) (error : String)
      (hrunning : (d.call n).running = some key) :
      Moves d e (d.failCall n key error)
  | finish {e : DeskEvent κ} (n : ℕ) (key : TxKey κ) (block : Bytes) (attempt waits : ℕ)
      (hphase : d.call n = .waiting key block attempt waits) (hflag : d.flag n = true) :
      Moves d e (d.setCall n (.returned (some key) (.ok ())))
  | acknowledge {e : DeskEvent κ} (txId : UInt16) :
      Moves d e { d with emitted := ackCompletePacket txId :: d.emitted }
  | parse {e : DeskEvent κ} (thread : ℕ) (key : TxKey κ) (hidle : d.acking thread = .idle) :
      Moves d e { d.setAcking thread (.parsed key) with dispatched := key :: d.dispatched }
  | matchAck {e : DeskEvent κ} (thread : ℕ) (key : TxKey κ)
      (hparsed : d.acking thread = .parsed key) :
      Moves d e { d.setAcking thread ((d.pendingAcks key).elim .idle .matched) with
        pendingAcks := Function.update d.pendingAcks key none }
  | tell {e : DeskEvent κ} (thread n : ℕ) (hmatched : d.acking thread = .matched n) :
      Moves d e { d.setAcking thread .idle with flag := Function.update d.flag n true }

lemma Moves.refl (d : Desk κ) (e : DeskEvent κ) : d.Moves e d :=
  .rest (fun _ _ h => h) rfl rfl rfl rfl rfl rfl

lemma moves_receive {d : Desk κ} {e : DeskEvent κ} {thread : ℕ} {sender : κ} {bytes : Bytes}
    {ackSent : Bool} (hidle : d.acking thread = .idle) :
    d.Moves e (d.receive thread sender bytes ackSent) := by
  unfold receive
  split
  · exact .parse thread _ hidle
  · split
    · exact .acknowledge _
    · exact .refl d _
  · exact .refl d _

lemma moves_step (d : Desk κ) (e : DeskEvent κ) : d.Moves e (d.step e) := by
  cases e with
  | begin n to_ block =>
    simp only [step]
    split
    · rename_i hphase
      split_ifs with hlength
      · exact .refuse n _ hphase
      · exact .begin n to_ _ block hphase (not_lt.mp hlength)
    · exact .refl d _
  | number n =>
    simp only [step]
    split
    · rename_i hphase
      exact .number n _ _ _ hphase
    · exact .refl d _
  | register n =>
    simp only [step]
    split
    · rename_i hphase
      exact .register n _ _ hphase
    · exact .refl d _
  | transmit n =>
    simp only [step]
    split
    · rename_i hphase
      exact .transmit n _ _ _ _ _ hphase
    · exact .refl d _
  | sendFails n e =>
    simp only [step]
    split
    · rename_i hphase
      exact .fail n _ e (by rw [hphase]; rfl)
    · exact .refl d _
  | timeout n =>
    simp only [step]
    split
    · rename_i hphase
      split_ifs
      · exact .refl d _
      · exact .retry n _ _ _ _ hphase
      · exact .lastWait n _ _ _ _ hphase
    · exact .refl d _
  | wake n =>
    simp only [step]
    split
    · rename_i hphase
      split_ifs with hflag
      · exact .finish n _ _ _ _ hphase hflag.1
      · exact .refl d _
    · exact .refl d _
  | waitFails n e =>
    simp only [step]
    split
    · rename_i hphase
      split_ifs
      · exact .fail n _ e (by rw [hphase]; rfl)
      · exact .refl d _
    · exact .refl d _
  | giveUp n =>
    simp only [step]
    split
    · rename_i hphase
      split_ifs
      · exact .fail n _ _ (by rw [hphase]; rfl)
      · exact .refl d _
    · exact .refl d _
  | packet thread sender bytes ackSent =>
    simp only [step]
    split
    · rename_i hidle
      exact moves_receive hidle
    · exact .refl d _
  | matchAck thread =>
    simp only [step]
    split
    · rename_i hparsed
      exact .matchAck thread _ hparsed
    · exact .refl d _
  | tell thread =>
    simp only [step]
    split
    · rename_i hmatched
      exact .tell thread _ hmatched
    · exact .refl d _
  | newSession endpoint => exact .rest (fun _ _ h => h) rfl rfl rfl rfl rfl rfl
  | clearAcks endpoint =>
    simp only [step]
    split_ifs
    · refine .rest (fun key m h => ?_) rfl rfl rfl rfl rfl rfl
      simp only at h
      split_ifs at h
      exact h
    · exact .refl d _
  | setRetryDelays delays => exact .rest (fun _ _ h => h) rfl rfl rfl rfl rfl rfl

end Step

end Desk

end Bingle.Frpt
