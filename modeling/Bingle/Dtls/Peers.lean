import Mathlib

/-!
# The peer entry of one endpoint, and the sessions that share it

`DtlsOpenSsl` (`bingle_core/src/dtls/dtls_openssl.rs`) keeps one `PeerState` for each endpoint key,
behind one lock.  Inbound handshakes, outbound ones, and the readers they become share it, each in a
thread of its own; `step` is one section under the lock.  `PeerState.owner` and `Endpoint.handed`
are not in the program.
-/

namespace Bingle.Dtls

/-- A session on the endpoint, numbered in the order they start. -/
abbrev SessionId := ℕ

/-- `PeerWriter`: the placeholder of an accept, a channel nobody reads, or a session's stream. -/
inductive Writer
  | placeholder
  | dead
  | stream (s : SessionId)
deriving DecidableEq, Repr

/-- `PeerHandle`: the worker of an accept (which looks the writer up when it sends), or of a dialled
session (which holds its own). -/
inductive Worker
  | accept
  | send (s : SessionId)
deriving DecidableEq, Repr

/-- `PeerState`: the entry of the peer table for one endpoint. -/
structure PeerState where
  writer : Option Writer := none
  issuer : String := ""
  asyncQueue : ℕ
  peerHandle : Option Worker := none
  isConnectingPeer : Bool := false
  handshakeLogged : Bool := false
  writerReady : Bool := false
  cipherSuite : Option String := none
  generation : ℕ
  /-- not in the program: the session that last claimed the entry -/
  owner : Option SessionId := none
deriving DecidableEq, Repr

def nextPeerGeneration (currentGeneration : ℕ) : ℕ :=
  let next := (currentGeneration + 1) % 2 ^ 64
  if next = 0 then 1 else next

def newPeerState (generation queue : ℕ) : PeerState := { generation, asyncQueue := queue }

def getOrCreatePeerState (entry : Option PeerState) (queue : ℕ) : PeerState :=
  entry.getD (newPeerState 0 queue)

def takePeerStateIfOwner (entry : Option PeerState) (ownerGeneration : ℕ) : Option PeerState :=
  if entry.map PeerState.generation = some ownerGeneration then none else entry

structure Accepted where
  entry : Option PeerState
  acceptGeneration : Option ℕ
  newSession : Bool
deriving DecidableEq, Repr

def claimForAccept (ps : PeerState) (s : SessionId) (newSession : Bool) : Accepted :=
  if ps.writer = none then
    let generation := nextPeerGeneration ps.generation
    ⟨some { ps with
        generation, writer := some .placeholder, handshakeLogged := false, owner := some s },
      some generation, newSession⟩
  else ⟨some ps, none, newSession⟩

/-- `handle_dtls_accept_packet`, its section under the lock.  `s` and `queue` are the session and
the queue that are created if any is. -/
def handleDtlsAcceptPacket (entry : Option PeerState) (isClientHello designated : Bool)
    (s : SessionId) (queue : ℕ) : Accepted :=
  match entry with
  | none => claimForAccept (newPeerState 0 queue) s false
  | some ps =>
    if isClientHello ∧ ps.isConnectingPeer ∧ ¬ ps.handshakeLogged then
      -- simultaneous connect: one side yields its own handshake
      if designated then ⟨some ps, none, false⟩
      else claimForAccept (newPeerState (nextPeerGeneration ps.generation) queue) s false
    else if isClientHello ∧ ¬ ps.isConnectingPeer ∧ ps.writer.isSome then
      -- the peer has restarted: drop the old state and tell the packet transport
      claimForAccept (newPeerState (nextPeerGeneration ps.generation) queue) s true
    else claimForAccept ps s false

/-- `send`, the section that starts an outbound connect: the entry it leaves, and the generation and
queue of the new session, unless the peer has dialled meanwhile. -/
def startConnect (entry : Option PeerState) (s : SessionId) (queue : ℕ) :
    PeerState × Option (ℕ × ℕ) :=
  let ps := getOrCreatePeerState entry queue
  if ps.writer.isSome ∧ ¬ ps.isConnectingPeer then (ps, none)
  else
    let generation := nextPeerGeneration ps.generation
    ({ ps with
        generation, writer := some (.stream s), issuer := "", peerHandle := some (.send s),
        isConnectingPeer := true, handshakeLogged := false, owner := some s },
      some (generation, ps.asyncQueue))

/-! ## Sessions -/

inductive Verdict
  | noCertificate
  | rejected
  | validated (id : String)
deriving DecidableEq, Repr

def Verdict.identity : Verdict → Option String
  | .validated id => some id
  | _ => none

inductive Phase
  | handshaking
  /-- the handshake is complete; the issuer is not recorded yet -/
  | shaken (v : Verdict)
  /-- past recording the issuer; the writer is not installed yet -/
  | recorded
  | reading
  | closed
deriving DecidableEq, Repr

/-- A handshake that was begun, from either side, and how far it has come. -/
structure Session where
  accepting : Bool
  generation : ℕ
  asyncQueue : ℕ
  phase : Phase := .handshaking
  identity : Option String := none
deriving DecidableEq, Repr

/-- One endpoint key: its entry, the sessions started on it, and the data handed on, by the session
that decrypted it and the id it was attributed to. -/
structure Endpoint where
  entry : Option PeerState := none
  session : SessionId → Option Session := fun _ => none
  started : ℕ := 0
  handed : List (SessionId × String) := []

inductive Event
  /-- an inbound datagram that is not for an established session's queue alone -/
  | packet (isClientHello designated : Bool)
  | attachWorker
  | dial
  | handshakeFails (s : SessionId)
  | handshakeCompletes (s : SessionId) (cipher : String) (v : Verdict)
  | recordIssuer (s : SessionId)
  /-- the outbound path puts the writer on a dead channel, to split the stream -/
  | detachWriter (s : SessionId)
  | splitFails (s : SessionId)
  | installWriter (s : SessionId)
  | handOn (s : SessionId)
  | idle (s : SessionId)
  | readEnds (s : SessionId)
  /-- `forget_peer`, `forget_peers`, `stop`, or an unhealthy worker: the entry is removed -/
  | forget
deriving DecidableEq, Repr

namespace Endpoint

def moveTo (w : Endpoint) (s : SessionId) (phase : Phase) : Endpoint :=
  let moved := (w.session s).map fun se => { se with phase }
  { w with session := Function.update w.session s moved }

def modifyEntry (w : Endpoint) (f : PeerState → PeerState) : Endpoint :=
  { w with entry := w.entry.map f }

def start (w : Endpoint) (se : Session) : Endpoint :=
  { w with session := Function.update w.session w.started (some se), started := w.started + 1 }

def close (w : Endpoint) (s : SessionId) (se : Session) : Endpoint :=
  ({ w with entry := takePeerStateIfOwner w.entry se.generation }).moveTo s .closed

def noteHandshake (se : Session) (cipher : String) (ps : PeerState) : PeerState :=
  if se.accepting ∨ ps.generation = se.generation then
    { ps with handshakeLogged := true, cipherSuite := some cipher }
  else ps

def recordIssuer (w : Endpoint) (s : SessionId) (se : Session) : Verdict → Endpoint
  | .validated id =>
    if se.accepting then
      let ps := getOrCreatePeerState w.entry w.started
      ({ w with entry := some { ps with issuer := id } }).moveTo s .recorded
    else
      (w.modifyEntry fun ps =>
        if ps.generation = se.generation then { ps with issuer := id } else ps).moveTo s .recorded
  | .rejected => if se.accepting then w.close s se else w.moveTo s .recorded
  | .noCertificate => if se.accepting then w.moveTo s .recorded else w.moveTo s .closed

def installWriter (w : Endpoint) (s : SessionId) (se : Session) : Endpoint :=
  if se.accepting then
    match w.entry with
    | some ps =>
      if ps.generation = se.generation then
        let ps := { ps with writer := some (.stream s), writerReady := true }
        ({ w with entry := some ps }).moveTo s .reading
      else w.moveTo s .closed
    | none => w.moveTo s .reading
  else
    (w.modifyEntry fun ps =>
      if ps.generation = se.generation then
        { ps with
          writer := ps.writer.map fun _ => .stream s
          peerHandle := some (.send s)
          isConnectingPeer := false
          handshakeLogged := true
          writerReady := true }
      else ps).moveTo s .reading

/-- The reader hands data on with the issuer the entry has now; without one it drops the data. -/
def handOn (w : Endpoint) (s : SessionId) : Endpoint :=
  match w.entry with
  | some ps => if ps.issuer = "" then w else { w with handed := w.handed ++ [(s, ps.issuer)] }
  | none => w

/-- One locked section of the accept path, the connect path or a session thread. -/
def step (w : Endpoint) : Event → Endpoint
  | .packet isClientHello designated =>
    let r := handleDtlsAcceptPacket w.entry isClientHello designated w.started w.started
    match r.acceptGeneration, r.entry with
    | some generation, some ps =>
      ({ w with entry := r.entry }).start
        { accepting := true, generation, asyncQueue := ps.asyncQueue }
    | _, _ => { w with entry := r.entry }
  | .attachWorker => w.modifyEntry fun ps => { ps with peerHandle := some .accept }
  | .dial =>
    match startConnect w.entry w.started w.started with
    | (ps, some (generation, asyncQueue)) =>
      ({ w with entry := some ps }).start { accepting := false, generation, asyncQueue }
    | (ps, none) => { w with entry := some ps }
  | .handshakeFails s =>
    match w.session s with
    | some se => if se.phase = .handshaking then w.close s se else w
    | none => w
  | .handshakeCompletes s cipher v =>
    match w.session s with
    | some se =>
      if se.phase = .handshaking then
        let shaken := { se with phase := .shaken v, identity := v.identity }
        { w.modifyEntry (noteHandshake se cipher) with
          session := Function.update w.session s (some shaken) }
      else w
    | none => w
  | .recordIssuer s =>
    match w.session s with
    | some se =>
      match se.phase with
      | .shaken v => w.recordIssuer s se v
      | _ => w
    | none => w
  | .detachWriter s =>
    match w.session s with
    | some se =>
      if se.phase = .recorded ∧ ¬ se.accepting then
        w.modifyEntry fun ps => { ps with writer := ps.writer.map fun _ => .dead }
      else w
    | none => w
  | .splitFails s =>
    match w.session s with
    | some se =>
      if se.phase = .recorded ∧ ¬ se.accepting then
        (w.modifyEntry fun ps =>
          { ps with writer := ps.writer.map fun _ => .stream s }).moveTo s .closed
      else w
    | none => w
  | .installWriter s =>
    match w.session s with
    | some se => if se.phase = .recorded then w.installWriter s se else w
    | none => w
  | .handOn s =>
    match w.session s with
    | some se => if se.phase = .reading then w.handOn s else w
    | none => w
  | .idle s =>
    match w.session s with
    | some se =>
      if se.phase = .reading ∧ w.entry.map PeerState.generation ≠ some se.generation then
        w.close s se
      else w
    | none => w
  | .readEnds s =>
    match w.session s with
    | some se => if se.phase = .reading then w.close s se else w
    | none => w
  | .forget => { w with entry := none }

/-! ## What a step does to the sessions -/

def Fresh (w : Endpoint) : Prop := ∀ s, w.started ≤ s → w.session s = none

def Settled (w : Endpoint) (s : SessionId) : Prop :=
  ∃ se, w.session s = some se ∧ se.phase ≠ .handshaking

structure Moved (w w' : Endpoint) : Prop where
  started : w.started ≤ w'.started
  session : ∀ s, w'.session s = w.session s ∨
    (s = w.started ∧ w.started < w'.started) ∨ (w.session s ≠ none ∧ w'.Settled s)

variable {w w' : Endpoint} {s : SessionId}

lemma Moved.of_session (hsession : w'.session = w.session)
    (hstarted : w'.started = w.started) : Moved w w' :=
  ⟨hstarted.ge, fun s => Or.inl (congrFun hsession s)⟩

lemma moved_moveTo (w w' : Endpoint) (s : SessionId) {phase : Phase} (hphase : phase ≠ .handshaking)
    (hsession : w'.session = w.session) (hstarted : w'.started = w.started) :
    Moved w (w'.moveTo s phase) := by
  refine ⟨hstarted.ge, fun r => ?_⟩
  by_cases hr : r = s
  · subst hr
    cases hse : w.session r with
    | none => exact Or.inl (by simp [moveTo, hsession, hse])
    | some se =>
      exact Or.inr (Or.inr ⟨by simp, { se with phase }, by simp [moveTo, hsession, hse], hphase⟩)
  · exact Or.inl (by simp [moveTo, hsession, hr])

lemma moved_start (w w' : Endpoint) (se : Session) (hsession : w'.session = w.session)
    (hstarted : w'.started = w.started) : Moved w (w'.start se) := by
  refine ⟨by simp [start, hstarted], fun r => ?_⟩
  by_cases hr : r = w.started
  · exact Or.inr (Or.inl ⟨hr, by simp [start, hstarted]⟩)
  · exact Or.inl (by simp [start, hsession, hstarted, hr])

lemma onSession {P : Endpoint → Prop} (h : P w)
    {C : Session → Prop} [DecidablePred C] {f : Session → Endpoint}
    (hf : ∀ se, w.session s = some se → C se → P (f se)) :
    P (match w.session s with
      | some se => if C se then f se else w
      | none => w) := by
  cases hse : w.session s with
  | none => exact h
  | some se =>
    dsimp only
    split_ifs with hC
    · exact hf se hse hC
    · exact h

lemma moved_recordIssuer (w : Endpoint) (s : SessionId) (se : Session) (v : Verdict) :
    Moved w (w.recordIssuer s se v) := by
  cases v with
  | validated id =>
    simp only [recordIssuer]
    split_ifs
    · exact moved_moveTo w _ s (by simp) rfl rfl
    · exact moved_moveTo w _ s (by simp) rfl rfl
  | rejected | noCertificate =>
    simp only [recordIssuer]
    split_ifs
    · exact moved_moveTo w _ s (by simp) rfl rfl
    · exact moved_moveTo w _ s (by simp) rfl rfl

lemma moved_installWriter (w : Endpoint) (s : SessionId) (se : Session) :
    Moved w (w.installWriter s se) := by
  rw [installWriter]
  split_ifs
  · split
    · split_ifs
      · exact moved_moveTo w _ s (by simp) rfl rfl
      · exact moved_moveTo w _ s (by simp) rfl rfl
    · exact moved_moveTo w _ s (by simp) rfl rfl
  · exact moved_moveTo w _ s (by simp) rfl rfl

lemma moved_handOn (w : Endpoint) (s : SessionId) : Moved w (w.handOn s) := by
  rw [handOn]
  split
  · split_ifs
    · exact Moved.of_session rfl rfl
    · exact Moved.of_session rfl rfl
  · exact Moved.of_session rfl rfl

lemma step_moved (w : Endpoint) (e : Event) : Moved w (w.step e) := by
  have hrefl : Moved w w := Moved.of_session rfl rfl
  cases e with
  | packet isClientHello designated =>
    simp only [step]
    split
    · exact moved_start w _ _ rfl rfl
    · exact Moved.of_session rfl rfl
  | attachWorker => exact Moved.of_session rfl rfl
  | forget => exact Moved.of_session rfl rfl
  | dial =>
    simp only [step]
    split
    · exact moved_start w _ _ rfl rfl
    · exact Moved.of_session rfl rfl
  | handshakeFails s | idle s | readEnds s =>
    exact onSession (P := Moved w) hrefl fun se _ _ => moved_moveTo w _ s (by simp) rfl rfl
  | handshakeCompletes s cipher v =>
    refine onSession (P := Moved w) hrefl fun se hse _ => ⟨le_rfl, fun r => ?_⟩
    by_cases hr : r = s
    · subst hr
      exact Or.inr (Or.inr ⟨by simp [hse], _, Function.update_self .., by simp⟩)
    · exact Or.inl (by simp [hr])
  | recordIssuer s =>
    simp only [step]
    cases w.session s with
    | none => exact hrefl
    | some se =>
      dsimp only
      split
      · exact moved_recordIssuer w s se _
      · exact hrefl
  | detachWriter s =>
    exact onSession (P := Moved w) hrefl fun se _ _ => Moved.of_session rfl rfl
  | splitFails s =>
    exact onSession (P := Moved w) hrefl fun se _ _ => moved_moveTo w _ s (by simp) rfl rfl
  | installWriter s =>
    exact onSession (P := Moved w) hrefl fun se _ _ => moved_installWriter w s se
  | handOn s => exact onSession (P := Moved w) hrefl fun se _ _ => moved_handOn w s

lemma Moved.fresh (hmoved : Moved w w') (h : w.Fresh) : w'.Fresh := by
  intro s hs
  obtain ⟨hstarted, hsession⟩ := hmoved
  have hnone := h s (hstarted.trans hs)
  rcases hsession s with heq | ⟨rfl, hlt⟩ | ⟨hne, -⟩
  · rw [heq, hnone]
  · exact absurd hs (not_le.mpr hlt)
  · exact absurd hnone hne

lemma Fresh.step (h : w.Fresh) (e : Event) : (w.step e).Fresh :=
  (step_moved w e).fresh h

lemma Settled.step (hfresh : w.Fresh) (h : w.Settled s) (e : Event) :
    (w.step e).Settled s := by
  obtain ⟨se, hse, hphase⟩ := h
  rcases (step_moved w e).session s with heq | ⟨rfl, -⟩ | ⟨-, hsettled⟩
  · exact ⟨se, heq.trans hse, hphase⟩
  · rw [hfresh _ le_rfl] at hse
    exact absurd hse (by simp)
  · exact hsettled

end Endpoint

end Bingle.Dtls
