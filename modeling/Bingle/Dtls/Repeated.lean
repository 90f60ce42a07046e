import Bingle.Dtls.Simultaneous

/-!
# A `ClientHello` that arrives again

`handle_dtls_accept_packet` takes a `ClientHello` for a peer that has a writer and is not being
dialled for a restart, and replaces the entry.  An entry that an accept has claimed has a writer
from the start, a placeholder: the test cannot tell the two apart.
-/

namespace Bingle.Dtls

open Option
open Lib (run Along)

/-! ## One datagram -/

structure Receipt where
  entry : Option PeerState
  queue : Option ℕ
  acceptGeneration : Option ℕ
  newSession : Bool
deriving DecidableEq, Repr

def PeerState.dropsHello (ps : PeerState) (designated : Bool) : Bool :=
  ps.isConnectingPeer && !ps.handshakeLogged && designated

/-- `handle_dtls_accept_packet`.  A full queue refuses the datagram, which is left out. -/
def Node.receive (n : Node) (entry : Option PeerState) (data : List UInt8) (s : SessionId)
    (queue : ℕ) : Receipt :=
  if n.loopback then ⟨entry, none, none, false⟩
  else
    let r := handleDtlsAcceptPacket entry (isClientHello data) n.designated s queue
    let dropped := isClientHello data && entry.any fun ps => ps.dropsHello n.designated
    ⟨r.entry, if dropped then none else r.entry.map PeerState.asyncQueue, r.acceptGeneration,
      r.newSession⟩

/-! ## Who holds the entry -/

structure PeerState.Keeps (ps ps' : PeerState) : Prop where
  owner : ps'.owner = ps.owner
  asyncQueue : ps'.asyncQueue = ps.asyncQueue
  writer : ps'.writer = none → ps.writer = none
  dialled : ps.isConnectingPeer = false → ps'.isConnectingPeer = false

lemma PeerState.Keeps.refl (ps : PeerState) : ps.Keeps ps :=
  ⟨rfl, rfl, fun h => h, fun h => h⟩

structure PeerState.Unclaimed (ps : PeerState) : Prop where
  owner : ps.owner = none
  writer : ps.writer = none
  dialled : ps.isConnectingPeer = false

lemma unclaimed_newPeerState (generation queue : ℕ) :
    (newPeerState generation queue).Unclaimed := ⟨rfl, rfl, rfl⟩

namespace Endpoint

def Goes (w w' : Endpoint) : Prop :=
  ∀ s se, w.session s = some se → ∃ se', w'.session s = some se' ∧
    se'.accepting = se.accepting ∧ se'.asyncQueue = se.asyncQueue

def ClaimedAnew (w w' : Endpoint) (ps : PeerState) : Prop :=
  ps.owner = some w.started ∧ ps.writer.isSome = true ∧ ∃ se, w'.session w.started = some se ∧
    (se.accepting = true → ps.isConnectingPeer = false ∧ ps.asyncQueue = se.asyncQueue)

structure Held (w : Endpoint) : Prop where
  unclaimed : ∀ ps, w.entry = some ps → ps.writer = none → ps.Unclaimed
  accepting : ∀ ps s, w.entry = some ps → ps.owner = some s → ∃ se, w.session s = some se ∧
    (se.accepting = true → ps.isConnectingPeer = false ∧ ps.asyncQueue = se.asyncQueue)

section Step

variable {w : Endpoint}

lemma goes_refl (w : Endpoint) : w.Goes w := fun _ se hse => ⟨se, hse, rfl, rfl⟩

variable {w' : Endpoint}

lemma goes_of_session (h : w'.session = w.session) : w.Goes w' :=
  fun _ se hse => ⟨se, h ▸ hse, rfl, rfl⟩

lemma goes_moveTo (h : w'.session = w.session) (s : SessionId) (phase : Phase) :
    w.Goes (w'.moveTo s phase) := by
  intro r se hse
  by_cases hr : r = s
  · subst hr
    exact ⟨{ se with phase }, by simp [moveTo, h, hse], rfl, rfl⟩
  · exact ⟨se, by simp [moveTo, h, hse, hr], rfl, rfl⟩

lemma goes_start (hfresh : w.Fresh) (h : w'.session = w.session)
    (hstarted : w'.started = w.started) (se : Session) : w.Goes (w'.start se) := by
  intro r se' hse'
  have hr : r ≠ w.started := by
    rintro rfl
    rw [hfresh _ le_rfl] at hse'
    exact absurd hse' (by simp)
  exact ⟨se', by simp [start, h, hstarted, hse', hr], rfl, rfl⟩

inductive EntryStep (w w' : Endpoint) : Prop
  | gone (h : w'.entry = none)
  | kept (ps ps' : PeerState) (h : w.entry = some ps) (h' : w'.entry = some ps')
      (hkeeps : ps.Keeps ps')
  | unclaimed (ps : PeerState) (h' : w'.entry = some ps) (hps : ps.Unclaimed)
  | claimed (ps : PeerState) (h' : w'.entry = some ps) (hps : w.ClaimedAnew w' ps)

lemma entryStep_map {f : PeerState → PeerState} (h : w'.entry = w.entry.map f)
    (hf : ∀ ps : PeerState, ps.Keeps (f ps)) : EntryStep w w' := by
  cases hps : w.entry with
  | none => exact .gone (by simp [h, hps])
  | some ps => exact .kept ps (f ps) hps (by simp [h, hps]) (hf ps)

lemma entryStep_same (h : w'.entry = w.entry) : EntryStep w w' :=
  entryStep_map (f := id) (by simp [h]) PeerState.Keeps.refl

lemma entryStep_close (s : SessionId) (se : Session) : EntryStep w (w.close s se) := by
  by_cases h : w.entry.map PeerState.generation = some se.generation
  · exact .gone (by simp [close, moveTo, takePeerStateIfOwner, h])
  · exact entryStep_same (by simp [close, moveTo, takePeerStateIfOwner, h])

lemma claimForAccept_unclaimed {ps : PeerState} (h : ps.Unclaimed) (s : SessionId)
    (newSession : Bool) : ∃ generation ps',
      claimForAccept ps s newSession = ⟨some ps', some generation, newSession⟩ ∧
        ps'.owner = some s ∧ ps'.isConnectingPeer = false ∧ ps'.writer.isSome = true := by
  rw [claimForAccept, if_pos h.writer]
  exact ⟨_, _, rfl, rfl, h.dialled, rfl⟩

lemma handleDtlsAcceptPacket_cases (h : w.Held) (isClientHello designated : Bool)
    (s : SessionId) (queue : ℕ) :
    (∃ newSession, handleDtlsAcceptPacket w.entry isClientHello designated s queue =
        ⟨w.entry, none, newSession⟩) ∨
      ∃ newSession generation ps',
        handleDtlsAcceptPacket w.entry isClientHello designated s queue =
          ⟨some ps', some generation, newSession⟩ ∧
        ps'.owner = some s ∧ ps'.isConnectingPeer = false ∧ ps'.writer.isSome = true := by
  have hnew : ∀ generation newSession, ∃ generation' ps',
      claimForAccept (newPeerState generation queue) s newSession =
        ⟨some ps', some generation', newSession⟩ ∧
        ps'.owner = some s ∧ ps'.isConnectingPeer = false ∧ ps'.writer.isSome = true :=
    fun generation => claimForAccept_unclaimed (unclaimed_newPeerState generation queue) s
  cases hentry : w.entry with
  | none => exact Or.inr ⟨false, hnew 0 false⟩
  | some ps =>
    unfold handleDtlsAcceptPacket
    dsimp only
    split_ifs
    · exact Or.inl ⟨false, rfl⟩
    · exact Or.inr ⟨false, hnew _ false⟩
    · exact Or.inr ⟨true, hnew _ true⟩
    · by_cases hwriter : ps.writer = none
      · exact Or.inr ⟨false, claimForAccept_unclaimed (h.unclaimed ps hentry hwriter) s false⟩
      · exact Or.inl ⟨false, by rw [claimForAccept, if_neg hwriter]⟩

lemma entryStep_recordIssuer (s : SessionId) (se : Session) (v : Verdict) :
    EntryStep w (w.recordIssuer s se v) := by
  cases v with
  | validated id =>
    simp only [recordIssuer]
    split_ifs
    · cases hps : w.entry with
      | none => exact .unclaimed _ rfl ⟨rfl, rfl, rfl⟩
      | some ps => exact .kept ps _ hps rfl ⟨rfl, rfl, fun h => h, fun h => h⟩
    · refine entryStep_map rfl fun ps => ?_
      split_ifs
      · exact ⟨rfl, rfl, fun h => h, fun h => h⟩
      · exact .refl ps
  | rejected =>
    simp only [recordIssuer]
    split_ifs
    · exact entryStep_close s se
    · exact entryStep_same rfl
  | noCertificate =>
    simp only [recordIssuer]
    split_ifs
    · exact entryStep_same rfl
    · exact entryStep_same rfl

lemma entryStep_installWriter (s : SessionId) (se : Session) :
    EntryStep w (w.installWriter s se) := by
  rw [installWriter]
  split_ifs
  · split
    · rename_i ps hps
      split_ifs
      · exact .kept ps _ hps rfl ⟨rfl, rfl, by simp, fun h => h⟩
      · exact entryStep_same rfl
    · exact entryStep_same rfl
  · refine entryStep_map rfl fun ps => ?_
    split_ifs
    · exact ⟨rfl, rfl, by simp, fun _ => rfl⟩
    · exact .refl ps

lemma goes_recordIssuer (s : SessionId) (se : Session) (v : Verdict) :
    w.Goes (w.recordIssuer s se v) := by
  cases v with
  | validated id =>
    simp only [recordIssuer]
    split_ifs
    · exact goes_moveTo rfl s _
    · exact goes_moveTo rfl s _
  | rejected | noCertificate =>
    simp only [recordIssuer]
    split_ifs
    · exact goes_moveTo rfl s _
    · exact goes_moveTo rfl s _

lemma goes_installWriter (s : SessionId) (se : Session) : w.Goes (w.installWriter s se) := by
  rw [installWriter]
  split_ifs
  · split
    · split_ifs
      · exact goes_moveTo rfl s _
      · exact goes_moveTo rfl s _
    · exact goes_moveTo rfl s _
  · exact goes_moveTo rfl s _

lemma step_cases (h : w.Held) (hfresh : w.Fresh) (e : Event) :
    w.Goes (w.step e) ∧ EntryStep w (w.step e) := by
  have hsame : w.Goes w ∧ EntryStep w w := ⟨goes_refl w, entryStep_same rfl⟩
  cases e with
  | packet isClientHello designated =>
    simp only [step]
    rcases handleDtlsAcceptPacket_cases h isClientHello designated w.started w.started with
      ⟨newSession, heq⟩ | ⟨newSession, generation, ps', heq, howner, hdialled, hwriter⟩
    · rw [heq]
      exact ⟨goes_of_session rfl, entryStep_same rfl⟩
    · rw [heq]
      refine ⟨goes_start hfresh rfl rfl _, .claimed ps' rfl ⟨howner, hwriter, ?_⟩⟩
      exact ⟨{ accepting := true, generation, asyncQueue := ps'.asyncQueue },
        Function.update_self .., fun _ => ⟨hdialled, rfl⟩⟩
  | attachWorker =>
    exact ⟨goes_of_session rfl,
      entryStep_map rfl fun ps => ⟨rfl, rfl, fun h => h, fun h => h⟩⟩
  | dial =>
    simp only [step, startConnect]
    split_ifs with hwriter
    · cases hps : w.entry with
      | none => simp [hps, getOrCreatePeerState, newPeerState] at hwriter
      | some ps => exact ⟨goes_of_session rfl, entryStep_same hps.symm⟩
    · refine ⟨goes_start hfresh rfl rfl _, .claimed _ rfl ⟨rfl, rfl, ?_⟩⟩
      dsimp only
      exact ⟨_, Function.update_self .., fun hdirection => absurd hdirection (by simp)⟩
  | handshakeFails s | idle s | readEnds s =>
    exact onSession (P := fun w' => w.Goes w' ∧ EntryStep w w') hsame
      fun se _ _ => ⟨goes_moveTo rfl s _, entryStep_close s se⟩
  | handshakeCompletes s cipher v =>
    refine onSession (P := fun w' => w.Goes w' ∧ EntryStep w w') hsame fun se hse _ => ⟨?_, ?_⟩
    · intro r se' hse'
      by_cases hr : r = s
      · subst hr
        obtain rfl := some.inj (hse.symm.trans hse')
        exact ⟨_, Function.update_self .., rfl, rfl⟩
      · exact ⟨se', by simp [hr, hse'], rfl, rfl⟩
    · refine entryStep_map rfl fun ps => ?_
      unfold noteHandshake
      split_ifs
      · exact ⟨rfl, rfl, fun h => h, fun h => h⟩
      · exact .refl ps
  | recordIssuer s =>
    simp only [step]
    cases hse : w.session s with
    | none => exact hsame
    | some se =>
      dsimp only
      split
      · exact ⟨goes_recordIssuer s se _, entryStep_recordIssuer s se _⟩
      · exact hsame
  | detachWriter s =>
    refine onSession (P := fun w' => w.Goes w' ∧ EntryStep w w') hsame fun se _ _ => ⟨?_, ?_⟩
    · exact goes_of_session rfl
    · exact entryStep_map rfl fun ps => ⟨rfl, rfl, by simp, fun h => h⟩
  | splitFails s =>
    refine onSession (P := fun w' => w.Goes w' ∧ EntryStep w w') hsame fun se _ _ => ⟨?_, ?_⟩
    · exact goes_moveTo rfl s _
    · exact entryStep_map rfl fun ps => ⟨rfl, rfl, by simp, fun h => h⟩
  | installWriter s =>
    exact onSession (P := fun w' => w.Goes w' ∧ EntryStep w w') hsame
      fun se _ _ => ⟨goes_installWriter s se, entryStep_installWriter s se⟩
  | handOn s =>
    refine onSession (P := fun w' => w.Goes w' ∧ EntryStep w w') hsame fun se _ _ => ?_
    rw [handOn]
    split
    · split_ifs
      · exact hsame
      · exact ⟨goes_of_session rfl, entryStep_same rfl⟩
    · exact hsame
  | forget => exact ⟨goes_of_session rfl, .gone rfl⟩

lemma Held.step (h : w.Held) (hfresh : w.Fresh) (e : Event) : (w.step e).Held := by
  obtain ⟨hgoes, hentry⟩ := step_cases h hfresh e
  cases hentry with
  | gone hnone =>
    exact ⟨fun ps hps => by simp [hnone] at hps, fun ps s hps => by simp [hnone] at hps⟩
  | kept ps ps' hps hps' hkeeps =>
    refine ⟨fun q hq hwriter => ?_, fun q s hq howner => ?_⟩
    · obtain rfl := some.inj (hps'.symm.trans hq)
      obtain ⟨hnobody, -, hdialled⟩ := h.unclaimed ps hps (hkeeps.writer hwriter)
      exact ⟨hkeeps.owner.trans hnobody, hwriter, hkeeps.dialled hdialled⟩
    · obtain rfl := some.inj (hps'.symm.trans hq)
      obtain ⟨se, hse, hacc⟩ := h.accepting ps s hps (hkeeps.owner.symm.trans howner)
      obtain ⟨se', hse', hdirection, hqueue⟩ := hgoes s se hse
      refine ⟨se', hse', fun haccepting => ?_⟩
      obtain ⟨hdialled, hsame⟩ := hacc (hdirection ▸ haccepting)
      exact ⟨hkeeps.dialled hdialled, by rw [hkeeps.asyncQueue, hsame, hqueue]⟩
  | unclaimed ps hps hnobody =>
    refine ⟨fun q hq _ => some.inj (hps.symm.trans hq) ▸ hnobody, fun q s hq howner => ?_⟩
    obtain rfl := some.inj (hps.symm.trans hq)
    exact absurd (hnobody.owner.symm.trans howner) (by simp)
  | claimed ps hps hclaimed =>
    obtain ⟨hown, hwriter, se, hse, hacc⟩ := hclaimed
    refine ⟨fun q hq hnone => ?_, fun q s hq howner => ?_⟩
    · obtain rfl := some.inj (hps.symm.trans hq)
      simp [hnone] at hwriter
    · obtain rfl := some.inj (hps.symm.trans hq)
      obtain rfl := some.inj (hown.symm.trans howner)
      exact ⟨se, hse, hacc⟩

end Step

lemma held_run (es : List Event) : (run step {} es).Held := by
  have h0 : (({} : Endpoint).Held ∧ ({} : Endpoint).Fresh) :=
    ⟨⟨fun ps hps => by simp at hps, fun ps s hps => by simp at hps⟩, fun _ _ => rfl⟩
  exact (Lib.run_invariant (I := fun w : Endpoint => w.Held ∧ w.Fresh) (P := fun _ _ => True)
    (fun w e h _ => ⟨h.1.step h.2 e, h.2.step e⟩) h0
    (Lib.along_of_forall_mem (fun _ _ => trivial) _)).1

/-- The session accepts the peer, is still in its handshake and owns the entry. -/
structure Accepting (w : Endpoint) (s : SessionId) (se : Session) (ps : PeerState) : Prop where
  session : w.session s = some se
  direction : se.accepting = true
  handshaking : se.phase = .handshaking
  entry : w.entry = some ps
  owner : ps.owner = some s

end Endpoint

/-- The datagram is put on the queue that the handshake reads from, the entry stays as it is, no
other accept starts, and the packet transport keeps its session. -/
def Receipt.Undisturbed (r : Receipt) (se : Session) (ps : PeerState) : Prop :=
  r.queue = some se.asyncQueue ∧ r.entry = some ps ∧ r.acceptGeneration = none ∧
    r.newSession = false

/-- **A `ClientHello` during an inbound handshake.**  In every state that is reached, while an
accept is in its handshake, a datagram of the peer leaves it undisturbed exactly when it is not
taken for a `ClientHello` (and does not come from this node's own socket). -/
theorem repeated_hello_undisturbed_iff (es : List Event) {s : SessionId} {se : Session}
    {ps : PeerState} (h : (run Endpoint.step {} es).Accepting s se ps) (n : Node)
    (data : List UInt8) (s' : SessionId) (queue : ℕ) :
    (n.receive (some ps) data s' queue).Undisturbed se ps ↔
      isClientHello data = false ∧ n.loopback = false := by
  have hheld := Endpoint.held_run es
  obtain ⟨se', hse', hacc⟩ := hheld.accepting ps s h.entry h.owner
  obtain rfl := some.inj (h.session.symm.trans hse')
  obtain ⟨hdialled, hqueue⟩ := hacc h.direction
  -- an entry that somebody holds has a writer, the placeholder of the accept
  have hwriter : ps.writer.isSome = true := by
    rw [isSome_iff_ne_none]
    intro hnone
    exact absurd ((hheld.unclaimed ps h.entry hnone).owner.symm.trans h.owner) (by simp)
  cases hloop : n.loopback with
  | true => simp [Node.receive, hloop, Receipt.Undisturbed]
  | false =>
    cases hhello : isClientHello data with
    | false =>
      have hkept : claimForAccept ps s' false = ⟨some ps, none, false⟩ := by
        rw [claimForAccept, if_neg (isSome_iff_ne_none.mp hwriter)]
      simp [Node.receive, hloop, hhello, handleDtlsAcceptPacket, hkept, Receipt.Undisturbed,
        hqueue]
    | true =>
      simp [Node.receive, hloop, hhello, handleDtlsAcceptPacket, hdialled, hwriter,
        Receipt.Undisturbed, claimForAccept, newPeerState]

def directly : Node where
  localAddr := .v4 0x0A000001 4433
  publicEndpoint := none
  peer := .newDirect (.v4 0x0A000002 4433)

def firstHello : PeerState × Session :=
  ({ writer := some .placeholder, asyncQueue := 0, generation := 1, owner := some 0 },
    { accepting := true, generation := 1, asyncQueue := 0 })

theorem next_flight_undisturbed :
    (directly.receive (some firstHello.1) [0x16, 0xFE, 0xFD, 0, 0, 0, 0, 0, 0, 0, 2, 0, 1, 0x10] 1
      1).Undisturbed firstHello.2 firstHello.1 :=
  (repeated_hello_undisturbed_iff [.packet true false] (s := 0)
    ⟨by decide, rfl, rfl, by decide, rfl⟩ directly _ 1 1).mpr (by decide)

/-- **A repeated `ClientHello`** is put on another queue, the entry goes two generations on, another
accept starts, and the packet transport drops its session. -/
theorem repeated_hello_disturbs :
    let hello : List UInt8 := [0x16, 0xFE, 0xFD, 0, 0, 0, 0, 0, 0, 0, 0, 0, 1, 0x01]
    let w := run Endpoint.step {} [.packet (isClientHello hello) false]
    w.entry = some firstHello.1 ∧ w.session 0 = some firstHello.2 ∧
      directly.receive w.entry hello 1 1 =
        ⟨some { firstHello.1 with asyncQueue := 1, generation := 3, owner := some 1 }, some 1,
          some 3, true⟩ := by
  decide

end Bingle.Dtls
