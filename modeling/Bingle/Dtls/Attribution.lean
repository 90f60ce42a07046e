import Bingle.Dtls.Peers
import Bingle.Lib.Run

/-!
# To whom decrypted data is attributed

A reader hands application data on with the issuer it finds in the endpoint's entry, which is
shared.  Two sections do not check that it is the session's own; a third does, but by the generation
number, and the numbers start again from 1 whenever the entry has been removed.
-/

namespace Bingle.Dtls

open List Option
open Function (update_of_ne update_self)
open Lib (run Along)

def Session.Ok (se : Session) : Prop :=
  match se.phase with
  | .handshaking => se.identity = none
  | .shaken v => se.identity = v.identity
  | _ => True

def Phase.hasIssuer : Phase → Bool
  | .shaken (.validated _) => true
  | _ => false

namespace Endpoint

/-- Whom the handshake of the session has authenticated. -/
def identityOf (w : Endpoint) (s : SessionId) : Option String := (w.session s).bind Session.identity

/-- A session that records its peer, or hands a message on, owns the entry. -/
def RecordsOwn (w : Endpoint) : Event → Prop
  | .recordIssuer s => ∀ se ∈ w.session s, se.phase.hasIssuer →
      se.accepting ∨ w.entry.map PeerState.generation = some se.generation →
        w.entry.bind PeerState.owner = some s
  | .handOn s => ∀ se ∈ w.session s, se.phase = .reading →
      ∀ ps ∈ w.entry, ps.issuer ≠ "" → ps.owner = some s
  | _ => True

instance (w : Endpoint) : ∀ e, Decidable (w.RecordsOwn e)
  | .recordIssuer s => inferInstanceAs (Decidable (∀ se ∈ w.session s, se.phase.hasIssuer →
      se.accepting ∨ w.entry.map PeerState.generation = some se.generation →
        w.entry.bind PeerState.owner = some s))
  | .handOn s => inferInstanceAs (Decidable (∀ se ∈ w.session s, se.phase = .reading →
      ∀ ps ∈ w.entry, ps.issuer ≠ "" → ps.owner = some s))
  | .packet .. | .attachWorker | .dial | .handshakeFails _ | .handshakeCompletes ..
  | .detachWriter _ | .splitFails _ | .installWriter _ | .idle _ | .readEnds _ | .forget =>
    inferInstanceAs (Decidable True)

/-! ## The parts of a step -/

section Frame

variable (w : Endpoint) (s : SessionId) (phase : Phase)

@[simp] lemma moveTo_entry : (w.moveTo s phase).entry = w.entry := rfl

@[simp] lemma moveTo_handed : (w.moveTo s phase).handed = w.handed := rfl

@[simp] lemma moveTo_identityOf : (w.moveTo s phase).identityOf = w.identityOf := by
  funext r
  by_cases hr : r = s
  · subst hr
    cases h : w.session r <;> simp [identityOf, moveTo, h]
  · simp [identityOf, moveTo, hr]

lemma start_identityOf (hfresh : w.session w.started = none) {se : Session}
    (hse : se.identity = none) : (w.start se).identityOf = w.identityOf := by
  funext r
  by_cases hr : r = w.started
  · subst hr
    simp [identityOf, start, hfresh, hse]
  · simp [identityOf, start, hr]

end Frame

/-! ## The invariant -/

/-- An entry that names an issuer names the id validated by the session that claimed it, and an
entry without a writer is nobody's. -/
structure EntryOk (identity : SessionId → Option String) (ps : PeerState) : Prop where
  issuer : ps.issuer ≠ "" → ∃ s, ps.owner = some s ∧ identity s = some ps.issuer
  unclaimed : ps.writer = none → ps.owner = none

namespace EntryOk

variable {identity : SessionId → Option String} {ps ps' : PeerState}

lemma congr (h : EntryOk identity ps) (hissuer : ps'.issuer = ps.issuer)
    (howner : ps'.owner = ps.owner) (hwriter : ps'.writer = none → ps.writer = none) :
    EntryOk identity ps' := by
  refine ⟨fun hne => ?_, fun hn => howner.trans (h.unclaimed (hwriter hn))⟩
  rw [hissuer] at hne ⊢
  rw [howner]
  exact h.issuer hne

lemma issuer_of_unclaimed (h : EntryOk identity ps) (hw : ps.writer = none) : ps.issuer = "" := by
  by_contra hne
  obtain ⟨s, hs, -⟩ := h.issuer hne
  rw [h.unclaimed hw] at hs
  exact absurd hs (by simp)

lemma newPeerState (generation queue : ℕ) : EntryOk identity (newPeerState generation queue) :=
  ⟨fun hne => absurd rfl hne, fun _ => rfl⟩

variable {entry : Option PeerState} {s : SessionId}

lemma getOrCreatePeerState (h : ∀ ps ∈ entry, EntryOk identity ps)
    (queue : ℕ) : EntryOk identity (getOrCreatePeerState entry queue) := by
  cases entry with
  | none => exact EntryOk.newPeerState 0 queue
  | some ps => exact h ps rfl

lemma claimForAccept (h : EntryOk identity ps) {newSession : Bool}
    (hps' : ps' ∈ (claimForAccept ps s newSession).entry) : EntryOk identity ps' := by
  unfold Dtls.claimForAccept at hps'
  split_ifs at hps' with hw
  · obtain rfl := some.inj hps'
    exact ⟨fun hne => absurd (h.issuer_of_unclaimed hw) hne, fun hn => absurd hn (by simp)⟩
  · obtain rfl := some.inj hps'
    exact h

lemma handleDtlsAcceptPacket (h : ∀ ps ∈ entry, EntryOk identity ps)
    {isClientHello designated : Bool} {queue : ℕ}
    (hps' : ps' ∈ (handleDtlsAcceptPacket entry isClientHello designated s queue).entry) :
    EntryOk identity ps' := by
  unfold Dtls.handleDtlsAcceptPacket at hps'
  cases entry with
  | none => exact (EntryOk.newPeerState _ _).claimForAccept hps'
  | some ps =>
    dsimp only at hps'
    split_ifs at hps'
    · exact h ps' hps'
    · exact (EntryOk.newPeerState _ _).claimForAccept hps'
    · exact (EntryOk.newPeerState _ _).claimForAccept hps'
    · exact (h ps rfl).claimForAccept hps'

lemma startConnect (h : ∀ ps ∈ entry, EntryOk identity ps)
    (s : SessionId) (queue : ℕ) : EntryOk identity (startConnect entry s queue).1 := by
  unfold Dtls.startConnect
  dsimp only
  split_ifs
  · exact EntryOk.getOrCreatePeerState h queue
  · exact ⟨fun hne => absurd rfl hne, fun hn => absurd hn (by simp)⟩

lemma record (h : EntryOk identity ps) {id : String} (howner : ps.owner = some s)
    (hid : identity s = some id) : EntryOk identity { ps with issuer := id } :=
  ⟨fun _ => ⟨s, howner, hid⟩, h.unclaimed⟩

end EntryOk

structure Attributed (w : Endpoint) : Prop where
  entry : ∀ ps ∈ w.entry, EntryOk w.identityOf ps
  handed : ∀ p ∈ w.handed, w.identityOf p.1 = some p.2
  session : ∀ s, ∀ se ∈ w.session s, se.Ok

namespace Attributed

variable {w : Endpoint}

lemma moveTo (h : w.Attributed) (s : SessionId) {phase : Phase}
    (hphase : ∀ se : Session, ({ se with phase } : Session).Ok) :
    (w.moveTo s phase).Attributed where
  entry := by simpa using h.entry
  handed := by simpa using h.handed
  session := fun r se hse => by
    by_cases hrs : r = s
    · subst hrs
      simp only [Endpoint.moveTo, update_self, mem_def,
        map_eq_some_iff] at hse
      obtain ⟨se₀, -, rfl⟩ := hse
      exact hphase se₀
    · simp only [Endpoint.moveTo, update_of_ne hrs] at hse
      exact h.session r se hse

lemma withEntry (h : w.Attributed) {entry : Option PeerState}
    (he : ∀ ps ∈ entry, EntryOk w.identityOf ps) : ({ w with entry } : Endpoint).Attributed where
  entry := he
  handed := h.handed
  session := h.session

lemma modifyEntry (h : w.Attributed) {f : PeerState → PeerState}
    (hf : ∀ ps, (f ps).issuer = ps.issuer ∧ (f ps).owner = ps.owner ∧
      ((f ps).writer = none → ps.writer = none)) : (w.modifyEntry f).Attributed := by
  refine h.withEntry fun ps hps => ?_
  obtain ⟨ps₀, hps₀, rfl⟩ := map_eq_some_iff.mp hps
  obtain ⟨hissuer, howner, hwriter⟩ := hf ps₀
  exact (h.entry ps₀ hps₀).congr hissuer howner hwriter

variable {se : Session} {s : SessionId}

lemma start (h : w.Attributed) (hfresh : w.Fresh)
    (hphase : se.phase = .handshaking) (hse : se.identity = none) : (w.start se).Attributed := by
  have hid := start_identityOf w (hfresh w.started le_rfl) hse
  refine ⟨fun ps hps => hid ▸ h.entry ps hps, fun p hp => hid ▸ h.handed p hp, ?_⟩
  intro r se' hse'
  by_cases hrs : r = w.started
  · subst hrs
    simp only [Endpoint.start, update_self, mem_def, some.injEq] at hse'
    subst hse'
    simp only [Session.Ok, hphase, hse]
  · simp only [Endpoint.start, update_of_ne hrs] at hse'
    exact h.session r se' hse'

lemma close (h : w.Attributed) (s : SessionId) (se : Session) : (w.close s se).Attributed := by
  refine (h.withEntry fun ps hps => ?_).moveTo s fun _ => trivial
  unfold takePeerStateIfOwner at hps
  split_ifs at hps
  · exact absurd hps (by simp)
  · exact h.entry ps hps

lemma shake (h : w.Attributed) {se' : Session} (hse : w.session s = some se)
    (hphase : se.phase = .handshaking) (hok : se'.Ok) :
    ({ w with session := Function.update w.session s (some se') } : Endpoint).Attributed := by
  have hnone : w.identityOf s = none := by
    have hyoung := h.session s se hse
    simp only [Session.Ok, hphase] at hyoung
    simp [identityOf, hse, hyoung]
  have hkeep : ∀ r id, w.identityOf r = some id →
      (Function.update w.session s (some se') r).bind Session.identity = some id := by
    intro r id hr
    have hrs : r ≠ s := by
      rintro rfl
      rw [hnone] at hr
      exact absurd hr (by simp)
    simpa [identityOf, hrs] using hr
  refine ⟨fun ps hps => ⟨fun hne => ?_, (h.entry ps hps).unclaimed⟩,
    fun p hp => hkeep _ _ (h.handed p hp), fun r se₀ hse₀ => ?_⟩
  · obtain ⟨r, howner, hr⟩ := (h.entry ps hps).issuer hne
    exact ⟨r, howner, hkeep r _ hr⟩
  · by_cases hrs : r = s
    · subst hrs
      simp only [update_self, mem_def, some.injEq] at hse₀
      exact hse₀ ▸ hok
    · simp only [update_of_ne hrs] at hse₀
      exact h.session r se₀ hse₀

lemma recordIssuer (h : w.Attributed) {v : Verdict}
    (hse : w.session s = some se) (hphase : se.phase = .shaken v)
    (hown : w.RecordsOwn (.recordIssuer s)) : (w.recordIssuer s se v).Attributed := by
  have hid := h.session s se hse
  specialize hown se hse
  simp only [Session.Ok, hphase] at hid
  rw [hphase] at hown
  cases v with
  | noCertificate =>
    simp only [Endpoint.recordIssuer]
    split_ifs
    · exact h.moveTo s fun _ => trivial
    · exact h.moveTo s fun _ => trivial
  | rejected =>
    simp only [Endpoint.recordIssuer]
    split_ifs
    · exact h.close s se
    · exact h.moveTo s fun _ => trivial
  | validated id =>
    have hident : w.identityOf s = some id := by simp [identityOf, hse, hid, Verdict.identity]
    simp only [Endpoint.recordIssuer]
    split_ifs with hacc
    · obtain ⟨ps, hps, howner⟩ := bind_eq_some_iff.mp (hown rfl (Or.inl hacc))
      refine (h.withEntry fun ps' hps' => ?_).moveTo s fun _ => trivial
      simp only [hps, getOrCreatePeerState, getD_some] at hps'
      obtain rfl := some.inj hps'
      exact (h.entry ps hps).record howner hident
    · refine (h.withEntry fun ps' hps' => ?_).moveTo s fun _ => trivial
      obtain ⟨ps, hps, rfl⟩ := map_eq_some_iff.mp hps'
      split_ifs with hgen
      · have howner := hown rfl (Or.inr (by simp [hps, hgen]))
        simp only [hps, bind_some] at howner
        exact (h.entry ps hps).record howner hident
      · exact h.entry ps hps

lemma installWriter (h : w.Attributed) (s : SessionId) (se : Session) :
    (w.installWriter s se).Attributed := by
  unfold Endpoint.installWriter
  split_ifs with hacc
  · cases hps : w.entry with
    | none => exact h.moveTo s fun _ => trivial
    | some ps =>
      dsimp only
      split_ifs
      · refine (h.withEntry fun ps' hps' => ?_).moveTo s fun _ => trivial
        obtain rfl := some.inj hps'
        exact (h.entry ps hps).congr rfl rfl fun hn => absurd hn (by simp)
      · exact h.moveTo s fun _ => trivial
  · refine (h.modifyEntry fun ps => ?_).moveTo s fun _ => trivial
    split_ifs <;> simp

lemma handOn (h : w.Attributed)
    (hown : ∀ ps ∈ w.entry, ps.issuer ≠ "" → ps.owner = some s) : (w.handOn s).Attributed := by
  unfold Endpoint.handOn
  cases hps : w.entry with
  | none => exact h
  | some ps =>
    dsimp only
    split_ifs with hne
    · exact h
    · obtain ⟨r, howner, hr⟩ := (h.entry ps hps).issuer hne
      rw [hown ps hps hne] at howner
      obtain rfl := some.inj howner
      refine ⟨hps ▸ h.entry, fun p hp => ?_, h.session⟩
      rcases mem_append.mp hp with hp | hp
      · exact h.handed p hp
      · obtain rfl := mem_singleton.mp hp
        exact hr

lemma step (h : w.Attributed) (hfresh : w.Fresh) (e : Event) (hown : w.RecordsOwn e) :
    (w.step e).Attributed := by
  cases e with
  | packet isClientHello designated =>
    have he : ∀ ps ∈ (handleDtlsAcceptPacket w.entry isClientHello designated w.started
        w.started).entry, EntryOk w.identityOf ps :=
      fun ps hps => EntryOk.handleDtlsAcceptPacket h.entry hps
    simp only [Endpoint.step]
    split
    · exact (h.withEntry he).start hfresh rfl rfl
    · exact h.withEntry he
  | attachWorker => exact h.modifyEntry fun ps => ⟨rfl, rfl, id⟩
  | dial =>
    have he := EntryOk.startConnect h.entry w.started w.started
    simp only [Endpoint.step]
    split
    · rename_i hr
      rw [hr] at he
      exact (h.withEntry fun ps hps => some.inj hps ▸ he).start hfresh rfl rfl
    · rename_i hr
      rw [hr] at he
      exact h.withEntry fun ps hps => some.inj hps ▸ he
  | forget => exact h.withEntry fun ps hps => absurd hps (by simp)
  | handshakeFails s | readEnds s | idle s => exact onSession h fun se _ _ => h.close s se
  | handshakeCompletes s cipher v =>
    refine onSession h fun se hse hphase => ?_
    refine (h.modifyEntry fun ps => ?_).shake hse hphase rfl
    rw [noteHandshake]
    split_ifs <;> exact ⟨rfl, rfl, id⟩
  | recordIssuer s =>
    simp only [Endpoint.step]
    cases hse : w.session s with
    | none => exact h
    | some se =>
      dsimp only
      split
      · rename_i v hphase
        exact h.recordIssuer hse hphase hown
      · exact h
  | detachWriter s =>
    exact onSession h fun se _ _ => h.modifyEntry fun ps => ⟨rfl, rfl, by simp⟩
  | splitFails s =>
    refine onSession h fun se _ _ => ?_
    refine (h.modifyEntry fun ps => ?_).moveTo s fun _ => trivial
    exact ⟨rfl, rfl, by simp⟩
  | installWriter s => exact onSession h fun se _ _ => h.installWriter s se
  | handOn s => exact onSession h fun se hse hphase => h.handOn (hown se hse hphase)

end Attributed

/-! ## Attribution over whole runs -/

/-- **Application data is attributed to the session that decrypted it**, by the id validated in its
handshake, whatever the interleaving on an endpoint, as long as every session that records its
issuer, and every reader that looks it up, still owns the entry. -/
theorem handed_on_own_identity (es : List Event) (hown : Along step RecordsOwn {} es) :
    ∀ p ∈ (run step {} es).handed, (run step {} es).identityOf p.1 = some p.2 := by
  have h0 : ({} : Endpoint).Fresh ∧ ({} : Endpoint).Attributed :=
    ⟨fun _ _ => rfl, by simp, by simp, by simp⟩
  have hstep : ∀ (w : Endpoint) (e : Event), w.Fresh ∧ w.Attributed → w.RecordsOwn e →
      (w.step e).Fresh ∧ (w.step e).Attributed :=
    fun w e h hp => ⟨h.1.step e, h.2.step h.1 e hp⟩
  exact (Lib.run_invariant hstep h0 hown).2.handed

def acceptRun (s : SessionId) (id : String) : List Event :=
  [.packet true false, .attachWorker, .handshakeCompletes s "TLS_AES_256_GCM_SHA384" (.validated id),
    .recordIssuer s, .installWriter s]

theorem sessions_in_turn :
    let es := acceptRun 0 "ALICE" ++ [.handOn 0, .readEnds 0] ++ acceptRun 1 "BOB" ++ [.handOn 1]
    (run step {} es).handed = [(0, "ALICE"), (1, "BOB")] ∧
      ∀ p ∈ (run step {} es).handed, (run step {} es).identityOf p.1 = some p.2 :=
  ⟨by decide, handed_on_own_identity _ (by decide)⟩

/-- A second handshake replaces the entry while the first session's reader still runs: what that
reader decrypts next is attributed to the second peer. -/
theorem attributed_to_later_session :
    ¬ ∀ es, ∀ p ∈ (run step {} es).handed, (run step {} es).identityOf p.1 = some p.2 := by
  intro h
  have hlate := h (acceptRun 0 "ALICE" ++ acceptRun 1 "BOB" ++ [.handOn 0])
  exact absurd hlate (by decide)

end Endpoint

end Bingle.Dtls
