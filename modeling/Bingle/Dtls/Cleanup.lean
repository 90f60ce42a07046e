import Bingle.Dtls.Attribution

/-!
# Whose entry a session cleans up

A session that ends removes the endpoint's entry if the entry's generation is its own.  The numbers
start again at 1 whenever the entry has been removed, so a session that is still running may have
the number of a later one.
-/

namespace Bingle.Dtls

open Option
open Lib (run Along)

/-- What is done under one lock, with the two clean-ups that look at nothing. -/
inductive Section
  | event (e : Event)
  | spawnFails (s : SessionId)
  | dropStale (s : SessionId)
deriving DecidableEq, Repr

def Session.claim (se : Session) : ℕ × ℕ := (se.generation, se.asyncQueue)

def PeerState.claim (ps : PeerState) : ℕ × ℕ := (ps.generation, ps.asyncQueue)

lemma nextPeerGeneration_ne_zero (generation : ℕ) : nextPeerGeneration generation ≠ 0 := by
  simp only [nextPeerGeneration]
  split_ifs with h
  · exact one_ne_zero
  · exact h

/-! ## The sections that start a session -/

lemma claimForAccept_spec (ps : PeerState) (s : SessionId) (newSession : Bool) :
    ((claimForAccept ps s newSession).acceptGeneration = none ∧
        (claimForAccept ps s newSession).entry = some ps ∧ ps.writer ≠ none) ∨
      ∃ ps', (claimForAccept ps s newSession).acceptGeneration = some ps'.generation ∧
        (claimForAccept ps s newSession).entry = some ps' ∧ ps'.owner = some s ∧
        ps'.generation ≠ 0 := by
  rw [claimForAccept]
  split_ifs with hw
  · exact Or.inr ⟨_, rfl, rfl, rfl, nextPeerGeneration_ne_zero _⟩
  · exact Or.inl ⟨rfl, rfl, hw⟩

lemma handleDtlsAcceptPacket_spec (entry : Option PeerState) (isClientHello designated : Bool)
    (s : SessionId) (queue : ℕ) :
    let r := handleDtlsAcceptPacket entry isClientHello designated s queue
    (r.acceptGeneration = none ∧ r.entry = entry) ∨
      ∃ ps', r.acceptGeneration = some ps'.generation ∧ r.entry = some ps' ∧ ps'.owner = some s ∧
        ps'.generation ≠ 0 := by
  have hnew : ∀ generation newSession, ∃ ps',
      (claimForAccept (newPeerState generation queue) s newSession).acceptGeneration =
          some ps'.generation ∧
        (claimForAccept (newPeerState generation queue) s newSession).entry = some ps' ∧
        ps'.owner = some s ∧ ps'.generation ≠ 0 := by
    intro generation newSession
    exact (claimForAccept_spec _ s newSession).resolve_left fun h => h.2.2 rfl
  cases entry with
  | none => exact Or.inr (hnew 0 false)
  | some ps =>
    simp only [handleDtlsAcceptPacket]
    split_ifs
    · exact Or.inl ⟨rfl, rfl⟩
    · exact Or.inr (hnew _ false)
    · exact Or.inr (hnew _ true)
    · exact (claimForAccept_spec ps s false).imp_left fun h => ⟨h.1, h.2.1⟩

lemma startConnect_spec (entry : Option PeerState) (s : SessionId) (queue : ℕ) :
    let r := startConnect entry s queue
    (r.2 = none ∧ entry = some r.1) ∨
      (r.2 = some r.1.claim ∧ r.1.owner = some s ∧ r.1.generation ≠ 0) := by
  simp only [startConnect]
  split_ifs with hw
  · cases entry with
    | none => simp [getOrCreatePeerState, newPeerState] at hw
    | some ps => exact Or.inl ⟨rfl, rfl⟩
  · exact Or.inr ⟨rfl, rfl, nextPeerGeneration_ne_zero _⟩

namespace Endpoint

def exec (w : Endpoint) : Section → Endpoint
  | .event e => w.step e
  | .spawnFails s =>
    match w.session s with
    | some se => if se.phase = .recorded ∧ se.accepting then w.close s se else w
    | none => w
  | .dropStale _ => w.step .forget

def cleanedBy (w : Endpoint) : Section → Option SessionId
  | .event (.handshakeFails s) | .event (.idle s) | .event (.readEnds s)
  | .event (.splitFails s) | .spawnFails s | .dropStale s => some s
  -- an accept whose peer is rejected closes at once
  | .event (.recordIssuer s) =>
    if (w.session s).any fun se => se.accepting ∧ se.phase = .shaken .rejected then some s
    else none
  | _ => none

def CreatedFor (w : Endpoint) (s : SessionId) (ps : PeerState) : Prop :=
  ps.owner = some s ∧ (w.session s).map Session.claim = some ps.claim

/-- If the section is the cleanup of a session and changes the entry, the entry is that
session's. -/
def OwnerOnly (w : Endpoint) (x : Section) : Prop :=
  ∀ s, w.cleanedBy x = some s → (w.exec x).entry ≠ w.entry →
    ∃ ps, w.entry = some ps ∧ w.CreatedFor s ps

def Unused (w : Endpoint) (generation : ℕ) : Prop :=
  ∀ s < w.started, ∀ se ∈ w.session s, se.phase ≠ .closed → se.generation ≠ generation

def Guarded (w : Endpoint) : Section → Prop
  | .event (.packet isClientHello designated) =>
    ∀ generation ∈ (handleDtlsAcceptPacket w.entry isClientHello designated w.started
      w.started).acceptGeneration, w.Unused generation
  | .event .dial => ∀ p ∈ (startConnect w.entry w.started w.started).2, w.Unused p.1
  | .event (.splitFails s) | .dropStale s => ∀ ps ∈ w.entry, ps.owner = some s
  | _ => True

instance (w : Endpoint) (generation : ℕ) : Decidable (w.Unused generation) :=
  inferInstanceAs (Decidable (∀ s < w.started, ∀ se ∈ w.session s, se.phase ≠ .closed →
    se.generation ≠ generation))

instance (w : Endpoint) : ∀ x, Decidable (w.Guarded x)
  | .event (.packet isClientHello designated) =>
    inferInstanceAs (Decidable (∀ generation ∈ (handleDtlsAcceptPacket w.entry isClientHello
      designated w.started w.started).acceptGeneration, w.Unused generation))
  | .event .dial => inferInstanceAs (Decidable (∀ p ∈ (startConnect w.entry w.started
      w.started).2, w.Unused p.1))
  | .event (.splitFails s) => inferInstanceAs (Decidable (∀ ps ∈ w.entry, ps.owner = some s))
  | .dropStale s => inferInstanceAs (Decidable (∀ ps ∈ w.entry, ps.owner = some s))
  | .spawnFails _ | .event .attachWorker | .event (.handshakeFails _)
  | .event (.handshakeCompletes ..) | .event (.recordIssuer _) | .event (.detachWriter _)
  | .event (.installWriter _) | .event (.handOn _) | .event (.idle _) | .event (.readEnds _)
  | .event .forget => inferInstanceAs (Decidable True)

/-! ## The invariant -/

structure Claims (w : Endpoint) : Prop where
  owner : ∀ ps ∈ w.entry, ∀ s, ps.owner = some s →
    (w.session s).map Session.claim = some ps.claim
  sole : ∀ ps ∈ w.entry, ∀ s, ∀ se ∈ w.session s, se.phase ≠ .closed →
    se.generation = ps.generation → ps.owner = some s
  positive : ∀ s, ∀ se ∈ w.session s, se.generation ≠ 0

namespace Claims

variable {w : Endpoint}

variable {s : SessionId} {se : Session} {ps : PeerState}

lemma createdFor (h : w.Claims) (hse : w.session s = some se)
    (hphase : se.phase ≠ .closed) (hps : w.entry = some ps)
    (hgen : ps.generation = se.generation) : w.CreatedFor s ps := by
  have howner := h.sole ps hps s se hse hphase hgen.symm
  exact ⟨howner, h.owner ps hps s howner⟩

lemma congr_session (h : w.Claims) {session : SessionId → Option Session}
    (hclaim : ∀ s, (session s).map Session.claim = (w.session s).map Session.claim)
    (hphase : ∀ s, ∀ se' ∈ session s, se'.phase ≠ .closed →
      ∀ se ∈ w.session s, se.phase ≠ .closed) :
    ({ w with session } : Endpoint).Claims := by
  have hback : ∀ s, ∀ se' ∈ session s, ∃ se ∈ w.session s, se.generation = se'.generation := by
    intro s se' hse'
    have hc := hclaim s
    rw [mem_def.mp hse', map_some, eq_comm, map_eq_some_iff] at hc
    obtain ⟨se, hse, hc⟩ := hc
    exact ⟨se, hse, congrArg Prod.fst hc⟩
  refine ⟨fun ps hps s howner => (hclaim s).trans (h.owner ps hps s howner), ?_, ?_⟩
  · intro ps hps s se' hse' hopen hgen
    obtain ⟨se, hse, heq⟩ := hback s se' hse'
    exact h.sole ps hps s se hse (hphase s se' hse' hopen se hse) (heq.trans hgen)
  · intro s se' hse'
    obtain ⟨se, hse, heq⟩ := hback s se' hse'
    exact heq ▸ h.positive s se hse

lemma setSession (h : w.Claims) {se' : Session} (hse : w.session s = some se)
    (hopen : se.phase ≠ .closed) (hclaim : se'.claim = se.claim) :
    ({ w with session := Function.update w.session s (some se') } : Endpoint).Claims := by
  refine h.congr_session ?_ ?_
  · intro r
    by_cases hr : r = s
    · subst hr
      simp [hse, hclaim]
    · simp [hr]
  · intro r se₁ hmoved hopen' se₀ hse₀
    by_cases hr : r = s
    · subst hr
      rw [mem_def, hse, some.injEq] at hse₀
      exact hse₀ ▸ hopen
    · rw [Function.update_of_ne hr] at hmoved
      exact mem_unique hse₀ hmoved ▸ hopen'

lemma moveTo (h : w.Claims) (hse : w.session s = some se)
    (hopen : se.phase ≠ .closed) (phase : Phase) : (w.moveTo s phase).Claims := by
  rw [Endpoint.moveTo, hse, map_some]
  exact h.setSession hse hopen rfl

lemma withEntry (h : w.Claims) {entry : Option PeerState}
    (he : ∀ ps' ∈ entry, ∃ ps ∈ w.entry, ps'.claim = ps.claim ∧ ps'.owner = ps.owner) :
    ({ w with entry } : Endpoint).Claims := by
  refine ⟨?_, ?_, h.positive⟩
  · intro ps' hps' s hs
    obtain ⟨ps, hps, hclaim, howner⟩ := he ps' hps'
    exact hclaim ▸ h.owner ps hps s (howner ▸ hs)
  · intro ps' hps' s se hse hopen hgen
    obtain ⟨ps, hps, hclaim, howner⟩ := he ps' hps'
    exact howner ▸ h.sole ps hps s se hse hopen (hgen.trans (congrArg Prod.fst hclaim))

lemma modifyEntry (h : w.Claims) {f : PeerState → PeerState}
    (hf : ∀ ps, (f ps).claim = ps.claim ∧ (f ps).owner = ps.owner) : (w.modifyEntry f).Claims := by
  refine h.withEntry fun ps' hps' => ?_
  obtain ⟨ps, hps, rfl⟩ := map_eq_some_iff.mp hps'
  exact ⟨ps, hps, hf ps⟩

lemma setEntry (h : w.Claims) {ps' : PeerState} (hps : w.entry = some ps)
    (hclaim : ps'.claim = ps.claim) (howner : ps'.owner = ps.owner) :
    ({ w with entry := some ps' } : Endpoint).Claims := by
  refine h.withEntry fun ps'' hps'' => ⟨ps, hps, ?_⟩
  obtain rfl := some.inj hps''
  exact ⟨hclaim, howner⟩

lemma unclaimed (h : w.Claims) (hgen : ps.generation = 0)
    (howner : ps.owner = none) : ({ w with entry := some ps } : Endpoint).Claims := by
  refine ⟨?_, ?_, h.positive⟩
  · intro ps' hps' s hs
    obtain rfl := some.inj hps'
    rw [howner] at hs
    exact absurd hs (by simp)
  · intro ps' hps' s se hse _ hgen'
    obtain rfl := some.inj hps'
    exact absurd (hgen'.trans hgen) (h.positive s se hse)

lemma dropEntry (h : w.Claims) : ({ w with entry := none } : Endpoint).Claims :=
  h.withEntry fun _ hps' => absurd hps' (by simp)

lemma close (h : w.Claims) (hse : w.session s = some se)
    (hopen : se.phase ≠ .closed) : (w.close s se).Claims := by
  have hentry :
      ({ w with entry := takePeerStateIfOwner w.entry se.generation } : Endpoint).Claims := by
    refine h.withEntry fun ps hps => ?_
    rw [takePeerStateIfOwner] at hps
    split_ifs at hps
    · exact absurd hps (by simp)
    · exact ⟨ps, hps, rfl, rfl⟩
  exact hentry.moveTo hse hopen .closed

lemma start (h : w.Claims) (hfresh : w.Fresh)
    (howner : ps.owner = some w.started) (hclaim : se.claim = ps.claim)
    (hpos : ps.generation ≠ 0) (hunused : w.Unused ps.generation) :
    (({ w with entry := some ps } : Endpoint).start se).Claims := by
  have hgen : se.generation = ps.generation := congrArg Prod.fst hclaim
  have hcases : ∀ r, ∀ se' ∈ Function.update w.session w.started (some se) r,
      (r = w.started ∧ se' = se) ∨ (r < w.started ∧ se' ∈ w.session r) := by
    intro r se' hse'
    by_cases hr : r = w.started
    · subst hr
      exact Or.inl ⟨rfl, by simpa [eq_comm] using hse'⟩
    · rw [Function.update_of_ne hr] at hse'
      refine Or.inr ⟨?_, hse'⟩
      by_contra hlt
      rw [hfresh r (not_lt.mp hlt)] at hse'
      exact absurd hse' (by simp)
  refine ⟨?_, ?_, ?_⟩
  · intro ps' hps' s hs
    obtain rfl := some.inj hps'
    obtain rfl : w.started = s := some.inj (howner.symm.trans hs)
    simp [Endpoint.start, hclaim]
  · intro ps' hps' s se' hse' hopen hgen'
    obtain rfl := some.inj hps'
    rcases hcases s se' hse' with ⟨rfl, -⟩ | ⟨hlt, hold⟩
    · exact howner
    · exact absurd hgen' (hunused s hlt se' hold hopen)
  · intro s se' hse'
    rcases hcases s se' hse' with ⟨-, rfl⟩ | ⟨-, hold⟩
    · exact hgen ▸ hpos
    · exact h.positive s se' hold

lemma recordIssuer (h : w.Claims) (hse : w.session s = some se)
    (hopen : se.phase ≠ .closed) (v : Verdict) : (w.recordIssuer s se v).Claims := by
  cases v with
  | validated id =>
    simp only [Endpoint.recordIssuer]
    split_ifs
    · have hset : ({ w with
          entry := some { getOrCreatePeerState w.entry w.started with issuer := id } } :
            Endpoint).Claims := by
        cases hentry : w.entry with
        | some ps => exact h.setEntry hentry rfl rfl
        | none => exact h.unclaimed rfl rfl
      exact hset.moveTo hse hopen .recorded
    · exact (h.modifyEntry fun ps => by split_ifs <;> exact ⟨rfl, rfl⟩).moveTo hse hopen .recorded
  | rejected =>
    simp only [Endpoint.recordIssuer]
    split_ifs
    · exact h.close hse hopen
    · exact h.moveTo hse hopen .recorded
  | noCertificate =>
    simp only [Endpoint.recordIssuer]
    split_ifs
    · exact h.moveTo hse hopen .recorded
    · exact h.moveTo hse hopen .closed

lemma installWriter (h : w.Claims) (hse : w.session s = some se)
    (hopen : se.phase ≠ .closed) : (w.installWriter s se).Claims := by
  rw [Endpoint.installWriter]
  split_ifs
  · cases hentry : w.entry with
    | none => exact h.moveTo hse hopen .reading
    | some ps =>
      dsimp only
      split_ifs
      · have hset : ({ w with
            entry := some { ps with writer := some (.stream s), writerReady := true } } :
              Endpoint).Claims := h.setEntry hentry rfl rfl
        exact hset.moveTo hse hopen .reading
      · exact h.moveTo hse hopen .closed
  · exact (h.modifyEntry fun ps => by split_ifs <;> exact ⟨rfl, rfl⟩).moveTo hse hopen .reading

lemma exec (h : w.Claims) (hfresh : w.Fresh) {x : Section} (hguard : w.Guarded x) :
    (w.exec x).Claims := by
  cases x with
  | spawnFails s => exact onSession h fun se hse hphase => h.close hse (by simp [hphase.1])
  | dropStale s => exact h.dropEntry
  | event e =>
    simp only [Endpoint.exec]
    cases e with
    | packet isClientHello designated =>
      simp only [Endpoint.step]
      rcases handleDtlsAcceptPacket_spec w.entry isClientHello designated w.started w.started
        with ⟨hnone, hentry⟩ | ⟨ps, hgen, hentry, howner, hpos⟩
      · simp only [hnone, hentry]
        exact h
      · simp only [hgen, hentry]
        exact h.start hfresh howner rfl hpos (hguard _ hgen)
    | dial =>
      have hspec := startConnect_spec w.entry w.started w.started
      simp only [Guarded] at hguard
      simp only [Endpoint.step]
      generalize startConnect w.entry w.started w.started = r at hspec hguard ⊢
      obtain ⟨ps, next⟩ := r
      dsimp only at hspec
      rcases hspec with ⟨rfl, hentry⟩ | ⟨rfl, howner, hpos⟩
      · exact h.setEntry hentry rfl rfl
      · exact h.start hfresh howner rfl hpos (hguard _ rfl)
    | attachWorker => exact h.modifyEntry fun ps => ⟨rfl, rfl⟩
    | forget => exact h.dropEntry
    | handshakeFails s => exact onSession h fun se hse hphase => h.close hse (by simp [hphase])
    | idle s => exact onSession h fun se hse hphase => h.close hse (by simp [hphase.1])
    | readEnds s => exact onSession h fun se hse hphase => h.close hse (by simp [hphase])
    | handshakeCompletes s cipher v =>
      refine onSession h fun se hse hphase => ?_
      refine (h.modifyEntry fun ps => ?_).setSession hse (by simp [hphase]) rfl
      rw [noteHandshake]
      split_ifs <;> exact ⟨rfl, rfl⟩
    | recordIssuer s =>
      simp only [Endpoint.step]
      cases hse : w.session s with
      | none => exact h
      | some se =>
        dsimp only
        split
        · rename_i v hphase
          exact h.recordIssuer hse (by simp [hphase]) v
        · exact h
    | detachWriter s => exact onSession h fun se _ _ => h.modifyEntry fun ps => ⟨rfl, rfl⟩
    | splitFails s =>
      refine onSession h fun se hse hphase => ?_
      refine (h.modifyEntry fun ps => ?_).moveTo hse (by simp [hphase.1]) .closed
      exact ⟨rfl, rfl⟩
    | installWriter s =>
      exact onSession h fun se hse hphase => h.installWriter hse (by simp [hphase])
    | handOn s =>
      simp only [Endpoint.step, Endpoint.handOn]
      repeat' split
      all_goals exact ⟨h.owner, h.sole, h.positive⟩

end Claims

/-! ## Cleanup -/

variable {w : Endpoint}

variable {s : SessionId} {se : Session}

lemma entry_of_close (h : (w.close s se).entry ≠ w.entry) :
    ∃ ps, w.entry = some ps ∧ ps.generation = se.generation := by
  by_cases hgen : w.entry.map PeerState.generation = some se.generation
  · exact map_eq_some_iff.mp hgen
  · exact absurd (if_neg hgen) h

lemma Claims.close_owner (h : w.Claims) (hse : w.session s = some se) (hopen : se.phase ≠ .closed)
    (hne : (w.close s se).entry ≠ w.entry) : ∃ ps, w.entry = some ps ∧ w.CreatedFor s ps := by
  obtain ⟨ps, hps, hgen⟩ := entry_of_close hne
  exact ⟨ps, hps, h.createdFor hse hopen hps hgen⟩

lemma Claims.closing_owner (h : w.Claims) (P : Session → Prop) [DecidablePred P]
    (hP : ∀ se, P se → se.phase ≠ .closed) (hne : (match w.session s with
      | some se => if P se then w.close s se else w
      | none => w).entry ≠ w.entry) :
    ∃ ps, w.entry = some ps ∧ w.CreatedFor s ps := by
  cases hse : w.session s with
  | none => simp [hse] at hne
  | some se =>
    simp only [hse] at hne
    split_ifs at hne with hphase
    · exact h.close_owner hse (hP se hphase) hne
    · exact absurd rfl hne

lemma Claims.ownerOnly (h : w.Claims) {x : Section} (hguard : w.Guarded x) : w.OwnerOnly x := by
  intro s hs hne
  -- the two sections without a check have the condition itself
  have hclaimed : (∀ ps ∈ w.entry, ps.owner = some s) → w.entry ≠ none →
      ∃ ps, w.entry = some ps ∧ w.CreatedFor s ps := by
    intro howner hentry
    obtain ⟨ps, hps⟩ := ne_none_iff_exists'.mp hentry
    exact ⟨ps, hps, howner ps hps, h.owner ps hps s (howner ps hps)⟩
  cases x with
  | spawnFails r =>
    obtain rfl := some.inj hs
    exact h.closing_owner (fun se => se.phase = .recorded ∧ se.accepting)
      (fun se hse => by simp [hse.1]) hne
  | dropStale r =>
    obtain rfl := some.inj hs
    exact hclaimed hguard (Ne.symm hne)
  | event e =>
    cases e with
    | handshakeFails r =>
      obtain rfl := some.inj hs
      exact h.closing_owner (fun se => se.phase = .handshaking) (fun se hse => by simp [hse]) hne
    | idle r =>
      obtain rfl := some.inj hs
      exact h.closing_owner (fun se => se.phase = .reading ∧
        w.entry.map PeerState.generation ≠ some se.generation) (fun se hse => by simp [hse.1]) hne
    | readEnds r =>
      obtain rfl := some.inj hs
      exact h.closing_owner (fun se => se.phase = .reading) (fun se hse => by simp [hse]) hne
    | splitFails r =>
      obtain rfl := some.inj hs
      refine hclaimed hguard fun hentry => hne ?_
      simp only [Endpoint.exec, Endpoint.step]
      cases w.session r with
      | none => rfl
      | some se =>
        dsimp only
        split_ifs
        · simp [Endpoint.modifyEntry, hentry]
        · rfl
    | recordIssuer r =>
      simp only [cleanedBy] at hs
      split_ifs at hs with hrejected
      obtain rfl := some.inj hs
      cases hse : w.session r with
      | none => simp [hse] at hrejected
      | some se =>
        obtain ⟨hacc, hphase⟩ : se.accepting = true ∧ se.phase = .shaken .rejected := by
          simpa [hse] using hrejected
        simp only [Endpoint.exec, Endpoint.step, hse, hphase, Endpoint.recordIssuer, hacc,
          if_true] at hne
        exact h.close_owner hse (by simp [hphase]) hne
    | _ => exact absurd hs (by simp [cleanedBy])

theorem Fresh.exec (h : w.Fresh) (x : Section) : (w.exec x).Fresh := by
  cases x with
  | event e => exact h.step e
  | dropStale s => exact h.step .forget
  | spawnFails s =>
    exact onSession h fun se _ _ => (moved_moveTo w _ s (by simp) rfl rfl).fresh h

/-- **Cleanup is owner-only.**  Whatever the interleaving on an endpoint, the cleanup of a session
changes the entry only if that session claimed it last and the entry has its generation and its
queue, as long as no session starts with the generation of one that is still running, and a stream
that cannot be split, and a worker found dead, find the entry claimed by their own session. -/
theorem cleanup_owner_only (xs : List Section) (hguard : Along exec Guarded {} xs) :
    Along exec OwnerOnly {} xs := by
  have h0 : ({} : Endpoint).Fresh ∧ ({} : Endpoint).Claims :=
    ⟨fun _ _ => rfl, by simp, by simp, by simp⟩
  have hstep : ∀ (w : Endpoint) (x : Section), w.Fresh ∧ w.Claims → w.Guarded x →
      (w.exec x).Fresh ∧ (w.exec x).Claims :=
    fun w x h hg => ⟨h.1.exec x, h.2.exec h.1 hg⟩
  exact Along.of_invariant hstep (fun w x h hg => h.2.ownerOnly hg) h0 hguard

def inTurn : List Section :=
  (acceptRun 0 "ALICE" ++ Event.readEnds 0 :: acceptRun 1 "BOB" ++ [Event.readEnds 1]).map .event

def forgotten : List Section :=
  (acceptRun 0 "ALICE" ++ Event.forget :: acceptRun 1 "BOB").map .event

theorem inTurn_owner_only : Along exec OwnerOnly {} inTurn := cleanup_owner_only inTurn (by decide)

/-- **The numbers start again.**  Both sessions have generation 1: the reader of the first, which
was forgotten, removes the entry of the second. -/
theorem later_session_removed :
    (run exec {} forgotten).entry.bind PeerState.owner = some 1 ∧
      ((run exec {} forgotten).exec (.event (.readEnds 0))).entry = none ∧
      ¬ (run exec {} forgotten).OwnerOnly (.event (.readEnds 0)) := by
  have howner : (run exec {} forgotten).entry.bind PeerState.owner = some 1 := by decide
  have hgone : ((run exec {} forgotten).exec (.event (.readEnds 0))).entry = none := by decide
  refine ⟨howner, hgone, fun h => ?_⟩
  have hchanged : ((run exec {} forgotten).exec (.event (.readEnds 0))).entry ≠
      (run exec {} forgotten).entry := by
    intro heq
    rw [← heq, hgone] at howner
    exact absurd howner (by simp)
  obtain ⟨ps, hps, hcreated, -⟩ := h 0 rfl hchanged
  rw [hps, bind_some, hcreated] at howner
  exact absurd howner (by decide)

end Endpoint

end Bingle.Dtls
