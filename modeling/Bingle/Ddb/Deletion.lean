import Bingle.Messages.Handlers

/-!
# Who can have a record deleted

A node signs itself off, a relay that has left is reported and checked, and relays pass both on to
one another.  A record must not go because somebody else asked for it.
-/

namespace Bingle.Ddb

open Messages

/-- What the handlers have checked: a sign-off is the node's own or says that it is rippled; a
report is confirmed; a rippled report comes from a relay. -/
inductive Asked (env : Env) (src : FromStruct) : Message → Id → Prop
  | signoff (m : DdbSignoff) (h : m.rippled = true ∨ m.startId = src.senderId) :
      Asked env src (.ddb (.signoff m)) m.startId
  | report (r : FailReport) (h : reportConfirmed env r.failedRelayId = true) :
      Asked env src (.reportFail (.relayReportFailed r)) r.failedRelayId
  | ripple (r : FailReport) (h : src.senderId ∈ env.listAllRelays.map Prod.fst) :
      Asked env src (.reportFail (.reportFailedRipple r)) r.failedRelayId

inductive Changed (env : Env) (src : FromStruct) (msg : Message) (b : Backend) : Backend → Prop
  | same : Changed env src msg b b
  | stored (record : AdvertRecord) (h : env.verify record = true) :
      Changed env src msg b (b.upsert env.now record)
  | deleted (id : Id) (h : Asked env src msg id) : Changed env src msg b (b.delete id)

section Changed

variable {env : Env} {src : FromStruct} {n : Node}

lemma ddbUpsertRecord_changed (msg : Message) (record : AdvertRecord) (b : Backend) :
    Changed env src msg b (ddbUpsertRecord env record b) := by
  rw [ddbUpsertRecord]
  split_ifs with hv hg
  · exact .same
  · exact .same
  · exact .stored record (by simpa using hv)

lemma onDdbUpsertResolve_changed (up : DdbUpsertResolve) :
    Changed env src (.ddb (.upsertResolve up)) n.backend
      (onDdbUpsertResolve env src up n).1.backend := by
  rw [onDdbUpsertResolve_eq]
  split_ifs with h
  · exact .stored up.record h.2.2.2.2.1
  · exact .stored up.record h.2.2.2.2.1
  · exact .same

lemma onDdbSignoff_changed (m : DdbSignoff) :
    Changed env src (.ddb (.signoff m)) n.backend (onDdbSignoff env src m n).1.backend := by
  rw [onDdbSignoff_eq]
  split_ifs with h
  · exact .deleted m.startId (.signoff m (h.2.imp_right And.left))
  · exact .deleted m.startId (.signoff m (h.2.imp_right And.left))
  · exact .same

lemma onReportFail_changed (m : ReportFailMessage) :
    Changed env src (.reportFail m) n.backend (onReportFail env src m n).1.backend := by
  cases m with
  | relayReportFailed r =>
    simp only [onReportFail, onRelayReportFailed]
    split_ifs with hrelay hc
    · exact .same
    · exact .deleted _ (.report r hc)
    · exact .same
  | reportFailedRipple r =>
    simp only [onReportFail, onReportFailedRipple]
    split_ifs with hrelay hl
    · exact .same
    · exact .deleted _ (.ripple r (by simpa using hl))
    · exact .same
  | reportFailedRippleResponse r => simp only [onReportFail]; split <;> exact .same
  | reportFailedComplete r => simp only [onReportFail]; split <;> exact .same

/-- **What a message can do to the database**, over every message the router takes. -/
theorem dispatch_backend (msg : Message) :
    Changed env src msg n.backend (dispatchMessage env src msg n).1.backend := by
  cases msg with
  | relay m => cases m <;> simp only [dispatchMessage, onRelayCall_backend, onRelayListen_backend,
      onRelayKeepAlive_backend, onRelayCalled_backend, onRelayCheck_fst] <;> exact .same
  | ddb m =>
    cases m with
    | upsertResolve m => exact onDdbUpsertResolve_changed m
    | signoff m => exact onDdbSignoff_changed m
    | dumpResolve record => exact ddbUpsertRecord_changed _ record n.backend
    | _ =>
      simp only [dispatchMessage, onDdbGetRelaysStatus_fst, onDdbInitResolve_fst,
        onDdbQueryResolve_fst, onDdbSignon_fst]
      exact .same
  | ping m =>
    cases m <;> simp only [dispatchMessage, onPingPing_fst, onPingResponse_fst] <;> exact .same
  | reportFail m => exact onReportFail_changed m
  | _ => exact .same

variable {msg : Message} {b b' : Backend} {id : Id}

lemma Changed.held (h : Changed env src msg b b')
    {record : AdvertRecord} (hheld : b'.held id = some record) :
    b.held id = some record ∨ env.verify record = true := by
  cases h with
  | same => exact Or.inl hheld
  | stored record' hv =>
    by_cases hid : id = record'.id
    · subst hid
      rw [Backend.held_upsert_self, Option.some.injEq] at hheld
      exact Or.inr (hheld ▸ hv)
    · rw [Backend.held_upsert_of_ne b _ hid] at hheld
      exact Or.inl hheld
  | deleted id' _ =>
    by_cases hid : id = id'
    · simp [hid] at hheld
    · rw [Backend.held_delete_of_ne b hid] at hheld
      exact Or.inl hheld

lemma Changed.kept (h : Changed env src msg b b')
    (hheld : (b.held id).isSome) (hasked : ¬ Asked env src msg id) : (b'.held id).isSome := by
  cases h with
  | same => exact hheld
  | stored record' hv =>
    by_cases hid : id = record'.id
    · simp [hid]
    · rwa [Backend.held_upsert_of_ne b _ hid]
  | deleted id' ha =>
    have hid : id ≠ id' := fun hid => hasked (hid ▸ ha)
    rwa [Backend.held_delete_of_ne b hid]

end Changed

/-! ## Messages from a node that is not a relay -/

/-- At every address that it is listed at as a relay, if at any, the node says that it is there. -/
def Answering (env : Env) (id : Id) : Prop :=
  ∀ addr, (id, addr) ∈ env.listAllRelays →
    ∃ status, env.askStatus id addr = .ok (.ddb (.relaysStatusResponse status)) ∧
      status.responderState = .available

/-- A sign-off that says it is rippled, and a report of a failed relay that names a node not listed
as one: they delete the record of a node that is alive, whoever sends them. -/
def Unchecked (env : Env) (id : Id) (msg : Message) : Prop :=
  (∃ tag, msg = .ddb (.signoff ⟨id, true, tag⟩)) ∨
    ∃ r : FailReport, msg = .reportFail (.relayReportFailed r) ∧ r.failedRelayId = id ∧
      id ∉ env.listAllRelays.map Prod.fst

lemma reportConfirmed_iff_of_answering {env : Env} {id : Id} (h : Answering env id) :
    reportConfirmed env id = true ↔ id ∉ env.listAllRelays.map Prod.fst := by
  rw [reportConfirmed]
  cases hfind : env.listAllRelays.find? fun r => r.1 = id with
  | none =>
    have hnot : ∀ r ∈ env.listAllRelays, r.1 ≠ id := by simpa using hfind
    simp only [true_iff, List.mem_map, not_exists, not_and]
    exact hnot
  | some r =>
    have hlisted := List.mem_of_find?_eq_some hfind
    obtain rfl : r.1 = id := by simpa using List.find?_some hfind
    obtain ⟨status, hask, hstate⟩ := h r.2 hlisted
    have hmem : r.1 ∈ env.listAllRelays.map Prod.fst := List.mem_map_of_mem hlisted
    simp [hask, hstate, hmem]

/-- **The records of others.**  A relay handles a message of a node that is not a relay.  The record
of another node that is alive and answering stays *exactly when* the message is not an unchecked
one; and what is held then is the record there was or one whose signature was checked. -/
theorem records_of_others_kept_iff {env : Env} {src : FromStruct} {n : Node} {id : Id}
    (hrelay : n.router.amRelay = true) (hsrc : src.senderId ∉ env.listAllRelays.map Prod.fst)
    (hid : id ≠ src.senderId) (hheld : (n.backend.held id).isSome) (halive : Answering env id)
    (msg : Message) :
    (((dispatchMessage env src msg n).1.backend.held id).isSome ↔ ¬ Unchecked env id msg) ∧
      ∀ record, (dispatchMessage env src msg n).1.backend.held id = some record →
        n.backend.held id = some record ∨ env.verify record = true := by
  refine ⟨⟨?_, ?_⟩, fun record => (dispatch_backend msg).held⟩
  · -- the two messages do delete it
    rintro hkept (⟨tag, rfl⟩ | ⟨r, rfl, rfl, hlisted⟩)
    · simp [dispatchMessage, onDdbSignoff, hrelay] at hkept
    · have hc := (reportConfirmed_iff_of_answering halive).mpr hlisted
      simp [dispatchMessage, onReportFail, onRelayReportFailed, markRelayAsFailed, hrelay, hc]
        at hkept
  · -- every other deletion is asked for by the node itself, a relay, or its own silence
    intro hunchecked
    refine (dispatch_backend msg).kept hheld fun hasked => hunchecked ?_
    cases hasked with
    | signoff m h =>
      obtain ⟨startId, rippled, tag⟩ := m
      obtain rfl : rippled = true := h.resolve_right hid
      exact Or.inl ⟨tag, rfl⟩
    | report r h =>
      exact Or.inr ⟨r, rfl, rfl, (reportConfirmed_iff_of_answering halive).mp h⟩
    | ripple r h => exact absurd h hsrc

def quietEnv : Env where
  listAllRelays := [("RELAY", "192.0.2.1:5000")]
  askStatus := fun _ _ => .ok (.ddb (.relaysStatusResponse ⟨.available, 0, 2, [], none, [], none⟩))

lemma answering_quietEnv (id : Id) : Answering quietEnv id := fun _ _ => ⟨_, rfl, rfl⟩

def relayOfAlice : Node where
  router := { amRelay := true }
  backend := (Backend.empty none none).upsert 0 { id := "ALICE" }
  turnRelay := .new
  turnClient := .new

def mallory : FromStruct := ⟨"MALLORY.", .newDirect "203.0.113.6:9000"⟩

theorem alice_kept :
    ((dispatchMessage quietEnv mallory (.ddb (.signoff ⟨"ALICE", false, none⟩))
      relayOfAlice).1.backend.held "ALICE").isSome :=
  (records_of_others_kept_iff rfl (by decide) (by decide) (by decide) (answering_quietEnv "ALICE")
    (.ddb (.signoff ⟨"ALICE", false, none⟩))).1.mpr (by simp [Unchecked])

/-- **Anyone deletes anyone.**  A sign-off of a stranger with `rippled` set, or their report that
the client has failed as a relay, deletes the client's record. -/
theorem alice_deleted_by_stranger :
    mallory.senderId ∉ quietEnv.listAllRelays.map Prod.fst ∧ "ALICE" ≠ mallory.senderId ∧
      Answering quietEnv "ALICE" ∧ (relayOfAlice.backend.held "ALICE").isSome ∧
      (dispatchMessage quietEnv mallory (.ddb (.signoff ⟨"ALICE", true, none⟩))
        relayOfAlice).1.backend.held "ALICE" = none ∧
      (dispatchMessage quietEnv mallory (.reportFail (.relayReportFailed ⟨"ALICE", "timeout", ""⟩))
        relayOfAlice).1.backend.held "ALICE" = none :=
  ⟨by decide, by decide, answering_quietEnv _, by decide, by decide, by decide⟩

end Bingle.Ddb
