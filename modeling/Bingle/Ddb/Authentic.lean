import Mathlib
import Bingle.Ddb.Deletion
import Bingle.Lib.Run
import Bingle.Relay.Updater

/-!
# Where the records of a relay come from

A record from a message is stored if it is signed with the key of its id and, for a relay's, if the
chain permits it.  What the relay's own finder knows is stored at the start as it is.
-/

namespace Bingle.Ddb

open Messages
open Lib (Along Always)

/-! ## Storing several records -/

def Backend.upsertAll (now : ℕ) (b : Backend) (records : List AdvertRecord) : Backend :=
  records.foldl (fun b record => b.upsert now record) b

def lastOf (records : List AdvertRecord) (id : Id) : Option AdvertRecord :=
  records.reverse.find? fun record => record.id == id

lemma lastOf_append_singleton (records : List AdvertRecord) (record : AdvertRecord) (id : Id) :
    lastOf (records ++ [record]) id = if record.id = id then some record else lastOf records id := by
  by_cases h : record.id = id <;> simp [lastOf, h]

lemma mem_of_lastOf {records : List AdvertRecord} {id : Id} {r : AdvertRecord}
    (h : lastOf records id = some r) : r ∈ records ∧ r.id = id :=
  ⟨List.mem_reverse.mp (List.mem_of_find?_eq_some h), by simpa using List.find?_some h⟩

lemma held_upsertAll (now : ℕ) (b : Backend) (records : List AdvertRecord) (id : Id) :
    (b.upsertAll now records).held id = (lastOf records id).or (b.held id) := by
  induction records using List.reverseRecOn with
  | nil => rfl
  | append_singleton records record ih =>
    rw [Backend.upsertAll, List.foldl_append, lastOf_append_singleton]
    change ((b.upsertAll now records).upsert now record).held id = _
    split_ifs with hid
    · subst hid
      exact Backend.held_upsert_self _ now record
    · rw [Backend.held_upsert_of_ne _ now (Ne.symm hid), ih]

/-! ## What a message stores -/

section StoredBy

variable (env : Env) (src : FromStruct) (n : Node)

def accepts (record : AdvertRecord) : Bool :=
  env.verify record &&
    !(record.isRelay && decide (env.checkRelayAllowed record.id = .rejected))

def storedBy : Message → Option AdvertRecord
  | .ddb (.upsertResolve up) => if UpsertAccepts env src n up then some up.record else none
  | .ddb (.dumpResolve record) => if accepts env record then some record else none
  | _ => none

variable {env src n}

lemma ddbUpsertRecord_eq (record : AdvertRecord) (b : Backend) :
    ddbUpsertRecord env record b = if accepts env record then b.upsert env.now record else b := by
  unfold ddbUpsertRecord accepts
  cases env.verify record <;> cases record.isRelay <;>
    cases env.checkRelayAllowed record.id <;> rfl

variable {msg : Message} {record : AdvertRecord}

lemma eq_of_storedBy (h : storedBy env src n msg = some record) :
    (∃ up : DdbUpsertResolve, msg = .ddb (.upsertResolve up) ∧ UpsertAccepts env src n up ∧
      up.record = record) ∨
    msg = .ddb (.dumpResolve record) ∧ accepts env record = true := by
  unfold storedBy at h
  split at h
  · split_ifs at h with haccepts
    exact .inl ⟨_, rfl, haccepts, Option.some.inj h⟩
  · split_ifs at h with haccepts
    obtain rfl := Option.some.inj h
    exact .inr ⟨rfl, haccepts⟩
  · cases h

lemma accepts_of_storedBy
    (h : storedBy env src n msg = some record) : accepts env record = true := by
  obtain ⟨up, -, ⟨-, -, -, -, hverify, hgate⟩, rfl⟩ | ⟨-, haccepts⟩ := eq_of_storedBy h
  · simpa [accepts, hverify, or_iff_not_imp_left] using hgate
  · exact haccepts

lemma held_of_storedBy_eq_none (h : storedBy env src n msg = none) {id : Id}
    (hheld : (dispatchMessage env src msg n).1.backend.held id = some record) :
    n.backend.held id = some record := by
  -- messages other than the two that store a record do not look at signatures, so they do the same
  -- where none is valid, and then nothing can be stored
  let blind : Env := { env with verify := fun _ => false }
  have hother : ∀ msg, dispatchMessage blind src msg n = dispatchMessage env src msg n →
      (dispatchMessage env src msg n).1.backend.held id = some record →
      n.backend.held id = some record := by
    intro msg heq hheld
    have hchanged : Changed blind src msg n.backend (dispatchMessage env src msg n).1.backend :=
      heq ▸ dispatch_backend msg
    exact (hchanged.held hheld).resolve_right (by simp [blind])
  cases msg with
  | ddb m =>
    cases m with
    | upsertResolve up =>
      have haccepts : ¬ UpsertAccepts env src n up := by
        intro haccepts
        simp [storedBy, haccepts] at h
      rwa [dispatchMessage, onDdbUpsertResolve_eq, if_neg haccepts] at hheld
    | dumpResolve record' =>
      have haccepts : ¬ accepts env record' = true := by
        intro haccepts
        simp [storedBy, haccepts] at h
      rw [dispatchMessage, onDdbDumpResolve, ddbUpsertRecord_eq, if_neg haccepts] at hheld
      exact hheld
    | _ => exact hother _ rfl hheld
  | relay m => cases m <;> exact hother _ rfl hheld
  | ping m => cases m <;> exact hother _ rfl hheld
  | reportFail m => cases m <;> exact hother _ rfl hheld
  | _ => exact hother _ rfl hheld

lemma backend_of_storedBy (h : storedBy env src n msg = some record) :
    (dispatchMessage env src msg n).1.backend = n.backend.upsert env.now record := by
  obtain ⟨up, rfl, haccepts, rfl⟩ | ⟨rfl, haccepts⟩ := eq_of_storedBy h
  · rw [dispatchMessage, onDdbUpsertResolve_eq, if_pos haccepts]
  · rw [dispatchMessage, onDdbDumpResolve, ddbUpsertRecord_eq, if_pos haccepts]

end StoredBy

/-! ## A relay -/

structure Init where
  /-- `list_all_relays(my_id, true)`, before the mutex is held -/
  relays : List Relay.RelayInfo
  /-- `list_root_relays(my_id, false)` while it is held, for `count_peer_states` -/
  counted : List Relay.RelayInfo
  /-- the same again, to choose the peer to load from -/
  peers : List Relay.RelayInfo
  /-- `get_signing_key`: the signature of a record with it -/
  signingKey : Option (AdvertRecord → String)
  startLoad : Id → Bool
  date : String

section Initialize

variable (env : Env) (own : Id) (i : Init)

def selfRecord (date : String) : AdvertRecord where
  id := own
  endpoint := some (env.inetSocketAddress (env.lastPublicAddr.getD "0.0.0.0:0"))
  amRelay := some true
  date := date

def allRelays : List AdvertRecord :=
  i.relays.map Relay.RelayInfo.advertRecord ++
    if i.relays.any fun r => r.id == own then []
    else (i.signingKey.map fun sign =>
      { selfRecord env own i.date with sig := some (sign (selfRecord env own i.date)) }).toList

/-- All relays if no other one is available, and the own record once another's database is loaded.
-/
def initialRecords : List AdvertRecord :=
  if i.counted.all fun r => r.state != some .available then allRelays env own i
  else
    match i.peers.head? with
    | none => []
    | some peer =>
      if i.startLoad peer.id then
        [{ selfRecord env own "1970-01-01T00:00:00Z" with
            sig := i.signingKey.map fun sign => sign (selfRecord env own "1970-01-01T00:00:00Z") }]
      else []

end Initialize

structure RelayNode where
  node : Node
  permissionThen : Id → Option Bool := fun _ => none

inductive Action
  | message (src : FromStruct) (msg : Message)
  | initializeRelay (i : Init)
  | bootstrap (roots : List Relay.RelayInfo)
  /-- relays that are no longer permitted, adverts that have expired, `ddb_delete_record` -/
  | evict (ids : List Id)

structure Occasion where
  env : Env
  action : Action

namespace RelayNode

section Step

variable (verify : AdvertRecord → Bool) (own : Id)

def envOf (e : Occasion) : Env := { e.env with verify := verify, myId := some own }

def stored (s : RelayNode) (e : Occasion) : List AdvertRecord :=
  match e.action with
  | .message src msg => (storedBy (envOf verify own e) src s.node msg).toList
  | .initializeRelay i => initialRecords (envOf verify own e) own i
  | .bootstrap roots => roots.map Relay.RelayInfo.advertRecord
  | .evict _ => []

def nodeStep (s : RelayNode) (e : Occasion) : Node :=
  match e.action with
  | .message src msg => (dispatchMessage (envOf verify own e) src msg s.node).1
  | .evict ids => { s.node with backend := ids.foldl Backend.delete s.node.backend }
  | .initializeRelay _ | .bootstrap _ =>
    { s.node with backend := s.node.backend.upsertAll e.env.now (s.stored verify own e) }

def step (s : RelayNode) (e : Occasion) : RelayNode where
  node := s.nodeStep verify own e
  permissionThen id :=
    if (lastOf (s.stored verify own e) id).isSome then e.env.relayPermission id
    else s.permissionThen id

/-- What is held under an id is about that id, is signed unless the id is the own one,
and is no relay that was known to be disallowed when it was stored. -/
def Authentic (s : RelayNode) : Prop :=
  ∀ id record, s.node.backend.held id = some record →
    record.id = id ∧ (id ≠ own → verify record = true) ∧
      (record.isRelay = true → s.permissionThen id ≠ some false)

def Sound (e : Occasion) (record : AdvertRecord) : Prop :=
  (record.id ≠ own → verify record = true) ∧
    (record.isRelay = true → e.env.relayPermission record.id ≠ some false)

/-- Of the records that the relay's finder gives, the last one for each id is sound. -/
def FoundSound (e : Occasion) (found : List Relay.RelayInfo) : Prop :=
  ∀ id, ∀ record ∈ lastOf (found.map Relay.RelayInfo.advertRecord) id, Sound verify own e record

/-- **What a start-up is given is sound.**  It stores what the finder has where no other relay is
counted as available, or at bootstrap, and the relay's own record where the finder has none and the
relay can sign, or once another relay's database is being loaded. -/
def StartsSound (e : Occasion) : Prop :=
  match e.action with
  | .bootstrap roots => FoundSound verify own e roots
  | .initializeRelay i =>
    if i.counted.all fun r => r.state != some .available then
      FoundSound verify own e i.relays ∧ (i.signingKey.isSome → (∀ r ∈ i.relays, r.id ≠ own) →
        e.env.relayPermission own ≠ some false)
    else (∃ peer, i.peers.head? = some peer ∧ i.startLoad peer.id = true) →
      e.env.relayPermission own ≠ some false
  | .message _ _ | .evict _ => True

end Step

variable {verify : AdvertRecord → Bool} {own : Id} {s : RelayNode} {e : Occasion}

variable {id : Id} {record : AdvertRecord}

lemma held_foldl_delete {ids : List Id} {b : Backend}
    (h : (ids.foldl Backend.delete b).held id = some record) : b.held id = some record := by
  induction ids generalizing b with
  | nil => exact h
  | cons id' ids ih =>
    have hdelete := ih h
    by_cases hid : id = id'
    · simp [hid] at hdelete
    · rwa [Backend.held_delete_of_ne b hid] at hdelete

/-- **One step** stores its records over what is held, or stores none and leaves nothing new. -/
lemma held_step_cases :
    (∀ id, (s.step verify own e).node.backend.held id =
      (lastOf (s.stored verify own e) id).or (s.node.backend.held id)) ∨
    (s.stored verify own e = [] ∧ ∀ id record,
      (s.step verify own e).node.backend.held id = some record →
        s.node.backend.held id = some record) := by
  obtain ⟨env, action⟩ := e
  cases action with
  | message src msg =>
    cases hstored : storedBy (envOf verify own ⟨env, .message src msg⟩) src s.node msg with
    | none =>
      refine .inr ⟨by simp [stored, hstored], fun id record hheld => ?_⟩
      exact held_of_storedBy_eq_none hstored hheld
    | some record =>
      refine .inl fun id => ?_
      simp only [step, nodeStep, stored, hstored, backend_of_storedBy hstored]
      exact held_upsertAll _ s.node.backend [record] id
  | initializeRelay i => exact .inl fun id => held_upsertAll _ _ _ id
  | bootstrap roots => exact .inl fun id => held_upsertAll _ _ _ id
  | evict ids => exact .inr ⟨rfl, fun id record hheld => held_foldl_delete hheld⟩

lemma held_step (h : (s.step verify own e).node.backend.held id = some record) :
    lastOf (s.stored verify own e) id = some record ∨
      (lastOf (s.stored verify own e) id = none ∧ s.node.backend.held id = some record) := by
  rcases held_step_cases with hor | ⟨hnil, hheld⟩
  · rw [hor, Option.or_eq_some_iff] at h
    exact h
  · exact .inr ⟨by rw [hnil]; rfl, hheld id record h⟩

lemma held_step_of_lastOf (h : lastOf (s.stored verify own e) id = some record) :
    (s.step verify own e).node.backend.held id = some record := by
  rcases held_step_cases with hor | ⟨hnil, -⟩
  · rw [hor, h, Option.some_or]
  · rw [hnil] at h
    cases h

lemma permissionThen_step_of_some (h : lastOf (s.stored verify own e) id = some record) :
    (s.step verify own e).permissionThen id = e.env.relayPermission id := by
  simp [step, h]

lemma permissionThen_step_of_none (h : lastOf (s.stored verify own e) id = none) :
    (s.step verify own e).permissionThen id = s.permissionThen id := by
  simp [step, h]

lemma authentic_step_iff_sound (h : s.Authentic verify own) :
    (s.step verify own e).Authentic verify own ↔
      ∀ id, ∀ record ∈ lastOf (s.stored verify own e) id, Sound verify own e record := by
  constructor
  · intro hstep id record hlast
    obtain ⟨hid, hverify, hrelay⟩ := hstep id record (held_step_of_lastOf hlast)
    obtain rfl := hid
    rw [permissionThen_step_of_some hlast] at hrelay
    exact ⟨hverify, hrelay⟩
  · intro hsound id record hheld
    have hid : record.id = id := Backend.id_of_held _ hheld
    refine ⟨hid, ?_⟩
    rcases held_step hheld with hlast | ⟨hnone, hold⟩
    · obtain ⟨hverify, hrelay⟩ := hsound id record hlast
      rw [permissionThen_step_of_some hlast, ← hid]
      exact ⟨hverify, hrelay⟩
    · rw [permissionThen_step_of_none hnone]
      exact (h id record hold).2

lemma sound_of_accepts
    (h : accepts (envOf verify own e) record = true) : Sound verify own e record := by
  obtain ⟨hverify, hgate⟩ := Bool.and_eq_true_iff.mp h
  refine ⟨fun _ => hverify, fun hrelay hdenied => ?_⟩
  simp [hrelay, envOf, Env.checkRelayAllowed, hdenied] at hgate

lemma sound_own_iff (hid : record.id = own) (hrelay : record.isRelay = true) :
    Sound verify own e record ↔ e.env.relayPermission own ≠ some false := by
  simp [Sound, hid, hrelay]

lemma sound_initialRecords_iff {i : Init} (env : Env) (he : e.action = .initializeRelay i) :
    (∀ id, ∀ record ∈ lastOf (initialRecords env own i) id, Sound verify own e record) ↔
      StartsSound verify own e := by
  rw [initialRecords, StartsSound, he]
  dsimp only
  split_ifs with hcounted
  · rw [allRelays]
    by_cases hown : ∃ r ∈ i.relays, r.id = own
    · have hany : (i.relays.any fun r => r.id == own) = true := by simpa using hown
      rw [if_pos hany, List.append_nil, and_iff_left]
      · rfl
      · obtain ⟨r, hr, hid⟩ := hown
        exact fun _ hnone => absurd hid (hnone r hr)
    have hnone : ∀ r ∈ i.relays, r.id ≠ own := fun r hr hid => hown ⟨r, hr, hid⟩
    rw [if_neg (by simpa using hnone)]
    cases hkey : i.signingKey with
    | none => simp [FoundSound]
    | some sign =>
      simp only [Option.map_some, Option.toList_some, lastOf_append_singleton]
      constructor
      · intro h
        refine ⟨fun id record hlast => h id record ?_, fun _ _ => ?_⟩
        · rw [if_neg]
          · exact hlast
          · rintro rfl
            obtain ⟨hmem, hid⟩ := mem_of_lastOf hlast
            obtain ⟨r, hr, rfl⟩ := List.mem_map.mp hmem
            exact hnone r hr hid
        · exact (sound_own_iff rfl rfl).mp (h own _ (if_pos rfl))
      · rintro ⟨hfound, hallowed⟩ id record hlast
        split_ifs at hlast with hid
        · obtain rfl := Option.some.inj hlast
          exact (sound_own_iff rfl rfl).mpr (hallowed rfl hnone)
        · exact hfound id record hlast
  · cases hpeer : i.peers.head? with
    | none => simp [lastOf]
    | some peer =>
      by_cases hload : i.startLoad peer.id
      · dsimp only
        rw [if_pos hload]
        constructor
        · exact fun h _ => (sound_own_iff rfl rfl).mp (h own _ (by simp [lastOf, selfRecord]; rfl))
        · intro h id record hlast
          obtain rfl := List.mem_singleton.mp (mem_of_lastOf hlast).1
          exact (sound_own_iff rfl rfl).mpr (h ⟨peer, rfl, hload⟩)
      · simp [hload, lastOf]

lemma sound_iff_startsSound :
    (∀ id, ∀ record ∈ lastOf (s.stored verify own e) id, Sound verify own e record) ↔
      StartsSound verify own e := by
  obtain ⟨env, action⟩ := e
  cases action with
  | message src msg =>
    refine iff_of_true (fun id record hlast => ?_) trivial
    have hmem := (mem_of_lastOf hlast).1
    exact sound_of_accepts (accepts_of_storedBy (Option.mem_toList.mp hmem))
  | initializeRelay i => exact sound_initialRecords_iff _ rfl
  | bootstrap roots => exact Iff.rfl
  | evict ids => exact iff_of_true (fun id record hlast => nomatch hlast) trivial

lemma authentic_step_iff (h : s.Authentic verify own) :
    (s.step verify own e).Authentic verify own ↔ StartsSound verify own e :=
  (authentic_step_iff_sound h).trans sound_iff_startsSound

end RelayNode

/-! ## Every run -/

/-- **The adverts a relay stores are authentic** in every state of a run from an empty database
exactly if, of the records that its start-ups are given to store, every one but its own is signed
with the key of its id and no relay's is one that the chain forbids at that time. -/
theorem stored_adverts_authentic_iff (verify : AdvertRecord → Bool) (own : Id) (node : Node)
    (advertTtl : Option ℕ) (es : List Occasion) :
    Always (RelayNode.step verify own) (RelayNode.Authentic verify own)
        ⟨{ node with backend := .empty advertTtl (some own) }, fun _ => none⟩ es ↔
      Along (RelayNode.step verify own) (fun _ e => RelayNode.StartsSound verify own e)
        ⟨{ node with backend := .empty advertTtl (some own) }, fun _ => none⟩ es := by
  refine Lib.always_iff_along (fun s e h => RelayNode.authentic_step_iff h) ?_
  intro id record hheld
  cases hheld

def coldStart : Init where
  relays := [.rootWith { id := "ROOT", endpoint := some ⟨"192.0.2.1", 9000⟩, amRelay := some true }
    (some .off) (some 30)]
  counted := []
  peers := []
  signingKey := none
  startLoad := fun _ => false
  date := "2026-01-01T00:00:00Z"

theorem unsigned_root_stored :
    let s := RelayNode.step (fun record => record.sig.isSome) "OWN"
      ⟨⟨{ amRelay := true }, .empty none (some "OWN"), .new, .new, none⟩, fun _ => none⟩
      ⟨{ relayPermission := fun _ => some false }, .initializeRelay coldStart⟩
    ∃ record, s.node.backend.held "ROOT" = some record ∧ record.sig = none ∧
      record.isRelay = true ∧ s.permissionThen "ROOT" = some false :=
  ⟨_, rfl, rfl, rfl, rfl⟩

end Bingle.Ddb
