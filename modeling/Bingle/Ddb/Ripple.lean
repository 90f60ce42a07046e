import Bingle.Ddb.Convergence

/-!
# Whom a ripple reaches

A relay passes what a client has written on to the relays it lists.

`Net` is any number of nodes, whose states change in any way between two messages, and the ripples
that have been sent; each may arrive at any time, more than once or never.
-/

namespace Bingle.Ddb

open List
open Messages Lib

/-! ## One relay -/

section Targets

variable (env : Env) (me originator : Id)

def rippleTarget (record : AdvertRecord) : Option (Id × SocketAddr) :=
  if record.id = me ∨ record.id = originator then none
  else (record.endpoint.bind env.socketAddr).map fun addr => (record.id, addr)

lemma filterMap_zip_endpoints {rels : List AdvertRecord}
    (h : ∀ record ∈ rels, record.endpoint.isSome = true) :
    (((rels.map AdvertRecord.id).zip (rels.filterMap AdvertRecord.endpoint)).filterMap
      fun (id, endpoint) => if id = me ∨ id = originator then none
        else (env.socketAddr endpoint).map fun addr => (id, addr)) =
      rels.filterMap (rippleTarget env me originator) := by
  induction rels with
  | nil => rfl
  | cons record rels ih =>
    obtain ⟨endpoint, hendpoint⟩ := Option.isSome_iff_exists.mp (h record mem_cons_self)
    have ih' := ih fun record hr => h record (mem_cons_of_mem _ hr)
    simp [map_cons, filterMap_cons, hendpoint, zip_cons_cons, ih', rippleTarget, Option.bind_some]

lemma filterMap_lookup_endpoints (b : Backend) (now : ℕ) :
    (((epochRelays b now).map AdvertRecord.id).filterMap fun id =>
      if id = me ∨ id = originator then none
      else (((b.lookup now id).bind AdvertRecord.endpoint).bind env.socketAddr).map
        fun addr => (id, addr)) =
      (epochRelays b now).filterMap (rippleTarget env me originator) := by
  rw [filterMap_map]
  refine filterMap_congr fun record hrecord => ?_
  obtain ⟨hheld, hrelay⟩ := mem_epochRelays.mp hrecord
  simp [Function.comp_apply, lookup_of_isRelay hheld hrelay now, Option.bind_some, rippleTarget]

variable {env me originator}

lemma rippleTargets_eq_filterMap (hme : env.myId = some me) (b : Backend) :
    rippleTargets env b originator =
      (epochRelays b env.now).filterMap (rippleTarget env me originator) := by
  rw [rippleTargets, hme]
  by_cases hall : ((epochRelays b env.now).all fun record => record.endpoint.isSome) = true
  · have hinfo : b.makeEpochInfo env.now = ((epochRelays b env.now).map AdvertRecord.id,
        some ((epochRelays b env.now).filterMap AdvertRecord.endpoint)) := by
      rw [Backend.makeEpochInfo, ← epochRelays, if_pos hall]
    simp only [hinfo]
    exact filterMap_zip_endpoints env me originator (all_eq_true.mp hall)
  · have hinfo : b.makeEpochInfo env.now =
        ((epochRelays b env.now).map AdvertRecord.id, none) := by
      rw [Backend.makeEpochInfo, ← epochRelays, if_neg hall]
    simp only [hinfo]
    exact filterMap_lookup_endpoints env me originator b env.now

end Targets

/-- The message that goes to a live record: to a relay's, other than this node's and the
originator's, at its own endpoint where that is an IPv4 address. -/
def rippledTo (env : Env) (me originator : Id) (m : Message) (record : AdvertRecord) :
    Option Effect :=
  if record.isRelay ∧ record.id ≠ me ∧ record.id ≠ originator then
    (record.endpoint.bind env.socketAddr).map fun addr => .send (.newDirect addr) record.id m
  else none

section Message

variable {env : Env} {me originator : Id} {m : Message}

lemma map_rippleTarget (record : AdvertRecord) (hrelay : record.isRelay = true) :
    ((rippleTarget env me originator record).map fun target =>
      Effect.send (.newDirect target.2) target.1 m) = rippledTo env me originator m record := by
  by_cases h : record.id = me ∨ record.id = originator
  · have h' : ¬ (record.isRelay ∧ record.id ≠ me ∧ record.id ≠ originator) := by tauto
    rw [rippleTarget, if_pos h, rippledTo, if_neg h', Option.map_none]
  · have h' : record.isRelay ∧ record.id ≠ me ∧ record.id ≠ originator := by tauto
    rw [rippleTarget, if_neg h, rippledTo, if_pos h', Option.map_map]
    rfl

lemma rippleMessage_perm (hme : env.myId = some me) (b : Backend) :
    (rippleMessage env m originator b).Perm
      ((b.liveRecords env.now).filterMap (rippledTo env me originator m)) := by
  have hmap : rippleMessage env m originator b =
      (epochRelays b env.now).filterMap (rippledTo env me originator m) := by
    rw [rippleMessage, rippleTargets_eq_filterMap hme, map_filterMap]
    exact filterMap_congr fun record hrecord =>
      map_rippleTarget record (mem_epochRelays.mp hrecord).2
  have hlive : ((b.liveRecords env.now).filter AdvertRecord.isRelay).filterMap
      (rippledTo env me originator m) =
      (b.liveRecords env.now).filterMap (rippledTo env me originator m) := by
    rw [filterMap_filter]
    refine filterMap_congr fun record _ => ?_
    split_ifs with hrelay
    · rfl
    · rw [rippledTo, if_neg fun h => hrelay h.1]
  rw [hmap, ← hlive, epochRelays]
  exact (perm_insertionSort _ _).filterMap _

end Message

lemma fst_of_rippleTarget {env : Env} {me originator : Id} {record : AdvertRecord}
    {target : Id × SocketAddr} (h : rippleTarget env me originator record = some target) :
    target.1 = record.id := by
  rw [rippleTarget] at h
  split_ifs at h
  obtain ⟨addr, -, rfl⟩ := Option.map_eq_some_iff.mp h
  rfl

lemma nodup_rippleTargets (env : Env) (b : Backend) (originator : Id) :
    ((rippleTargets env b originator).map Prod.fst).Nodup := by
  cases hme : env.myId with
  | none => simp [rippleTargets, hme]
  | some me =>
    have hids := nodup_epochRelays b env.now
    rw [List.Nodup, pairwise_map] at hids
    rw [rippleTargets_eq_filterMap hme, List.Nodup, pairwise_map, pairwise_filterMap]
    refine hids.imp fun hne target htarget target' htarget' => ?_
    rwa [fst_of_rippleTarget htarget, fst_of_rippleTarget htarget']

/-! ## All relays -/

def IsWrite : Message → Bool
  | .ddb (.upsertResolve _) | .ddb (.signoff _) => true
  | _ => false

def IsRippled : Message → Prop
  | .ddb (.upsertResolve up) => up.rippled = true
  | .ddb (.signoff m) => m.rippled = true
  | _ => False

def sentBy (r : Id) (effects : List Effect) : List (Packet Id Message) :=
  effects.filterMap (packet r)

lemma sentBy_rippleMessage (r : Id) (env : Env) (m : Message) (originator : Id) (b : Backend) :
    sentBy r (rippleMessage env m originator b) =
      ((rippleTargets env b originator).map Prod.fst).map fun id => ⟨r, id, m⟩ := by
  rw [sentBy, rippleMessage, filterMap_map, map_map, ← filterMap_eq_map]
  rfl

lemma dispatch_of_rippled {msg : Message} (h : IsRippled msg) (r : Id) (env : Env)
    (src : FromStruct) (n : Node) : sentBy r (dispatchMessage env src msg n).2 = [] := by
  cases msg with
  | ddb m =>
    cases m with
    | upsertResolve up =>
      have hrippled : up.rippled = true := h
      simp only [dispatchMessage, onDdbUpsertResolve_eq, hrippled, if_true]
      split <;> rfl
    | signoff m =>
      have hrippled : m.rippled = true := h
      simp only [dispatchMessage, onDdbSignoff_eq, hrippled, if_true]
      split <;> rfl
    | _ => exact h.elim
  | _ => exact h.elim

lemma dispatch_of_isWrite {msg : Message} (h : IsWrite msg = true) (r : Id) (env : Env)
    (src : FromStruct) (n : Node) :
    ∃ (m : Message) (targets : List Id), IsRippled m ∧ targets.Nodup ∧
      sentBy r (dispatchMessage env src msg n).2 = targets.map fun id => ⟨r, id, m⟩ := by
  by_cases hrippled : IsRippled msg
  · exact ⟨msg, [], hrippled, nodup_nil, dispatch_of_rippled hrippled r env src n⟩
  cases msg with
  | ddb m =>
    cases m with
    | upsertResolve up =>
      refine ⟨.ddb (.upsertResolve { up with rippled := true }), ?_⟩
      have hfalse : up.rippled = false := Bool.eq_false_of_not_eq_true hrippled
      simp only [dispatchMessage, onDdbUpsertResolve_eq, hfalse]
      split
      · have hsent := sentBy_rippleMessage r env
          (.ddb (.upsertResolve { up with rippled := true })) up.startId
          (n.backend.upsert env.now up.record)
        have hnodup := nodup_rippleTargets env (n.backend.upsert env.now up.record) up.startId
        refine ⟨_, rfl, hnodup, ?_⟩
        -- the answer to the client is no ripple
        rw [← hsent]
        simp [sentBy, packet]
      · exact ⟨[], rfl, nodup_nil, rfl⟩
    | signoff m =>
      refine ⟨.ddb (.signoff { m with rippled := true }), ?_⟩
      have hfalse : m.rippled = false := Bool.eq_false_of_not_eq_true hrippled
      simp only [dispatchMessage, onDdbSignoff_eq, hfalse]
      split
      · have hsent := sentBy_rippleMessage r env (.ddb (.signoff { m with rippled := true }))
          m.startId (n.backend.delete m.startId)
        exact ⟨_, rfl, nodup_rippleTargets env (n.backend.delete m.startId) m.startId, hsent⟩
      · exact ⟨[], rfl, nodup_nil, rfl⟩
    | _ => cases h
  | _ => cases h

namespace Ripple

def numbered (k : ℕ) (p : Packet Id Message) : Packet Id (ℕ × Message) := ⟨p.src, p.dst, (k, p.msg)⟩

structure Net where
  node : Id → Node
  sent : List (Packet Id (ℕ × Message)) := []
  messages : ℕ := 0

inductive Event
  | client (env : Env) (r : Id) (src : FromStruct) (msg : Message)
  | arrive (env : Env) (src : FromStruct) (p : Packet Id (ℕ × Message))
  | other (r : Id) (n : Node)

def Net.handle (w : Net) (k : ℕ) (env : Env) (r : Id) (src : FromStruct) (msg : Message) : Net :=
  let handled := dispatchMessage env src msg (w.node r)
  { w with
    node := Function.update w.node r handled.1
    sent := w.sent ++ (sentBy r handled.2).map (numbered k) }

def step (w : Net) : Event → Net
  | .client env r src msg =>
    if IsWrite msg then { w.handle w.messages env r src msg with messages := w.messages + 1 }
    else w
  | .arrive env src p => if p ∈ w.sent then w.handle p.msg.1 env p.dst src p.msg.2 else w
  | .other r n => { w with node := Function.update w.node r n }

def Net.ripples (w : Net) (k : ℕ) (id : Id) : List (Packet Id (ℕ × Message)) :=
  w.sent.filter fun p => p.msg.1 = k ∧ p.dst = id

structure Once (w : Net) : Prop where
  rippled : ∀ p ∈ w.sent, IsRippled p.msg.2
  numbered : ∀ p ∈ w.sent, p.msg.1 < w.messages
  once : ∀ k id, (w.ripples k id).length ≤ 1

variable {w : Net} {msg : Message}

lemma handle_of_rippled (h : IsRippled msg) (k : ℕ) (env : Env) (r : Id) (src : FromStruct) :
    w.handle k env r src msg =
      { w with node := Function.update w.node r (dispatchMessage env src msg (w.node r)).1 } := by
  simp [Net.handle, dispatch_of_rippled h]

lemma length_filter_ripples {targets : List Id} (h : targets.Nodup) (r : Id) (k : ℕ) (m : Message)
    (id : Id) :
    ((targets.map fun id => numbered k ⟨r, id, m⟩).filter
      fun p => p.msg.1 = k ∧ p.dst = id).length ≤ 1 := by
  rw [filter_map, length_map]
  calc (targets.filter _).length = targets.count id := by
        rw [count_eq_length_filter]
        congr 1
        refine filter_congr fun id' _ => ?_
        simp [numbered, Bool.beq_eq_decide_eq]
    _ ≤ 1 := nodup_iff_count_le_one.mp h id

lemma Once.client (h : Once w) (hw : IsWrite msg = true) (env : Env) (r : Id) (src : FromStruct) :
    Once { w.handle w.messages env r src msg with messages := w.messages + 1 } := by
  obtain ⟨m, targets, hm, hnodup, hsent⟩ := dispatch_of_isWrite hw r env src (w.node r)
  have hadd : (w.handle w.messages env r src msg).sent =
      w.sent ++ targets.map fun id => Ripple.numbered w.messages ⟨r, id, m⟩ := by
    simp [Net.handle, hsent]
  refine ⟨fun p hp => ?_, fun p hp => ?_, fun k id => ?_⟩
  · simp only [hadd, mem_append, mem_map] at hp
    rcases hp with hp | ⟨id, -, rfl⟩
    · exact h.rippled p hp
    · exact hm
  · simp only [hadd, mem_append, mem_map] at hp
    rcases hp with hp | ⟨id, -, rfl⟩
    · exact Nat.lt_succ_of_lt (h.numbered p hp)
    · exact Nat.lt_succ_self _
  · simp only [Net.ripples, hadd, filter_append, length_append]
    by_cases hk : k = w.messages
    · -- the number is new, so the ripples of it are those just sent
      subst hk
      have hold : w.sent.filter (fun p => p.msg.1 = w.messages ∧ p.dst = id) = [] :=
        filter_eq_nil_iff.mpr fun p hp => by
          simpa using fun hk => absurd hk (h.numbered p hp).ne
      rw [hold, length_nil, zero_add]
      exact length_filter_ripples hnodup r w.messages m id
    · have hnew : (targets.map fun id => Ripple.numbered w.messages ⟨r, id, m⟩).filter
          (fun p => p.msg.1 = k ∧ p.dst = id) = [] := by
        refine filter_eq_nil_iff.mpr fun p hp => ?_
        obtain ⟨id', -, rfl⟩ := mem_map.mp hp
        simp [Ripple.numbered, Ne.symm hk]
      rw [hnew, length_nil, add_zero]
      exact h.once k id

lemma Once.step (h : Once w) (e : Event) : Once (step w e) := by
  cases e with
  | client env r src msg =>
    rw [Ripple.step]
    split_ifs with hw
    · exact h.client hw env r src
    · exact h
  | arrive env src p =>
    rw [Ripple.step]
    split_ifs with hp
    · rw [handle_of_rippled (h.rippled p hp)]
      exact ⟨h.rippled, h.numbered, h.once⟩
    · exact h
  | other r n => exact ⟨h.rippled, h.numbered, h.once⟩

end Ripple

/-- **Fan-out.**  A ripple of a node that has an id is one message to each live relay record with an
IPv4 endpoint, the node itself and the originator left out; and over any run of any number of relays
one message of a client causes at most one ripple to each. -/
theorem ripple_fan_out {env : Env} {me : Id} (hme : env.myId = some me) (originator : Id)
    (m : Message) (b : Backend) :
    ((b.liveRecords env.now).map AdvertRecord.id).Nodup ∧
    (rippleMessage env m originator b).Perm
      ((b.liveRecords env.now).filterMap (rippledTo env me originator m)) ∧
    ∀ (node : Id → Node) (es : List Ripple.Event) (k : ℕ) (id : Id),
      ((Lib.run Ripple.step ⟨node, [], 0⟩ es).ripples k id).length ≤ 1 := by
  refine ⟨b.nodup_liveRecords env.now, rippleMessage_perm hme b, fun node es k id => ?_⟩
  have hstart : Ripple.Once ⟨node, [], 0⟩ :=
    ⟨by simp, by simp, fun k id => by simp [Ripple.Net.ripples]⟩
  exact (run_invariant (P := fun _ _ => True) (fun w e h _ => h.step e) hstart
    (along_of_forall_mem (fun _ _ => trivial) _)).once k id

def oneWithoutEndpoint : Backend :=
  ((Backend.empty none (some "me")).upsert 0
    { id := "r", endpoint := some ⟨"1.2.3.4", 7⟩, amRelay := some true }).upsert 0
    { id := "s", endpoint := none, amRelay := some true }

theorem ripple_of_oneWithoutEndpoint :
    rippleMessage { myId := some "me" } (.ddb (.signoff ⟨"c", true, none⟩)) "c" oneWithoutEndpoint =
        [.send (.newDirect "1.2.3.4") "r" (.ddb (.signoff ⟨"c", true, none⟩))] ∧
      (rippleMessage { myId := some "me" } (.ddb (.signoff ⟨"c", true, none⟩)) "c"
        oneWithoutEndpoint).Perm
        ((oneWithoutEndpoint.liveRecords 0).filterMap (rippledTo { myId := some "me" } "me" "c"
          (.ddb (.signoff ⟨"c", true, none⟩)))) := by
  have hme : ({ myId := some "me" } : Env).myId = some "me" := rfl
  exact ⟨by decide,
    (ripple_fan_out hme "c" (.ddb (.signoff ⟨"c", true, none⟩)) oneWithoutEndpoint).2.1⟩

end Bingle.Ddb
