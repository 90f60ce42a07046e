import Bingle.Lib.Run
import Bingle.Lib.Replicas
import Bingle.Messages.Handlers

/-!
# Copies of one client's record

A relay that accepts an upsert or a sign-off of a client makes the write and ripples it to the
relays it lists, which make it when the ripple arrives: neither the date of a record nor the order
of the writes is compared.
-/

namespace Bingle.Ddb

open List Option
open Messages Lib

/-! ## What one message writes -/

section Written

variable (env : Env) (src : FromStruct) (n : Node)

def valueOf : Message → Option AdvertRecord
  | .ddb (.upsertResolve up) => some up.record
  | _ => none

def written : Message → Option (Option AdvertRecord)
  | .ddb (.upsertResolve up) =>
    if UpsertAccepts env src n up then some (some up.record) else none
  | .ddb (.signoff m) => if SignoffAccepts env src n m then some none else none
  | _ => none

end Written

/-! ## Relays that list each other -/

structure Lists (base : Env) (relays : Finset Id) (b : Backend) : Prop where
  listed : ∀ r ∈ relays, ∃ record ep, b.held r = some record ∧ record.isRelay = true ∧
    record.endpoint = some ep ∧ (base.socketAddr ep).isSome = true
  only : ∀ id record, b.held id = some record → record.isRelay = true → id ∈ relays

def applyWrite (c : Id) (now : ℕ) (b : Backend) : Option AdvertRecord → Backend
  | some record => b.upsert now record
  | none => b.delete c

variable {c id : Id} {now : ℕ} {b : Backend} {v : Option AdvertRecord} {base : Env}
  {relays : Finset Id} {record : AdvertRecord}

lemma held_applyWrite_self
    (hv : ∀ record ∈ v, record.id = c) : (applyWrite c now b v).held c = v := by
  cases v with
  | none => exact b.held_delete_self c
  | some record =>
    obtain rfl := hv record rfl
    exact b.held_upsert_self now record

lemma held_applyWrite_of_ne (hv : ∀ record ∈ v, record.id = c) (hid : id ≠ c) :
    (applyWrite c now b v).held id = b.held id := by
  cases v with
  | none => exact b.held_delete_of_ne hid
  | some record =>
    obtain rfl := hv record rfl
    exact b.held_upsert_of_ne now hid

lemma Lists.applyWrite (h : Lists base relays b) (hc : c ∉ relays) (now : ℕ)
    (hv : ∀ record ∈ v, record.id = c ∧ record.isRelay = false) :
    Lists base relays (applyWrite c now b v) := by
  have hid : ∀ record ∈ v, record.id = c := fun record hr => (hv record hr).1
  refine ⟨fun r hr => ?_, fun id record hheld hrelay => ?_⟩
  · rw [held_applyWrite_of_ne hid (ne_of_mem_of_not_mem hr hc)]
    exact h.listed r hr
  · by_cases hidc : id = c
    · subst hidc
      rw [held_applyWrite_self hid] at hheld
      rw [(hv record hheld).2] at hrelay
      exact absurd hrelay (by decide)
    · rw [held_applyWrite_of_ne hid hidc] at hheld
      exact h.only id record hheld hrelay

lemma lookup_of_isRelay (h : b.held id = some record) (hr : record.isRelay = true) (now : ℕ) :
    b.lookup now id = some record := by
  obtain ⟨s, hs, rfl⟩ := map_eq_some_iff.mp h
  simp [Backend.lookup, hs, b.isExpired_of_isRelay now hr]

lemma held_of_lookup (h : b.lookup now id = some record) : b.held id = some record := by
  obtain ⟨s, hs, rfl⟩ := map_eq_some_iff.mp h
  rw [Backend.held, (filter_eq_some_iff.mp hs).1, map_some]

def epochRelays (b : Backend) (now : ℕ) : List AdvertRecord :=
  ((b.liveRecords now).filter AdvertRecord.isRelay).insertionSort fun r r' => r.id ≤ r'.id

lemma mem_epochRelays :
    record ∈ epochRelays b now ↔ b.held record.id = some record ∧ record.isRelay = true := by
  rw [epochRelays, mem_insertionSort, mem_filter, Backend.mem_liveRecords_iff]
  exact ⟨fun ⟨h, hr⟩ => ⟨held_of_lookup h, hr⟩, fun ⟨h, hr⟩ => ⟨lookup_of_isRelay h hr now, hr⟩⟩

lemma nodup_epochRelays (b : Backend) (now : ℕ) :
    ((epochRelays b now).map AdvertRecord.id).Nodup := by
  have hperm := ((perm_insertionSort (fun r r' : AdvertRecord => r.id ≤ r'.id)
    ((b.liveRecords now).filter AdvertRecord.isRelay)).map AdvertRecord.id)
  exact hperm.nodup_iff.mpr ((filter_sublist.map _).nodup (b.nodup_liveRecords now))

lemma map_fst_rippleTargets (base : Env) (r c : Id) (rels : List AdvertRecord)
    (h : ∀ record ∈ rels, ∃ ep, record.endpoint = some ep ∧ (base.socketAddr ep).isSome = true) :
    (((rels.map AdvertRecord.id).zip (rels.filterMap AdvertRecord.endpoint)).filterMap
      fun (id, endpoint) => if id = r ∨ id = c then none
        else (base.socketAddr endpoint).map fun addr => (id, addr)).map Prod.fst =
      (rels.map AdvertRecord.id).filter fun id => ¬ (id = r ∨ id = c) := by
  induction rels with
  | nil => rfl
  | cons record rels ih =>
    obtain ⟨ep, hep, haddr⟩ := h record mem_cons_self
    obtain ⟨addr, haddr⟩ := isSome_iff_exists.mp haddr
    have ih' := ih fun record hr => h record (mem_cons_of_mem _ hr)
    by_cases hid : record.id = r ∨ record.id = c
    · rw [map_cons, filter_cons_of_neg (by simp [hid]), ← ih']
      simp [hep, hid]
    · rw [map_cons, filter_cons_of_pos (by simpa using hid), ← ih']
      simp [hep, hid, haddr]

lemma rippleTargets_eq (h : Lists base relays b) (hc : c ∉ relays) (r : Id) (now : ℕ) :
    (((rippleTargets (envAt base r now) b c).map Prod.fst : List Id) : Multiset Id) =
      (relays.erase r).val := by
  have hrels : ∀ record ∈ epochRelays b now,
      ∃ ep, record.endpoint = some ep ∧ (base.socketAddr ep).isSome = true := by
    intro record hr
    obtain ⟨hheld, hrelay⟩ := mem_epochRelays.mp hr
    obtain ⟨record', ep, hheld', -, hep, haddr⟩ := h.listed _ (h.only _ _ hheld hrelay)
    rw [hheld, some.injEq] at hheld'
    exact ⟨ep, hheld' ▸ hep, haddr⟩
  have hall : ((epochRelays b now).all fun record => record.endpoint.isSome) = true := by
    rw [List.all_eq_true]
    intro record hr
    obtain ⟨ep, hep, -⟩ := hrels record hr
    simp [hep]
  have htargets : (rippleTargets (envAt base r now) b c).map Prod.fst =
      ((epochRelays b now).map AdvertRecord.id).filter fun id => ¬ (id = r ∨ id = c) := by
    have hinfo : b.makeEpochInfo now = ((epochRelays b now).map AdvertRecord.id,
        some ((epochRelays b now).filterMap AdvertRecord.endpoint)) := by
      rw [Backend.makeEpochInfo, ← epochRelays, if_pos hall]
    rw [← map_fst_rippleTargets base r c _ hrels, rippleTargets, envAt]
    simp only [hinfo]
  rw [htargets]
  refine (Multiset.Nodup.ext ?_ (relays.erase r).nodup).mpr fun id => ?_
  · exact Multiset.coe_nodup.mpr ((nodup_epochRelays b now).filter _)
  · simp only [Multiset.mem_coe, mem_filter, List.mem_map, decide_eq_true_eq, not_or,
      Finset.mem_val, Finset.mem_erase]
    constructor
    · rintro ⟨⟨record, hr, rfl⟩, hne, -⟩
      obtain ⟨hheld, hrelay⟩ := mem_epochRelays.mp hr
      exact ⟨hne, h.only _ _ hheld hrelay⟩
    · rintro ⟨hne, hid⟩
      obtain ⟨record, ep, hheld, hrelay, -, -⟩ := h.listed id hid
      obtain rfl := b.id_of_held hheld
      exact ⟨⟨record, mem_epochRelays.mpr ⟨hheld, hrelay⟩, rfl⟩, hne,
        ne_of_mem_of_not_mem hid hc⟩

/-! ## The relays of a network -/

abbrev Net := World Id Node Message

inductive Event
  | client (r : Id) (now : ℕ) (src : FromStruct) (msg : Message)
  | deliver (p : Packet Id Message) (now : ℕ) (src : FromStruct)

def clientWrite (c : Id) (src : FromStruct) : Message → Bool
  | .ddb (.upsertResolve up) => src.senderId = c && !up.rippled && !up.record.isRelay
  | .ddb (.signoff m) => src.senderId = c && !m.rippled
  | _ => false

def packet (r : Id) : Effect → Option (Packet Id Message)
  | .send _ id m => some ⟨r, id, m⟩
  | _ => none

def packets (r : Id) (effects : List Effect) : Multiset (Packet Id Message) :=
  ↑(effects.filterMap (packet r))

def handle (base : Env) (r : Id) (now : ℕ) (src : FromStruct) (msg : Message) (n : Node) :
    Node × Multiset (Packet Id Message) :=
  let handled := dispatchMessage (envAt base r now) src msg n
  (handled.1, packets r handled.2)

section Network

variable (base : Env) (relays : Finset Id) (c : Id)

def step (w : Net) : Event → Net
  | .client r now src msg =>
    if r ∈ relays ∧ clientWrite c src msg then w.act r (handle base r now src msg (w.node r)) else w
  | .deliver p now src =>
    if p ∈ w.net then (w.take p).act p.dst (handle base p.dst now src p.msg (w.node p.dst)) else w

def asWrite (p : Packet Id Message) : Packet Id (Option AdvertRecord) :=
  ⟨p.src, p.dst, valueOf p.msg⟩

def cast (w : Net) : Event → Cast Id (Option AdvertRecord)
  | .client r now src msg =>
    if r ∈ relays ∧ clientWrite c src msg then
      match written (envAt base r now) src (w.node r) msg with
      | some v => .write r v
      | none => .skip
    else .skip
  | .deliver p _ _ => if p ∈ w.net then .deliver (asWrite p) else .skip

def history : Net → Replicas Id (Option AdvertRecord) → List Event →
    Replicas Id (Option AdvertRecord)
  | _, a, [] => a
  | w, a, e :: es => history (step base relays c w e) (a.step relays (cast base relays c w e)) es

/-- The writes that relay `r` makes for the client in the run, in order. -/
def writes (w : Net) (es : List Event) (r : Id) : List (Option AdvertRecord) :=
  (history base relays c w .start es).node r

/-- The writes of the client that the relays accept along a run. -/
def accepted : Net → List Event → Multiset (Option AdvertRecord)
  | _, [] => 0
  | w, e :: es =>
    Replicas.written relays (cast base relays c w e) + accepted (step base relays c w e) es

/-- The relays know each other, hold the same for the client, and nothing is under way. -/
structure Agreed (init : Option AdvertRecord) (w : Net) : Prop where
  client : c ∉ relays
  relay : ∀ r ∈ relays, (w.node r).router.amRelay = true
  lists : ∀ r ∈ relays, Lists base relays (w.node r).backend
  held : ∀ r ∈ relays, (w.node r).backend.held c = init
  quiet : w.net = 0

def IsRipple : Message → Prop
  | .ddb (.upsertResolve up) => up.rippled = true ∧ up.record.id = c ∧ up.startId = c ∧
      up.tag.isSome = true ∧ base.verify up.record = true ∧ up.record.isRelay = false
  | .ddb (.signoff m) => m.rippled = true ∧ m.startId = c
  | _ => False

/-- **The refinement**: the relays of the network are replicas, and what a relay holds for the
client is the last write of its history. -/
structure Simulates (init : Option AdvertRecord) (w : Net)
    (a : Replicas Id (Option AdvertRecord)) : Prop where
  relay : ∀ r ∈ relays, (w.node r).router.amRelay = true
  lists : ∀ r ∈ relays, Lists base relays (w.node r).backend
  shown : ∀ r ∈ relays, (w.node r).backend.held c = (a.node r).getLast?.getD init
  ripples : ∀ p ∈ w.net, p.dst ∈ relays ∧ IsRipple base c p.msg
  net : w.net.map asWrite = a.net

end Network

section Steps

variable {base : Env} {relays : Finset Id} {c : Id}

variable {msg : Message} {n : Node} {w : Net} {a : Replicas Id (Option AdvertRecord)}

lemma IsRipple.value (h : IsRipple base c msg) :
    ∀ record ∈ valueOf msg, record.id = c ∧ record.isRelay = false := by
  intro record hr
  cases msg with
  | ddb m =>
    cases m with
    | upsertResolve up =>
      obtain rfl : up.record = record := by simpa [valueOf] using hr
      exact ⟨h.2.1, h.2.2.2.2.2⟩
    | _ => simp [valueOf] at hr
  | _ => simp [valueOf] at hr

lemma handle_of_isRipple (h : IsRipple base c msg)
    (hrelay : n.router.amRelay = true) (r : Id) (now : ℕ) (src : FromStruct) :
    handle base r now src msg n =
      ({ n with backend := applyWrite c now n.backend (valueOf msg) }, 0) := by
  cases msg with
  | ddb m =>
    cases m with
    | upsertResolve up =>
      obtain ⟨hrippled, hid, hstart, htag, hv, hclient⟩ := h
      have haccepts : UpsertAccepts (envAt base r now) src n up :=
        ⟨hrelay, hid.trans hstart.symm, Or.inl hrippled, htag, hv, by simp [hclient]⟩
      simp only [handle, dispatchMessage, onDdbUpsertResolve_eq, if_pos haccepts, hrippled, if_true]
      rfl
    | signoff m =>
      obtain ⟨hrippled, hstart⟩ := h
      have haccepts : SignoffAccepts (envAt base r now) src n m := ⟨hrelay, Or.inl hrippled⟩
      simp only [handle, dispatchMessage, onDdbSignoff_eq, if_pos haccepts, hrippled, if_true,
        hstart]
      rfl
    | _ => exact h.elim
  | _ => exact h.elim

lemma packets_rippleMessage {b : Backend} (h : Lists base relays b) (hc : c ∉ relays) (r : Id)
    (now : ℕ) (m : Message) :
    packets r (rippleMessage (envAt base r now) m c b) = broadcast r (relays.erase r) m := by
  have hmap : (rippleMessage (envAt base r now) m c b).filterMap (packet r) =
      ((rippleTargets (envAt base r now) b c).map Prod.fst).map fun id => ⟨r, id, m⟩ := by
    rw [rippleMessage, filterMap_map, List.map_map, ← filterMap_eq_map]
    rfl
  rw [packets, hmap, ← Multiset.map_coe, rippleTargets_eq h hc, broadcast]

lemma packets_append (r : Id) (es fs : List Effect) :
    packets r (es ++ fs) = packets r es + packets r fs := by
  rw [packets, filterMap_append, ← Multiset.coe_add]
  rfl

/-- **A write of the client** is refused, or made and rippled to every other relay. -/
lemma handle_of_clientWrite (hl : Lists base relays n.backend) (hc : c ∉ relays)
    {src : FromStruct} (hw : clientWrite c src msg = true) (r : Id) (now : ℕ) :
    (written (envAt base r now) src n msg = none ∧ handle base r now src msg n = (n, 0)) ∨
      ∃ m, IsRipple base c m ∧ written (envAt base r now) src n msg = some (valueOf m) ∧
        handle base r now src msg n =
          ({ n with backend := applyWrite c now n.backend (valueOf m) },
            broadcast r (relays.erase r) m) := by
  cases msg with
  | ddb m =>
    cases m with
    | upsertResolve up =>
      simp only [clientWrite, Bool.and_eq_true, decide_eq_true_eq, Bool.not_eq_true'] at hw
      obtain ⟨⟨hsrc, hrippled⟩, hclient⟩ := hw
      by_cases h : UpsertAccepts (envAt base r now) src n up
      · -- the ripple is the message itself, marked as one
        obtain ⟨-, hstart, hown, htag, hv, -⟩ := id h
        obtain rfl : up.startId = c :=
          hstart.symm.trans ((hown.resolve_left (by simp [hrippled])).trans hsrc)
        have hripple : IsRipple base up.startId
            (.ddb (.upsertResolve { up with rippled := true })) :=
          ⟨rfl, hstart, rfl, htag, hv, hclient⟩
        refine Or.inr ⟨_, hripple, by simp [written, h, valueOf], ?_⟩
        have hsent := packets_rippleMessage (hl.applyWrite hc now hripple.value) hc r now
          (.ddb (.upsertResolve { up with rippled := true }))
        simp only [handle, dispatchMessage, onDdbUpsertResolve_eq, if_pos h, hrippled,
          Bool.false_eq_true, if_false, packets_append]
        exact Prod.ext rfl ((congrArg (· + _) hsent).trans (add_zero _))
      · exact Or.inl ⟨by simp [written, h], by
          simp [handle, dispatchMessage, onDdbUpsertResolve_eq, if_neg h, packets]⟩
    | signoff m =>
      simp only [clientWrite, Bool.and_eq_true, decide_eq_true_eq, Bool.not_eq_true'] at hw
      obtain ⟨hsrc, hrippled⟩ := hw
      by_cases h : SignoffAccepts (envAt base r now) src n m
      · obtain rfl : m.startId = c :=
          (h.2.resolve_left (by simp [hrippled])).1.trans hsrc
        have hripple : IsRipple base m.startId (.ddb (.signoff { m with rippled := true })) :=
          ⟨rfl, rfl⟩
        refine Or.inr ⟨_, hripple, by simp [written, h, valueOf], ?_⟩
        have hsent := packets_rippleMessage (hl.applyWrite hc now hripple.value) hc r now
          (.ddb (.signoff { m with rippled := true }))
        simp only [handle, dispatchMessage, onDdbSignoff_eq, if_pos h, hrippled,
          Bool.false_eq_true, if_false]
        exact Prod.ext rfl hsent
      · exact Or.inl ⟨by simp [written, h], by
          simp [handle, dispatchMessage, onDdbSignoff_eq, if_neg h, packets]⟩
    | _ => simp [clientWrite] at hw
  | _ => simp [clientWrite] at hw

variable {init : Option AdvertRecord}

lemma Simulates.applyWrite
    (h : Simulates base relays c init w a) (hc : c ∉ relays) (r : Id) (now : ℕ) {m : Message}
    (hm : IsRipple base c m) {sent : Multiset (Packet Id Message)}
    {asSent : Multiset (Packet Id (Option AdvertRecord))}
    (hsent : ∀ p ∈ sent, p.dst ∈ relays ∧ IsRipple base c p.msg)
    (hnet : sent.map asWrite = asSent) :
    Simulates base relays c init
      (w.act r ({ w.node r with backend := applyWrite c now (w.node r).backend (valueOf m) }, sent))
      (a.act r (a.node r ++ [valueOf m], asSent)) := by
  refine ⟨fun i hi => ?_, fun i hi => ?_, fun i hi => ?_,
    World.forall_net_act h.ripples hsent, ?_⟩
  · by_cases hir : i = r
    · subst hir
      rw [World.act_node_self]
      exact h.relay i hi
    · rw [World.act_node_of_ne w _ hir]
      exact h.relay i hi
  · by_cases hir : i = r
    · subst hir
      rw [World.act_node_self]
      exact (h.lists i hi).applyWrite hc now hm.value
    · rw [World.act_node_of_ne w _ hir]
      exact h.lists i hi
  · by_cases hir : i = r
    · subst hir
      rw [World.act_node_self, World.act_node_self, List.getLast?_concat, getD_some]
      exact held_applyWrite_self fun record hr => (hm.value record hr).1
    · rw [World.act_node_of_ne w _ hir, World.act_node_of_ne a _ hir]
      exact h.shown i hi
  · rw [World.act_net, World.act_net, Multiset.map_add, h.net, hnet]

lemma Simulates.take
    (h : Simulates base relays c init w a) {p : Packet Id Message} (hp : p ∈ w.net) :
    Simulates base relays c init (w.take p) (a.take (asWrite p)) where
  relay := h.relay
  lists := h.lists
  shown := h.shown
  ripples := World.forall_net_take h.ripples p
  net := by rw [World.take_net, World.take_net, Multiset.map_erase_of_mem _ _ hp, h.net]

/-- **One step of the network is one step of the replicas.** -/
theorem Simulates.step (h : Simulates base relays c init w a) (hc : c ∉ relays) (e : Event) :
    Simulates base relays c init (step base relays c w e)
      (a.step relays (cast base relays c w e)) := by
  cases e with
  | client r now src msg =>
    simp only [Ddb.step, cast]
    split_ifs with hr
    · obtain ⟨hmem, hw⟩ := hr
      rcases handle_of_clientWrite (h.lists r hmem) hc hw r now with
        ⟨hwritten, hhandle⟩ | ⟨m, hm, hwritten, hhandle⟩
      · rw [hhandle, hwritten, World.act_same]
        exact h
      · rw [hhandle, hwritten]
        simp only [Replicas.step, if_pos hmem]
        refine h.applyWrite hc r now hm (fun p hp => ?_) ?_
        · obtain ⟨-, hdst, hmsg⟩ := mem_broadcast.mp hp
          exact ⟨Finset.mem_of_mem_erase hdst, hmsg ▸ hm⟩
        · rw [broadcast, Multiset.map_map, broadcast]
          rfl
    · exact h
  | deliver p now src =>
    simp only [Ddb.step, cast]
    split_ifs with hp
    · have hmem : asWrite p ∈ a.net := h.net ▸ Multiset.mem_map_of_mem asWrite hp
      rw [handle_of_isRipple (h.ripples p hp).2 (h.relay p.dst (h.ripples p hp).1)]
      simp only [Replicas.step, if_pos hmem]
      exact (h.take hp).applyWrite hc p.dst now (h.ripples p hp).2 (by simp) rfl
    · exact h

/-- **Runs.**  The histories along a run belong to the state it ends in. -/
theorem Simulates.history
    (h : Simulates base relays c init w a) (hc : c ∉ relays) (es : List Event) :
    Simulates base relays c init (run (Ddb.step base relays c) w es)
      (history base relays c w a es) := by
  induction es generalizing w a with
  | nil => exact h
  | cons e es ih => exact ih (h.step hc e)

lemma balanced_history (h : Replicas.Balanced relays a) (es : List Event) :
    Replicas.Balanced relays (history base relays c w a es) := by
  induction es generalizing w a with
  | nil => exact h
  | cons e es ih => exact ih (h.step _)

lemma made_history (w : Net) (a : Replicas Id (Option AdvertRecord)) (es : List Event) {r : Id}
    (hr : r ∈ relays) : ((history base relays c w a es).node r : Multiset (Option AdvertRecord)) +
        Replicas.pending (history base relays c w a es).net r =
      (a.node r : Multiset (Option AdvertRecord)) + Replicas.pending a.net r +
        accepted base relays c w es := by
  induction es generalizing w a with
  | nil => exact (add_zero _).symm
  | cons e es ih =>
    simp only [history, accepted]
    rw [ih, Replicas.made_step a _ hr, add_assoc]

lemma Agreed.simulates {init : Option AdvertRecord} (h : Agreed base relays c init w) :
    Simulates base relays c init w .start where
  relay := h.relay
  lists := h.lists
  shown := h.held
  ripples := by simp [h.quiet]
  net := by rw [h.quiet]; rfl

end Steps

/-! ## Agreement -/

/-- **Convergence.**  Relays list each other and hold the same for a client that is not one of them.
Its upserts and sign-offs arrive at any of them, and ripples in any order.  Once nothing is in
flight, they hold the same again *exactly when* the last write for the client is the same at all. -/
theorem converged_iff_same_last_write {base : Env} {relays : Finset Id} {c : Id}
    {init : Option AdvertRecord} {w : Net} (h : Agreed base relays c init w) (es : List Event)
    (hquiet : (run (step base relays c) w es).net = 0) :
    (∀ r ∈ relays, ∀ r' ∈ relays,
        ((run (step base relays c) w es).node r).backend.held c =
          ((run (step base relays c) w es).node r').backend.held c) ↔
      ∀ r ∈ relays, ∀ r' ∈ relays, (writes base relays c w es r).getLast? =
        (writes base relays c w es r').getLast? := by
  have hsim := h.simulates.history h.client es
  have hbalanced : Replicas.Balanced relays (history base relays c w .start es) :=
    balanced_history (Replicas.balanced_start relays) es
  have hnet : (history base relays c w .start es).net = 0 := by
    rw [← hsim.net, hquiet, Multiset.map_zero]
  have hpair : ∀ r ∈ relays, ∀ r' ∈ relays,
      (((run (step base relays c) w es).node r).backend.held c =
          ((run (step base relays c) w es).node r').backend.held c ↔
        (writes base relays c w es r).getLast? = (writes base relays c w es r').getLast?) := by
    intro r hr r' hr'
    rw [hsim.shown r hr, hsim.shown r' hr']
    exact hbalanced.last_eq_iff hnet hr hr' init
  exact forall₂_congr fun r hr => forall₂_congr fun r' hr' => hpair r hr r' hr'

/-- **No write is lost, and none is made twice.**  At every moment of every run, what a relay has
written and what is in flight to it are together the writes of the client that some relay has
accepted, each as often as it was; and the relay holds the last that it has written. -/
theorem writes_made_once {base : Env} {relays : Finset Id} {c : Id} {init : Option AdvertRecord}
    {w : Net} (h : Agreed base relays c init w) (es : List Event) {r : Id} (hr : r ∈ relays) :
    (writes base relays c w es r : Multiset (Option AdvertRecord)) +
        Replicas.pending ((run (step base relays c) w es).net.map asWrite) r =
      accepted base relays c w es ∧
    ((run (step base relays c) w es).node r).backend.held c =
      (writes base relays c w es r).getLast?.getD init := by
  have hsim := h.simulates.history h.client es
  have hmade := @made_history base relays c w .start es r hr
  refine ⟨?_, hsim.shown r hr⟩
  rw [hsim.net]
  exact hmade.trans (by simp [Replicas.start])

/-! ## Two relays -/

def relayRecord (id : Id) : AdvertRecord :=
  { id := id, endpoint := some ⟨id, 5000⟩, amRelay := some true }

def twoListed : Backend :=
  ((Backend.empty none none).upsert 0 (relayRecord "R1")).upsert 0 (relayRecord "R2")

lemma twoListed_lists : Lists {} {"R1", "R2"} twoListed := by
  refine ⟨fun r hr => ⟨relayRecord r, ⟨r, 5000⟩, ?_, rfl, rfl, rfl⟩, fun id record hheld _ => ?_⟩
  · rcases Finset.mem_insert.mp hr with rfl | hr
    · decide
    · rw [Finset.mem_singleton.mp hr]
      decide
  · by_contra hid
    simp only [Finset.mem_insert, Finset.mem_singleton, not_or] at hid
    rw [twoListed, Backend.held_upsert_of_ne _ _ hid.2, Backend.held_upsert_of_ne _ _ hid.1] at hheld
    simp [Backend.held, Backend.empty] at hheld

def twoRelays : Net where
  node := fun _ =>
    { router := { amRelay := true }
      backend := twoListed
      turnRelay := .new
      turnClient := .new }
  net := 0

lemma twoRelays_agreed : Agreed {} {"R1", "R2"} "ALICE" none twoRelays where
  client := by decide
  relay := fun _ _ => rfl
  lists := fun _ _ => twoListed_lists
  held := fun _ _ => (by decide : twoListed.held "ALICE" = none)
  quiet := rfl

def alice : FromStruct := ⟨"ALICE.", .newDirect "198.51.100.7:4000"⟩

def aliceUpsert : DdbUpsertResolve :=
  { startId := "ALICE", record := { id := "ALICE" }, tag := some "1" }

def aliceSignoff : DdbSignoff := { startId := "ALICE" }

def registerThenSignoff : List Event :=
  [.client "R1" 0 alice (.ddb (.upsertResolve aliceUpsert)),
    .client "R1" 1 alice (.ddb (.signoff aliceSignoff))]

def upsertRipple : Event :=
  .deliver ⟨"R1", "R2", .ddb (.upsertResolve { aliceUpsert with rippled := true })⟩ 2
    ⟨"R1.", .newDirect "R1"⟩

def signoffRipple : Event :=
  .deliver ⟨"R1", "R2", .ddb (.signoff { aliceSignoff with rippled := true })⟩ 2
    ⟨"R1.", .newDirect "R1"⟩

theorem alice_gone_everywhere :
    ((run (step {} {"R1", "R2"} "ALICE") twoRelays
        (registerThenSignoff ++ [upsertRipple, signoffRipple])).node "R1").backend.held "ALICE" =
      none ∧
    ((run (step {} {"R1", "R2"} "ALICE") twoRelays
        (registerThenSignoff ++ [upsertRipple, signoffRipple])).node "R1").backend.held "ALICE" =
      ((run (step {} {"R1", "R2"} "ALICE") twoRelays
        (registerThenSignoff ++ [upsertRipple, signoffRipple])).node "R2").backend.held "ALICE" := by
  refine ⟨by decide +kernel, ?_⟩
  have hagree := (converged_iff_same_last_write twoRelays_agreed
    (registerThenSignoff ++ [upsertRipple, signoffRipple]) (by decide +kernel)).mpr
    (by decide +kernel)
  exact hagree "R1" (by decide) "R2" (by decide)

theorem signoff_written_or_under_way :
    (writes {} {"R1", "R2"} "ALICE" twoRelays registerThenSignoff "R2" :
          Multiset (Option AdvertRecord)) +
        Replicas.pending ((run (step {} {"R1", "R2"} "ALICE") twoRelays
          registerThenSignoff).net.map asWrite) "R2" =
      accepted {} {"R1", "R2"} "ALICE" twoRelays registerThenSignoff :=
  (writes_made_once twoRelays_agreed registerThenSignoff (by decide)).1

/-- **The copies part.**  The second relay deletes first and stores then: one relay holds the record
of a client that has signed off, the other does not. -/
theorem alice_kept_by_one_relay :
    (run (step {} {"R1", "R2"} "ALICE") twoRelays
        (registerThenSignoff ++ [signoffRipple, upsertRipple])).net = 0 ∧
      ((run (step {} {"R1", "R2"} "ALICE") twoRelays
        (registerThenSignoff ++ [signoffRipple, upsertRipple])).node "R1").backend.held "ALICE" =
          none ∧
      ((run (step {} {"R1", "R2"} "ALICE") twoRelays
        (registerThenSignoff ++ [signoffRipple, upsertRipple])).node "R2").backend.held "ALICE" =
          some { id := "ALICE" } := by
  decide +kernel

end Bingle.Ddb
