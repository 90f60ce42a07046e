import Bingle.Stun.Polling
import Bingle.Stun.Response

/-!
# What the finder makes of the answers

A packet is credited to the server it comes from, and what all servers have reported is assessed
again.  `Watched` runs the finder beside what a bystander would note: which servers were configured,
and what each has reported since it was last asked.
-/

namespace Bingle.Stun

open List

section Servers

variable {addr : SocketAddr} {g : ServerStatus → ServerStatus} {ss : List ServerStatus} {now : ℕ}
variable {reports : SocketAddr → Option SocketAddr}

lemma modifyServer_of_not_mem (h : addr ∉ ss.map ServerStatus.addr) :
    modifyServer addr g ss = ss := by
  induction ss with
  | nil => rfl
  | cons s ss ih =>
    rw [map_cons, mem_cons, not_or] at h
    rw [modifyServer, if_neg (Ne.symm h.1), ih h.2]

lemma reported_modifyServer (addr : SocketAddr) (ep : Option SocketAddr)
    (hnodup : (ss.map ServerStatus.addr).Nodup) (haddr : ∀ s, (g s).addr = s.addr)
    (hep : ∀ s, s.endpoint = reports addr → (g s).endpoint = ep)
    (h : ∀ s ∈ ss, s.endpoint = reports s.addr) :
    ∀ s ∈ modifyServer addr g ss, s.endpoint = Function.update reports addr ep s.addr := by
  induction ss with
  | nil => simp [modifyServer]
  | cons s ss ih =>
    rw [map_cons, nodup_cons] at hnodup
    rw [forall_mem_cons] at h
    rw [modifyServer]
    split_ifs with heq
    · refine forall_mem_cons.mpr ⟨?_, fun s' hs' => ?_⟩
      · rw [haddr, heq, Function.update_self]
        exact hep s (heq ▸ h.1)
      · have hne : s'.addr ≠ addr := fun heq' =>
          hnodup.1 (heq.trans heq'.symm ▸ mem_map_of_mem hs')
        rw [Function.update_of_ne hne, h.2 s' hs']
    · exact forall_mem_cons.mpr ⟨by rw [Function.update_of_ne heq, h.1], ih hnodup.2 h.2⟩

lemma map_addr_asked (now : ℕ) (addrs : List SocketAddr) :
    (asked now addrs ss).map ServerStatus.addr = ss.map ServerStatus.addr := by
  induction addrs generalizing ss with
  | nil => rfl
  | cons a addrs ih =>
    exact ih.trans (map_addr_modifyServer (g := ServerStatus.ask now) (fun _ => rfl) ss)

lemma reported_asked (hnodup : (ss.map ServerStatus.addr).Nodup) (addrs : List SocketAddr)
    (h : ∀ s ∈ ss, s.endpoint = reports s.addr) :
    ∀ s ∈ asked now addrs ss, s.endpoint = if s.addr ∈ addrs then none else reports s.addr := by
  induction addrs generalizing ss reports with
  | nil => simpa [asked] using h
  | cons a addrs ih =>
    intro s hs
    have hfirst := reported_modifyServer (g := ServerStatus.ask now) a none
      hnodup (fun _ => rfl) (fun _ _ => rfl) h
    have hrest :=
      ih (by rwa [map_addr_modifyServer (g := ServerStatus.ask now) fun _ => rfl]) hfirst s hs
    by_cases ha : s.addr = a <;> simpa [ha] using hrest

end Servers

namespace Finder

/-! ## What a poll leaves alone -/

structure Frame (f g : Finder) : Prop where
  response : g.lastResponseTick = f.lastResponseTick
  limit : g.noResponseTicks = f.noResponseTicks
  known : (g.servers.map fun s => (s.addr, s.endpoint)).Sublist
    (f.servers.map fun s => (s.addr, s.endpoint))

variable {f g h : Finder}

lemma Frame.addrs (h : f.Frame g) :
    (g.servers.map ServerStatus.addr).Sublist (f.servers.map ServerStatus.addr) := by
  have hsub := h.known.map Prod.fst
  rwa [map_map, map_map] at hsub

lemma Frame.forall (h : f.Frame g) {P : SocketAddr → Option SocketAddr → Prop}
    (hP : ∀ s ∈ f.servers, P s.addr s.endpoint) : ∀ s ∈ g.servers, P s.addr s.endpoint := by
  intro s hs
  obtain ⟨s', hs', heq⟩ := mem_map.mp (h.known.subset (mem_map_of_mem hs))
  obtain ⟨haddr, hep⟩ := Prod.mk.inj heq
  exact haddr ▸ hep ▸ hP s' hs'

lemma Frame.trans (hfg : f.Frame g) (hgh : g.Frame h) : f.Frame h :=
  ⟨hgh.response.trans hfg.response, hgh.limit.trans hfg.limit, hgh.known.trans hfg.known⟩

lemma Keeps.trans (hfg : f.Keeps g) (hgh : g.Keeps h) : f.Keeps h :=
  ⟨hgh.searchTicks.trans hfg.searchTicks, hgh.repeatTicks.trans hfg.repeatTicks,
    hgh.currentTick.trans hfg.currentTick, hgh.lastPollTick.trans hfg.lastPollTick,
    hgh.lastRequestTick.trans hfg.lastRequestTick, hgh.tracking.trans hfg.tracking,
    fun heard => hgh.heard (hfg.heard heard)⟩

lemma frame_prune (f : Finder) : f.Frame f.prune := by
  rw [prune]
  split_ifs
  · exact ⟨rfl, rfl, by simp [Function.comp_def]⟩
  · exact ⟨rfl, rfl, filter_sublist.map _⟩

lemma frame_checkBlocked (f : Finder) : f.Frame f.checkBlocked.1 := by
  have hmap : (f.servers.map fun s =>
      if s.everResponded then { s with responded := false } else s).map (fun s => (s.addr, s.endpoint)) = f.servers.map fun s => (s.addr, s.endpoint) := by
    rw [map_map]
    refine map_congr_left fun s _ => ?_
    simp only [Function.comp_apply]
    split_ifs <;> rfl
  rw [checkBlocked]
  split_ifs with htrack
  · exact ⟨rfl, rfl, List.Sublist.refl _⟩
  · dsimp only
    split_ifs <;> first
      | exact ⟨rfl, rfl, List.Sublist.refl _⟩
      | exact ⟨rfl, rfl, hmap.symm ▸ List.Sublist.refl _⟩

def asking (f : Finder) (now : ℕ) : Finder :=
  { f with
    lastPollTick := some now
    servers := asked now f.toPoll f.servers
    lastRequestTick :=
      if f.toPoll ≠ [] ∧ f.tracking ∧ f.lastRequestTick = none then some now
      else f.lastRequestTick }

lemma poll_eq (f : Finder) (now : ℕ) :
    f.poll now = ((f.asking now).prune, []) ∧ f.toPoll = [] ∨
      f.poll now = ((f.asking now).checkBlocked.1.prune,
        (f.toPoll.map fun a => .sendPacket a (buildBindingRequest now)) ++
          (f.asking now).checkBlocked.2) := by
  by_cases hpoll : f.toPoll = []
  · refine .inl ⟨?_, hpoll⟩
    simp [poll_of_nobody f hpoll, asking, asked, hpoll]
  · have htoPoll : ({ f with lastPollTick := some now } : Finder).toPoll = f.toPoll := rfl
    have htracking : ({ f with lastPollTick := some now } : Finder).tracking = f.tracking := rfl
    exact .inr (by simp [poll, htoPoll, htracking, hpoll, askAll_eq, asked, asking])

lemma frame_poll (f : Finder) (now : ℕ) : (f.asking now).Frame (f.poll now).1 := by
  obtain ⟨h, -⟩ | h := f.poll_eq now <;> rw [h]
  · exact frame_prune _
  · exact (frame_checkBlocked _).trans (frame_prune _)

lemma keeps_poll (f : Finder) (now : ℕ) : (f.asking now).Keeps (f.poll now).1 := by
  obtain ⟨h, -⟩ | h := f.poll_eq now <;> rw [h]
  · exact keeps_prune _
  · exact (keeps_checkBlocked _).trans (keeps_prune _)

/-! ## Callbacks -/

def view (f : Finder) : StunState × Option SocketAddr := (f.state, f.endpoint)

def callback : Output → Option (StunState × Option SocketAddr)
  | .stateChange state endpoint => some (state, endpoint)
  | _ => none

def request : Output → Option SocketAddr
  | .sendPacket addr _ => some addr
  | _ => none

def Tells (f : Finder) (r : Finder × List Output) : Prop :=
  r.2.filterMap callback = if r.1.view = f.view then [] else [r.1.view]

lemma view_prune (f : Finder) : f.prune.view = f.view := by
  rw [prune]
  split_ifs <;> rfl

lemma checkBlocked_cases (f : Finder) :
    f.checkBlocked.1.view = f.view ∧ f.checkBlocked.2.filterMap callback = [] ∧
        f.checkBlocked.2.filterMap request = [] ∨
      f.checkBlocked.1.view = (.blocked, none) ∧ f.checkBlocked.2 = [.stateChange .blocked none] ∧
        f.state ≠ .blocked ∧ f.tracking = false ∧ 2 ≤ f.intervalsWithoutTwo := by
  rw [checkBlocked]
  split_ifs with htrack
  · exact .inl ⟨rfl, rfl, rfl⟩
  · have hcount : ¬ saturatingSucc f.intervalsWithoutTwo < 3 → 2 ≤ f.intervalsWithoutTwo := by
      rw [saturatingSucc]
      omega
    dsimp only
    split_ifs <;> simp_all [view, callback, request]

lemma poll_cases (f : Finder) (now : ℕ) :
    (f.poll now).2.filterMap request = f.toPoll ∧
      ((f.poll now).1.view = f.view ∧ (f.poll now).2.filterMap callback = [] ∨
        (f.poll now).1.view = (.blocked, none) ∧
          (f.poll now).2.filterMap callback = [(.blocked, none)] ∧
          f.state ≠ .blocked ∧ f.tracking = false ∧ 2 ≤ f.intervalsWithoutTwo) := by
  obtain ⟨h, hpoll⟩ | h := f.poll_eq now
  · rw [h, view_prune, hpoll]
    exact ⟨rfl, .inl ⟨rfl, rfl⟩⟩
  · rw [h, view_prune, filterMap_append, filterMap_append]
    have hcases := (f.asking now).checkBlocked_cases
    obtain ⟨hview, hcallback, hrequest⟩ | ⟨hview, hout, hcond⟩ := hcases
    · rw [hview, hcallback, hrequest]
      exact ⟨by simp [request, Function.comp_def],
        .inl ⟨rfl, by simp [callback, Function.comp_def]⟩⟩
    · rw [hview, hout]
      exact ⟨by simp [request, Function.comp_def],
        .inr ⟨rfl, by simp [callback, Function.comp_def], hcond⟩⟩

lemma tick_tells (f : Finder) : f.Tells f.stunProcessTick := by
  obtain ⟨-, hpoll⟩ := f.beforePoll.poll_cases (f.currentTick + 1)
  rw [Tells, stunProcessTick_eq, notice]
  by_cases hsilent : f.tracking = true ∧ f.silent (f.currentTick + 1) = true
  · -- the search has just begun again, so a poll does not find it blocked
    have hview : f.beforePoll.view = (.none, none) ∧ f.beforePoll.intervalsWithoutTwo = 0 := by
      rw [beforePoll_of_silent hsilent.1 hsilent.2]
      exact ⟨rfl, rfl⟩
    have hne : (StunState.none, none) ≠ f.view := by
      intro heq
      have hstate : f.state = .none := (congrArg Prod.fst heq).symm
      exact absurd hsilent.1 (by simp [tracking, hstate])
    rw [hview.1, hview.2] at hpoll
    split_ifs <;> simp_all [callback]
  · have hview : f.beforePoll.view = f.view ∧ f.beforePoll.state = f.state := by
      rw [beforePoll, if_neg hsilent]
      exact ⟨rfl, rfl⟩
    rw [hview.1, hview.2] at hpoll
    rw [if_neg hsilent]
    split_ifs with hdue hsame
    · obtain ⟨-, hcallback⟩ | ⟨hblocked, -, hne, -⟩ := hpoll
      · simpa using hcallback
      · exact absurd (congrArg Prod.fst (hsame.symm.trans hblocked)) hne
    · obtain ⟨hkept, -⟩ | ⟨hblocked, hcallback, -⟩ := hpoll
      · exact absurd hkept hsame
      · simp [hblocked, hcallback]
    · rfl
    · exact absurd hview.1 ‹_›

/-! ## Assessment -/

lemma assess_isSome (l : List SocketAddr) : (assess l).2.isSome ↔ (assess l).1 = .consistent := by
  match l with
  | [] => simp [assess]
  | [_] => simp [assess]
  | _ :: _ :: _ =>
    rw [assess]
    split_ifs <;> simp

lemma packet_tells (hview : f.endpoint.isSome ↔ f.state = .consistent)
    (src : SocketAddr) (data : List UInt8) : f.Tells (f.processPacket src data) := by
  rw [Tells, processPacket, recomputeStateAndNotify]
  dsimp only
  generalize modifyServer src _ f.servers = servers
  have hsome := assess_isSome (servers.filterMap ServerStatus.endpoint)
  generalize assess (servers.filterMap ServerStatus.endpoint) = new at hsome ⊢
  obtain ⟨state, endpoint⟩ := new
  dsimp only at hsome ⊢
  by_cases hstate : state = f.state
  · by_cases hep : endpoint = f.endpoint
    · simp [hstate, hep, view]
    · have hcons : f.state = .consistent := by
        by_contra hne
        rw [hstate] at hsome
        have hnone := Option.not_isSome_iff_eq_none.mp (mt hsome.mp hne)
        have hnone' := Option.not_isSome_iff_eq_none.mp (mt hview.mp hne)
        exact hep (hnone.trans hnone'.symm)
      simp [hstate, hep, view, hcons, callback]
  · simp [hstate, view, callback]

end Finder

/-! ## The finder and a bystander -/

/-- The finder beside a record of what each server has reported. -/
structure Watched where
  finder : Finder
  configured : List SocketAddr
  /-- what a server has reported since it was last asked, or since the last reset -/
  reports : SocketAddr → Option SocketAddr := fun _ => none

namespace Watched

open Finder

def start (servers : List SocketAddr) (searchTimeMs repeatTimeMs : ℕ) : Watched where
  finder := .init servers searchTimeMs repeatTimeMs
  configured := servers

def step (w : Watched) (e : Event) : Watched where
  finder := w.finder.step e
  configured :=
    match e with
    | .init server others _ _ => server :: others
    | _ => w.configured
  reports :=
    match e with
    | .tick => fun a =>
      if a ∈ w.finder.stunProcessTick.2.filterMap request then none else w.reports a
    | .packet src data =>
      Function.update w.reports src ((parseXorMappedAddress data).or (w.reports src))
    | .reset | .init .. => fun _ => none

def known (w : Watched) : List SocketAddr :=
  (w.finder.servers.map ServerStatus.addr).filterMap w.reports

lemma addrs_tick (f : Finder) :
    (f.stunProcessTick.1.servers.map ServerStatus.addr).Sublist
      (f.servers.map ServerStatus.addr) := by
  have hbefore : f.beforePoll.servers.map ServerStatus.addr = f.servers.map ServerStatus.addr := by
    rw [beforePoll]
    split_ifs
    · simp [reverted, Function.comp_def, ServerStatus.forget]
    · rfl
  rw [stunProcessTick_fst, ← hbefore]
  split_ifs
  · have haddrs := (f.beforePoll.frame_poll (f.currentTick + 1)).addrs
    rwa [asking, map_addr_asked] at haddrs
  · exact List.Sublist.refl _

variable {w : Watched}

lemma listed_step (h : (w.finder.servers.map ServerStatus.addr).Sublist w.configured)
    (e : Event) :
    ((w.step e).finder.servers.map ServerStatus.addr).Sublist (w.step e).configured := by
  cases e with
  | tick => exact (addrs_tick w.finder).trans h
  | packet src data =>
    rw [step, Finder.step, processPacket, recomputeStateAndNotify_fst]
    rwa [map_addr_modifyServer (g := ServerStatus.answer (parseXorMappedAddress data)) fun _ => rfl]
  | reset => simpa [step, Finder.step, resetState, Function.comp_def, ServerStatus.forget] using h
  | init server others _ _ => simp [step, Finder.step, init, Function.comp_def]

/-! ## Strangers -/

structure Settled (w : Watched) : Prop where
  listed : (w.finder.servers.map ServerStatus.addr).Sublist w.configured
  response : ∀ t ∈ w.finder.lastResponseTick, t ≤ w.finder.currentTick ∧
    (t = w.finder.currentTick → w.finder.lastRequestTick = none ∧
      assess (w.finder.servers.filterMap ServerStatus.endpoint) = w.finder.view)

lemma tick_clock (f : Finder) :
    f.stunProcessTick.1.currentTick = f.currentTick + 1 ∧
      ∀ t ∈ f.stunProcessTick.1.lastResponseTick, t ∈ f.lastResponseTick := by
  have hbefore : f.beforePoll.currentTick = f.currentTick + 1 ∧
      ∀ t ∈ f.beforePoll.lastResponseTick, t ∈ f.lastResponseTick := by
    rw [beforePoll]
    split_ifs
    · exact ⟨rfl, fun _ ht => absurd ht (Option.not_mem_none _)⟩
    · exact ⟨rfl, fun _ ht => ht⟩
  rw [stunProcessTick_fst]
  split_ifs
  · rw [(f.beforePoll.keeps_poll _).currentTick, (f.beforePoll.frame_poll _).response]
    exact hbefore
  · exact hbefore

lemma Settled.step (h : w.Settled) (e : Event) : (w.step e).Settled := by
  refine ⟨listed_step h.listed e, fun t ht => ?_⟩
  cases e with
  | tick =>
    have hclock := tick_clock w.finder
    have hle := (h.response t (hclock.2 t ht)).1
    have hlt : t < w.finder.stunProcessTick.1.currentTick := by
      rw [hclock.1]
      exact Nat.lt_succ_of_le hle
    exact ⟨hlt.le, fun heq => absurd heq hlt.ne⟩
  | packet src data =>
    simp only [Watched.step, Finder.step, processPacket, recomputeStateAndNotify_fst] at ht ⊢
    exact ⟨(Option.some.inj ht).ge, fun _ => ⟨trivial, rfl⟩⟩
  | reset => exact absurd ht (Option.not_mem_none _)
  | init server others _ _ => exact absurd ht (Option.not_mem_none _)

lemma settled_run (servers : List SocketAddr) (searchTimeMs repeatTimeMs : ℕ) (es : List Event) :
    (Lib.run step (start servers searchTimeMs repeatTimeMs) es).Settled := by
  refine Lib.run_invariant (I := Settled) (P := fun _ _ => True) (fun _ e h _ => h.step e) ⟨?_, ?_⟩
    (Lib.along_of_forall_mem (fun _ _ => trivial) _)
  · simp [start, init, Function.comp_def]
  · exact fun _ ht => absurd ht (Option.not_mem_none _)

/-- **A packet from nowhere.**  In every state that is reached, a packet from an address that is not
configured leaves the finder unchanged and tells the callback nothing exactly where a packet has
already come since the last tick. -/
theorem stranger_ignored_iff (servers : List SocketAddr) (searchTimeMs repeatTimeMs : ℕ)
    (es : List Event) (src : SocketAddr) (data : List UInt8)
    (hstranger : src ∉ (Lib.run step (start servers searchTimeMs repeatTimeMs) es).configured) :
    let f := (Lib.run step (start servers searchTimeMs repeatTimeMs) es).finder
    f.processPacket src data = (f, []) ↔ f.lastResponseTick = some f.currentTick := by
  have h := settled_run servers searchTimeMs repeatTimeMs es
  generalize Lib.run step (start servers searchTimeMs repeatTimeMs) es = w at h hstranger
  have hsame : modifyServer src (ServerStatus.answer (parseXorMappedAddress data))
      w.finder.servers = w.finder.servers :=
    modifyServer_of_not_mem fun hmem => hstranger (h.listed.subset hmem)
  constructor
  · intro heq
    have hfst := congrArg (fun r => r.1.lastResponseTick) heq
    simp only [processPacket, recomputeStateAndNotify_fst] at hfst
    exact hfst.symm
  · intro hresponse
    obtain ⟨hopen, hassess⟩ := (h.response _ hresponse).2 rfl
    have hself : ({ w.finder with
        servers := modifyServer src (ServerStatus.answer (parseXorMappedAddress data))
          w.finder.servers
        lastResponseTick := some w.finder.currentTick
        lastRequestTick := none } : Finder) = w.finder := by
      rw [hsame, ← hresponse, ← hopen]
    rw [processPacket, hself, recomputeStateAndNotify, hassess]
    simp [view]

def exampleStranger : SocketAddr := ⟨[203, 0, 113, 9], 5353⟩

theorem stranger_ignored_after_answer :
    let f := (Lib.run step (start [exampleServer] 1000 10000)
      [.tick, .packet exampleServer (exampleAnswer 12)]).finder
    f.processPacket exampleStranger [] = (f, []) :=
  (stranger_ignored_iff [exampleServer] 1000 10000
    [.tick, .packet exampleServer (exampleAnswer 12)] exampleStranger [] (by decide)).mpr (by decide)

def otherServer : SocketAddr := ⟨[192, 0, 2, 2], 3478⟩

/-- **A stranger undoes an endpoint.**  Two servers agree; a poll clears what they have reported;
then an empty packet from anywhere makes the finder forget the endpoint, and it says so. -/
theorem stranger_reverts_endpoint :
    let f := (Lib.run step (start [exampleServer, otherServer] 100 100)
      [.tick, .packet exampleServer (exampleAnswer 12), .packet otherServer (exampleAnswer 12),
        .tick]).finder
    f.state = .consistent ∧ f.processPacket exampleStranger [] ≠ (f, []) ∧
      (f.processPacket exampleStranger []).2 = [.stateChange .none none] := by
  decide

/-! ## Classification -/

structure Sound (w : Watched) : Prop where
  distinct : w.configured.Nodup
  listed : (w.finder.servers.map ServerStatus.addr).Sublist w.configured
  reported : ∀ s ∈ w.finder.servers, s.endpoint = w.reports s.addr
  cleared : w.finder.lastRequestTick ≠ none → ∀ s ∈ w.finder.servers, s.endpoint = none
  endpoint : w.finder.endpoint.isSome ↔ w.finder.state = .consistent

def Event.Distinct : Event → Prop
  | .init server others _ _ => (server :: others).Nodup
  | _ => True

namespace Sound

variable {w : Watched}

lemma nodup (h : w.Sound) : (w.finder.servers.map ServerStatus.addr).Nodup :=
  h.listed.nodup h.distinct

lemma beforePoll (h : w.Sound) : Sound { w with finder := w.finder.beforePoll } := by
  rw [Finder.beforePoll]
  split_ifs with hsilent
  · -- a silence follows a request, and so finds every report cleared
    obtain ⟨q, hq, -⟩ := (w.finder.silent_eq_true_iff _).mp hsilent.2
    have hopen : w.finder.lastRequestTick ≠ none := by
      rw [mem_lastRequestTick_of_unanswered hq]
      exact Option.some_ne_none q
    refine ⟨h.distinct, ?_, ?_, fun hne => absurd rfl hne, by simp [reverted]⟩
    · simpa [reverted, Function.comp_def, ServerStatus.forget] using h.listed
    · intro s hs
      obtain ⟨s', hs', rfl⟩ := mem_map.mp hs
      exact (h.cleared hopen s' hs').symm.trans (h.reported s' hs')
  · exact ⟨h.distinct, h.listed, h.reported, h.cleared, h.endpoint⟩

lemma poll (h : w.Sound) (now : ℕ) : Sound { w with
      finder := (w.finder.poll now).1
      reports := fun a => if a ∈ w.finder.toPoll then none else w.reports a } := by
  have hframe := w.finder.frame_poll now
  refine ⟨h.distinct, ?_, ?_, ?_, ?_⟩
  · have haddrs := hframe.addrs
    rw [asking, map_addr_asked] at haddrs
    exact haddrs.trans h.listed
  · exact hframe.forall (P := fun a ep => ep = if a ∈ w.finder.toPoll then none else w.reports a)
      (reported_asked h.nodup _ h.reported)
  · rw [(w.finder.keeps_poll now).lastRequestTick]
    refine fun hopen => hframe.forall (P := fun _ ep => ep = none) fun s hs => ?_
    by_cases hold : w.finder.lastRequestTick = none
    · -- the request is this poll's, which asks every server
      have htrack : w.finder.tracking = true := by
        by_contra htrack
        simp [asking, htrack, hold] at hopen
      have hmem : s.addr ∈ w.finder.servers.map ServerStatus.addr := by
        rw [← map_addr_asked now w.finder.toPoll]
        exact mem_map_of_mem hs
      rw [reported_asked h.nodup _ h.reported s hs, toPoll_of_tracking htrack, if_pos hmem]
    · exact forall_asked (P := fun s => s.endpoint = none) (fun _ _ => rfl) _ (h.cleared hold) s hs
  · obtain ⟨-, ⟨hview, -⟩ | ⟨hview, -⟩⟩ := w.finder.poll_cases now
    · obtain ⟨hstate, hep⟩ := Prod.mk.inj hview
      rw [hstate, hep]
      exact h.endpoint
    · obtain ⟨hstate, hep⟩ := Prod.mk.inj hview
      rw [hstate, hep]
      simp

lemma step (h : w.Sound) {e : Event} (he : Event.Distinct e) : (w.step e).Sound := by
  cases e with
  | tick =>
    have hpoll := h.beforePoll.poll (w.finder.currentTick + 1)
    have hrequest := (w.finder.beforePoll.poll_cases (w.finder.currentTick + 1)).1
    have hnotice : w.finder.notice.filterMap request = [] := by rw [notice]; split_ifs <;> rfl
    rw [Watched.step, Finder.step, stunProcessTick_eq]
    split_ifs
    · simpa [filterMap_append, hnotice, hrequest] using hpoll
    · simpa [hnotice] using h.beforePoll
  | packet src data =>
    refine ⟨h.distinct, listed_step h.listed _, ?_, ?_, ?_⟩
    all_goals rw [Watched.step, Finder.step, processPacket, recomputeStateAndNotify_fst]
    · refine reported_modifyServer src _ h.nodup (fun _ => rfl) (fun s hs => ?_) h.reported
      rw [← hs]
      rfl
    · exact fun hopen => absurd rfl hopen
    · exact assess_isSome _
  | reset =>
    refine ⟨h.distinct, listed_step h.listed _, fun s hs => ?_, fun hopen => absurd rfl hopen,
      by simp [Watched.step, Finder.step, resetState]⟩
    obtain ⟨s', -, rfl⟩ := mem_map.mp hs
    rfl
  | init server others _ _ =>
    refine ⟨he, listed_step h.listed _, fun s hs => ?_, fun hopen => absurd rfl hopen,
      by simp [Watched.step, Finder.step, init]⟩
    obtain ⟨a, -, rfl⟩ := mem_map.mp hs
    rfl

lemma known_eq (h : w.Sound) : w.known = w.finder.servers.filterMap ServerStatus.endpoint := by
  rw [known, filterMap_map]
  exact filterMap_congr fun s hs => (h.reported s hs).symm

end Sound

def act (f : Finder) : Event → Finder × List Output
  | .tick => f.stunProcessTick
  | .packet src data => f.processPacket src data
  | e => (f.step e, [])

structure Classified (w : Watched) (e : Event) : Prop where
  state : ∀ src data, e = .packet src data → (w.step e).finder.state = (assess (w.step e).known).1
  endpoint : (w.step e).finder.endpoint.isSome ↔ (w.step e).finder.state = .consistent
  tells : e = .tick ∨ (∃ src data, e = .packet src data) → w.finder.Tells (act w.finder e)
  consistent : ∀ ep, .stateChange .consistent ep ∈ (act w.finder e).2 → ∃ reported,
    ep = some reported ∧ (∀ x ∈ (w.step e).known, x = reported) ∧
      ∃ a ∈ w.configured, ∃ b ∈ w.configured, a ≠ b ∧
        (w.step e).reports a = some reported ∧ (w.step e).reports b = some reported

lemma assess_consistent {l : List SocketAddr} {ep : Option SocketAddr}
    (h : assess l = (.consistent, ep)) : ∃ a b rest, l = a :: b :: rest ∧ ep = some a ∧
      ∀ x ∈ l, x = a := by
  match l with
  | [] => simp [assess] at h
  | [_] => simp [assess] at h
  | a :: b :: rest =>
    rw [assess] at h
    split_ifs at h with hall
    · refine ⟨a, b, rest, rfl, (Prod.mk.inj h).2.symm, fun x hx => ?_⟩
      simpa using all_eq_true.mp hall x hx
    · simp at h

lemma Sound.exists_two (h : w.Sound) {x y : SocketAddr} {rest : List SocketAddr}
    (hknown : w.finder.servers.filterMap ServerStatus.endpoint = x :: y :: rest) :
    ∃ a ∈ w.configured, ∃ b ∈ w.configured, a ≠ b ∧ w.reports a = some x ∧ w.reports b = some y := by
  obtain ⟨l₁, s, l₂, heq, -, hs, hrest⟩ := filterMap_eq_cons_iff.mp hknown
  obtain ⟨l₃, s', l₄, rfl, -, hs', -⟩ := filterMap_eq_cons_iff.mp hrest
  have hmem : s ∈ w.finder.servers := by simp [heq]
  have hmem' : s' ∈ w.finder.servers := by simp [heq]
  refine ⟨s.addr, h.listed.subset (mem_map_of_mem hmem), s'.addr,
    h.listed.subset (mem_map_of_mem hmem'), ?_, (h.reported s hmem).symm.trans hs,
    (h.reported s' hmem').symm.trans hs'⟩
  have hnodup := h.nodup
  simp only [heq, map_append, map_cons] at hnodup
  have hcons := (nodup_append.mp hnodup).2.1
  rw [nodup_cons] at hcons
  intro hsame
  exact hcons.1 (by simp [hsame])

lemma Sound.classified (h : w.Sound) {e : Event} (he : Event.Distinct e) :
    w.Classified e := by
  have hnext := h.step he
  refine ⟨?_, hnext.endpoint, ?_, ?_⟩
  · rintro src data rfl
    rw [hnext.known_eq, Watched.step, Finder.step, processPacket, recomputeStateAndNotify_fst]
  · rintro (rfl | ⟨src, data, rfl⟩)
    · exact tick_tells w.finder
    · exact packet_tells h.endpoint src data
  · intro ep hep
    cases e with
    | tick =>
      -- a tick tells of a silence or of a block
      have hpoll := (w.finder.beforePoll.poll_cases (w.finder.currentTick + 1)).2
      have hcb : (StunState.consistent, ep) ∈ w.finder.stunProcessTick.2.filterMap callback :=
        mem_filterMap.mpr ⟨_, hep, rfl⟩
      rw [stunProcessTick_eq, notice] at hcb
      obtain ⟨-, hout⟩ | ⟨-, hout, -⟩ := hpoll <;> split_ifs at hcb <;>
        simp [hout, callback] at hcb
    | packet src data =>
      have htells := packet_tells h.endpoint src data
      have hcb : (StunState.consistent, ep) ∈
          (w.finder.processPacket src data).2.filterMap callback :=
        mem_filterMap.mpr ⟨_, hep, rfl⟩
      rw [htells] at hcb
      split_ifs at hcb with hsame
      · simp at hcb
      have hview := mem_singleton.mp hcb
      rw [processPacket, recomputeStateAndNotify_fst] at hview
      obtain ⟨a, b, rest, hlist, rfl, hall⟩ := assess_consistent hview.symm
      have hservers : (w.step (.packet src data)).finder.servers =
          modifyServer src (ServerStatus.answer (parseXorMappedAddress data)) w.finder.servers := by
        rw [Watched.step, Finder.step, processPacket, recomputeStateAndNotify_fst]
      rw [← hservers] at hlist hall
      obtain rfl : b = a := hall b (by simp [hlist])
      exact ⟨b, rfl, hnext.known_eq ▸ hall, hnext.exists_two hlist⟩
    | reset => simp [act] at hep
    | init _ _ _ _ => simp [act] at hep

/-- **State, endpoint and callbacks follow the reports.**  With distinct servers, in every run:
after a packet the state is the assessment of what the servers have reported since they were last
asked or the finder was reset; the endpoint is there in the consistent state only; the callback is
told of every change and of nothing else, and of a consistent endpoint only where two servers have
reported it and none another. -/
theorem classification (servers : List SocketAddr) (searchTimeMs repeatTimeMs : ℕ)
    (es : List Event) (hdistinct : servers.Nodup) (hinits : ∀ e ∈ es, Event.Distinct e) :
    Lib.Along step Classified (start servers searchTimeMs repeatTimeMs) es := by
  refine Lib.Along.of_invariant (I := Sound) (P := fun _ e => Event.Distinct e)
    (fun _ _ h he => h.step he) (fun _ _ h he => h.classified he) ?_
    (Lib.along_of_forall_mem hinits _)
  refine ⟨hdistinct, ?_, fun s hs => ?_, fun hopen => absurd rfl hopen, by simp [start, init]⟩
  · simp [start, init, Function.comp_def]
  · obtain ⟨a, -, rfl⟩ := mem_map.mp hs
    rfl

theorem classification_of_two :
    Lib.Along step Classified (start [exampleServer, otherServer] 1000 10000)
      [.tick, .packet exampleServer (exampleAnswer 12), .packet otherServer (exampleAnswer 12)] :=
  classification [exampleServer, otherServer] 1000 10000 _ (by decide) (by simp [Event.Distinct])

/-- **Resets are silent and forget, and a dropped server is not heard.**  A reset takes the state
back without a callback; the report of the first server does not count when the second reports; and
a server that answers the third request, with which it was dropped, does not count either. -/
theorem reset_and_dropped_not_classified :
    let asked := Lib.run step (start [exampleServer, otherServer] 100 100)
      [.tick, .packet exampleServer (exampleAnswer 12)]
    asked.finder.state = .single ∧ (act asked.finder .reset).1.state = .none ∧
      (act asked.finder .reset).2 = [] ∧
      (Lib.run step asked [.reset, .packet otherServer (exampleAnswer 12)]).finder.state = .single ∧
      (Lib.run step asked
        [.tick, .tick, .packet otherServer (exampleAnswer 12)]).finder.state = .single := by
  decide

end Watched

end Bingle.Stun
