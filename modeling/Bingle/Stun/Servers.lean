import Bingle.Stun.Finder

/-!
# Some server is always left

Servers that fail three times are dropped, but not one that has answered.  While none has, the
finder takes itself to be blocked at the third poll, and a blocked finder drops nobody: the last
server of the list fails once a poll at most.
-/

namespace Bingle.Stun

open List

/-! ## Changing servers -/

section Modify

variable {addr : SocketAddr} {g : ServerStatus → ServerStatus}

lemma forall_modifyServer {P : ServerStatus → Prop} (hg : ∀ s, P s → P (g s))
    {ss : List ServerStatus} (h : ∀ s ∈ ss, P s) : ∀ s ∈ modifyServer addr g ss, P s := by
  induction ss with
  | nil => exact h
  | cons s ss ih =>
    rw [forall_mem_cons] at h
    rw [modifyServer]
    split_ifs
    · exact forall_mem_cons.mpr ⟨hg s h.1, h.2⟩
    · exact forall_mem_cons.mpr ⟨h.1, ih h.2⟩

lemma any_modifyServer {p : ServerStatus → Bool} (hg : ∀ s, p s = true → p (g s) = true)
    {ss : List ServerStatus} (h : ss.any p = true) : (modifyServer addr g ss).any p = true := by
  induction ss with
  | nil => exact h
  | cons s ss ih =>
    rw [any_cons, Bool.or_eq_true] at h
    rw [modifyServer]
    split_ifs
    · rw [any_cons, Bool.or_eq_true]
      exact h.imp_left (hg s)
    · rw [any_cons, Bool.or_eq_true]
      exact h.imp_right ih

lemma modifyServer_eq_or_mem (addr : SocketAddr) (g : ServerStatus → ServerStatus)
    (ss : List ServerStatus) :
    modifyServer addr g ss = ss ∨ ∃ s, g s ∈ modifyServer addr g ss := by
  induction ss with
  | nil => exact Or.inl rfl
  | cons s ss ih =>
    rw [modifyServer]
    split_ifs
    · exact Or.inr ⟨s, mem_cons_self⟩
    · exact ih.imp (congrArg (s :: ·)) fun ⟨s', hs'⟩ => ⟨s', mem_cons_of_mem s hs'⟩

lemma map_addr_modifyServer (hg : ∀ s, (g s).addr = s.addr) (ss : List ServerStatus) :
    (modifyServer addr g ss).map ServerStatus.addr = ss.map ServerStatus.addr := by
  induction ss with
  | nil => rfl
  | cons s ss ih =>
    rw [modifyServer]
    split_ifs
    · rw [map_cons, map_cons, hg]
    · rw [map_cons, map_cons, ih]

lemma modifyServer_append_of_mem {ss : List ServerStatus} (h : addr ∈ ss.map ServerStatus.addr)
    (last : ServerStatus) :
    modifyServer addr g (ss ++ [last]) = modifyServer addr g ss ++ [last] := by
  induction ss with
  | nil => exact absurd h (by simp)
  | cons s ss ih =>
    rw [cons_append, modifyServer, modifyServer]
    split_ifs with hs
    · rfl
    · rw [map_cons, mem_cons] at h
      rw [ih (h.resolve_left fun heq => hs heq.symm), cons_append]

lemma modifyServer_append (addr : SocketAddr) (g : ServerStatus → ServerStatus)
    (ss : List ServerStatus) (last : ServerStatus) :
    ∃ ss' last', modifyServer addr g (ss ++ [last]) = ss' ++ [last'] ∧
      (last' = last ∨ last' = g last) := by
  induction ss with
  | nil =>
    rw [nil_append, modifyServer]
    split_ifs
    · exact ⟨[], g last, rfl, Or.inr rfl⟩
    · exact ⟨[], last, rfl, Or.inl rfl⟩
  | cons s ss ih =>
    rw [cons_append, modifyServer]
    split_ifs
    · exact ⟨g s :: ss, last, rfl, Or.inl rfl⟩
    · obtain ⟨ss', last', heq, hlast⟩ := ih
      exact ⟨s :: ss', last', congrArg (s :: ·) heq, hlast⟩

end Modify

def asked (now : ℕ) (addrs : List SocketAddr) (ss : List ServerStatus) : List ServerStatus :=
  addrs.foldl (fun ss a => modifyServer a (ServerStatus.ask now) ss) ss

variable {now : ℕ} {ss : List ServerStatus}

lemma forall_asked {P : ServerStatus → Prop} (hg : ∀ s, P s → P (s.ask now))
    (addrs : List SocketAddr) (h : ∀ s ∈ ss, P s) :
    ∀ s ∈ asked now addrs ss, P s := by
  induction addrs generalizing ss with
  | nil => exact h
  | cons a addrs ih => exact ih (forall_modifyServer hg h)

lemma any_asked {p : ServerStatus → Bool} (hg : ∀ s, p s = true → p (s.ask now) = true)
    (addrs : List SocketAddr) (h : ss.any p = true) :
    (asked now addrs ss).any p = true := by
  induction addrs generalizing ss with
  | nil => exact h
  | cons a addrs ih => exact ih (any_modifyServer hg h)

lemma asked_append (now : ℕ) {addrs : List SocketAddr}
    (h : ∀ a ∈ addrs, a ∈ ss.map ServerStatus.addr) (last : ServerStatus) :
    asked now addrs (ss ++ [last]) = asked now addrs ss ++ [last] := by
  induction addrs generalizing ss with
  | nil => rfl
  | cons a addrs ih =>
    rw [forall_mem_cons] at h
    simp only [asked, foldl_cons, modifyServer_append_of_mem h.1]
    refine ih fun a' ha' => ?_
    rw [map_addr_modifyServer (g := ServerStatus.ask now) fun _ => rfl]
    exact h.2 a' ha'

lemma asked_last (now : ℕ) (ss : List ServerStatus) (last : ServerStatus) :
    ∃ ss' last', asked now ((ss ++ [last]).map ServerStatus.addr) (ss ++ [last]) = ss' ++ [last'] ∧
      last'.failures ≤ last.failures + 1 := by
  have hothers := asked_append now (fun a ha => ha : ∀ a ∈ ss.map ServerStatus.addr, _) last
  obtain ⟨ss', last', heq, hlast⟩ := modifyServer_append last.addr
    (ServerStatus.ask now) (asked now (ss.map ServerStatus.addr) ss) last
  refine ⟨ss', last', ?_, ?_⟩
  · rw [map_append, asked, foldl_append]
    exact (congrArg (modifyServer last.addr (ServerStatus.ask now)) hothers).trans heq
  · rcases hlast with rfl | rfl
    · exact Nat.le_succ _
    · exact min_le_left _ _

namespace Finder

/-! ## What a poll keeps -/

lemma poll_fst (f : Finder) (now : ℕ) (h : f.toPoll ≠ []) :
    (f.poll now).1 =
      ({ f with
          lastPollTick := some now
          servers := asked now f.toPoll f.servers
          lastRequestTick :=
            if f.tracking ∧ f.lastRequestTick = none then some now
            else f.lastRequestTick } : Finder).checkBlocked.1.prune := by
  have htoPoll : ({ f with lastPollTick := some now } : Finder).toPoll = f.toPoll := rfl
  have htracking : ({ f with lastPollTick := some now } : Finder).tracking = f.tracking := rfl
  simp [poll, htoPoll, htracking, h, askAll_eq, asked]

lemma poll_of_nobody (f : Finder) {now : ℕ} (h : f.toPoll = []) :
    f.poll now = (({ f with lastPollTick := some now } : Finder).prune, []) := by
  have htoPoll : ({ f with lastPollTick := some now } : Finder).toPoll = [] := h
  simp [poll, htoPoll]

lemma recomputeStateAndNotify_fst (f : Finder) :
    f.recomputeStateAndNotify.1 =
      { f with
        state := (assess (f.servers.filterMap ServerStatus.endpoint)).1
        endpoint := (assess (f.servers.filterMap ServerStatus.endpoint)).2 } := by
  simp only [recomputeStateAndNotify]
  split_ifs with h
  · rfl
  · rw [not_or, not_not] at h
    rw [h.1]

def heard (f : Finder) : Bool := f.servers.any ServerStatus.everResponded

structure Keeps (f g : Finder) : Prop where
  searchTicks : g.searchTicks = f.searchTicks
  repeatTicks : g.repeatTicks = f.repeatTicks
  currentTick : g.currentTick = f.currentTick
  lastPollTick : g.lastPollTick = f.lastPollTick
  lastRequestTick : g.lastRequestTick = f.lastRequestTick
  tracking : g.tracking = f.tracking
  heard : f.heard = true → g.heard = true

lemma heard_map {p : ServerStatus → ServerStatus} (hp : ∀ s, (p s).everResponded = s.everResponded)
    (ss : List ServerStatus) :
    (ss.map p).any ServerStatus.everResponded = ss.any ServerStatus.everResponded := by
  rw [any_map]
  congr 1
  exact funext hp

lemma keeps_checkBlocked (f : Finder) : f.Keeps f.checkBlocked.1 := by
  have hmap := heard_map (p := fun s => if s.everResponded then { s with responded := false } else s)
    (fun s => by split_ifs <;> rfl) f.servers
  rw [checkBlocked]
  split_ifs with htrack
  · exact ⟨rfl, rfl, rfl, rfl, rfl, rfl, id⟩
  · -- a finder that does not track may be blocked, which is not tracking either
    have hblocked : false = f.tracking := (eq_false_of_ne_true htrack).symm
    simp only
    split_ifs
    all_goals first
      | exact ⟨rfl, rfl, rfl, rfl, rfl, rfl, id⟩
      | exact ⟨rfl, rfl, rfl, rfl, rfl, hblocked, id⟩
      | exact ⟨rfl, rfl, rfl, rfl, rfl, rfl, fun h => hmap.trans h⟩
      | exact ⟨rfl, rfl, rfl, rfl, rfl, hblocked, fun h => hmap.trans h⟩

lemma keeps_prune (f : Finder) : f.Keeps f.prune := by
  rw [prune]
  split_ifs
  · have hmap := heard_map (p := fun s => { s with failures := 0 }) (fun _ => rfl) f.servers
    exact ⟨rfl, rfl, rfl, rfl, rfl, rfl, fun h => hmap.trans h⟩
  · refine ⟨rfl, rfl, rfl, rfl, rfl, rfl, fun h => ?_⟩
    obtain ⟨s, hs, hever⟩ := any_eq_true.mp h
    refine any_eq_true.mpr ⟨s, mem_filter.mpr ⟨hs, ?_⟩, hever⟩
    rw [hever, Bool.or_true]

/-! ## Before the first answer -/

/-- No server has ever answered, and the last of them has not failed more often than the finder has
waited. -/
structure Unheard (f : Finder) : Prop where
  state : f.state = .none ∨ f.state = .blocked
  servers : ∀ s ∈ f.servers, s.responded = false ∧ s.endpoint = none
  last : ∃ ss last, f.servers = ss ++ [last] ∧ last.failures ≤ f.intervalsWithoutTwo

namespace Unheard

variable {f : Finder}

lemma tracking_eq (h : f.Unheard) : f.tracking = false := by
  rw [tracking]
  rcases h.state with hstate | hstate <;> rw [hstate]

lemma toPoll_eq (h : f.Unheard) : f.toPoll = f.servers.map ServerStatus.addr := by
  have hall : f.servers.filter (fun s => !s.responded) = f.servers :=
    filter_eq_self.mpr fun s hs => by rw [(h.servers s hs).1]; rfl
  rw [toPoll]
  rcases h.state with hstate | hstate <;> simp only [hstate, hall]

lemma servers_ne_nil (h : f.Unheard) : f.servers ≠ [] := by
  obtain ⟨ss, last, heq, -⟩ := h.last
  rw [heq]
  exact append_ne_nil_of_right_ne_nil ss (cons_ne_nil last [])

lemma of_prune (hstate : f.state = .none ∨ f.state = .blocked)
    (hservers : ∀ s ∈ f.servers, s.responded = false ∧ s.endpoint = none)
    (hlast : ∃ ss last, f.servers = ss ++ [last] ∧
      (f.state ≠ .blocked → last.failures < 3 ∧ last.failures ≤ f.intervalsWithoutTwo)) :
    f.prune.Unheard := by
  obtain ⟨ss, last, heq, hfail⟩ := hlast
  rw [prune]
  split_ifs with hblocked
  · refine ⟨hstate, ?_, ss.map fun s => { s with failures := 0 }, { last with failures := 0 }, ?_,
      Nat.zero_le _⟩
    · intro s hs
      obtain ⟨s', hs', rfl⟩ := mem_map.mp hs
      exact hservers s' hs'
    · simp only [heq, map_append, map_singleton]
  · obtain ⟨hlt, hle⟩ := hfail hblocked
    refine ⟨hstate, fun s hs => hservers s (mem_of_mem_filter hs),
      ss.filter fun s => s.failures < 3 || s.everResponded, last, ?_, hle⟩
    simp [heq, filter_append, hlt]

lemma of_checkBlocked (hstate : f.state = .none ∨ f.state = .blocked)
    (hservers : ∀ s ∈ f.servers, s.responded = false ∧ s.endpoint = none)
    (hlast : ∃ ss last, f.servers = ss ++ [last] ∧ last.failures ≤ f.intervalsWithoutTwo + 1) :
    f.checkBlocked.1.prune.Unheard := by
  have hnone : f.servers.countP ServerStatus.responded = 0 :=
    countP_eq_zero.mpr fun s hs => by rw [(hservers s hs).1]; exact Bool.false_ne_true
  have htrack : f.tracking = false := by
    rw [tracking]
    rcases hstate with hstate | hstate <;> rw [hstate]
  obtain ⟨ss, last, heq, hfail⟩ := hlast
  by_cases hfew : saturatingSucc f.intervalsWithoutTwo < 3
  · have hblocked : f.checkBlocked.1 =
        { f with intervalsWithoutTwo := saturatingSucc f.intervalsWithoutTwo } := by
      simp [checkBlocked, htrack, hfew]
    rw [hblocked]
    refine of_prune hstate hservers ⟨ss, last, heq, fun _ => ?_⟩
    simp only [saturatingSucc] at hfew ⊢
    omega
  · obtain ⟨endpoint, hblocked⟩ : ∃ endpoint, f.checkBlocked.1 =
        { f with
          intervalsWithoutTwo := saturatingSucc f.intervalsWithoutTwo
          state := .blocked
          endpoint } := by
      rcases hstate with hstate | hstate
      · exact ⟨none, by simp [checkBlocked, htrack, hfew, hnone, hstate]⟩
      · exact ⟨f.endpoint, by simp [checkBlocked, htrack, hfew, hnone, hstate]⟩
    rw [hblocked]
    exact of_prune (Or.inr rfl) hservers ⟨ss, last, heq, fun h => absurd rfl h⟩

lemma poll (h : f.Unheard) (now : ℕ) : (f.poll now).1.Unheard := by
  have hpoll : f.toPoll ≠ [] := by
    rw [h.toPoll_eq, Ne, map_eq_nil_iff]
    exact h.servers_ne_nil
  rw [poll_fst f now hpoll]
  refine of_checkBlocked h.state ?_ ?_
  · exact forall_asked (fun _ _ => ⟨rfl, rfl⟩) f.toPoll h.servers
  · obtain ⟨ss, last, heq, hfail⟩ := h.last
    obtain ⟨ss', last', heq', hfail'⟩ := asked_last now ss last
    refine ⟨ss', last', ?_, hfail'.trans (Nat.succ_le_succ hfail)⟩
    simp only [h.toPoll_eq, heq]
    exact heq'

end Unheard

/-! ## The invariant -/

structure Timely (f : Finder) : Prop where
  searchTicks : 0 < f.searchTicks
  repeatTicks : 0 < f.repeatTicks
  requested : ∀ q ∈ f.lastRequestTick, f.tracking = true ∧ ∃ last ∈ f.lastPollTick,
    last ≤ f.currentTick ∧ f.currentTick < last + f.repeatTicks

structure Sane (f : Finder) : Prop extends Timely f where
  left : f.heard = true ∨ f.Unheard

lemma Keeps.timely {f g : Finder} (hkeeps : f.Keeps g) (h : f.Timely) : g.Timely where
  searchTicks := hkeeps.searchTicks ▸ h.searchTicks
  repeatTicks := hkeeps.repeatTicks ▸ h.repeatTicks
  requested := by
    rw [hkeeps.lastRequestTick, hkeeps.tracking, hkeeps.lastPollTick, hkeeps.currentTick,
      hkeeps.repeatTicks]
    exact h.requested

section Poll

variable {f : Finder}

lemma timely_poll (hS : 0 < f.searchTicks) (hR : 0 < f.repeatTicks)
    (hopen : ∀ q ∈ f.lastRequestTick, f.tracking = true) : (f.poll f.currentTick).1.Timely := by
  by_cases hpoll : f.toPoll = []
  · rw [poll_of_nobody f hpoll]
    refine (keeps_prune _).timely ⟨hS, hR, ?_⟩
    exact fun q hq => ⟨hopen q hq, f.currentTick, rfl, le_rfl, Nat.lt_add_of_pos_right hR⟩
  · rw [poll_fst f _ hpoll]
    refine (keeps_prune _).timely ((keeps_checkBlocked _).timely ⟨hS, hR, ?_⟩)
    intro q hq
    refine ⟨?_, f.currentTick, rfl, le_rfl, Nat.lt_add_of_pos_right hR⟩
    simp only at hq
    split_ifs at hq with hfirst
    · exact hfirst.1
    · exact hopen q hq

lemma heard_poll (hheard : f.heard = true) (now : ℕ) : (f.poll now).1.heard = true := by
  by_cases hpoll : f.toPoll = []
  · rw [poll_of_nobody f hpoll]
    exact (keeps_prune _).heard hheard
  · rw [poll_fst f _ hpoll]
    refine (keeps_prune _).heard ((keeps_checkBlocked _).heard ?_)
    exact any_asked (p := ServerStatus.everResponded) (fun _ h => h) f.toPoll hheard

lemma sane_poll (hS : 0 < f.searchTicks) (hR : 0 < f.repeatTicks)
    (hleft : f.heard = true ∨ f.Unheard) (hopen : ∀ q ∈ f.lastRequestTick, f.tracking = true) :
    (f.poll f.currentTick).1.Sane :=
  ⟨timely_poll hS hR hopen, hleft.imp (heard_poll · _) (·.poll _)⟩

end Poll

namespace Sane

variable {f : Finder}

lemma servers_ne_nil (h : f.Sane) : f.servers ≠ [] := by
  rcases h.left with hheard | hunheard
  · intro hnil
    rw [heard, hnil] at hheard
    exact Bool.false_ne_true hheard
  · exact hunheard.servers_ne_nil

lemma left_beforePoll (h : f.Sane) : f.beforePoll.heard = true ∨ f.beforePoll.Unheard := by
  rw [beforePoll]
  split_ifs with hsilent
  · have hheard : f.heard = true := h.left.resolve_right fun hunheard =>
      Bool.false_ne_true (hunheard.tracking_eq.symm.trans hsilent.1)
    exact Or.inl ((heard_map (p := ServerStatus.forget) (fun _ => rfl) f.servers).trans hheard)
  · exact h.left.imp id fun hunheard => ⟨hunheard.state, hunheard.servers, hunheard.last⟩

lemma requested_beforePoll (h : f.Sane) :
    ∀ q ∈ f.beforePoll.lastRequestTick, f.beforePoll.tracking = true ∧
      ∃ last ∈ f.beforePoll.lastPollTick, last ≤ f.beforePoll.currentTick ∧
        (f.beforePoll.pollDue (f.currentTick + 1) = false →
          f.beforePoll.currentTick < last + f.beforePoll.repeatTicks) := by
  rw [beforePoll]
  split_ifs with hsilent
  · exact fun q hq => absurd hq (Option.not_mem_none q)
  · intro q hq
    obtain ⟨htrack, last, hlast, hle, hlt⟩ := h.requested q hq
    refine ⟨htrack, last, hlast, Nat.le_succ_of_le hle, fun hdue => ?_⟩
    have hinterval : ({ f with currentTick := f.currentTick + 1 } : Finder).chooseInterval =
        f.repeatTicks := chooseInterval_of_tracking htrack
    by_contra hover
    refine Bool.false_ne_true (hdue.symm.trans ?_)
    rw [pollDue_eq_true_iff (by rw [hinterval]; exact h.repeatTicks), hinterval]
    intro last' hlast'
    rw [show last' = last from Option.some.inj (hlast'.symm.trans hlast)]
    exact not_lt.mp hover

lemma tick (h : f.Sane) : f.stunProcessTick.1.Sane := by
  have hS : f.beforePoll.searchTicks = f.searchTicks := by rw [beforePoll]; split_ifs <;> rfl
  have hR : f.beforePoll.repeatTicks = f.repeatTicks := by rw [beforePoll]; split_ifs <;> rfl
  have hclock : f.currentTick + 1 = f.beforePoll.currentTick := by rw [beforePoll]; split_ifs <;> rfl
  rw [stunProcessTick_fst]
  split_ifs with hdue
  · rw [hclock]
    exact sane_poll (hS ▸ h.searchTicks) (hR ▸ h.repeatTicks) h.left_beforePoll
      fun q hq => (h.requested_beforePoll q hq).1
  · refine ⟨⟨hS ▸ h.searchTicks, hR ▸ h.repeatTicks, fun q hq => ?_⟩, h.left_beforePoll⟩
    obtain ⟨htrack, last, hlast, hle, hlt⟩ := h.requested_beforePoll q hq
    exact ⟨htrack, last, hlast, hle, hlt (eq_false_of_ne_true hdue)⟩

lemma packet (h : f.Sane) (src : SocketAddr) (data : List UInt8) :
    (f.processPacket src data).1.Sane := by
  rw [processPacket, recomputeStateAndNotify_fst]
  refine ⟨⟨h.searchTicks, h.repeatTicks, fun _ hq => absurd hq (Option.not_mem_none _)⟩, ?_⟩
  rcases h.left with hheard | hunheard
  · exact Or.inl (any_modifyServer (fun _ _ => rfl) hheard)
  · rcases modifyServer_eq_or_mem src (ServerStatus.answer (parseXorMappedAddress data))
      f.servers with hsame | ⟨s, hs⟩
    · have hnone : f.servers.filterMap ServerStatus.endpoint = [] :=
        filterMap_eq_nil_iff.mpr fun s hs => (hunheard.servers s hs).2
      simp only [hsame, hnone, assess]
      exact Or.inr ⟨Or.inl rfl, hunheard.servers, hunheard.last⟩
    · exact Or.inl (any_eq_true.mpr ⟨_, hs, rfl⟩)

lemma reset (h : f.Sane) : f.resetState.Sane where
  searchTicks := h.searchTicks
  repeatTicks := h.repeatTicks
  requested := fun _ hq => absurd hq (Option.not_mem_none _)
  left := by
    rcases h.left with hheard | hunheard
    · exact Or.inl ((heard_map (p := ServerStatus.forget) (fun _ => rfl) f.servers).trans hheard)
    · obtain ⟨ss, last, heq, -⟩ := hunheard.last
      refine Or.inr ⟨Or.inl rfl, ?_, ss.map ServerStatus.forget, last.forget, ?_, le_rfl⟩
      · intro s hs
        obtain ⟨s', -, rfl⟩ := mem_map.mp hs
        exact ⟨rfl, rfl⟩
      · simp [resetState, heq]

lemma init (server : SocketAddr) (others : List SocketAddr) (searchTimeMs repeatTimeMs : ℕ) :
    (Finder.init (server :: others) searchTimeMs repeatTimeMs).Sane where
  searchTicks := lt_max_of_lt_right one_pos
  repeatTicks := lt_max_of_lt_right one_pos
  requested := fun _ hq => absurd hq (Option.not_mem_none _)
  left := by
    refine Or.inr ⟨Or.inl rfl, ?_, ?_⟩
    · intro s hs
      obtain ⟨addr, -, rfl⟩ := mem_map.mp hs
      exact ⟨rfl, rfl⟩
    · have hne : server :: others ≠ [] := cons_ne_nil server others
      refine ⟨(server :: others).dropLast.map fun addr => { addr },
        { addr := (server :: others).getLast hne }, ?_, le_rfl⟩
      rw [Finder.init]
      conv_lhs => rw [← dropLast_append_getLast hne]
      rw [map_append, map_singleton]

end Sane

lemma sane_step {f : Finder} (h : f.Sane) (e : Event) : (f.step e).Sane := by
  cases e with
  | tick => exact h.tick
  | packet src data => exact h.packet src data
  | reset => exact h.reset
  | init server others searchTimeMs repeatTimeMs =>
    exact Sane.init server others searchTimeMs repeatTimeMs

lemma sane_run (server : SocketAddr) (others : List SocketAddr) (searchTimeMs repeatTimeMs : ℕ)
    (es : List Event) :
    (Lib.run step (.init (server :: others) searchTimeMs repeatTimeMs) es).Sane :=
  Lib.run_invariant (I := Sane) (P := fun _ _ => True) (fun _ e h _ => sane_step h e)
    (Sane.init server others searchTimeMs repeatTimeMs)
    (Lib.along_of_forall_mem (fun _ _ => trivial) _)

/-- **The server list survives.**  From any list of one server or more, whether or not it has an
address twice, no state that is passed through is without servers. -/
theorem server_list_survives (server : SocketAddr) (others : List SocketAddr)
    (searchTimeMs repeatTimeMs : ℕ) (es : List Event) :
    Lib.Always step (fun f => f.servers ≠ []) (.init (server :: others) searchTimeMs repeatTimeMs)
      es := by
  rw [Lib.always_iff_prefix]
  intro fs _
  exact (sane_run server others searchTimeMs repeatTimeMs fs).servers_ne_nil

end Finder

end Bingle.Stun
