import Bingle.Stun.Classification

/-!
# When silence ends the tracking

`last_request_tick` is the first request since the last packet, and the timeout runs from there.
`watch` keeps beside the finder when the first poll since the last packet was.
-/

namespace Bingle.Stun.Finder

open Option

variable {f : Finder}

/-- The finder says that it has no address within so many ticks of silence. -/
def revertsWithin : ℕ → Finder → Bool
  | 0, _ => false
  | n + 1, f => (f.stunProcessTick.2.contains (.stateChange .none none) &&
      f.stunProcessTick.1.state == .none) || revertsWithin n f.stunProcessTick.1

def watch (w : Finder × Option ℕ) (e : Event) : Finder × Option ℕ :=
  (w.1.step e,
    match e with
    | .tick => w.2.or
        (if w.1.stunProcessTick.2.any Output.isRequest then some (w.1.currentTick + 1) else none)
    | _ => none)

lemma silent_of_told (h : .stateChange .none none ∈ f.stunProcessTick.2) :
    f.tracking = true ∧ f.silent (f.currentTick + 1) = true := by
  by_contra hsilent
  have hcb : (StunState.none, none) ∈ f.stunProcessTick.2.filterMap callback :=
    List.mem_filterMap.mpr ⟨_, h, rfl⟩
  rw [stunProcessTick_eq, notice, if_neg hsilent] at hcb
  obtain ⟨-, ⟨-, hout⟩ | ⟨-, hout, -⟩⟩ := f.beforePoll.poll_cases (f.currentTick + 1) <;>
    split_ifs at hcb <;> simp [hout] at hcb

lemma told_of_silent (htrack : f.tracking = true) (hsilent : f.silent (f.currentTick + 1) = true) :
    .stateChange .none none ∈ f.stunProcessTick.2 ∧ f.stunProcessTick.1.state = .none := by
  have hbefore := beforePoll_of_silent htrack hsilent
  have hpoll := (f.beforePoll.poll_cases (f.currentTick + 1)).2
  have hnotice : f.notice = [.stateChange .none none] := if_pos ⟨htrack, hsilent⟩
  rw [stunProcessTick_eq, hnotice]
  split_ifs
  · refine ⟨by simp, ?_⟩
    obtain ⟨hview, -⟩ | ⟨-, -, -, -, hcount⟩ := hpoll
    · rw [hbefore] at hview ⊢
      exact congrArg Prod.fst hview
    · rw [hbefore] at hcount
      exact absurd hcount (by simp [reverted])
  · exact ⟨by simp, by rw [hbefore]; rfl⟩

lemma tick_of_not_silent (htrack : f.tracking = true)
    (hsilent : f.silent (f.currentTick + 1) = false) :
    f.stunProcessTick.1.tracking = true ∧
      f.stunProcessTick.1.noResponseTicks = f.noResponseTicks ∧
      f.stunProcessTick.1.repeatTicks = f.repeatTicks ∧
      f.stunProcessTick.1.currentTick = f.currentTick + 1 ∧
      f.stunProcessTick.1.lastResponseTick = f.lastResponseTick ∧
      f.stunProcessTick.1.lastRequestTick = f.lastRequestTick.or
        (if f.stunProcessTick.2.any Output.isRequest then some (f.currentTick + 1) else none) := by
  have hkeeps := f.beforePoll.keeps_poll (f.currentTick + 1)
  have hframe := f.beforePoll.frame_poll (f.currentTick + 1)
  rw [stunProcessTick_requests, stunProcessTick_fst]
  rw [beforePoll_of_not_silent hsilent] at hkeeps hframe ⊢
  split_ifs with hdue hpoll hpoll
  · refine ⟨hkeeps.tracking.trans htrack, hframe.limit, hkeeps.repeatTicks, hkeeps.currentTick,
      hframe.response, hkeeps.lastRequestTick.trans ?_⟩
    have htrack' : ({ f with currentTick := f.currentTick + 1 } : Finder).tracking = true := htrack
    have hto : ({ f with currentTick := f.currentTick + 1 } : Finder).toPoll ≠ [] := by
      simpa [hdue] using hpoll
    simp only [asking, htrack', hto, ne_eq, not_false_eq_true, true_and]
    cases f.lastRequestTick <;> simp
  · refine ⟨hkeeps.tracking.trans htrack, hframe.limit, hkeeps.repeatTicks, hkeeps.currentTick,
      hframe.response, hkeeps.lastRequestTick.trans ?_⟩
    have hto : ({ f with currentTick := f.currentTick + 1 } : Finder).toPoll = [] := by
      simpa [hdue] using hpoll
    simp [asking, hto]
  · simp [hdue] at hpoll
  · exact ⟨htrack, rfl, rfl, rfl, rfl, by simp⟩

lemma revertsWithin_of_silent (htrack : f.tracking = true)
    (hsilent : f.silent (f.currentTick + 1) = true) (n : ℕ) : revertsWithin (n + 1) f = true := by
  obtain ⟨htold, hstate⟩ := told_of_silent htrack hsilent
  simp [revertsWithin, htold, hstate]

variable {n : ℕ} {w : Finder × Option ℕ}

lemma revertsWithin_succ (h : revertsWithin n f.stunProcessTick.1 = true) :
    revertsWithin (n + 1) f = true := by
  simp [revertsWithin, h]

lemma revertsWithin_of_asked (htrack : f.tracking = true) {q : ℕ} (hq : f.unanswered = some q)
    (hlate : q + f.noResponseTicks < f.currentTick + n) (hn : 0 < n) :
    revertsWithin n f = true := by
  induction n generalizing f with
  | zero => exact absurd hn (lt_irrefl 0)
  | succ n ih =>
    by_cases hsilent : f.silent (f.currentTick + 1) = true
    · exact revertsWithin_of_silent htrack hsilent n
    · have hearly : f.currentTick + 1 ≤ q + f.noResponseTicks := by
        by_contra hlt
        exact hsilent ((f.silent_eq_true_iff _).mpr ⟨q, hq, not_le.mp hlt⟩)
      obtain ⟨htrack', hlimit, -, hclock, hresp, hreq⟩ :=
        tick_of_not_silent htrack (eq_false_of_ne_true hsilent)
      have hsame : f.stunProcessTick.1.lastRequestTick = f.lastRequestTick := by
        rw [hreq, mem_lastRequestTick_of_unanswered hq, some_or]
      refine revertsWithin_succ (ih htrack' ?_ (by omega) (by omega))
      rw [unanswered, hresp, hsame]
      exact hq

lemma revertsWithin_of_unasked (htrack : f.tracking = true) (hR : 0 < f.repeatTicks)
    (hservers : f.servers ≠ []) (hnone : f.lastRequestTick = none)
    (hresp : ∀ r ∈ f.lastResponseTick, r ≤ f.currentTick) {k : ℕ} (hk : 0 < k)
    (hdue : ∀ last ∈ f.lastPollTick, last + f.repeatTicks ≤ f.currentTick + k) :
    revertsWithin (k + f.noResponseTicks + 1) f = true := by
  induction k generalizing f with
  | zero => exact absurd hk (lt_irrefl 0)
  | succ k ih =>
    have hsilent : f.silent (f.currentTick + 1) = false := by simp [silent, hnone]
    have hbefore := beforePoll_of_not_silent hsilent
    have hto : f.beforePoll.toPoll ≠ [] := by
      rw [hbefore]
      show f.toPoll ≠ []
      rw [toPoll_of_tracking htrack]
      simpa using hservers
    obtain ⟨htrack', hlimit, hrep, hclock, hresp', hreq⟩ := tick_of_not_silent htrack hsilent
    rw [stunProcessTick_requests, decide_eq_true hto, Bool.and_true, hnone, none_or] at hreq
    rw [show k + 1 + f.noResponseTicks + 1 = k + f.noResponseTicks + 1 + 1 by omega]
    refine revertsWithin_succ ?_
    by_cases hnow : f.beforePoll.pollDue (f.currentTick + 1) = true
    · rw [if_pos hnow] at hreq
      refine revertsWithin_of_asked htrack' (q := f.currentTick + 1) ?_ (by omega) (by omega)
      rw [unanswered, hresp', hreq, filter_some, if_pos]
      rw [all_eq_true]
      exact fun r hr => decide_eq_true (Nat.lt_succ_of_le (hresp r hr))
    · obtain ⟨last, hlast, hlater⟩ := exists_later (pollDue_of_tracking htrack hR hsilent) hnow
      have hfst : f.stunProcessTick.1 = { f with currentTick := f.currentTick + 1 } := by
        rw [stunProcessTick_fst, if_neg hnow, hbefore]
      rw [hfst]
      have hlast' := hdue last hlast
      refine ih (f := { f with currentTick := f.currentTick + 1 }) htrack hR hservers hnone
        (fun r hr => (hresp r hr).trans (Nat.le_succ _)) (by omega) fun l hl => ?_
      rw [show l = last from some.inj (hl.symm.trans hlast)]
      simp only
      omega

/-! ## Runs without reset -/

structure Anchored (w : Finder × Option ℕ) : Prop where
  manned : w.1.Sane ∨ w.1.servers = [] ∧ w.1.tracking = false
  clock : ∀ last ∈ w.1.lastPollTick, last ≤ w.1.currentTick
  anchor : w.1.tracking = true → w.1.lastRequestTick = w.2
  request : ∀ q ∈ w.2, q ≤ w.1.currentTick
  response : ∀ r ∈ w.1.lastResponseTick, r ≤ w.1.currentTick ∧ ∀ q ∈ w.2, r < q

lemma manned_step (h : f.Sane ∨ f.servers = [] ∧ f.tracking = false) (e : Event) :
    (f.step e).Sane ∨ (f.step e).servers = [] ∧ (f.step e).tracking = false := by
  rcases h with h | ⟨hnil, hsearch⟩
  · exact .inl (sane_step h e)
  cases e with
  | tick =>
    have haddrs := Watched.addrs_tick f
    rw [hnil] at haddrs
    refine .inr ⟨by simpa [step] using haddrs, ?_⟩
    rw [step, stunProcessTick_fst]
    split_ifs
    · rw [(f.beforePoll.keeps_poll _).tracking, beforePoll_of_searching hsearch]
      exact hsearch
    · rw [beforePoll_of_searching hsearch]
      exact hsearch
  | packet src data =>
    refine .inr ?_
    rw [step, processPacket, recomputeStateAndNotify_fst, hnil]
    exact ⟨rfl, rfl⟩
  | reset => exact .inr ⟨by simp [step, resetState, hnil], rfl⟩
  | init server others _ _ => exact .inl (Sane.init server others _ _)

lemma Anchored.tick (h : Anchored w) : Anchored (watch w .tick) := by
  obtain ⟨f, q⟩ := w
  have hclock := Watched.tick_clock f
  have hlast : ∀ last ∈ f.stunProcessTick.1.lastPollTick, last ≤ f.currentTick + 1 := by
    rw [stunProcessTick_fst]
    have hbefore : f.beforePoll.lastPollTick = f.lastPollTick := by
      rw [beforePoll]
      split_ifs <;> rfl
    split_ifs
    · rw [(f.beforePoll.keeps_poll _).lastPollTick]
      exact fun last hl => (some.inj hl).ge
    · rw [hbefore]
      exact fun last hl => (h.clock last hl).trans (Nat.le_succ _)
  have hfirst : ∀ t ∈ (watch (f, q) .tick).2, t ∈ q ∨ t = f.currentTick + 1 := by
    intro t ht
    simp only [watch] at ht
    cases q with
    | some _ => exact .inl ht
    | none =>
      split_ifs at ht
      · exact .inr (some.inj ht).symm
      · exact absurd ht (not_mem_none t)
  refine ⟨manned_step h.manned .tick, ?_, ?_, ?_, ?_⟩
  · exact fun last hl => (hlast last hl).trans hclock.1.ge
  · intro htrack
    have hbefore : f.beforePoll.tracking = true := by
      have htrack : f.stunProcessTick.1.tracking = true := htrack
      rw [stunProcessTick_fst] at htrack
      split_ifs at htrack
      · exact (f.beforePoll.keeps_poll _).tracking.symm.trans htrack
      · exact htrack
    rw [beforePoll] at hbefore
    split_ifs at hbefore with hsilent
    · exact absurd hbefore Bool.false_ne_true
    · have htrackf : f.tracking = true := hbefore
      have hnot : f.silent (f.currentTick + 1) = false := by simpa [htrackf] using hsilent
      obtain ⟨-, -, -, -, -, hreq⟩ := tick_of_not_silent htrackf hnot
      rw [h.anchor htrackf] at hreq
      exact hreq
  · intro t ht
    refine le_of_le_of_eq ?_ hclock.1.symm
    rcases hfirst t ht with hq | rfl
    · exact (h.request t hq).trans (Nat.le_succ _)
    · exact le_rfl
  · intro r hr
    obtain ⟨hle, hlt⟩ := h.response r (hclock.2 r hr)
    refine ⟨(hle.trans (Nat.le_succ _)).trans hclock.1.ge, fun t ht => ?_⟩
    rcases hfirst t ht with hq | rfl
    · exact hlt t hq
    · exact Nat.lt_succ_of_le hle

lemma Anchored.step (h : Anchored w) {e : Event} (he : e ≠ .reset) :
    Anchored (watch w e) := by
  cases e with
  | tick => exact h.tick
  | packet src data =>
    refine ⟨manned_step h.manned (.packet src data), ?_, ?_, ?_, ?_⟩
    all_goals simp only [watch, Finder.step, processPacket, recomputeStateAndNotify_fst]
    · exact h.clock
    · exact fun _ => trivial
    · exact fun q hq => absurd hq (not_mem_none q)
    · exact fun r hr => ⟨(some.inj hr).ge, fun q hq => absurd hq (not_mem_none q)⟩
  | reset => exact absurd rfl he
  | init server others searchTimeMs repeatTimeMs =>
    exact ⟨manned_step h.manned (.init ..), fun _ hl => absurd hl (not_mem_none _), fun _ => rfl,
      fun _ hq => absurd hq (not_mem_none _), fun _ hr => absurd hr (not_mem_none _)⟩

lemma anchored_start (servers : List SocketAddr) (searchTimeMs repeatTimeMs limit : ℕ) :
    Anchored ({ init servers searchTimeMs repeatTimeMs with noResponseTicks := limit }, none) := by
  refine ⟨?_, fun _ hl => absurd hl (not_mem_none _), fun _ => rfl,
    fun _ hq => absurd hq (not_mem_none _), fun _ hr => absurd hr (not_mem_none _)⟩
  cases servers with
  | nil => exact .inr ⟨rfl, rfl⟩
  | cons server others =>
    have h := Sane.init server others searchTimeMs repeatTimeMs
    exact .inl ⟨⟨h.searchTicks, h.repeatTicks, h.requested⟩, h.left.imp id
      fun hun => ⟨hun.state, hun.servers, hun.last⟩⟩

/-- **The silence timeout.**  In every state of a run without reset: a finder that tracks reverts,
if no packet arrives, within the repeat interval, the limit and one tick, and tells the callback;
and a tick that tells of a silence comes after the limit from the first poll since the last packet.
-/
theorem silence_timeout (servers : List SocketAddr) (searchTimeMs repeatTimeMs limit : ℕ)
    (es : List Event) (hreset : ∀ e ∈ es, e ≠ .reset) :
    let w := Lib.run watch
      ({ init servers searchTimeMs repeatTimeMs with noResponseTicks := limit }, none) es
    (w.1.tracking = true →
      revertsWithin (w.1.repeatTicks + w.1.noResponseTicks + 1) w.1 = true) ∧
    (.stateChange .none none ∈ w.1.stunProcessTick.2 →
      ∃ q ∈ w.2, q + w.1.noResponseTicks < w.1.currentTick + 1) := by
  intro w
  have h : Anchored w := Lib.run_invariant (I := Anchored) (P := fun _ e => e ≠ .reset)
    (fun _ _ h he => h.step he) (anchored_start servers searchTimeMs repeatTimeMs limit)
    (Lib.along_of_forall_mem hreset _)
  refine ⟨fun htrack => ?_, fun htold => ?_⟩
  · have hsane : w.1.Sane := h.manned.resolve_right fun hidle =>
      Bool.false_ne_true (hidle.2.symm.trans htrack)
    cases hq : w.2 with
    | none =>
      exact revertsWithin_of_unasked htrack hsane.repeatTicks hsane.servers_ne_nil
        ((h.anchor htrack).trans hq) (fun r hr => (h.response r hr).1) hsane.repeatTicks
        fun last hl => Nat.add_le_add_right (h.clock last hl) _
    | some q =>
      have hle := h.request q hq
      refine revertsWithin_of_asked htrack (q := q) ?_ (by omega) (by omega)
      rw [unanswered, h.anchor htrack, hq, filter_some, if_pos]
      rw [all_eq_true]
      exact fun r hr => decide_eq_true ((h.response r hr).2 q hq)
  · obtain ⟨htrack, hsilent⟩ := silent_of_told htold
    obtain ⟨q, hq, hlate⟩ := (w.1.silent_eq_true_iff _).mp hsilent
    exact ⟨q, (h.anchor htrack) ▸ mem_lastRequestTick_of_unanswered hq, hlate⟩

def exampleRun : List Event :=
  [.tick, .packet exampleServer (exampleAnswer 12),
    .packet Watched.otherServer (exampleAnswer 12), .tick, .tick]

theorem silence_timeout_of_two :
    let w := Lib.run watch ({ init [exampleServer, Watched.otherServer] 100 200 with
      noResponseTicks := 3 }, none) exampleRun
    w.1.tracking = true ∧ revertsWithin (w.1.repeatTicks + w.1.noResponseTicks + 1) w.1 = true :=
  have h := silence_timeout [exampleServer, Watched.otherServer] 100 200 3 exampleRun (by decide)
  ⟨by decide, h.1 (by decide)⟩

end Bingle.Stun.Finder
