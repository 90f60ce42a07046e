import Bingle.Stun.Servers

/-!
# Polling never stalls, and when it does

Within the interval that `choose_interval` gives, some server should be asked.  A reset sets the
clock back, and not the tick of the last poll; servers that have answered are not asked, also where
the answer was of no use; and a silence may end the tracking too late for a poll.
-/

namespace Bingle.Stun

def Output.isRequest : Output → Bool
  | .sendPacket _ _ => true
  | _ => false

namespace Finder

/-- A request goes out within so many ticks if nothing arrives. -/
def polledWithin : ℕ → Finder → Bool
  | 0, _ => false
  | n + 1, f => f.stunProcessTick.2.any Output.isRequest || polledWithin n f.stunProcessTick.1

lemma poll_requests (f : Finder) (now : ℕ) :
    (f.poll now).2.any Output.isRequest = decide (f.toPoll ≠ []) := by
  have htoPoll : ({ f with lastPollTick := some now } : Finder).toPoll = f.toPoll := rfl
  simp only [poll, htoPoll]
  split_ifs with h
  · obtain ⟨a, rest, hcons⟩ := List.exists_cons_of_ne_nil h
    simp [askAll_eq, hcons, Output.isRequest]
  · simp [not_not.mp h]

lemma stunProcessTick_requests (f : Finder) :
    f.stunProcessTick.2.any Output.isRequest =
      (f.beforePoll.pollDue (f.currentTick + 1) && decide (f.beforePoll.toPoll ≠ [])) := by
  have hquiet : f.notice.any Output.isRequest = false := by rw [notice]; split_ifs <;> rfl
  rw [stunProcessTick_eq]
  split_ifs with hdue
  · simp [hdue, hquiet, poll_requests]
  · simp [hdue, hquiet]

lemma polledWithin_of_due {f : Finder} (hdue : f.beforePoll.pollDue (f.currentTick + 1) = true)
    (hpoll : f.beforePoll.toPoll ≠ []) (n : ℕ) : polledWithin (n + 1) f = true := by
  rw [polledWithin, stunProcessTick_requests, hdue, decide_eq_true hpoll]
  rfl

lemma polledWithin_of_not_due {f : Finder}
    (hdue : f.beforePoll.pollDue (f.currentTick + 1) = false) (n : ℕ) :
    polledWithin (n + 1) f = polledWithin n f.beforePoll := by
  rw [polledWithin, stunProcessTick_requests, stunProcessTick_fst, hdue]
  rfl

/-! ## Searching -/

lemma beforePoll_of_searching {f : Finder} (hsearch : f.tracking = false) :
    f.beforePoll = { f with currentTick := f.currentTick + 1 } := by
  rw [beforePoll, if_neg (by simp [hsearch])]

lemma pollDue_of_searching {f : Finder} (hsearch : f.tracking = false) (hpos : 0 < f.searchTicks) :
    f.beforePoll.pollDue (f.currentTick + 1) = true ↔
      ∀ last ∈ f.lastPollTick, last + f.searchTicks ≤ f.currentTick + 1 := by
  have hinterval := chooseInterval_of_searching hsearch
  rw [beforePoll_of_searching hsearch]
  have h := pollDue_eq_true_iff (f := f) (hinterval ▸ hpos) (f.currentTick + 1)
  rw [hinterval] at h
  exact h

section Due

variable {due : Bool} {lastPollTick : Option ℕ} {ticks now : ℕ}

lemma eq_false_of_early (hiff : due = true ↔ ∀ last ∈ lastPollTick, last + ticks ≤ now) {last : ℕ}
    (hlast : lastPollTick = some last) (hearly : now < last + ticks) : due = false := by
  rw [← Bool.not_eq_true, hiff]
  intro hdue
  exact absurd (hdue last hlast) (by omega)

lemma exists_later (hiff : due = true ↔ ∀ last ∈ lastPollTick, last + ticks ≤ now)
    (hnow : ¬ due = true) : ∃ last, lastPollTick = some last ∧ now < last + ticks := by
  rw [hiff] at hnow
  push Not at hnow
  exact hnow

end Due

variable {n last q : ℕ}

lemma polledWithin_of_searching {f : Finder} (hsearch : f.tracking = false)
    (hpos : 0 < f.searchTicks) (hpoll : f.toPoll ≠ []) (hn : 0 < n)
    (hdue : ∀ last ∈ f.lastPollTick, last + f.searchTicks ≤ f.currentTick + n) :
    polledWithin n f = true := by
  induction n generalizing f with
  | zero => exact absurd hn (lt_irrefl 0)
  | succ n ih =>
    by_cases hnow : f.beforePoll.pollDue (f.currentTick + 1) = true
    · refine polledWithin_of_due hnow ?_ n
      rw [beforePoll_of_searching hsearch]
      exact hpoll
    · rw [polledWithin_of_not_due (eq_false_of_ne_true hnow), beforePoll_of_searching hsearch]
      obtain ⟨last, hlast, hlater⟩ := exists_later (pollDue_of_searching hsearch hpos) hnow
      refine ih (f := { f with currentTick := f.currentTick + 1 }) hsearch hpos hpoll ?_ ?_
      · have := hdue last hlast
        omega
      · intro last' hlast'
        have := hdue last' hlast'
        simp only
        omega

lemma not_polledWithin_of_searching {f : Finder} (hsearch : f.tracking = false)
    (hpos : 0 < f.searchTicks) (hlast : f.lastPollTick = some last)
    (hearly : f.currentTick + n < last + f.searchTicks) : polledWithin n f = false := by
  induction n generalizing f with
  | zero => rfl
  | succ n ih =>
    have hnow := eq_false_of_early (pollDue_of_searching hsearch hpos) hlast (by omega)
    rw [polledWithin_of_not_due hnow, beforePoll_of_searching hsearch]
    refine ih (f := { f with currentTick := f.currentTick + 1 }) hsearch hpos hlast ?_
    simp only
    omega

lemma not_polledWithin_of_nobody {f : Finder} (hstate : f.state = .none ∨ f.state = .single)
    (hnobody : ∀ s ∈ f.servers, s.responded = true) (n : ℕ) : polledWithin n f = false := by
  induction n generalizing f with
  | zero => rfl
  | succ n ih =>
    have hsearch : f.tracking = false := by
      rw [tracking]
      rcases hstate with h | h <;> rw [h]
    have htoPoll : f.toPoll = [] := by
      rw [toPoll]
      rcases hstate with h | h <;> simp [h] <;> simpa using hnobody
    have hnone : f.beforePoll.toPoll = [] := by
      rw [beforePoll_of_searching hsearch]
      exact htoPoll
    rw [polledWithin, stunProcessTick_requests, decide_eq_false (not_not_intro hnone),
      Bool.and_false, Bool.false_or, stunProcessTick_fst]
    split_ifs
    · have hblocked : f.state ≠ .blocked := by
        rcases hstate with h | h <;> rw [h] <;> decide
      rw [poll_of_nobody _ hnone, beforePoll_of_searching hsearch, prune, if_neg hblocked]
      exact ih hstate fun s hs => hnobody s (List.mem_of_mem_filter hs)
    · rw [beforePoll_of_searching hsearch]
      exact ih (f := { f with currentTick := f.currentTick + 1 }) hstate hnobody

/-! ## Tracking -/

lemma toPoll_of_tracking {f : Finder} (htrack : f.tracking = true) :
    f.toPoll = f.servers.map ServerStatus.addr := by
  rw [tracking] at htrack
  rw [toPoll]
  cases hstate : f.state <;> simp_all

lemma toPoll_reverted (f : Finder) : f.reverted.toPoll = f.servers.map ServerStatus.addr := by
  have hall : (f.servers.map ServerStatus.forget).filter (fun s => !s.responded) =
      f.servers.map ServerStatus.forget :=
    List.filter_eq_self.mpr (by simp [ServerStatus.forget])
  simp only [toPoll, reverted, hall, List.map_map]
  rfl

def unanswered (f : Finder) : Option ℕ :=
  f.lastRequestTick.filter fun q => f.lastResponseTick.all fun r => r < q

lemma silent_eq_true_iff (f : Finder) (now : ℕ) :
    f.silent now = true ↔ ∃ q ∈ f.unanswered, q + f.noResponseTicks < now := by
  rw [silent, unanswered]
  cases f.lastRequestTick with
  | none => simp
  | some q =>
    cases f.lastResponseTick with
    | none =>
      simp
      omega
    | some r =>
      simp [Option.filter]
      by_cases hr : r < q <;> simp [hr]
      omega

variable {f : Finder}

lemma beforePoll_of_silent (htrack : f.tracking = true)
    (hsilent : f.silent (f.currentTick + 1) = true) :
    f.beforePoll = ({ f with currentTick := f.currentTick + 1 } : Finder).reverted := by
  rw [beforePoll, if_pos ⟨htrack, hsilent⟩]

lemma beforePoll_of_not_silent (hsilent : f.silent (f.currentTick + 1) = false) :
    f.beforePoll = { f with currentTick := f.currentTick + 1 } := by
  rw [beforePoll, if_neg (by simp [hsilent])]

lemma pollDue_of_tracking (htrack : f.tracking = true) (hpos : 0 < f.repeatTicks)
    (hsilent : f.silent (f.currentTick + 1) = false) :
    f.beforePoll.pollDue (f.currentTick + 1) = true ↔
      ∀ last ∈ f.lastPollTick, last + f.repeatTicks ≤ f.currentTick + 1 := by
  have hinterval := chooseInterval_of_tracking htrack
  rw [beforePoll_of_not_silent hsilent]
  have h := pollDue_eq_true_iff (f := f) (hinterval ▸ hpos) (f.currentTick + 1)
  rw [hinterval] at h
  exact h

lemma pollDue_of_silent (htrack : f.tracking = true) (hpos : 0 < f.searchTicks)
    (hsilent : f.silent (f.currentTick + 1) = true) :
    f.beforePoll.pollDue (f.currentTick + 1) = true ↔
      ∀ last ∈ f.lastPollTick, last + f.searchTicks ≤ f.currentTick + 1 := by
  rw [beforePoll_of_silent htrack hsilent]
  exact pollDue_eq_true_iff (f := ({ f with currentTick := f.currentTick + 1 } : Finder).reverted)
    hpos _

lemma polledWithin_of_tracking (htrack : f.tracking = true) (hS : 0 < f.searchTicks)
    (hR : 0 < f.repeatTicks) (hservers : f.servers ≠ []) (hn : 0 < n)
    (hdue : ∀ last ∈ f.lastPollTick, last + f.repeatTicks ≤ f.currentTick + n)
    (hnext : ∀ q ∈ f.unanswered, ∀ last ∈ f.lastPollTick, f.currentTick < last + f.repeatTicks)
    (hsilence : ∀ q ∈ f.unanswered, ∀ last ∈ f.lastPollTick,
      q + f.noResponseTicks < last + f.repeatTicks → last + f.searchTicks ≤ f.currentTick + n) :
    polledWithin n f = true := by
  induction n generalizing f with
  | zero => exact absurd hn (lt_irrefl 0)
  | succ n ih =>
    by_cases hsilent : f.silent (f.currentTick + 1) = true
    · -- the silence ends here
      by_cases hnow : f.beforePoll.pollDue (f.currentTick + 1) = true
      · refine polledWithin_of_due hnow ?_ n
        rw [beforePoll_of_silent htrack hsilent, toPoll_reverted]
        simpa using hservers
      · obtain ⟨q, hq, hlate⟩ := (f.silent_eq_true_iff _).mp hsilent
        rw [polledWithin_of_not_due (eq_false_of_ne_true hnow),
          beforePoll_of_silent htrack hsilent]
        obtain ⟨last, hlast, hlater⟩ := exists_later (pollDue_of_silent htrack hS hsilent) hnow
        have hwait := hsilence q hq last hlast (by have := hnext q hq last hlast; omega)
        refine polledWithin_of_searching
          (f := ({ f with currentTick := f.currentTick + 1 } : Finder).reverted) rfl hS ?_
          (by omega) ?_
        · rw [toPoll_reverted]
          simpa using hservers
        · intro last' hlast'
          rw [show last' = last from Option.some.inj (hlast'.symm.trans hlast)]
          simp only [reverted]
          omega
    · have hsilent := eq_false_of_ne_true hsilent
      by_cases hnow : f.beforePoll.pollDue (f.currentTick + 1) = true
      · refine polledWithin_of_due hnow ?_ n
        rw [beforePoll_of_not_silent hsilent]
        show f.toPoll ≠ []
        rw [toPoll_of_tracking htrack]
        simpa using hservers
      · rw [polledWithin_of_not_due (eq_false_of_ne_true hnow), beforePoll_of_not_silent hsilent]
        obtain ⟨last, hlast, hlater⟩ := exists_later (pollDue_of_tracking htrack hR hsilent) hnow
        have hsame : ∀ last' ∈ f.lastPollTick, last' = last :=
          fun last' h => Option.some.inj (h.symm.trans hlast)
        have hlast' := hdue last hlast
        refine ih (f := { f with currentTick := f.currentTick + 1 }) htrack hS hR hservers
          (by omega) ?_ ?_ ?_
        · intro l hl
          rw [hsame l hl]
          simp only
          omega
        · intro q hq l hl
          rw [hsame l hl]
          exact hlater
        · intro q hq l hl hlt
          have := hsilence q hq l hl hlt
          simp only
          omega

lemma not_polledWithin_of_future (htrack : f.tracking = true) (hR : 0 < f.repeatTicks)
    (hopen : f.lastRequestTick = none) (hlast : f.lastPollTick = some last)
    (hearly : f.currentTick + n < last + f.repeatTicks) : polledWithin n f = false := by
  induction n generalizing f with
  | zero => rfl
  | succ n ih =>
    have hsilent : f.silent (f.currentTick + 1) = false := by simp [silent, hopen]
    have hnow := eq_false_of_early (pollDue_of_tracking htrack hR hsilent) hlast (by omega)
    rw [polledWithin_of_not_due hnow, beforePoll_of_not_silent hsilent]
    refine ih (f := { f with currentTick := f.currentTick + 1 }) htrack hR hopen hlast ?_
    simp only
    omega

lemma not_polledWithin_of_silence (htrack : f.tracking = true) (hS : 0 < f.searchTicks)
    (hR : 0 < f.repeatTicks) (hq : f.unanswered = some q)
    (hlast : f.lastPollTick = some last) (hfirst : q + f.noResponseTicks < last + f.repeatTicks)
    (hearly : f.currentTick + n < last + f.searchTicks) : polledWithin n f = false := by
  induction n generalizing f with
  | zero => rfl
  | succ n ih =>
    by_cases hsilent : f.silent (f.currentTick + 1) = true
    · have hnow := eq_false_of_early (pollDue_of_silent htrack hS hsilent) hlast (by omega)
      rw [polledWithin_of_not_due hnow, beforePoll_of_silent htrack hsilent]
      refine not_polledWithin_of_searching
        (f := ({ f with currentTick := f.currentTick + 1 } : Finder).reverted) rfl hS hlast ?_
      simp only [reverted]
      omega
    · have hlate : f.currentTick + 1 ≤ q + f.noResponseTicks := by
        rw [silent_eq_true_iff] at hsilent
        push Not at hsilent
        exact hsilent q hq
      have hsilent := eq_false_of_ne_true hsilent
      have hnow := eq_false_of_early (pollDue_of_tracking htrack hR hsilent) hlast (by omega)
      rw [polledWithin_of_not_due hnow, beforePoll_of_not_silent hsilent]
      refine ih (f := { f with currentTick := f.currentTick + 1 }) htrack hS hR hq hlast hfirst ?_
      simp only
      omega

/-! ## In every state that is reached -/

structure Live (f : Finder) : Prop where
  clock : ∀ last ∈ f.lastPollTick, last ≤ f.currentTick
  /-- a finder with fewer than two answers has a server left that has not answered -/
  unasked : f.state = .none ∨ f.state = .single → ∃ s ∈ f.servers, s.responded = false
  /-- a silence that ends the tracking before its next poll leaves time for one at the search
  interval -/
  silence : f.tracking = true → ∀ q ∈ f.unanswered, ∀ last ∈ f.lastPollTick,
    q + f.noResponseTicks < last + f.repeatTicks →
      last + f.searchTicks ≤ f.currentTick + f.repeatTicks

variable {f : Finder}

lemma mem_lastRequestTick_of_unanswered (h : q ∈ f.unanswered) : q ∈ f.lastRequestTick :=
  (Option.filter_eq_some_iff.mp h).1

lemma toPoll_ne_nil_of_searching (hservers : f.servers ≠ []) (hsearch : f.tracking = false)
    (hlive : f.Live) : f.toPoll ≠ [] := by
  have hunasked : f.state = .none ∨ f.state = .single →
      f.servers.filter (fun s => !s.responded) ≠ [] := by
    intro hstate
    obtain ⟨s, hs, hresponded⟩ := hlive.unasked hstate
    exact List.ne_nil_of_mem (List.mem_filter.mpr ⟨hs, by rw [hresponded]; rfl⟩)
  rw [tracking] at hsearch
  rw [toPoll]
  cases hstate : f.state <;> simp_all

lemma Sane.polledWithin_of_live (h : f.Sane) (hlive : f.Live) :
    polledWithin f.chooseInterval f = true := by
  by_cases htrack : f.tracking = true
  · rw [chooseInterval_of_tracking htrack]
    refine polledWithin_of_tracking htrack h.searchTicks h.repeatTicks h.servers_ne_nil
      h.repeatTicks (fun last hlast => Nat.add_le_add_right (hlive.clock last hlast) _) ?_
      (hlive.silence htrack)
    intro q hq last hlast
    obtain ⟨-, last', hlast', -, hlt⟩ := h.requested q (mem_lastRequestTick_of_unanswered hq)
    rwa [show last = last' from Option.some.inj (hlast.symm.trans hlast')]
  · have hsearch := eq_false_of_ne_true htrack
    rw [chooseInterval_of_searching hsearch]
    exact polledWithin_of_searching hsearch h.searchTicks
      (toPoll_ne_nil_of_searching h.servers_ne_nil hsearch hlive) h.searchTicks
      fun last hlast => Nat.add_le_add_right (hlive.clock last hlast) _

lemma Sane.clock_of_polledWithin (h : f.Sane) (hpolled : polledWithin f.chooseInterval f = true) :
    ∀ last ∈ f.lastPollTick, last ≤ f.currentTick := by
  intro last hlast
  by_contra hfuture
  refine Bool.false_ne_true (Eq.trans (Eq.symm ?_) hpolled)
  have hearly (n : ℕ) : f.currentTick + n < last + n := Nat.add_lt_add_right (not_le.mp hfuture) n
  by_cases htrack : f.tracking = true
  · have hopen : f.lastRequestTick = none := by
      refine Option.eq_none_iff_forall_not_mem.mpr fun q hq => hfuture ?_
      obtain ⟨-, last', hlast', hle, -⟩ := h.requested q hq
      rwa [show last = last' from Option.some.inj (hlast.symm.trans hlast')]
    rw [chooseInterval_of_tracking htrack]
    exact not_polledWithin_of_future htrack h.repeatTicks hopen hlast (hearly _)
  · have hsearch := eq_false_of_ne_true htrack
    rw [chooseInterval_of_searching hsearch]
    exact not_polledWithin_of_searching hsearch h.searchTicks hlast (hearly _)

lemma Sane.live_of_polledWithin (h : f.Sane) (hpolled : polledWithin f.chooseInterval f = true) :
    f.Live where
  clock := h.clock_of_polledWithin hpolled
  unasked := by
    intro hstate
    by_contra hall
    push Not at hall
    have hstalls := not_polledWithin_of_nobody hstate
      (fun s hs => eq_true_of_ne_false (hall s hs)) f.chooseInterval
    exact Bool.false_ne_true (hstalls.symm.trans hpolled)
  silence := by
    intro htrack q hq last hlast hfirst
    by_contra hearly
    rw [chooseInterval_of_tracking htrack] at hpolled
    have hstalls := not_polledWithin_of_silence htrack h.searchTicks h.repeatTicks hq hlast hfirst
      (not_le.mp hearly)
    exact Bool.false_ne_true (hstalls.symm.trans hpolled)

/-- **When polling goes on.**  In every state that ticks, packets, resets and inits reach, some
server is asked within the interval that `choose_interval` gives if no packet arrives, exactly where
the state is live. -/
theorem polling_never_stalls_iff (server : SocketAddr) (others : List SocketAddr)
    (searchTimeMs repeatTimeMs : ℕ) (es : List Event) :
    let f := Lib.run step (.init (server :: others) searchTimeMs repeatTimeMs) es
    polledWithin f.chooseInterval f = true ↔ f.Live :=
  have h := sane_run server others searchTimeMs repeatTimeMs es
  ⟨h.live_of_polledWithin, h.polledWithin_of_live⟩

def exampleServer : SocketAddr := ⟨[192, 0, 2, 1], 3478⟩

/-- **Two ways to stall.**  A reset after the first poll sets the clock back behind that poll, so
the next one is late.  An answer without an address leaves the only server answered and the finder
without an endpoint: it never asks again. -/
theorem reset_and_empty_answer_stall :
    let start := init [exampleServer] 1000 10000
    let afterReset := Lib.run step start [.tick, .reset]
    let afterAnswer := Lib.run step start [.tick, .packet exampleServer []]
    polledWithin afterReset.chooseInterval afterReset = false ∧
      ∀ n, polledWithin n afterAnswer = false := by
  refine ⟨by decide, fun n => not_polledWithin_of_nobody (by decide) (by decide) n⟩

end Finder

end Bingle.Stun
