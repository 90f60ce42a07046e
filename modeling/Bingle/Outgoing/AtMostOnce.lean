import Bingle.Lib.Tasks
import Bingle.Outgoing.PendingSender

/-!
# How often a recipient is handed a message

A retry sends the message to all recipients again, and the post that follows a failed send goes to
all whose Mailbox does not have it; only the posts are recorded.  The threads are agents in the
sense of `Lib.Tasks`, and a hand-over is the task done.
-/

namespace Bingle.Outgoing

open List Option
open Lib (run Along Always Tasks)

def Handover.key (x : Handover) : String × String := (x.id, x.recipient)

def Worker.due : Worker → List (String × String)
  | .delivering msg r effects _ _ _ =>
    (effects.filter (· = .handedOver)).map fun _ => (msg.id, r)
  | .idle | .trying .. | .recorded .. => []

def Call.due : Call → List (String × String)
  | .post id _ todo _ => todo.map fun h => (id, h)
  | .decide .. | .record .. | .forward .. | .apply .. => []

namespace Store

/-- The gates before the first post of a call. -/
structure MayPost (s : Store) (now : ℕ) (access : Access) : Prop where
  enabled : s.storeAndForwardSend ∧ s.sidewinder
  admitted : ¬ s.identityRefusalHolds now
  ready : access.failure = none

/-- What a call posts next: to the recipients that no post of the message is recorded for, and that
none was refused for. -/
lemma forward_due (s : Store) (now : ℕ) (access : Access) (id : String) (recipients : List String) :
    (s.forward now access id recipients).due = [] ∨ s.MayPost now access ∧
      (s.forward now access id recipients).due =
        ((recipients.filter fun h => (id, h) ∉ s.forwarded).filter fun h =>
          (s.refused (id, h)).isNone).map fun h => (id, h) := by
  simp only [forward]
  split_ifs with henabled hpending hrefusal hleft
  case neg =>
    split <;> rename_i haccess
    · exact Or.inl rfl
    · exact Or.inr ⟨⟨henabled, hrefusal, haccess⟩, rfl⟩
  all_goals exact Or.inl rfl

lemma forward_due_notMem {s : Store} {now : ℕ} {access : Access} {id : String}
    {recipients : List String} {k : String × String}
    (hk : k ∈ (s.forward now access id recipients).due) : k ∉ s.forwarded := by
  rcases s.forward_due now access id recipients with hdue | ⟨-, hdue⟩
  · exact absurd (hdue ▸ hk) not_mem_nil
  · obtain ⟨r, hr, rfl⟩ := mem_map.mp (hdue ▸ hk)
    simpa using (mem_filter.mp (mem_filter.mp hr).1).2

/-- Every post is on record. -/
def PostsRecorded (s : Store) : Prop :=
  ∀ x ∈ s.handed, x.route = .storeAndForward → x.key ∈ s.forwarded

lemma PostsRecorded.direct {s : Store} (h : s.PostsRecorded) (id r : String) :
    (s.handOver id r .direct).PostsRecorded := by
  intro x hx hroute
  rcases mem_cons.mp hx with rfl | hx
  · cases hroute
  · exact h x hx hroute

lemma PostsRecorded.advance {s : Store} (h : s.PostsRecorded) (now : ℕ) (access : Access)
    (post : Post) (c : Call) : (s.advance now access post c).1.PostsRecorded := by
  cases c with
  | record id progress reason kind route =>
    simp only [Store.advance]
    repeat' split
    all_goals exact h
  | post id recipients todo notes =>
    cases todo with
    | nil => exact h
    | cons r todo =>
      cases post with
      | posted =>
        intro x hx hroute
        rcases mem_cons.mp hx with rfl | hx
        · exact Finset.mem_insert_self _ _
        · exact Finset.mem_insert_of_mem (h x hx hroute)
      | _ => exact h
  | _ => exact h

end Store

namespace Sender

def tasks (w : Sender) : Tasks (Option Thread) (String × String) where
  done := w.store.handed.map Handover.key
  due
    | none => w.worker.due
    | some t => (w.calls t).elim [] Call.due

/-- No recipient has been handed a message twice. -/
def AtMostOnce (w : Sender) : Prop := (w.store.handed.map Handover.key).Nodup

instance (w : Sender) : Decidable w.AtMostOnce :=
  inferInstanceAs (Decidable (w.store.handed.map Handover.key).Nodup)

/-- The condition on a step, in the state it finds.  A direct send to a recipient who answers is to
one whom the message has not reached and to whom no other thread posts it.  A call that begins to
post names each recipient it has not posted to once, none of them has the message directly, and no
other thread sends or posts it to them. -/
def TakesOnNew (w : Sender) : Event → Prop
  | .work answers => ∀ x ∈ w.nextDirect, answers.reaches x.2 → w.tasks.Free none (x.1.id, x.2)
  | .call t access _ => ∀ id recipients, w.calls t = some (.forward id recipients) →
      w.store.MayPost w.now access → ∀ r ∈ recipients, w.store.refused (id, r) = none →
        ⟨id, r, .storeAndForward⟩ ∉ w.store.handed →
          recipients.count r = 1 ∧ ⟨id, r, .direct⟩ ∉ w.store.handed ∧
            ∀ j, j ≠ some t → (id, r) ∉ w.tasks.due j
  | _ => True

/-! ## The tasks after a step -/

section Tasks

variable {w : Sender}

lemma tasks_worker (w : Sender) (k : Worker) (offline : String → Option ℕ)
    (reports : List SendReport) :
    ({ w with worker := k, offline, reports } : Sender).tasks = w.tasks.take none k.due := by
  rw [tasks, tasks, Tasks.take]
  congr 1
  funext i
  cases i <;> rfl

lemma tasks_calls (w : Sender) (t : Thread) (c : Option Call) :
    ({ w with calls := Function.update w.calls t c } : Sender).tasks =
      w.tasks.take (some t) (c.elim [] Call.due) := by
  rw [tasks, tasks, Tasks.take]
  congr 1
  funext i
  cases i with
  | none => rfl
  | some t' =>
    by_cases ht : t' = t
    · subst ht
      simp
    · simp [ht]

lemma tasks_handOver (w : Sender) (id r : String) (route : DeliveryRoute) :
    ({ w with store := w.store.handOver id r route } : Sender).tasks =
      { w.tasks with done := (id, r) :: w.tasks.done } := rfl

lemma exclusive_worker (h : w.tasks.Exclusive) (k : Worker) (offline : String → Option ℕ)
    (reports : List SendReport) (hk : k.due.Sublist w.worker.due) :
    ({ w with worker := k, offline, reports } : Sender).tasks.Exclusive := by
  rw [tasks_worker]
  exact h.giveUp hk

lemma exclusive_calls (h : w.tasks.Exclusive) (t : Thread) {c : Option Call}
    (hc : (c.elim [] Call.due).Sublist ((w.calls t).elim [] Call.due)) :
    ({ w with calls := Function.update w.calls t c } : Sender).tasks.Exclusive := by
  rw [tasks_calls]
  exact h.giveUp hc

lemma exclusive_beginCall (h : w.tasks.Exclusive) (t : Thread) {c : Call} (hc : c.due = []) :
    (w.beginCall t c).tasks.Exclusive := by
  refine exclusive_calls h t ?_
  rw [elim_some, hc]
  exact nil_sublist _

lemma due_delivering (answers : Answers) (msg : Message) (r : String)
    (result : Except BingleError Bool) (rest : List String) (last : Option SendFailure) :
    (Worker.delivering msg r (sendMessageToHandle answers r).effects result rest last).due =
      if answers.reaches r then [(msg.id, r)] else [] := by
  have hearly : ∀ early : List ℕ, (early.map Effect.progress).filter (· = .handedOver) = [] := by
    intro early
    simp [filter_eq_nil_iff]
  obtain ⟨early, -, ⟨hok, heff⟩ | ⟨hne, heff⟩⟩ := sendMessageToHandle_shaped answers r
  · rw [if_pos (sendMessageToHandle_result.mp hok), Worker.due, heff, filter_append,
      hearly early]
    rfl
  · rw [if_neg fun h => hne (sendMessageToHandle_result.mpr h), Worker.due, heff,
      filter_append, hearly early]
    rfl

lemma exclusive_work (o : Options) (h : w.tasks.Exclusive) (answers : Answers)
    (hcalls : w.calls .worker = none) (hnew : w.TakesOnNew (.work answers)) :
    (w.work o answers).tasks.Exclusive := by
  have hnil : ∀ l : List (String × String), List.Sublist [] l := nil_sublist
  simp only [Sender.work]
  split <;> rename_i hw
  · exact h
  · -- the head of the loop, with a recipient to send to
    rename_i msg r rest last
    split_ifs with hskip
    · exact exclusive_worker h _ _ _ (hnil _)
    · have hnext : w.nextDirect = some (msg, r) := by simp [nextDirect, hcalls, hw, hskip]
      rw [tasks_worker, due_delivering]
      split_ifs with hreaches
      · refine h.take (nodup_singleton _) fun a ha => ?_
        obtain rfl := mem_singleton.mp ha
        exact hnew (msg, r) hnext hreaches
      · exact h.giveUp (hnil _)
  · exact exclusive_beginCall (exclusive_worker h (.recorded _ _) _ _ (hnil _)) .worker rfl
  · exact exclusive_beginCall (exclusive_worker h (.recorded _ _) _ _ (hnil _)) .worker rfl
  · -- a report of the send path
    rename_i msg r percent effects result rest last
    refine exclusive_beginCall (exclusive_worker h (.delivering msg r effects result rest last)
      w.offline w.reports ?_) .worker rfl
    rw [hw]
    exact List.Sublist.refl _
  · -- the peer has the message
    rename_i msg r effects result rest last
    have hdue : w.tasks.due none =
        (msg.id, r) :: (Worker.delivering msg r effects result rest last).due := by
      simp [tasks, hw, Worker.due]
    have hmoved := tasks_worker { w with store := w.store.handOver msg.id r .direct }
      (.delivering msg r effects result rest last) w.offline w.reports
    rw [tasks_handOver] at hmoved
    exact hmoved ▸ h.perform hdue
  · -- the send has returned
    split <;> exact exclusive_worker h (.trying ..) _ _ (hnil _)
  · exact exclusive_worker h .idle _ _ (hnil _)

section Forward

variable {t : Thread} {id r : String} {recipients : List String} {access : Access} {post : Post}

/-- `forwarded_messages` keeps a call from posting to those it has posted to; the condition keeps it
from the others that have the message or are about to get it. -/
lemma free_of_takesOnNew (hposts : w.store.PostsRecorded)
    (hc : w.calls t = some (.forward id recipients)) (hnew : w.TakesOnNew (.call t access post))
    (hmay : w.store.MayPost w.now access) (hr : r ∈ recipients)
    (hforwarded : (id, r) ∉ w.store.forwarded) (hrefused : w.store.refused (id, r) = none) :
    recipients.count r = 1 ∧ w.tasks.Free (some t) (id, r) := by
  have hpost : ⟨id, r, .storeAndForward⟩ ∉ w.store.handed :=
    fun hmem => hforwarded (hposts _ hmem rfl)
  obtain ⟨hone, hdirect, hothers⟩ := hnew id recipients hc hmay r hr hrefused hpost
  refine ⟨hone, fun hdone => ?_, hothers⟩
  obtain ⟨⟨id', r', route⟩, hx, hkey⟩ := mem_map.mp hdone
  obtain ⟨rfl, rfl⟩ := Prod.mk.inj hkey
  cases route with
  | direct => exact hdirect hx
  | storeAndForward => exact hpost hx

lemma exclusive_forward (h : w.tasks.Exclusive) (hposts : w.store.PostsRecorded)
    (hc : w.calls t = some (.forward id recipients)) (hnew : w.TakesOnNew (.call t access post)) :
    (w.tasks.take (some t)
      (w.store.forward w.now access id recipients).due).Exclusive := by
  rcases w.store.forward_due w.now access id recipients with hdue | ⟨hmay, hdue⟩
  · rw [hdue]
    exact h.giveUp (nil_sublist _)
  rw [hdue]
  set fresh := (recipients.filter fun h => (id, h) ∉ w.store.forwarded).filter fun h =>
    (w.store.refused (id, h)).isNone
  have hfresh : ∀ r ∈ fresh, recipients.count r = 1 ∧ w.tasks.Free (some t) (id, r) := by
    intro r hr
    obtain ⟨hr, hrefused⟩ := mem_filter.mp hr
    obtain ⟨hr, hforwarded⟩ := mem_filter.mp hr
    exact free_of_takesOnNew hposts hc hnew hmay hr (of_decide_eq_true hforwarded)
      (isNone_iff_eq_none.mp hrefused)
  refine h.take ?_ fun a ha => ?_
  · refine Nodup.map (fun _ _ h => (Prod.mk.inj h).2) (nodup_iff_count_le_one.mpr fun r => ?_)
    by_cases hr : r ∈ fresh
    · exact ((filter_sublist.trans filter_sublist).count_le r).trans (hfresh r hr).1.le
    · exact (count_eq_zero_of_not_mem hr).trans_le (Nat.zero_le 1)
  · obtain ⟨r, hr, rfl⟩ := mem_map.mp ha
    exact (hfresh r hr).2

end Forward

lemma exclusive_call (h : w.tasks.Exclusive) (hposts : w.store.PostsRecorded) (t : Thread)
    (access : Access) (post : Post) {c : Call} (hc : w.calls t = some c)
    (hnew : w.TakesOnNew (.call t access post)) :
    ({ w with
      store := (w.store.advance w.now access post c).1
      calls := Function.update w.calls t (w.store.advance w.now access post c).2 } :
        Sender).tasks.Exclusive := by
  have hdue : w.tasks.due (some t) = c.due := by simp [tasks, hc]
  cases c with
  | decide id progress reason kind => exact exclusive_calls h t (nil_sublist _)
  | record id progress reason kind route =>
    simp only [Store.advance]
    split
    · exact exclusive_calls h t (nil_sublist _)
    · split_ifs
      · exact exclusive_calls (w := { w with store := _ }) h t (nil_sublist _)
      · exact exclusive_calls (w := { w with store := _ }) h t (nil_sublist _)
  | forward id recipients =>
    simp only [Store.advance]
    rw [tasks_calls]
    exact exclusive_forward h hposts hc hnew
  | post id recipients todo notes =>
    cases todo with
    | nil => exact exclusive_calls h t (nil_sublist _)
    | cons r todo =>
      have hrest : (todo.map fun h => (id, h)).Sublist ((w.calls t).elim [] Call.due) := by
        rw [hc]
        exact sublist_cons_self _ _
      cases post with
      | posted =>
        have hmoved := tasks_calls { w with store := { w.store with
          forwarded := insert (id, r) w.store.forwarded }.handOver id r .storeAndForward }
          t (some (.post id recipients todo (notes ++ [])))
        exact hmoved ▸ h.perform hdue
      | identityRefused reason =>
        exact exclusive_calls (w := { w with store := _ }) h t (nil_sublist _)
      | _ => exact exclusive_calls (w := { w with store := _ }) h t hrest
  | apply id outcome => exact exclusive_calls (w := { w with store := _ }) h t (nil_sublist _)

lemma postsRecorded_step (o : Options) (h : w.store.PostsRecorded) (e : Event) :
    (w.step o e).store.PostsRecorded := by
  cases e with
  | call t access post =>
    simp only [Sender.step]
    split
    · exact h
    · exact h.advance w.now access post _
  | _ =>
    simp only [Sender.step, work, panic, shutdownStep]
    repeat' split
    all_goals first
      | exact h
      | exact h.direct _ _

lemma exclusive_step (o : Options) (h : w.tasks.Exclusive) (hposts : w.store.PostsRecorded)
    {e : Event} (hnew : w.TakesOnNew e) : (w.step o e).tasks.Exclusive := by
  cases e with
  | tick d => exact h
  | queue id recipients timestamp text =>
    simp only [Sender.step]
    split_ifs
    · exact h
    · exact h
  | select id =>
    simp only [Sender.step]
    split
    · exact exclusive_worker h (.trying ..) _ _ (nil_sublist _)
    · exact h
  | peerSeen recipient => exact h
  | work answers =>
    simp only [Sender.step]
    split_ifs with hcalls
    · exact exclusive_work o h answers hcalls hnew
    · exact h
  | panic =>
    simp only [Sender.step]
    split_ifs
    · simp only [Sender.panic]
      split
      · exact exclusive_worker h (.delivering ..) _ _ (nil_sublist _)
      · exact h
    · exact h
  | shutdown patience =>
    simp only [Sender.step]
    split_ifs
    · simp only [Sender.shutdownStep]
      repeat' split
      all_goals first
        | exact h
        | exact exclusive_beginCall (w := { w with shutdown := _ }) h .shutdown rfl
    · exact h
  | flush n =>
    simp only [Sender.step]
    split_ifs
    · exact h
    · exact h
  | flushNext n =>
    simp only [Sender.step]
    split
    · exact exclusive_beginCall (w := { w with flushes := _ }) h (.flush n) rfl
    · exact h
  | call t access post =>
    simp only [Sender.step]
    split
    · exact h
    · rename_i c hc
      exact exclusive_call h hposts t access post hc hnew

end Tasks

/-! ## At most once -/

/-- **At most once.**  In every run and every state on the way no message has been handed over twice
to a recipient, directly or in its Mailbox, as long as every direct send to a recipient who answers
is to one whom the message has not reached, every call that begins to post names nobody twice whom
it has not posted to, nor anybody who has the message directly, and nobody else is sending or
posting it to them. -/
theorem at_most_once (o : Options) (storeAndForwardSend sidewinder : Bool) (es : List Event)
    (hnew : Along (step o) TakesOnNew (init storeAndForwardSend sidewinder) es) :
    Always (step o) AtMostOnce (init storeAndForwardSend sidewinder) es := by
  have h0 : (init storeAndForwardSend sidewinder).tasks.Exclusive := by
    refine ⟨nodup_nil, fun i => ?_, fun i a ha => ?_⟩
    · cases i <;> exact nodup_nil
    · cases i <;> exact absurd ha not_mem_nil
  have h := Lib.always_of_along (I := fun w => w.tasks.Exclusive ∧ w.store.PostsRecorded)
    (fun w e h hp => ⟨exclusive_step o h.1 h.2 hp, postsRecorded_step o h.2 e⟩)
    ⟨h0, forall_mem_nil _⟩ hnew
  exact h.mono fun w hw => hw.1.done

/-- The step begins no send to a recipient who answers, and no posts. -/
def beginsNone (w : Sender) : Event → Bool
  | .work answers => (w.nextDirect.filter fun x => answers.reaches x.2).isNone
  | .call t _ _ => !(w.calls t matches some (.forward ..))
  | _ => true

lemma takesOnNew_of_beginsNone {w : Sender} {e : Event} (h : w.beginsNone e) : w.TakesOnNew e := by
  cases e with
  | work answers =>
    intro x hx hreaches
    simp [beginsNone, mem_def.mp hx, hreaches] at h
  | call t access post =>
    intro id recipients hc
    simp [beginsNone, hc] at h
  | _ => trivial

lemma along_takesOnNew {o : Options} {w : Sender} {es : List Event}
    (h : Along (step o) (fun w e => w.beginsNone e) w es) : Along (step o) TakesOnNew w es :=
  h.of_invariant (I := fun _ => True) (fun _ _ _ _ => trivial)
    (fun _ _ _ => takesOnNew_of_beginsNone) trivial

def picked : List Event := [.queue "a" ["bob"] 1 "hello", .select "a"]

lemma picked_calls (w : Sender) : (run (step {}) w picked).calls = w.calls := by
  have hqueue : (w.step {} (.queue "a" ["bob"] 1 "hello")).calls = w.calls := by
    simp only [step]
    split_ifs <;> rfl
  have hselect : ∀ w : Sender, (w.step {} (.select "a")).calls = w.calls := by
    intro w
    simp only [step]
    split <;> rfl
  exact (hselect _).trans hqueue

theorem delivered_once :
    Always (step {}) AtMostOnce (init true true) (picked ++ rounds 13 online) ∧
      (run (step {}) (init true true) (picked ++ rounds 13 online)).store.handed =
        [⟨"a", "bob", .direct⟩] := by
  have hstart : TakesOnNew (run (step {}) (init true true) picked) (.work online) := by
    have hhanded : (run (step {}) (init true true) picked).store.handed = [] := by decide +kernel
    refine fun x _ _ => ⟨by simp [tasks, hhanded], fun j hj => ?_⟩
    cases j with
    | none => exact absurd rfl hj
    | some t => simp [tasks, picked_calls, init]
  refine ⟨at_most_once {} true true _ ?_, by decide +kernel⟩
  refine (Lib.along_append _ _ _ _ _).mpr ⟨along_takesOnNew (by decide +kernel), hstart, ?_⟩
  exact along_takesOnNew (by decide +kernel)

def carolAway : Answers :=
  { online with
    ddbLookup := fun userId => .ok (.newDirect userId)
    sendToPeer := fun nsk =>
      if nsk.inetSocketAddress = some "carol" then .error "connect timeout" else .ok () }

def retried : List Event :=
  [.queue "a" ["bob", "carol"] 1 "hello", .select "a"] ++ rounds 30 carolAway ++
    [.select "a"] ++ rounds 30 carolAway

/-- **Delivered again.**  The first recipient has the message, the second does not answer; the retry
sends it to the first again. -/
theorem delivered_twice :
    (run (step {}) (init false false) retried).store.handed =
        [⟨"a", "bob", .direct⟩, ⟨"a", "bob", .direct⟩] ∧
      ¬ (run (step {}) (init false false) retried).AtMostOnce := by
  decide +kernel

end Sender

end Bingle.Outgoing
