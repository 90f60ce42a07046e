import Bingle.Outgoing.PendingSender

/-!
# Whether a completion lasts

The worker, the flushes and `shutdown` report on a message without looking at what is recorded, and
each of them begins with a message that was pending *then*; so whatever is still to be reported on a
message that is done belongs to an attempt that began before.
-/

namespace Bingle.Outgoing

open List Option
open Function (update_apply)
open Lib (run Along)

/-! ## Done, and what undoes it -/

def Message.isDone (m : Message) : Bool := m.isComplete && m.failureReason.isNone

def Store.Done (s : Store) (id : String) : Prop := ∃ m ∈ s.messages, m.id = id ∧ m.isDone = true

instance (s : Store) (id : String) : Decidable (s.Done id) :=
  inferInstanceAs (Decidable (∃ m ∈ s.messages, _))

def Call.undoes (id : String) : Call → Bool
  | .decide id' progress reason _ | .record id' progress reason _ _ =>
    id' = id && (progress < 100 || reason.isSome)
  | .forward .. | .post .. | .apply .. => false

def Call.completes : Call → Option String
  | .record id progress none _ _ => if 100 ≤ progress then some id else none
  | .apply id .forwarded => some id
  | _ => none

def Effect.isEarly : Effect → Bool
  | .progress percent => percent < 100
  | .handedOver => false

def Worker.undoes (id : String) : Worker → Bool
  | .idle | .recorded .. => false
  | .trying msg rest last => msg.id = id && (rest ≠ [] || last.isSome)
  | .delivering msg _ effects result rest last =>
    msg.id = id && (effects.any Effect.isEarly || (classifySendError result).isSome ||
      rest ≠ [] || last.isSome)

section Undoes

variable {id r : String} {msg : Message} {effects : List Effect} {result : Except BingleError Bool}
  {rest : List String} {last : Option SendFailure}

lemma undoes_trying : (Worker.trying msg rest last).undoes id = false ↔
    (msg.id = id → rest = [] ∧ last = none) := by
  by_cases h : msg.id = id <;> simp [Worker.undoes, h]

lemma undoes_delivering : (Worker.delivering msg r effects result rest last).undoes id = false ↔
    (msg.id = id → (∀ e ∈ effects, e.isEarly = false) ∧ classifySendError result = none ∧
      rest = [] ∧ last = none) := by
  by_cases h : msg.id = id <;> simp [Worker.undoes, h, and_assoc]

end Undoes

def Shutdown.undoes (id : String) (k : Shutdown) : Bool := k.todo.any fun m => m.id = id

namespace Sender

def NothingToCome (w : Sender) (id : String) : Prop :=
  w.worker.undoes id = false ∧ w.shutdown.undoes id = false ∧
    (∀ c ∈ w.calls .worker, c.undoes id = false) ∧ ∀ c ∈ w.calls .shutdown, c.undoes id = false

instance (w : Sender) (id : String) : Decidable (w.NothingToCome id) :=
  inferInstanceAs (Decidable (_ ∧ _ ∧ (∀ c ∈ w.calls .worker, _) ∧ ∀ c ∈ w.calls .shutdown, _))

/-- The condition on a step, in the state it finds: when it completes a message, nothing is still to
come that undoes it; and a send does not panic once its message is done. -/
def CompletesLast (w : Sender) : Event → Prop
  | .call t _ _ => ∀ c ∈ w.calls t, ∀ id ∈ c.completes, w.NothingToCome id
  | .panic => ∀ id ∈ w.worker.inFlight, ¬ w.store.Done id
  | _ => True

instance (w : Sender) : ∀ e, Decidable (w.CompletesLast e)
  | .call t _ _ => inferInstanceAs (Decidable (∀ c ∈ w.calls t, ∀ id ∈ c.completes, _))
  | .panic => inferInstanceAs (Decidable (∀ id ∈ w.worker.inFlight, _))
  | .tick _ | .queue .. | .select _ | .peerSeen _ | .work _ | .shutdown _ | .flush _
  | .flushNext _ => isTrue trivial

end Sender

/-! ## One section of a call -/

lemma mem_modifyMessage_of_mem {id : String} {f : Message → Message} {ms : List Message}
    {m : Message} (hm : m ∈ ms) :
    m ∈ modifyMessage id f ms ∨ m.id = id ∧ f m ∈ modifyMessage id f ms := by
  induction ms with
  | nil => exact absurd hm not_mem_nil
  | cons x xs ih =>
    unfold modifyMessage
    split_ifs with hx
    · rcases mem_cons.mp hm with rfl | hm
      · exact Or.inr ⟨hx, mem_cons_self ..⟩
      · exact Or.inl (mem_cons_of_mem _ hm)
    · rcases mem_cons.mp hm with rfl | hm
      · exact Or.inl (mem_cons_self ..)
      · exact (ih hm).imp (mem_cons_of_mem _) (.imp_right (mem_cons_of_mem _))

def Call.write : Call → Message → Message
  | .record _ progress reason kind route => .record progress reason kind route
  | .apply _ outcome => .applyOutcome outcome
  | .decide .. | .forward .. | .post .. => id

def Call.id : Call → String
  | .decide id _ _ _ | .record id _ _ _ _ | .forward id _ | .post id _ _ _ | .apply id _ => id

def Message.asQueued (m : Message) : Message :=
  { id := m.id, recipientHandles := m.recipientHandles, timestamp := m.timestamp, text := m.text }

lemma asQueued_write (c : Call) (m : Message) : (c.write m).asQueued = m.asQueued := by
  cases c with
  | record id progress reason kind route =>
    simp only [Call.write, Message.record]
    split_ifs <;> rfl
  | apply id outcome => cases outcome <;> rfl
  | decide | forward | post => rfl

namespace Store

section Advance

variable {s : Store} {now : ℕ} {access : Access} {post : Post} {c : Call} {id : String}

lemma postTo_messages (s : Store) (now : ℕ) (id h : String) (post : Post) :
    (s.postTo now id h post).1.messages = s.messages := by
  cases post <;> rfl

lemma advance_messages (s : Store) (now : ℕ) (access : Access) (post : Post) (c : Call) :
    (s.advance now access post c).1.messages = s.messages ∨
      (s.advance now access post c).1.messages = modifyMessage c.id c.write s.messages := by
  cases c with
  | decide id progress reason kind => exact Or.inl rfl
  | record id progress reason kind route =>
    simp only [advance]
    split
    · exact Or.inl rfl
    · right
      split_ifs <;> rfl
  | forward id recipients => exact Or.inl rfl
  | post id recipients todo notes =>
    cases todo with
    | nil => exact Or.inl rfl
    | cons h todo =>
      left
      have hmessages := postTo_messages s now id h post
      simp only [advance]
      split <;> rename_i heq <;> rw [heq] at hmessages <;> exact hmessages
  | apply id outcome => exact Or.inr rfl

variable {m : Message}

lemma isDone_write (hc : c.undoes m.id = false) (hid : m.id = c.id)
    (h : m.isDone = true) : (c.write m).isDone = true := by
  cases c with
  | record id' progress reason kind route =>
    obtain rfl : m.id = id' := hid
    have hreport : 100 ≤ progress ∧ reason = none := by simpa [Call.undoes] using hc
    obtain ⟨hp, rfl⟩ := hreport
    simp [Call.write, Message.isDone, Message.isComplete, Message.record_failureReason hp, hp]
  | apply id' outcome =>
    cases outcome with
    | forwarded => rfl
    | disabled => exact h
    | notForwarded reason => exact h
  | decide id' progress reason kind => exact h
  | forward id' recipients => exact h
  | post id' recipients todo notes => exact h

lemma isDone_of_write (h : (c.write m).isDone = true) :
    m.isDone = true ∨ c.completes = some c.id := by
  cases c with
  | record id' progress reason kind route =>
    right
    have hp : 100 ≤ progress := by
      simp only [Call.write, Message.isDone, Message.isComplete, Message.record_progress,
        any_some, Bool.and_eq_true, decide_eq_true_eq] at h
      exact h.1
    have hnone : reason = none := by
      simp only [Call.write, Message.isDone, Message.record_failureReason hp, Bool.and_eq_true,
        isNone_iff_eq_none] at h
      exact h.2
    subst hnone
    exact if_pos hp
  | apply id' outcome =>
    cases outcome with
    | forwarded => exact Or.inr rfl
    | disabled => exact Or.inl h
    | notForwarded reason => exact Or.inl h
  | decide id' progress reason kind => exact Or.inl h
  | forward id' recipients => exact Or.inl h
  | post id' recipients todo notes => exact Or.inl h

lemma Done.advance (h : s.Done id) (hc : c.undoes id = false) :
    (s.advance now access post c).1.Done id := by
  obtain ⟨m, hm, rfl, hdone⟩ := h
  rcases advance_messages s now access post c with heq | heq
  · exact ⟨m, heq ▸ hm, rfl, hdone⟩
  · have hwrite : m ∈ modifyMessage c.id c.write s.messages ∨
        m.id = c.id ∧ c.write m ∈ modifyMessage c.id c.write s.messages :=
      mem_modifyMessage_of_mem hm
    rcases hwrite with hkept | ⟨hid, hwritten⟩
    · exact ⟨m, heq ▸ hkept, rfl, hdone⟩
    · refine ⟨c.write m, heq ▸ hwritten, ?_, isDone_write hc hid hdone⟩
      cases c <;> simp [Call.write]

lemma done_of_advance (h : (s.advance now access post c).1.Done id) :
    s.Done id ∨ id ∈ c.completes := by
  obtain ⟨m, hm, rfl, hdone⟩ := h
  rcases advance_messages s now access post c with heq | heq
  · exact Or.inl ⟨m, heq ▸ hm, rfl, hdone⟩
  · rw [heq] at hm
    rcases mem_modifyMessage hm with hm | ⟨m₀, hm₀, hid, rfl⟩
    · exact Or.inl ⟨m, hm, rfl, hdone⟩
    · have hsame : (c.write m₀).id = m₀.id := by cases c <;> simp [Call.write]
      rcases isDone_of_write hdone with hdone | hcompletes
      · exact Or.inl ⟨m₀, hm₀, hsame.symm, hdone⟩
      · exact Or.inr (by rw [hcompletes, hsame, hid]; rfl)

lemma undoes_advance {c' : Call} (h : (s.advance now access post c).2 = some c')
    (hc : c.undoes id = false) : c'.undoes id = false := by
  cases c with
  | decide id' progress reason kind =>
    obtain rfl := some.inj h
    exact hc
  | record id' progress reason kind route =>
    simp only [Store.advance] at h
    split at h
    · exact absurd h (by simp)
    · split_ifs at h
      obtain rfl := some.inj h
      rfl
  | forward id' recipients =>
    obtain rfl := some.inj h
    unfold Store.forward
    dsimp only
    split_ifs
    · rfl
    · rfl
    · rfl
    · split <;> rfl
    · rfl
  | post id' recipients todo notes =>
    cases todo with
    | nil =>
      obtain rfl := some.inj h
      rfl
    | cons h' todo =>
      simp only [Store.advance] at h
      split at h <;> obtain rfl := some.inj h <;> rfl
  | apply id' outcome => exact absurd h (by simp [Store.advance])

lemma advance_ids (s : Store) (now : ℕ) (access : Access) (post : Post) (c : Call) :
    (s.advance now access post c).1.messages.map Message.id = s.messages.map Message.id := by
  rcases advance_messages s now access post c with heq | heq
  · rw [heq]
  · rw [heq]
    refine map_modifyMessage (fun m => ?_) s.messages
    cases c <;> simp [Call.write]

lemma not_done_of_pending (hids : (s.messages.map Message.id).Nodup)
    (hm : m ∈ s.pendingMessages) : ¬ s.Done m.id := by
  rintro ⟨m', hm', hid, hdone⟩
  obtain ⟨hmem, hpending⟩ := mem_filter.mp hm
  obtain rfl := inj_on_of_nodup_map hids hm' hmem hid
  cases hp : m'.progress with
  | none => simp [Message.isPending, hp] at hpending
  | some p =>
    simp only [Message.isPending, hp, any_some, decide_eq_true_eq] at hpending
    simp only [Message.isDone, Message.isComplete, hp, any_some, Bool.and_eq_true,
      decide_eq_true_eq] at hdone
    omega

end Advance

end Store

/-! ## The invariant -/

namespace Sender

structure Settled (w : Sender) : Prop where
  ids : (w.store.messages.map Message.id).Nodup
  worker : ∀ id, w.store.Done id → w.worker.undoes id = false
  shutdown : ∀ id, w.store.Done id → w.shutdown.undoes id = false
  calls : ∀ id, w.store.Done id → ∀ t c, w.calls t = some c → c.undoes id = false
  flushes : ∀ n c, w.calls (.flush n) = some c → ∀ id, c.undoes id = false

section Settled

variable {o : Options} {w : Sender}

lemma Settled.move_worker (h : w.Settled) {k : Worker} {offline : String → Option ℕ}
    {reports : List SendReport} (hk : ∀ id, w.store.Done id → k.undoes id = false) :
    ({ w with worker := k, offline, reports } : Sender).Settled :=
  ⟨h.ids, hk, h.shutdown, h.calls, h.flushes⟩

lemma Settled.move_shutdown (h : w.Settled) {k : Shutdown}
    (hk : ∀ id, w.store.Done id → k.undoes id = false) :
    ({ w with shutdown := k } : Sender).Settled :=
  ⟨h.ids, h.worker, hk, h.calls, h.flushes⟩

variable {t : Thread} {c : Call} {id : String} {s : Store} {m : Message}

lemma Settled.beginCall (h : w.Settled) (hc : ∀ id, w.store.Done id → c.undoes id = false)
    (hflush : ∀ n, t = .flush n → ∀ id, c.undoes id = false) : (w.beginCall t c).Settled := by
  refine ⟨h.ids, h.worker, h.shutdown, fun id hid t' c' hc' => ?_, fun n c' hc' id => ?_⟩
  · simp only [Sender.beginCall, update_apply] at hc'
    split_ifs at hc'
    · exact some.inj hc' ▸ hc id hid
    · exact h.calls id hid t' c' hc'
  · simp only [Sender.beginCall, update_apply] at hc'
    split_ifs at hc' with ht
    · exact some.inj hc' ▸ hflush n ht.symm id
    · exact h.flushes n c' hc' id

lemma Settled.beginReport (h : w.Settled) (ht : ∀ n, t ≠ .flush n)
    (hc : ∀ id, w.store.Done id → c.undoes id = false) : (w.beginCall t c).Settled :=
  h.beginCall hc fun n hn => absurd hn (ht n)

lemma Settled.work (h : w.Settled) (answers : Answers) : (w.work o answers).Settled := by
  have hk := h.worker
  unfold Sender.work
  split <;> rename_i hw <;> simp only [hw] at hk
  · exact h
  · -- an attempt with a recipient to try is not on a message that is done
    rename_i msg r rest last
    have hother : ∀ id, w.store.Done id → msg.id ≠ id := by
      intro id hid heq
      exact cons_ne_nil _ _ (undoes_trying.mp (hk id hid) heq).1
    split_ifs
    · exact h.move_worker fun id hid => undoes_trying.mpr fun heq => absurd heq (hother id hid)
    · exact h.move_worker fun id hid => undoes_delivering.mpr fun heq => absurd heq (hother id hid)
  · rename_i msg
    refine (h.move_worker (k := .recorded msg none) fun _ _ => rfl).beginReport (by simp) ?_
    exact fun id _ => by simp [Call.undoes]
  · rename_i msg f
    refine (h.move_worker (k := .recorded msg (some f)) fun _ _ => rfl).beginReport (by simp) ?_
    intro id hid
    have hne : msg.id ≠ id := fun heq => by simpa using (undoes_trying.mp (hk id hid) heq).2
    simp [Call.undoes, hne]
  · -- a report of the send path
    rename_i msg r percent effects result rest last
    refine (h.move_worker fun id hid => undoes_delivering.mpr fun heq => ?_).beginReport (by simp)
      fun id hid => ?_
    · obtain ⟨hearly, hend⟩ := undoes_delivering.mp (hk id hid) heq
      exact ⟨fun e he => hearly e (mem_cons_of_mem _ he), hend⟩
    · by_cases heq : msg.id = id
      · have hlate := (undoes_delivering.mp (hk id hid) heq).1 _ mem_cons_self
        have hp : 100 ≤ percent := by simpa [Effect.isEarly] using hlate
        simp [Call.undoes, hp]
      · simp [Call.undoes, heq]
  · -- the peer has the message
    rename_i msg r effects result rest last
    refine ⟨h.ids, fun id hid => undoes_delivering.mpr fun heq => ?_, h.shutdown, h.calls,
      h.flushes⟩
    obtain ⟨hearly, hend⟩ := undoes_delivering.mp (hk id hid) heq
    exact ⟨fun e he => hearly e (mem_cons_of_mem _ he), hend⟩
  · -- the send has returned
    rename_i msg r result rest last
    split
    · refine h.move_worker fun id hid => undoes_trying.mpr fun heq => ?_
      exact (undoes_delivering.mp (hk id hid) heq).2.2
    · rename_i f hclass
      refine h.move_worker fun id hid => undoes_trying.mpr fun heq => ?_
      have hnone := (undoes_delivering.mp (hk id hid) heq).2.1
      exact absurd (hclass.symm.trans hnone) (by simp)
  · exact h.move_worker fun _ _ => rfl

lemma Settled.panic (h : w.Settled) (hp : w.CompletesLast .panic) : w.panic.Settled := by
  unfold Sender.panic
  split
  · rename_i msg r effects result rest last hw
    have hnot : ¬ w.store.Done msg.id := hp msg.id (by simp [hw, Worker.inFlight])
    refine h.move_worker fun id hid => undoes_delivering.mpr fun heq => ?_
    exact absurd (heq ▸ hid) hnot
  · exact h

lemma Settled.shutdownStep (h : w.Settled) (patience : ℕ) : (w.shutdownStep patience).Settled := by
  have hk := h.shutdown
  unfold Sender.shutdownStep
  split <;> rename_i hw <;> simp only [hw] at hk
  · exact h.move_shutdown fun _ _ => rfl
  · split_ifs
    · refine h.move_shutdown fun id hid => ?_
      simp only [Shutdown.undoes, Shutdown.todo, List.any_eq_false, decide_eq_true_eq]
      rintro m hm rfl
      exact Store.not_done_of_pending h.ids hm hid
    · exact h
  · rename_i deadline inFlight msg todo report
    have hsplit : ∀ id, w.store.Done id → msg.id ≠ id ∧ ∀ m ∈ todo, m.id ≠ id := by
      intro id hid
      simpa [Shutdown.undoes, Shutdown.todo] using hk id hid
    have hrest : ∀ k : Shutdown, k.todo = todo → ∀ id, w.store.Done id → k.undoes id = false := by
      intro k hktodo id hid
      simpa [Shutdown.undoes, hktodo] using (hsplit id hid).2
    split_ifs
    · exact h.move_shutdown (hrest _ rfl)
    · exact h.move_shutdown (hrest _ rfl)
    · refine (h.move_shutdown (hrest (.posting deadline inFlight msg todo report) rfl)).beginReport
        (by simp) fun id hid => ?_
      simp [Call.undoes, (hsplit id hid).1]
    · exact h.move_shutdown (hrest _ rfl)
  · exact h.move_shutdown fun _ _ => rfl
  · exact h.move_shutdown hk
  · exact h

lemma Settled.nothingToCome (h : w.Settled) (hid : w.NothingToCome id) :
    ∀ t c, w.calls t = some c → c.undoes id = false := by
  obtain ⟨-, -, hworker, hshutdown⟩ := hid
  intro t c hc
  cases t with
  | worker => exact hworker c hc
  | shutdown => exact hshutdown c hc
  | flush n => exact h.flushes n c hc id

lemma Settled.call (h : w.Settled) (hc : w.calls t = some c)
    (access : Access) (post : Post) (hlast : ∀ id ∈ c.completes, w.NothingToCome id) :
    ({ w with
      store := (w.store.advance w.now access post c).1
      calls := Function.update w.calls t (w.store.advance w.now access post c).2 } :
        Sender).Settled := by
  have hfacts : ∀ id, (w.store.advance w.now access post c).1.Done id →
      w.worker.undoes id = false ∧ w.shutdown.undoes id = false ∧
        ∀ t c, w.calls t = some c → c.undoes id = false := by
    intro id hid
    rcases Store.done_of_advance hid with hid | hid
    · exact ⟨h.worker id hid, h.shutdown id hid, h.calls id hid⟩
    · have hnothing := hlast id hid
      exact ⟨hnothing.1, hnothing.2.1, h.nothingToCome hnothing⟩
  refine ⟨?_, fun id hid => (hfacts id hid).1, fun id hid => (hfacts id hid).2.1,
    fun id hid t' c' hc' => ?_, fun n c' hc' id => ?_⟩
  · rw [Store.advance_ids]
    exact h.ids
  · simp only [update_apply] at hc'
    split_ifs at hc'
    · exact Store.undoes_advance hc' ((hfacts id hid).2.2 t c hc)
    · exact (hfacts id hid).2.2 t' c' hc'
  · simp only [update_apply] at hc'
    split_ifs at hc' with ht
    · exact Store.undoes_advance hc' (h.flushes n c (ht ▸ hc) id)
    · exact h.flushes n c' hc' id

lemma done_push (hm : m.isDone = false) :
    ({ s with messages := s.messages ++ [m] } : Store).Done id ↔ s.Done id := by
  simp [Store.Done, or_and_right, exists_or, hm]

lemma Settled.queue (h : w.Settled) (hnew : ∀ m' ∈ w.store.messages, m'.id ≠ m.id)
    (hm : m.isDone = false) :
    ({ w with store := { w.store with messages := w.store.messages ++ [m] } } :
      Sender).Settled := by
  refine ⟨?_, fun id hid => h.worker id ((done_push hm).mp hid),
    fun id hid => h.shutdown id ((done_push hm).mp hid),
    fun id hid => h.calls id ((done_push hm).mp hid), h.flushes⟩
  rw [map_append, nodup_append]
  refine ⟨h.ids, nodup_singleton _, fun x hx y hy heq => ?_⟩
  obtain ⟨m', hm', rfl⟩ := List.mem_map.mp hx
  exact hnew m' hm' (heq.trans (mem_singleton.mp hy))

lemma work_messages (o : Options) (w : Sender) (answers : Answers) :
    (w.work o answers).store.messages = w.store.messages := by
  unfold Sender.work
  split
  case h_2 => split_ifs <;> rfl
  case h_7 => split <;> rfl
  all_goals rfl

lemma panic_store (w : Sender) : w.panic.store = w.store := by
  unfold Sender.panic
  split <;> rfl

lemma shutdownStep_store (w : Sender) (patience : ℕ) :
    (w.shutdownStep patience).store = w.store := by
  unfold Sender.shutdownStep
  split
  case h_2 => split_ifs <;> rfl
  case h_3 => split_ifs <;> rfl
  all_goals rfl

lemma done_of_messages {s' : Store} (h : s'.messages = s.messages)
    (hid : s.Done id) : s'.Done id := by
  obtain ⟨m, hm, hdone⟩ := hid
  exact ⟨m, h ▸ hm, hdone⟩

lemma Settled.step (h : w.Settled) {e : Event} (hp : w.CompletesLast e) :
    (w.step o e).Settled ∧ ∀ id, w.store.Done id → (w.step o e).store.Done id := by
  have hidle : w.Settled ∧ ∀ id, w.store.Done id → w.store.Done id := ⟨h, fun _ hid => hid⟩
  cases e with
  | tick d => exact ⟨⟨h.ids, h.worker, h.shutdown, h.calls, h.flushes⟩, fun _ hid => hid⟩
  | peerSeen recipient => exact ⟨h.move_worker h.worker, fun _ hid => hid⟩
  | queue id recipients timestamp text =>
    simp only [Sender.step]
    split_ifs with hmay
    · exact ⟨h.queue hmay.2.2.2 rfl, fun _ hid => (done_push rfl).mpr hid⟩
    · exact hidle
  | select id =>
    simp only [Sender.step]
    split
    · rename_i msg hw hsd hfind
      refine ⟨h.move_worker fun id' hid' => undoes_trying.mpr fun heq => ?_, fun _ hid => hid⟩
      have hpending := mem_of_find?_eq_some hfind
      exact absurd (heq ▸ hid') (Store.not_done_of_pending h.ids hpending)
    · exact hidle
  | work answers =>
    simp only [Sender.step]
    split_ifs
    · exact ⟨h.work answers, fun _ => done_of_messages (work_messages o w answers)⟩
    · exact hidle
  | panic =>
    simp only [Sender.step]
    split_ifs
    · exact ⟨h.panic hp, fun _ hid => (panic_store w).symm ▸ hid⟩
    · exact hidle
  | shutdown patience =>
    simp only [Sender.step]
    split_ifs
    · exact ⟨h.shutdownStep patience, fun _ hid => (shutdownStep_store w patience).symm ▸ hid⟩
    · exact hidle
  | flush n =>
    simp only [Sender.step]
    split_ifs
    · exact ⟨⟨h.ids, h.worker, h.shutdown, h.calls, h.flushes⟩, fun _ hid => hid⟩
    · exact hidle
  | flushNext n =>
    simp only [Sender.step]
    split
    · rename_i msg todo hcall hflush
      have hmoved : ({ w with flushes := Function.update w.flushes n todo } : Sender).Settled :=
        ⟨h.ids, h.worker, h.shutdown, h.calls, h.flushes⟩
      exact ⟨hmoved.beginCall (fun _ _ => rfl) fun _ _ _ => rfl, fun _ hid => hid⟩
    · exact hidle
  | call t access post =>
    simp only [Sender.step]
    split
    · exact hidle
    · rename_i c hc
      exact ⟨h.call hc access post (hp c hc), fun id hid => hid.advance (h.calls id hid t c hc)⟩

end Settled

/-- **Completion is stable.**  In every run a message that is done at some moment is done from then
on, as long as every step that completes a message finds no report below 100% and no failure on it
still to come, and no send panics after its message is done. -/
theorem completion_stable (o : Options) (storeAndForwardSend sidewinder : Bool) (es fs : List Event)
    (hlast : Along (step o) CompletesLast (init storeAndForwardSend sidewinder) (es ++ fs))
    (id : String) (hid : (run (step o) (init storeAndForwardSend sidewinder) es).store.Done id) :
    (run (step o) (init storeAndForwardSend sidewinder) (es ++ fs)).store.Done id := by
  obtain ⟨hes, hfs⟩ := (Lib.along_append _ _ _ _ _).mp hlast
  have h0 : (init storeAndForwardSend sidewinder).Settled :=
    ⟨nodup_nil, fun _ _ => rfl, fun _ _ => rfl, by simp [init], by simp [init]⟩
  have hmid : (run (step o) (init storeAndForwardSend sidewinder) es).Settled :=
    Lib.run_invariant (fun w e (h : w.Settled) hp => (h.step hp).1) h0 hes
  have hend := Lib.run_invariant (I := fun w : Sender => w.Settled ∧ w.store.Done id)
    (fun w e h hp => ⟨(h.1.step hp).1, (h.1.step hp).2 id h.2⟩) ⟨hmid, hid⟩ hfs
  rw [Lib.run_append]
  exact hend.2

def deliveredFirst : List Event := [.queue "a" ["bob"] 1 "hello", .select "a"] ++ rounds 13 online

theorem delivered_stays_done :
    (run (step {}) (init true true) deliveredFirst).store.Done "a" ∧
      (run (step {}) (init true true) (deliveredFirst ++
        ([.queue "b" ["bob", "carol"] 2 "hello", .flush 0, .flushNext 0] ++
          List.replicate 5 (.call (.flush 0) .ready .posted)))).store.Done "a" := by
  have hdone : (run (step {}) (init true true) deliveredFirst).store.Done "a" := by decide +kernel
  exact ⟨hdone, completion_stable {} true true _ _ (by decide +kernel) "a" hdone⟩

/-- The worker has begun to send a message when a flush posts it to its one recipient. -/
def postedWhileSending (answers : Answers) : List Event :=
  [.queue "a" ["bob"] 1 "hello", .select "a", .work answers, .flush 0, .flushNext 0] ++
    List.replicate 4 (.call (.flush 0) .ready .posted)

/-- **A completion undone.**  The next report of the send path makes the message pending again; the
peer does not answer, and the failure is recorded on it. -/
theorem completion_undone :
    let away : Answers := { online with sendToPeer := fun _ => .error "connect timeout" }
    let status := fun es => (run (step {}) (init true true) es).store.messages.map fun m =>
      (m.isPending, m.progress, m.failureReason)
    status (postedWhileSending away) = [(false, some 100, none)] ∧
      status (postedWhileSending away ++ rounds 1 away) = [(true, some 10, none)] ∧
      status (postedWhileSending away ++ rounds 10 away) =
        [(true, some 0, some "Recipient unreachable — will keep retrying")] := by
  decide +kernel

/-! ## What a status leaves alone -/

lemma step_asQueued (o : Options) (w : Sender) (e : Event) :
    w.store.messages.map Message.asQueued <+: (w.step o e).store.messages.map Message.asQueued := by
  cases e with
  | tick | peerSeen => exact prefix_rfl
  | queue id recipients timestamp text =>
    simp only [Sender.step]
    split_ifs
    · rw [map_append]
      exact prefix_append _ _
    · exact prefix_rfl
  | work answers =>
    simp only [Sender.step]
    split_ifs
    · rw [work_messages]
    · exact prefix_rfl
  | panic =>
    simp only [Sender.step]
    split_ifs
    · rw [panic_store]
    · exact prefix_rfl
  | shutdown patience =>
    simp only [Sender.step]
    split_ifs
    · rw [shutdownStep_store]
    · exact prefix_rfl
  | flush n => simp only [Sender.step]; split_ifs <;> exact prefix_rfl
  | select id => simp only [Sender.step]; split <;> exact prefix_rfl
  | flushNext n => simp only [Sender.step]; split <;> exact prefix_rfl
  | call t access post =>
    simp only [Sender.step]
    split
    · exact prefix_rfl
    · rename_i c _
      rcases Store.advance_messages w.store w.now access post c with heq | heq <;> rw [heq]
      rw [map_modifyMessage (asQueued_write c)]

/-- **No queued message is lost.**  Whatever worker, `shutdown`, flushes and client do, in any order
and from any state, every message stays where it is, with its id, recipients, time and text; new
ones come behind it. -/
theorem queued_messages_kept (o : Options) (w : Sender) (es : List Event) :
    w.store.messages.map Message.asQueued <+:
      (run (step o) w es).store.messages.map Message.asQueued := by
  induction es generalizing w with
  | nil => exact prefix_rfl
  | cons e es ih => exact (step_asQueued o w e).trans (ih (w.step o e))

end Sender

end Bingle.Outgoing
