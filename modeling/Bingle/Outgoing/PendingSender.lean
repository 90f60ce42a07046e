import Bingle.Lib.Run
import Bingle.Outgoing.Store

/-!
# The pending sender

`PendingSender` (`bingle_local/src/api/pending_sender.rs`): a scheduler hands one pending message at
a time to a worker, the worker (`send_one`) sends it to each recipient in turn and records the
outcome, and on exit `shutdown` hands what is left to the Mailboxes.  The client may start
`forward_pending_to_mailbox` at any time.  `Sender` is all of it with the store; threads run in any
order.
-/

namespace Bingle.Outgoing

open List
open Lib (run Along Always)

/-! ## Threads -/

inductive Thread
  | worker
  | shutdown
  | flush (n : ℕ)
deriving DecidableEq, Repr

inductive Worker
  | idle
  /-- the head of the loop: the recipients that remain, and the last failure -/
  | trying (msg : Message) (rest : List String) (last : Option SendFailure)
  | delivering (msg : Message) (recipient : String) (effects : List Effect)
      (result : Except BingleError Bool) (rest : List String) (last : Option SendFailure)
  | recorded (msg : Message) (last : Option SendFailure)

def Worker.inFlight : Worker → Option String
  | idle => none
  | trying msg _ _ | delivering msg _ _ _ _ _ | recorded msg _ => some msg.id

inductive SendOutcome
  | delivered
  | forwarded (reason : String)
  | retrying (reason : String)
  | failed (reason : String)
deriving DecidableEq, Repr

structure SendReport where
  id : String
  recipients : List String
  outcome : SendOutcome
  previouslyFailed : Bool
deriving DecidableEq, Repr

inductive NotSentReason
  | storeForwardOff
  | postFailed
  | inFlight
  | deadlineReached
deriving DecidableEq, Repr

structure ShutdownEntry where
  id : String
  recipients : List String
deriving DecidableEq, Repr

structure ShutdownReport where
  forwarded : List ShutdownEntry := []
  notSent : List (ShutdownEntry × NotSentReason) := []
deriving DecidableEq, Repr

def ShutdownReport.add (report : ShutdownReport) (msg : Message) :
    Option NotSentReason → ShutdownReport
  | none => { report with forwarded := report.forwarded ++ [⟨msg.id, msg.recipientHandles⟩] }
  | some reason =>
    { report with notSent := report.notSent ++ [(⟨msg.id, msg.recipientHandles⟩, reason)] }

inductive Shutdown
  | notCalled
  /-- the scheduler has stopped; the send in flight may finish until the deadline -/
  | waiting (deadline : ℕ)
  | flushing (deadline : ℕ) (inFlight : Option String) (todo : List Message)
      (report : ShutdownReport)
  | posting (deadline : ℕ) (inFlight : Option String) (msg : Message) (todo : List Message)
      (report : ShutdownReport)
  | finished (report : ShutdownReport)

def Shutdown.todo : Shutdown → List Message
  | flushing _ _ todo _ | posting _ _ _ todo _ => todo
  | notCalled | waiting _ | finished _ => []

structure Options where
  retriesEnabled : Bool := true
  offlineWindow : ℕ := 60
  /-- Unicode white space, as `str::trim` has it -/
  isWhitespace : Char → Bool := Char.isWhitespace

structure Sender where
  now : ℕ := 0
  store : Store
  /-- `OfflineWindow`: until when a recipient is held to be offline -/
  offline : String → Option ℕ := fun _ => none
  worker : Worker := .idle
  shutdown : Shutdown := .notCalled
  flushes : ℕ → List Message := fun _ => []
  calls : Thread → Option Call := fun _ => none
  reports : List SendReport := []

inductive Event
  | tick (d : ℕ)
  | queue (id : String) (recipients : List String) (timestamp : ℤ) (text : String)
  | select (id : String)
  | peerSeen (recipient : String)
  | work (answers : Answers)
  | panic
  | shutdown (patience : ℕ)
  | flush (n : ℕ)
  | flushNext (n : ℕ)
  | call (t : Thread) (access : Access) (post : Post)

namespace Sender

def beginCall (w : Sender) (t : Thread) (c : Call) : Sender :=
  { w with calls := Function.update w.calls t (some c) }

def isOffline (w : Sender) (recipient : String) : Bool :=
  (w.offline recipient).any (w.now < ·)

def markOffline (w : Sender) (recipient : String) (window : ℕ) : String → Option ℕ :=
  Function.update (fun r => (w.offline r).filter (w.now < ·)) recipient (some (w.now + window))

def clearOffline (w : Sender) (recipient : String) : String → Option ℕ :=
  Function.update w.offline recipient none

def mayQueue (o : Options) (w : Sender) (id : String) (recipients : List String) (text : String) :
    Prop :=
  recipients ≠ [] ∧ (∀ r ∈ recipients, r.toList.any (!o.isWhitespace ·)) ∧
    text.toList.any (!o.isWhitespace ·) ∧ ∀ m ∈ w.store.messages, m.id ≠ id

instance (o : Options) (w : Sender) (id : String) (recipients : List String) (text : String) :
    Decidable (w.mayQueue o id recipients text) :=
  inferInstanceAs (Decidable (_ ∧ (∀ r ∈ recipients, _) ∧ _ ∧ ∀ m ∈ w.store.messages, _))

def skips (w : Sender) (recipient : String) : Bool :=
  w.store.storeAndForwardSend && w.isOffline recipient

def outcome (o : Options) (w : Sender) (id : String) : Option SendFailure → SendOutcome
  | none => .delivered
  | some f =>
    if w.store.storeAndForwardSend ∧ w.store.isHandedOff id then .forwarded f.reason
    else
      let reason := (w.store.displayFailureReason id).getD f.reason
      if o.retriesEnabled ∧ f.kind.isRetryable then .retrying reason else .failed reason

def work (o : Options) (w : Sender) (answers : Answers) : Sender :=
  match w.worker with
  | .idle => w
  | .trying msg (r :: rest) last =>
    if w.skips r then
      { w with worker := .trying msg [] (classifySendError (.error (.send .peerUnreachable
          (r ++ " is offline (a recent send failed)")))) }
    else
      let t := sendMessageToHandle answers r
      { w with worker := .delivering msg r t.effects t.result rest last }
  | .trying msg [] none =>
    { w with worker := .recorded msg none }.beginCall .worker (.decide msg.id 100 none none)
  | .trying msg [] (some f) =>
    { w with worker := .recorded msg (some f) }.beginCall .worker
      (.decide msg.id (if o.retriesEnabled ∧ f.kind.isRetryable then 0 else 100)
        (some f.reason) (some f.kind))
  | .delivering msg r (.progress percent :: effects) result rest last =>
    { w with worker := .delivering msg r effects result rest last }.beginCall .worker
      (.decide msg.id percent none none)
  | .delivering msg r (.handedOver :: effects) result rest last =>
    { w with
      worker := .delivering msg r effects result rest last
      store := w.store.handOver msg.id r .direct }
  | .delivering msg r [] result rest last =>
    match classifySendError result with
    | none => { w with offline := w.clearOffline r, worker := .trying msg rest last }
    | some f =>
      { w with
        offline := if f.kind.indicatesPeerOffline then w.markOffline r o.offlineWindow
          else w.offline
        -- a transient failure stops the attempt, a permanent one moves on
        worker := .trying msg (if f.kind.isRetryable then [] else rest) (some f) }
  | .recorded msg last =>
    { w with
      worker := .idle
      reports := ⟨msg.id, msg.recipientHandles, w.outcome o msg.id last,
        msg.failureReason.isSome⟩ :: w.reports }

def panic (w : Sender) : Sender :=
  match w.worker with
  | .delivering msg r _ _ rest last =>
    { w with
      worker := .delivering msg r [] (.error (.send .notReady "send panicked")) rest last }
  | _ => w

def exitFailure : SendFailure :=
  ⟨.peerUnreachable, humanizeFailure .peerUnreachable "not delivered before exit"⟩

def shutdownStep (w : Sender) (patience : ℕ) : Sender :=
  match w.shutdown with
  | .notCalled => { w with shutdown := .waiting (w.now + patience) }
  | .waiting deadline =>
    if w.worker.inFlight = none ∨ deadline ≤ w.now then
      { w with
        shutdown := .flushing deadline w.worker.inFlight w.store.pendingMessages {} }
    else w
  | .flushing deadline inFlight (msg :: todo) report =>
    if inFlight = some msg.id then
      { w with shutdown := .flushing deadline inFlight todo (report.add msg (some .inFlight)) }
    else if ¬ w.store.storeAndForwardSend then
      { w with
        shutdown := .flushing deadline inFlight todo (report.add msg (some .storeForwardOff)) }
    else if deadline ≤ w.now then
      { w with
        shutdown := .flushing deadline inFlight todo (report.add msg (some .deadlineReached)) }
    else
      { w with shutdown := .posting deadline inFlight msg todo report }.beginCall .shutdown
        (.decide msg.id 0 (some exitFailure.reason) (some exitFailure.kind))
  | .flushing _ _ [] report => { w with shutdown := .finished report }
  | .posting deadline inFlight msg todo report =>
    { w with
      shutdown := .flushing deadline inFlight todo
        (report.add msg (if w.store.isHandedOff msg.id then none else some .postFailed)) }
  | .finished _ => w

/-- One section of one thread.  A thread inside a call on the store does not go on before the call
returns. -/
def step (o : Options) (w : Sender) : Event → Sender
  | .tick d => { w with now := w.now + d }
  | .queue id recipients timestamp text =>
    if w.mayQueue o id recipients text then
      { w with store := { w.store with
          messages := w.store.messages ++
            [{ id, recipientHandles := recipients, timestamp, text }] } }
    else w
  | .select id =>
    match w.worker, w.shutdown, w.store.pendingMessages.find? (fun m => m.id = id) with
    | .idle, .notCalled, some msg => { w with worker := .trying msg msg.recipientHandles none }
    | _, _, _ => w
  | .peerSeen recipient => { w with offline := w.clearOffline recipient }
  | .work answers => if w.calls .worker = none then w.work o answers else w
  | .panic => if w.calls .worker = none then w.panic else w
  | .shutdown patience => if w.calls .shutdown = none then w.shutdownStep patience else w
  | .flush n =>
    if w.store.storeAndForwardSend ∧ w.flushes n = [] ∧ w.calls (.flush n) = none then
      { w with flushes := Function.update w.flushes n w.store.pendingMessages }
    else w
  | .flushNext n =>
    match w.calls (.flush n), w.flushes n with
    | none, msg :: todo =>
      { w with flushes := Function.update w.flushes n todo }.beginCall (.flush n)
        (.forward msg.id msg.recipientHandles)
    | _, _ => w
  | .call t access post =>
    match w.calls t with
    | none => w
    | some c =>
      { w with
        store := (w.store.advance w.now access post c).1
        calls := Function.update w.calls t (w.store.advance w.now access post c).2 }

def init (storeAndForwardSend sidewinder : Bool) : Sender :=
  { store := { storeAndForwardSend, sidewinder } }

def nextDirect (w : Sender) : Option (Message × String) :=
  match w.calls .worker, w.worker with
  | none, .trying msg (r :: _) _ => if w.skips r then none else some (msg, r)
  | _, _ => none

/-- The condition on a step, in the state it finds: the recipient of a direct send that it starts
can be reached, and the message has reached every other recipient already. -/
def SendsLast (w : Sender) : Event → Prop
  | .work answers => ∀ x ∈ w.nextDirect,
      answers.reaches x.2 ∧ ∀ r ∈ x.1.recipientHandles, r ≠ x.2 → w.store.Reached x.1.id r
  | _ => True

instance (w : Sender) : ∀ e, Decidable (w.SendsLast e)
  | .work _ =>
    inferInstanceAs (Decidable (∀ x ∈ w.nextDirect, _ ∧ ∀ r ∈ x.1.recipientHandles, _))
  | .tick _ | .queue .. | .select _ | .peerSeen _ | .panic | .shutdown _ | .flush _ | .flushNext _
  | .call .. => isTrue trivial

end Sender

/-! ## The invariant -/

def ReportsAfter (reached : Prop) : List Effect → Prop
  | [] => True
  | .progress percent :: effects => (100 ≤ percent → reached) ∧ ReportsAfter reached effects
  | .handedOver :: _ => True

lemma reportsAfter_of_reached {reached : Prop} (h : reached) (effects : List Effect) :
    ReportsAfter reached effects := by
  induction effects with
  | nil => trivial
  | cons e effects ih =>
    cases e with
    | progress percent => exact ⟨fun _ => h, ih⟩
    | handedOver => trivial

lemma ReportsAfter.mono {p q : Prop} (hpq : p → q) {effects : List Effect}
    (h : ReportsAfter p effects) : ReportsAfter q effects := by
  induction effects with
  | nil => trivial
  | cons e effects ih =>
    cases e with
    | progress percent => exact ⟨fun hp => hpq (h.1 hp), ih h.2⟩
    | handedOver => trivial

lemma sendMessageToHandle_reaches {answers : Answers} {r : String} (h : answers.reaches r)
    (reached : Prop) : .handedOver ∈ (sendMessageToHandle answers r).effects ∧
      ReportsAfter reached (sendMessageToHandle answers r).effects := by
  have hok := sendMessageToHandle_result.mpr h
  obtain ⟨early, hearly, ⟨-, heff⟩ | ⟨hne, -⟩⟩ := sendMessageToHandle_shaped answers r
  · rw [heff]
    refine ⟨by simp, ?_⟩
    clear heff
    induction early with
    | nil => trivial
    | cons p early ih =>
      have hp := hearly p (mem_cons_self ..)
      exact ⟨fun h100 => absurd h100 (by omega),
        ih fun q hq => hearly q (mem_cons_of_mem _ hq)⟩
  · exact absurd hok hne

def Worker.Sound (s : Store) : Worker → Prop
  | .idle => True
  | .trying msg rest last =>
    (msg.id, msg.recipientHandles) ∈ s.addressed ∧
      (last = none → ∀ r ∈ msg.recipientHandles, r ∈ rest ∨ s.Reached msg.id r)
  | .delivering msg r effects result rest last =>
    (msg.id, msg.recipientHandles) ∈ s.addressed ∧
      (last = none → ∀ r' ∈ msg.recipientHandles, r' = r ∨ r' ∈ rest ∨ s.Reached msg.id r') ∧
      (result = .ok true → .handedOver ∈ effects ∨ s.Reached msg.id r) ∧
      (effects ≠ [] → ∀ r' ∈ msg.recipientHandles, r' ≠ r → s.Reached msg.id r') ∧
      ReportsAfter (s.Reached msg.id r) effects
  | .recorded msg _ => (msg.id, msg.recipientHandles) ∈ s.addressed

lemma Worker.Sound.mono {s s' : Store} {k : Worker} (h : k.Sound s) (hg : s.Grows s') :
    k.Sound s' := by
  cases k with
  | idle => trivial
  | trying msg rest last =>
    obtain ⟨hmsg, hdone⟩ := h
    exact ⟨hg.addressed _ hmsg, fun hl r hr => (hdone hl r hr).imp_right (hg.reached _ _)⟩
  | delivering msg r effects result rest last =>
    obtain ⟨hmsg, hdone, hok, hothers, hafter⟩ := h
    exact ⟨hg.addressed _ hmsg,
      fun hl r' hr' => (hdone hl r' hr').imp_right (.imp_right (hg.reached _ _)),
      fun h => (hok h).imp_right (hg.reached _ _),
      fun h r' hr' hne => hg.reached _ _ (hothers h r' hr' hne),
      hafter.mono (hg.reached _ _)⟩
  | recorded msg last => exact hg.addressed _ h

namespace Sender

structure Sound (w : Sender) : Prop where
  store : w.store.Sound
  calls : ∀ t c, w.calls t = some c → c.Sound w.store
  worker : w.worker.Sound w.store
  shutdown : ∀ m ∈ w.shutdown.todo, (m.id, m.recipientHandles) ∈ w.store.addressed
  flushes : ∀ n, ∀ m ∈ w.flushes n, (m.id, m.recipientHandles) ∈ w.store.addressed

section Safety

variable {o : Options} {w : Sender}

lemma Sound.store_grows (h : w.Sound) {s : Store} (hs : s.Sound) (hg : w.store.Grows s) :
    ({ w with store := s } : Sender).Sound :=
  ⟨hs, fun t c hc => (h.calls t c hc).mono hg, h.worker.mono hg,
    fun m hm => hg.addressed _ (h.shutdown m hm), fun n m hm => hg.addressed _ (h.flushes n m hm)⟩

lemma Sound.move_worker (h : w.Sound) (k : Worker) (offline : String → Option ℕ)
    (reports : List SendReport) (hk : k.Sound w.store) :
    ({ w with worker := k, offline, reports } : Sender).Sound :=
  ⟨h.store, h.calls, hk, h.shutdown, h.flushes⟩

lemma Sound.move_shutdown (h : w.Sound) (k : Shutdown)
    (hk : ∀ m ∈ k.todo, (m.id, m.recipientHandles) ∈ w.store.addressed) :
    ({ w with shutdown := k } : Sender).Sound :=
  ⟨h.store, h.calls, h.worker, hk, h.flushes⟩

lemma Sound.move_flush (h : w.Sound) (n : ℕ) {todo : List Message}
    (htodo : ∀ m ∈ todo, (m.id, m.recipientHandles) ∈ w.store.addressed) :
    ({ w with flushes := Function.update w.flushes n todo } : Sender).Sound := by
  refine ⟨h.store, h.calls, h.worker, h.shutdown, fun k m hm => ?_⟩
  simp only [Function.update_apply] at hm
  split_ifs at hm
  · exact htodo m hm
  · exact h.flushes k m hm

lemma Sound.move_call (h : w.Sound) (t : Thread) {c : Option Call}
    (hc : ∀ c', c = some c' → c'.Sound w.store) :
    ({ w with calls := Function.update w.calls t c } : Sender).Sound := by
  refine ⟨h.store, fun t' c' hc' => ?_, h.worker, h.shutdown, h.flushes⟩
  simp only [Function.update_apply] at hc'
  split_ifs at hc'
  · exact hc c' hc'
  · exact h.calls t' c' hc'

lemma Sound.beginCall (h : w.Sound) (t : Thread) {c : Call} (hc : c.Sound w.store) :
    (w.beginCall t c).Sound :=
  h.move_call t fun _ hc' => Option.some.inj hc' ▸ hc

lemma pendingMessages_addressed {s : Store} :
    ∀ m ∈ s.pendingMessages, (m.id, m.recipientHandles) ∈ s.addressed :=
  fun _ hm => Store.mem_addressed (mem_of_mem_filter hm)

lemma Sound.work (h : w.Sound) (answers : Answers) (hcalls : w.calls .worker = none)
    (hlast : w.SendsLast (.work answers)) : (w.work o answers).Sound := by
  have hk := h.worker
  unfold Sender.work
  split <;> rename_i hw <;> rw [hw] at hk
  · exact h
  · -- the head of the loop, with a recipient to send to
    rename_i msg r rest last
    obtain ⟨hmsg, hdone⟩ := hk
    split_ifs with hskip
    · refine h.move_worker _ _ _ ⟨hmsg, fun hnone => ?_⟩
      exact absurd hnone (by simp [classifySendError])
    · have hnext : (msg, r) ∈ w.nextDirect := by simp [nextDirect, hcalls, hw, hskip]
      obtain ⟨hreaches, hothers⟩ := hlast (msg, r) hnext
      obtain ⟨hover, hafter⟩ := sendMessageToHandle_reaches hreaches (w.store.Reached msg.id r)
      refine h.move_worker _ _ _
        ⟨hmsg, fun hl r' hr' => ?_, fun _ => Or.inl hover, fun _ => hothers, hafter⟩
      rcases hdone hl r' hr' with hmem | hreach
      · exact (mem_cons.mp hmem).imp_right Or.inl
      · exact Or.inr (Or.inr hreach)
  · -- every recipient has been sent to, and none has failed
    rename_i msg
    obtain ⟨hmsg, hdone⟩ := hk
    refine (h.move_worker (.recorded msg none) w.offline w.reports hmsg).beginCall .worker ?_
    exact ⟨_, hmsg, fun _ _ r hr => (hdone rfl r hr).resolve_left not_mem_nil⟩
  · rename_i msg f
    refine (h.move_worker (.recorded msg (some f)) w.offline w.reports hk.1).beginCall .worker ?_
    exact ⟨_, hk.1, fun _ hnone => absurd hnone (by simp)⟩
  · -- a report of the send path
    rename_i msg r percent effects result rest last
    obtain ⟨hmsg, hdone, hok, hothers, hreport, hafter⟩ := hk
    refine (h.move_worker (.delivering msg r effects result rest last) w.offline w.reports
      ⟨hmsg, hdone, fun hr => ?_, fun _ => hothers (by simp), hafter⟩).beginCall .worker
      ⟨_, hmsg, fun hp _ r' hr' => ?_⟩
    · exact (hok hr).imp_left fun hmem => by simpa using hmem
    · by_cases heq : r' = r
      · exact heq ▸ hreport hp
      · exact hothers (by simp) r' hr' heq
  · -- the peer has the message
    rename_i msg r effects result rest last
    have hg := Store.grows_handOver w.store msg.id r .direct
    have hreach := Store.reached_handOver w.store msg.id r .direct
    obtain ⟨hmsg, hdone, -, hothers, -⟩ := hk.mono hg
    refine (h.store_grows (h.store.handOver msg.id r .direct) hg).move_worker _ _ _
      ⟨hmsg, hdone, fun _ => Or.inr hreach, fun _ => hothers (by simp),
        reportsAfter_of_reached hreach effects⟩
  · -- the send has returned
    rename_i msg r result rest last
    obtain ⟨hmsg, hdone, hok, -, -⟩ := hk
    split
    · rename_i hclass
      have hreach := (hok (classifySendError_eq_none_iff.mp hclass)).resolve_left not_mem_nil
      refine h.move_worker _ _ _ ⟨hmsg, fun hl r' hr' => ?_⟩
      rcases hdone hl r' hr' with rfl | hmem | hr
      · exact Or.inr hreach
      · exact Or.inl hmem
      · exact Or.inr hr
    · exact h.move_worker _ _ _ ⟨hmsg, fun hl => absurd hl (by simp)⟩
  · exact h.move_worker _ _ _ trivial

lemma Sound.panic (h : w.Sound) : w.panic.Sound := by
  have hk := h.worker
  unfold Sender.panic
  split
  · rename_i hw
    rw [hw] at hk
    obtain ⟨hmsg, hdone, -⟩ := hk
    exact h.move_worker _ _ _ ⟨hmsg, hdone, fun hr => absurd hr (by simp),
      fun hne => absurd rfl hne, trivial⟩
  · exact h

lemma Sound.shutdownStep (h : w.Sound) (patience : ℕ) : (w.shutdownStep patience).Sound := by
  have htodo := h.shutdown
  unfold Sender.shutdownStep
  split <;> rename_i hw <;> rw [hw] at htodo
  · exact h.move_shutdown _ fun m hm => absurd hm not_mem_nil
  · split_ifs
    · exact h.move_shutdown _ pendingMessages_addressed
    · exact h
  · rename_i deadline inFlight msg todo report
    have hrest : ∀ m ∈ todo, (m.id, m.recipientHandles) ∈ w.store.addressed :=
      fun m hm => htodo m (mem_cons_of_mem _ hm)
    split_ifs
    · exact h.move_shutdown _ hrest
    · exact h.move_shutdown _ hrest
    · refine (h.move_shutdown (.posting deadline inFlight msg todo report) hrest).beginCall
        .shutdown ?_
      exact ⟨_, htodo msg (mem_cons_self ..), fun _ hnone => absurd hnone (by simp)⟩
    · exact h.move_shutdown _ hrest
  · exact h.move_shutdown _ fun m hm => absurd hm not_mem_nil
  · exact h.move_shutdown _ htodo
  · exact h

lemma Sound.step (h : w.Sound) (e : Event) (hlast : w.SendsLast e) : (w.step o e).Sound := by
  cases e with
  | tick d => exact ⟨h.store, h.calls, h.worker, h.shutdown, h.flushes⟩
  | queue id recipients timestamp text =>
    simp only [Sender.step]
    split_ifs with hmay
    · obtain ⟨hs, hg⟩ := h.store.push
        (m := { id, recipientHandles := recipients, timestamp, text }) hmay.2.2.2 rfl
      exact h.store_grows hs hg
    · exact h
  | select id =>
    simp only [Sender.step]
    split
    · rename_i msg hw hsd hfind
      have hmsg := pendingMessages_addressed msg (mem_of_find?_eq_some hfind)
      exact h.move_worker _ _ _ ⟨hmsg, fun _ r hr => Or.inl hr⟩
    · exact h
  | peerSeen recipient => exact h.move_worker _ _ _ h.worker
  | work answers =>
    simp only [Sender.step]
    split_ifs with hcalls
    · exact h.work answers hcalls hlast
    · exact h
  | panic =>
    simp only [Sender.step]
    split_ifs
    · exact h.panic
    · exact h
  | shutdown patience =>
    simp only [Sender.step]
    split_ifs
    · exact h.shutdownStep patience
    · exact h
  | flush n =>
    simp only [Sender.step]
    split_ifs
    · exact h.move_flush n pendingMessages_addressed
    · exact h
  | flushNext n =>
    simp only [Sender.step]
    split
    · rename_i msg todo hcall hflush
      have htodo := h.flushes n
      rw [hflush] at htodo
      exact (h.move_flush n fun m hm => htodo m (mem_cons_of_mem _ hm)).beginCall (.flush n)
        (htodo msg (mem_cons_self ..))
    · exact h
  | call t access post =>
    simp only [Sender.step]
    split
    · exact h
    · rename_i c hc
      obtain ⟨hs, hg, hnext⟩ := Store.advance_sound h.store w.now access post (h.calls t c hc)
      exact (h.store_grows hs hg).move_call t hnext

end Safety

/-- **No false delivery.**  In every run and every state on the way a message that is complete
without a failure has reached every one of its recipients, directly or in its Mailbox, as long as
every direct send that is started is to a recipient that can be reached, the only one that the
message has not reached. -/
theorem no_false_delivery (o : Options) (storeAndForwardSend sidewinder : Bool) (es : List Event)
    (hlast : Along (step o) SendsLast (init storeAndForwardSend sidewinder) es) :
    Always (step o) (fun w => w.store.NoFalseDelivery) (init storeAndForwardSend sidewinder) es := by
  have h0 : (init storeAndForwardSend sidewinder).Sound :=
    ⟨⟨nodup_nil, by simp [init], by simp [init, Store.NoFalseDelivery]⟩, by simp [init],
      trivial, by simp [init, Shutdown.todo], by simp [init]⟩
  have h : Always (step o) Sound (init storeAndForwardSend sidewinder) es :=
    Lib.always_of_along (fun w e (h : w.Sound) hp => h.step e hp) h0 hlast
  exact h.mono fun w hw => hw.store.noFalse

def online : Answers where
  handleLookup handle := .ok (some handle)
  appId := none
  lookupRootId _ := none
  ddbLookup _ := .ok (.newDirect "192.0.2.1:4433")
  base32Length _ := some 36
  myId := none
  turnRelayLookupAddrById _ := none
  relayCall _ _ := .error (.other "no relay")
  lastPublicAddr := none
  sendToPeer _ := .ok ()

def rounds (n : ℕ) (answers : Answers) : List Event :=
  (List.replicate n
    [.work answers, .call .worker .ready .posted, .call .worker .ready .posted]).flatten

def deliveredAndPosted : List Event :=
  [.queue "a" ["bob"] 1 "hello", .select "a"] ++ rounds 13 online ++
    [.queue "b" ["bob", "carol"] 2 "hello", .flush 0, .flushNext 0] ++
      List.replicate 5 (.call (.flush 0) .ready .posted)

theorem delivered_and_posted :
    (run (step {}) (init true true) deliveredAndPosted).store.messages.map
        (fun m => (m.progress, m.failureReason, m.deliveryRoute)) =
        [(some 100, none, some .direct), (some 100, none, some .storeAndForward)] ∧
      Always (step {}) (fun w => w.store.NoFalseDelivery) (init true true) deliveredAndPosted :=
  ⟨by decide +kernel, no_false_delivery {} true true deliveredAndPosted (by decide +kernel)⟩

def unreachable : List Event :=
  [.queue "a" ["bob"] 1 "hello", .select "a"] ++
    rounds 9 { online with sendToPeer := fun _ => .error "connect timeout" }

theorem completed_before_failure :
    ¬ ∀ (o : Options) (storeAndForwardSend sidewinder : Bool) (es : List Event),
      Always (step o) (fun w => w.store.NoFalseDelivery) (init storeAndForwardSend sidewinder)
        es := by
  intro h
  have hlast := (Lib.always_iff_prefix _ _ _ _).mp (h {} false false unreachable) unreachable
    (prefix_refl _)
  exact absurd hlast (by decide +kernel)

end Sender

end Bingle.Outgoing
