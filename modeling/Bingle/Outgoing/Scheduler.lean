import Bingle.Outgoing.PendingSender

/-!
# The scheduler of the pending sender

`run_scheduler` (`bingle_local/src/api/pending_sender.rs`) keeps one send under way.  Each turn of
its loop takes an event, and then, if nothing is being sent and the node is ready, hands the oldest
pending message that is not backing off to the worker.
-/

namespace Bingle.Outgoing

open List Option

def Message.orderTime (m : Message) : ℤ := m.timestamp

def retryBackoff : ℕ := 10

def sendable (retryAfter : String → Option ℕ) (now : ℕ) (m : Message) : Bool :=
  ((retryAfter m.id).map fun deadline => decide (deadline ≤ now)).getD true

def inOrder (pending : List Message) : List Message :=
  pending.insertionSort fun a b => a.orderTime ≤ b.orderTime

def selectSendableMessage (pending : List Message) (retryAfter : String → Option ℕ) (now : ℕ) :
    Option Message :=
  (inOrder pending).find? (sendable retryAfter now)

/-- The state of the loop, the time, and two ghosts: what the turns have read as pending, and which
messages they have handed to the worker. -/
structure Scheduler where
  inFlight : Option String := none
  retryAfter : String → Option ℕ := fun _ => none
  now : ℕ := 0
  reads : List (List String) := []
  attempted : List String := []

namespace Scheduler

inductive Received
  | done (outcome : SendOutcome)
  | wake
deriving DecidableEq, Repr

structure Turn where
  elapsed : ℕ
  received : Received
  lag : ℕ := 0
  ready : Bool := true
  pending : List Message

def init : Scheduler := {}

def receive (s : Scheduler) (e : Turn) : Scheduler :=
  let now := s.now + e.elapsed
  match e.received, s.inFlight with
  | .done outcome, some id =>
    { s with
      now := now + e.lag
      inFlight := none
      retryAfter := Function.update s.retryAfter id
        (match outcome with
          | .retrying _ => some (now + retryBackoff)
          | _ => none) }
  | _, _ => { s with now := now + e.lag }

def retain (s : Scheduler) (pending : List Message) : String → Option ℕ :=
  fun id => if id ∈ pending.map Message.id then s.retryAfter id else none

def looks (s : Scheduler) (e : Turn) : Bool := (s.receive e).inFlight.isNone && e.ready

def pick (s : Scheduler) (e : Turn) : Option Message :=
  if s.looks e then
    selectSendableMessage e.pending ((s.receive e).retain e.pending) (s.receive e).now
  else none

def step (s : Scheduler) (e : Turn) : Scheduler :=
  if s.looks e then
    { s.receive e with
      retryAfter := (s.receive e).retain e.pending
      inFlight := (s.pick e).map Message.id
      reads := s.reads ++ [e.pending.map Message.id]
      attempted := s.attempted ++ ((s.pick e).map Message.id).toList }
  else s.receive e

def throughout (s : Scheduler) (e : Turn) : List String :=
  (e.pending.map Message.id).filter fun id => s.reads.all fun read => id ∈ read

/-- A message that is tried again leaves none behind that was pending all along and has not been
tried. -/
def Fair (s : Scheduler) (e : Turn) : Prop :=
  ∀ m ∈ s.pick e, m.id ∈ s.attempted → ∀ id ∈ s.throughout e, id ∈ s.attempted

instance (s : Scheduler) (e : Turn) : Decidable (s.Fair e) :=
  inferInstanceAs (Decidable (∀ m ∈ s.pick e, _ → ∀ id ∈ s.throughout e, _))

def ahead (s : Scheduler) (e : Turn) : List Message :=
  (inOrder e.pending).takeWhile fun m => m.id ∈ s.attempted

/-- A turn that looks for work, while a message pending all along has not been tried, finds those
ahead of the first never tried backing off. -/
def BacksOff (s : Scheduler) (e : Turn) : Prop :=
  s.looks e = true → (∃ id ∈ s.throughout e, id ∉ s.attempted) →
    ∀ m ∈ s.ahead e, ∃ deadline ∈ (s.receive e).retryAfter m.id, (s.receive e).now < deadline

/-! ## What a turn leaves -/

structure Tried (s : Scheduler) : Prop where
  backingOff : ∀ id, (s.retryAfter id).isSome → id ∈ s.attempted
  inFlight : ∀ id ∈ s.inFlight, id ∈ s.attempted

variable {s : Scheduler}

@[simp] lemma receive_attempted (s : Scheduler) (e : Turn) :
    (s.receive e).attempted = s.attempted := by
  rw [receive]
  split <;> rfl

lemma Tried.receive (h : s.Tried) (e : Turn) : (s.receive e).Tried := by
  obtain ⟨elapsed, received, lag, ready, pending⟩ := e
  cases received with
  | wake => exact ⟨h.backingOff, h.inFlight⟩
  | done outcome =>
    cases hid : s.inFlight with
    | none => exact ⟨by simpa [Scheduler.receive, hid] using h.backingOff,
        by simp [Scheduler.receive, hid]⟩
    | some id =>
      have hmem : id ∈ s.attempted := h.inFlight id hid
      refine ⟨fun id' hsome => ?_, by simp [Scheduler.receive, hid]⟩
      simp only [Scheduler.receive, hid] at hsome ⊢
      by_cases hne : id' = id
      · exact hne ▸ hmem
      · rw [Function.update_of_ne hne] at hsome
        exact h.backingOff id' hsome

lemma Tried.step (h : s.Tried) (e : Turn) : (s.step e).Tried := by
  rw [Scheduler.step]
  split_ifs with hlooks
  · refine ⟨fun id hsome => ?_, fun id hid => ?_⟩
    · simp only [retain] at hsome
      split_ifs at hsome
      · have := (h.receive e).backingOff id hsome
        rw [receive_attempted] at this
        exact mem_append_left _ this
      · exact absurd hsome (by simp)
    · exact mem_append_right _ (by simpa using hid)
  · exact h.receive e

lemma tried_init : init.Tried := ⟨by simp [init], by simp [init]⟩

variable {m : Message} {e : Turn}

lemma Tried.sendable_of_new (h : s.Tried) (e : Turn) (hm : m.id ∉ s.attempted) :
    sendable ((s.receive e).retain e.pending) (s.receive e).now m = true := by
  have hnone : (s.receive e).retain e.pending m.id = none := by
    rw [retain]
    split_ifs
    · by_contra hne
      have := (h.receive e).backingOff m.id (isSome_iff_ne_none.mpr hne)
      rw [receive_attempted] at this
      exact hm this
    · rfl
  rw [sendable, hnone]
  rfl

lemma sendable_eq_false_iff (hm : m ∈ e.pending) :
    sendable ((s.receive e).retain e.pending) (s.receive e).now m = false ↔
      ∃ deadline ∈ (s.receive e).retryAfter m.id, (s.receive e).now < deadline := by
  rw [sendable, retain, if_pos (List.mem_map_of_mem hm)]
  cases (s.receive e).retryAfter m.id <;> simp

/-! ## The choice -/

lemma mem_inOrder {pending : List Message} : m ∈ inOrder pending ↔ m ∈ pending :=
  (perm_insertionSort _ pending).mem_iff

lemma inOrder_eq_ahead (s : Scheduler) (e : Turn) :
    inOrder e.pending =
      s.ahead e ++ (inOrder e.pending).dropWhile fun m => m.id ∈ s.attempted :=
  takeWhile_append_dropWhile.symm

lemma attempted_of_mem_ahead (hm : m ∈ s.ahead e) :
    m.id ∈ s.attempted := by
  simpa using mem_takeWhile_imp hm

lemma mem_pending_of_mem_ahead (hm : m ∈ s.ahead e) : m ∈ e.pending :=
  mem_inOrder.mp ((takeWhile_sublist _).subset hm)

lemma Tried.pick_of_backsOff (h : s.Tried) (hlooks : s.looks e = true) (hback : ∀ m ∈ s.ahead e,
      sendable ((s.receive e).retain e.pending) (s.receive e).now m = false)
    (hm : m ∈ s.pick e) {id : String} (hid : id ∈ s.throughout e)
    (hnew : id ∉ s.attempted) : m.id ∉ s.attempted := by
  rw [pick, if_pos hlooks, selectSendableMessage, s.inOrder_eq_ahead e, mem_def,
    List.find?_append, List.find?_eq_none.mpr (by simpa using hback), none_or] at hm
  cases hrest : (inOrder e.pending).dropWhile fun m => m.id ∈ s.attempted with
  | nil =>
    -- nobody would be left that has not been tried
    obtain ⟨m', hm', rfl⟩ := List.mem_map.mp (mem_of_mem_filter hid)
    have := dropWhile_eq_nil_iff.mp hrest m' (mem_inOrder.mpr hm')
    exact absurd (by simpa using this) hnew
  | cons m' rest =>
    have hne : m'.id ∉ s.attempted := by
      have hcons : (inOrder e.pending).dropWhile (fun m => m.id ∈ s.attempted) ≠ [] := by
        simp [hrest]
      simpa [hrest] using head_dropWhile_not _ hcons
    rw [hrest, List.find?_cons_of_pos (h.sendable_of_new e hne), some.injEq] at hm
    exact hm ▸ hne

lemma pick_attempted (hlooks : s.looks e = true) (hm : m ∈ s.ahead e)
    (hsend : sendable ((s.receive e).retain e.pending) (s.receive e).now m = true) :
    ∃ m' ∈ s.pick e, m'.id ∈ s.attempted := by
  obtain ⟨m', hm'⟩ := isSome_iff_exists.mp (List.find?_isSome.mpr ⟨m, hm, hsend⟩)
  refine ⟨m', ?_, attempted_of_mem_ahead (mem_of_find?_eq_some hm')⟩
  rw [pick, if_pos hlooks, selectSendableMessage, s.inOrder_eq_ahead e, mem_def,
    List.find?_append, hm', some_or]

lemma Tried.fair_iff (h : s.Tried) (e : Turn) : s.Fair e ↔ s.BacksOff e := by
  by_cases hlooks : s.looks e = true
  · constructor
    · rintro hfair - ⟨id, hid, hnew⟩ m hm
      rw [← sendable_eq_false_iff (mem_pending_of_mem_ahead hm)]
      by_contra hsend
      obtain ⟨m', hpick, hold⟩ := pick_attempted hlooks hm (eq_true_of_ne_false hsend)
      exact hnew (hfair m' hpick hold id hid)
    · intro hback m hm hold id hid
      by_contra hnew
      refine h.pick_of_backsOff hlooks (fun m' hm' => ?_) hm hid hnew hold
      exact (sendable_eq_false_iff (mem_pending_of_mem_ahead hm')).mpr
        (hback hlooks ⟨id, hid, hnew⟩ m' hm')
  · refine iff_of_true (fun m hm => ?_) fun hl => absurd hl hlooks
    rw [pick, if_neg hlooks] at hm
    exact absurd hm (by simp)

/-- **No starvation.**  In a run of the scheduler no message is tried a second time while one that
was pending all along has not been tried, exactly when every turn that looks for work while there is
such a message finds the messages ahead of the first never tried backing off. -/
theorem no_starvation_iff (es : List Turn) :
    Lib.Along step Fair init es ↔ Lib.Along step BacksOff init es :=
  Lib.along_congr (I := Tried) (fun _ e h => h.step e) (fun _ e h => h.fair_iff e) tried_init es

def threePending : List Message :=
  [⟨"a", ["alice"], 1, "x", some 0, none, none, none, none⟩,
    ⟨"b", ["bob"], 2, "y", some 0, none, none, none, none⟩,
    ⟨"c", ["carol"], 3, "z", some 0, none, none, none, none⟩]

def slowSends : List Turn :=
  [⟨0, .wake, 0, true, threePending⟩, ⟨20, .done (.retrying "offline"), 0, true, threePending⟩,
    ⟨20, .done (.retrying "offline"), 0, true, threePending⟩]

theorem slow_sends_starve : ¬ Lib.Along step Fair init slowSends := by
  decide

end Scheduler

end Bingle.Outgoing
