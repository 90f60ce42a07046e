import Bingle.Outgoing.Completion

/-!
# What shutdown accounts for

`shutdown` (`pending_sender.rs`) waits for the message in flight, reads the slot that the worker
clears, and then the pending messages, and hands each of these to its Mailboxes or says why not.
The worker may go on between the two reads.
-/

namespace Bingle.Outgoing

open List
open Lib (run)

def Message.entry (m : Message) : ShutdownEntry := ⟨m.id, m.recipientHandles⟩

def ShutdownReport.named (report : ShutdownReport) : List ShutdownEntry :=
  report.forwarded ++ report.notSent.map Prod.fst

def Shutdown.posted : Shutdown → Option String
  | posting _ _ msg _ _ => some msg.id
  | notCalled | waiting _ | flushing .. | finished _ => none

structure Closing where
  sender : Sender
  slot : Option (Option String) := none
  pending : List Message := []

namespace Closing

def step (o : Options) (c : Closing) : Event → Closing
  | .shutdown patience =>
    match c.sender.calls .shutdown, c.sender.shutdown, c.slot with
    | none, .waiting deadline, none =>
      if c.sender.worker.inFlight = none ∨ deadline ≤ c.sender.now then
        { c with slot := some c.sender.worker.inFlight }
      else c
    | none, .waiting deadline, some inFlight =>
      { c with
        pending := c.sender.store.pendingMessages
        sender := { c.sender with
          shutdown := .flushing deadline inFlight c.sender.store.pendingMessages {} } }
    | _, _, _ => { c with sender := c.sender.step o (.shutdown patience) }
  | e => { c with sender := c.sender.step o e }

def init (storeAndForwardSend sidewinder : Bool) : Closing :=
  { sender := .init storeAndForwardSend sidewinder }

end Closing

/-! ## What the other threads leave alone -/

namespace Sender

variable {o : Options} {w : Sender}

lemma work_frame (answers : Answers) : (w.work o answers).shutdown = w.shutdown ∧
    (w.work o answers).store.messages = w.store.messages ∧
      ((w.work o answers).worker.inFlight = w.worker.inFlight ∨
        (w.work o answers).worker.inFlight = none) := by
  unfold work
  repeat' split
  all_goals
    refine ⟨rfl, rfl, ?_⟩
    simp_all [Worker.inFlight, beginCall]

lemma panic_frame : w.panic.shutdown = w.shutdown ∧ w.panic.store = w.store ∧
    w.panic.worker.inFlight = w.worker.inFlight := by
  unfold panic
  split
  · next hworker => exact ⟨rfl, rfl, by rw [hworker]; rfl⟩
  · exact ⟨rfl, rfl, rfl⟩

lemma step_frame {e : Event} (he : ∀ patience, e ≠ .shutdown patience)
    (hids : (w.store.messages.map Message.id).Nodup) :
    (w.step o e).shutdown = w.shutdown ∧ ((w.step o e).store.messages.map Message.id).Nodup ∧
      (w.shutdown ≠ .notCalled → (w.step o e).worker.inFlight = w.worker.inFlight ∨
        (w.step o e).worker.inFlight = none) := by
  cases e with
  | shutdown patience => exact absurd rfl (he patience)
  | work answers =>
    obtain ⟨hshutdown, hmessages, hworker⟩ := work_frame (o := o) (w := w) answers
    simp only [step]
    split_ifs
    · exact ⟨hshutdown, hmessages ▸ hids, fun _ => hworker⟩
    · exact ⟨rfl, hids, fun _ => .inl rfl⟩
  | panic =>
    obtain ⟨hshutdown, hstore, hworker⟩ := panic_frame (w := w)
    simp only [step]
    split_ifs
    · exact ⟨hshutdown, hstore ▸ hids, fun _ => .inl hworker⟩
    · exact ⟨rfl, hids, fun _ => .inl rfl⟩
  | select id =>
    simp only [step]
    split
    · next hcalled _ => exact ⟨rfl, hids, fun h => absurd hcalled h⟩
    · exact ⟨rfl, hids, fun _ => .inl rfl⟩
  | queue id recipients timestamp text =>
    simp only [step]
    split_ifs with hmay
    · refine ⟨rfl, ?_, fun _ => .inl rfl⟩
      rw [map_append]
      refine nodup_append'.mpr ⟨hids, nodup_singleton _, ?_⟩
      simpa [eq_comm] using hmay.2.2.2
    · exact ⟨rfl, hids, fun _ => .inl rfl⟩
  | call t access post =>
    simp only [step]
    split
    · exact ⟨rfl, hids, fun _ => .inl rfl⟩
    · exact ⟨rfl, by rwa [Store.advance_ids], fun _ => .inl rfl⟩
  | tick d => exact ⟨rfl, hids, fun _ => .inl rfl⟩
  | peerSeen recipient => exact ⟨rfl, hids, fun _ => .inl rfl⟩
  | flush n =>
    simp only [step]
    split_ifs <;> exact ⟨rfl, hids, fun _ => .inl rfl⟩
  | flushNext n =>
    simp only [step]
    split <;> exact ⟨rfl, hids, fun _ => .inl rfl⟩

lemma shutdownStep_frame (patience : ℕ) : (w.shutdownStep patience).worker = w.worker ∧
    (w.shutdownStep patience).store = w.store := by
  unfold shutdownStep
  repeat' split
  all_goals exact ⟨rfl, rfl⟩

end Sender

/-! ## The tally -/

structure Tally (inFlight : Option String) (pending todo : List Message) (report : ShutdownReport) :
    Prop where
  perm : (report.named ++ todo.map Message.entry).Perm (pending.map Message.entry)
  marked : ∀ e, (e, .inFlight) ∈ report.notSent → inFlight = some e.id
  named : ∀ e ∈ report.named, inFlight = some e.id → (e, .inFlight) ∈ report.notSent

lemma named_add (report : ShutdownReport) (msg : Message) (reason : Option NotSentReason) :
    (report.add msg reason).named.Perm (report.named ++ [msg.entry]) := by
  cases reason with
  | none =>
    simp only [ShutdownReport.named, ShutdownReport.add, append_assoc]
    exact List.Perm.append_left _ perm_append_comm
  | some reason =>
    simp only [ShutdownReport.named, ShutdownReport.add, map_append, append_assoc]
    exact List.Perm.refl _

variable {inFlight : Option String} {pending : List Message} {report : ShutdownReport}

lemma Tally.add {todo : List Message}
    {msg : Message} (h : Tally inFlight pending (msg :: todo) report)
    {reason : Option NotSentReason} (hreason : reason = some .inFlight ↔ inFlight = some msg.id) :
    Tally inFlight pending todo (report.add msg reason) := by
  have hkept : ∀ p ∈ report.notSent, p ∈ (report.add msg reason).notSent := by
    cases reason <;> simp +contextual [ShutdownReport.add]
  refine ⟨?_, fun e he => ?_, fun e he heq => ?_⟩
  · refine (List.Perm.append_right _ (named_add report msg reason)).trans ?_
    rw [append_assoc]
    exact h.perm
  · cases reason with
    | none => exact h.marked e he
    | some r =>
      obtain he | he := mem_append.mp he
      · exact h.marked e he
      · obtain ⟨rfl, rfl⟩ := Prod.mk.inj (mem_singleton.mp he)
        exact hreason.mp rfl
  · obtain he | he := mem_append.mp ((named_add report msg reason).mem_iff.mp he)
    · exact hkept _ (h.named e he heq)
    · obtain rfl := mem_singleton.mp he
      obtain rfl := hreason.mpr heq
      exact mem_append_right _ (mem_singleton_self _)

lemma Tally.xor
    (h : Tally inFlight pending [] report) (hids : (pending.map Message.id).Nodup) {m : Message}
    (hm : m ∈ pending) :
    Xor (m.entry ∈ report.forwarded) (∃ reason, (m.entry, reason) ∈ report.notSent) := by
  have hperm : report.named.Perm (pending.map Message.entry) := by simpa using h.perm
  have hnodup : report.named.Nodup := by
    refine hperm.nodup_iff.mpr (List.Nodup.of_map ShutdownEntry.id ?_)
    rwa [map_map]
  have hdisjoint := disjoint_of_nodup_append hnodup
  have hsent : (∃ reason, (m.entry, reason) ∈ report.notSent) ↔
      m.entry ∈ report.notSent.map Prod.fst := by simp
  rw [hsent]
  obtain hin | hin := mem_append.mp (hperm.mem_iff.mpr (mem_map_of_mem hm))
  · exact .inl ⟨hin, fun hout => hdisjoint hin hout⟩
  · exact .inr ⟨hin, fun hout => hdisjoint hout hin⟩

/-! ## Whole runs -/

namespace Closing

def Phase (slot : Option (Option String)) (pending : List Message) : Shutdown → Prop
  | .notCalled => slot = none
  | .waiting _ => True
  | .flushing _ inFlight todo report => slot = some inFlight ∧ Tally inFlight pending todo report
  | .posting _ inFlight msg todo report =>
    slot = some inFlight ∧ inFlight ≠ some msg.id ∧ Tally inFlight pending (msg :: todo) report
  | .finished report => ∃ inFlight, slot = some inFlight ∧ Tally inFlight pending [] report

structure Accounted (c : Closing) : Prop where
  ids : (c.sender.store.messages.map Message.id).Nodup
  pendingIds : (c.pending.map Message.id).Nodup
  slot : ∀ inFlight, c.slot = some inFlight →
    c.sender.worker.inFlight = inFlight ∨ c.sender.worker.inFlight = none
  phase : Phase c.slot c.pending c.sender.shutdown

variable {o : Options} {c : Closing}

lemma Accounted.other (h : c.Accounted) {e : Event} (he : ∀ patience, e ≠ .shutdown patience) :
    Accounted { c with sender := c.sender.step o e } := by
  obtain ⟨hshutdown, hids, hworker⟩ := Sender.step_frame (o := o) he h.ids
  refine ⟨hids, h.pendingIds, fun inFlight hslot => ?_, by rw [hshutdown]; exact h.phase⟩
  have hcalled : c.sender.shutdown ≠ .notCalled := by
    intro hnot
    have hphase := h.phase
    rw [hnot] at hphase
    cases hphase.symm.trans hslot
  obtain heq | hnone := hworker hcalled
  · rw [heq]
    exact h.slot inFlight hslot
  · exact .inr hnone

lemma Accounted.shutdownStep (h : c.Accounted) (patience : ℕ)
    (hwaiting : ∀ deadline, c.sender.shutdown ≠ .waiting deadline) :
    Accounted { c with sender := c.sender.shutdownStep patience } := by
  obtain ⟨hworker, hstore⟩ := Sender.shutdownStep_frame (w := c.sender) patience
  refine ⟨hstore ▸ h.ids, h.pendingIds, hworker ▸ h.slot, ?_⟩
  have hphase := h.phase
  dsimp only
  unfold Sender.shutdownStep
  cases hshut : c.sender.shutdown with
  | waiting deadline => exact absurd hshut (hwaiting deadline)
  | notCalled => trivial
  | finished report =>
    dsimp only
    rwa [hshut] at hphase ⊢
  | posting deadline inFlight msg todo report =>
    rw [hshut] at hphase
    obtain ⟨hslot, hne, htally⟩ := hphase
    refine ⟨hslot, htally.add ?_⟩
    split_ifs <;> simp [hne]
  | flushing deadline inFlight todo report =>
    rw [hshut] at hphase
    obtain ⟨hslot, htally⟩ := hphase
    cases todo with
    | nil => exact ⟨inFlight, hslot, htally⟩
    | cons msg todo =>
      dsimp only
      split_ifs with hsame hoff hlate
      · exact ⟨hslot, htally.add (by simp [hsame])⟩
      · exact ⟨hslot, htally.add (by simp [hsame])⟩
      · exact ⟨hslot, hsame, htally⟩
      · exact ⟨hslot, htally.add (by simp [hsame])⟩

lemma Accounted.step (h : c.Accounted) (e : Event) : (c.step o e).Accounted := by
  cases e with
  | shutdown patience =>
    rw [Closing.step]
    split
    · split_ifs
      · next hshut _ _ =>
        refine ⟨h.ids, h.pendingIds, fun inFlight hslot => .inl (Option.some.inj hslot), ?_⟩
        rw [hshut]
        trivial
      · exact h
    · next hslot =>
      refine ⟨h.ids, ?_, h.slot, hslot, ?_⟩
      · exact (filter_sublist.map Message.id).nodup h.ids
      · exact ⟨List.Perm.refl _, by simp, by simp [ShutdownReport.named]⟩
    · next hunread hread =>
      rw [Sender.step]
      split_ifs with hcalls
      · refine h.shutdownStep patience fun deadline hshut => ?_
        cases hslot : c.slot with
        | none => exact hunread deadline hcalls hshut hslot
        | some inFlight => exact hread deadline inFlight hcalls hshut hslot
      · exact h
  | _ => exact h.other (by simp)

/-- **What shutdown accounts for**, in every run.  Each message that it has read as pending is in
one of the two lists of the report; while it has a message posted, the worker is not sending that
message; and the message that was in flight when it stopped waiting is reported as in flight exactly
if it was read as pending. -/
theorem shutdown_accounts (o : Options) (storeAndForwardSend sidewinder : Bool) (es : List Event) :
    let c := run (step o) (init storeAndForwardSend sidewinder) es
    (∀ report, c.sender.shutdown = .finished report → ∀ m ∈ c.pending,
      Xor (m.entry ∈ report.forwarded) (∃ reason, (m.entry, reason) ∈ report.notSent)) ∧
    (∀ id, c.sender.shutdown.posted = some id → c.sender.worker.inFlight ≠ some id) ∧
    ∀ report id, c.sender.shutdown = .finished report → c.slot = some (some id) →
      ((∃ e, (e, .inFlight) ∈ report.notSent ∧ e.id = id) ↔ ∃ m ∈ c.pending, m.id = id) := by
  intro c
  have h0 : (init storeAndForwardSend sidewinder).Accounted :=
    ⟨nodup_nil, nodup_nil, nofun, rfl⟩
  have h : c.Accounted := Lib.run_invariant (P := fun _ _ => True) (fun _ e h _ => h.step e) h0
    (Lib.along_of_forall_mem (Q := fun _ => True) (fun _ _ => trivial) _)
  have hphase := h.phase
  refine ⟨fun report hfinished m hm => ?_, fun id hposted => ?_, fun report id hfinished hslot => ?_⟩
  · rw [hfinished] at hphase
    obtain ⟨inFlight, -, htally⟩ := hphase
    exact htally.xor h.pendingIds hm
  · cases hshut : c.sender.shutdown with
    | posting deadline inFlight msg todo report =>
      rw [hshut] at hphase hposted
      obtain ⟨hslot, hne, -⟩ := hphase
      obtain rfl : msg.id = id := Option.some.inj hposted
      obtain heq | hnone := h.slot inFlight hslot
      · rwa [heq]
      · rw [hnone]
        nofun
    | _ =>
      rw [hshut] at hposted
      cases hposted
  · rw [hfinished] at hphase
    obtain ⟨inFlight, hread, htally⟩ := hphase
    obtain rfl : inFlight = some id := Option.some.inj (hread.symm.trans hslot)
    have hperm : report.named.Perm (c.pending.map Message.entry) := by simpa using htally.perm
    constructor
    · rintro ⟨e, he, rfl⟩
      have hnamed : e ∈ report.named := mem_append_right _ (mem_map_of_mem he)
      obtain ⟨m, hm, rfl⟩ := mem_map.mp (hperm.mem_iff.mp hnamed)
      exact ⟨m, hm, rfl⟩
    · rintro ⟨m, hm, rfl⟩
      exact ⟨m.entry, htally.named _ (hperm.mem_iff.mpr (mem_map_of_mem hm)) rfl, rfl⟩

def stoppedAfter (n : ℕ) : Closing :=
  run (step {}) (init true true)
    ([.queue "a" ["bob", "carol"] 1 "hello", .select "a"] ++ Sender.rounds n Sender.online ++
      List.replicate 4 (.shutdown 0))

/-- **In flight and not reported**: the message has reached the first of its recipients and is at
100%, the worker goes on to the second, and the report is empty. -/
theorem in_flight_not_reported :
    (stoppedAfter 12).sender.worker.inFlight = some "a" ∧
      (stoppedAfter 12).slot = some (some "a") ∧
      (stoppedAfter 12).sender.shutdown = .finished {} :=
  ⟨by decide +kernel, by decide +kernel, by rfl⟩

end Closing

end Bingle.Outgoing
