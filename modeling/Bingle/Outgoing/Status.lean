import Bingle.Outgoing.Completion

/-!
# The status of a message

The route of a message says that it has been delivered and how; it is written beside the progress,
the failure and the note of the Mailbox, by the worker, by `shutdown` and by the flushes.  A call of
a flush notes last that a message was not forwarded, without looking at it again.
-/

namespace Bingle.Outgoing

open List Option
open Function (update_apply)
open Lib (run Along Always)

/-- What the progress, the failure and the route say of each other.  A route is there exactly if the
message is complete without a failure; a kind of failure comes with a reason only. -/
structure Message.Recorded (m : Message) : Prop where
  route : m.deliveryRoute.isSome ↔ m.isComplete ∧ m.failureReason = none
  kind : m.failureKind.isSome → m.failureReason.isSome

/-- **A coherent status.**  Besides, a message with a route has no failure of the Mailbox. -/
structure Message.Coherent (m : Message) : Prop extends m.Recorded where
  mailbox : m.deliveryRoute.isSome → m.storeAndForwardFailure = none

def Call.Coherent : Call → Prop
  | .decide _ _ reason kind => kind.isSome → reason.isSome
  | .record _ progress reason kind route =>
    (kind.isSome → reason.isSome) ∧ (route.isSome ↔ 100 ≤ progress ∧ reason = none)
  | .forward .. | .post .. | .apply .. => True

/-- The message that a call with this id writes to. -/
def Store.lookup (s : Store) (id : String) : Option Message :=
  s.messages.find? fun m => m.id = id

/-- What the call writes next is no failure to forward a message that has a route. -/
def Call.Heeds (s : Store) : Call → Prop
  | .apply id (.notForwarded _) => ∀ m ∈ s.lookup id, m.deliveryRoute = none
  | _ => True

variable {id : String} {ms : List Message} {m : Message} {c : Call} {s : Store}

lemma lookup_of_mem_modifyMessage {f : Message → Message} (hm : m ∈ modifyMessage id f ms) :
    m ∈ ms ∨ ∃ m₀, ms.find? (fun x => x.id = id) = some m₀ ∧ m = f m₀ := by
  induction ms with
  | nil => exact absurd hm not_mem_nil
  | cons x xs ih =>
    rw [modifyMessage] at hm
    by_cases hx : x.id = id
    · rw [if_pos hx] at hm
      rcases mem_cons.mp hm with rfl | hm
      · exact Or.inr ⟨x, find?_cons_of_pos (by simpa using hx), rfl⟩
      · exact Or.inl (mem_cons_of_mem x hm)
    · rw [if_neg hx] at hm
      rcases mem_cons.mp hm with rfl | hm
      · exact Or.inl mem_cons_self
      · rw [find?_cons_of_neg (by simpa using hx)]
        exact (ih hm).imp_left (mem_cons_of_mem x)

lemma mem_modifyMessage_of_find? {f : Message → Message}
    (hm : ms.find? (fun x => x.id = id) = some m) : f m ∈ modifyMessage id f ms := by
  induction ms with
  | nil => cases hm
  | cons x xs ih =>
    rw [modifyMessage]
    by_cases hx : x.id = id
    · rw [find?_cons_of_pos (by simpa using hx)] at hm
      rw [if_pos hx, some.inj hm]
      exact mem_cons_self
    · rw [find?_cons_of_neg (by simpa using hx)] at hm
      rw [if_neg hx]
      exact mem_cons_of_mem x (ih hm)

lemma Message.Recorded.record (h : m.Recorded) {progress : ℕ}
    {reason : Option String} {kind : Option SendFailureKind} {route : Option DeliveryRoute}
    (hc : (Call.record id progress reason kind route).Coherent) :
    (m.record progress reason kind route).Coherent := by
  obtain ⟨hkind, hroute⟩ := hc
  cases route with
  | none =>
    have hnot : 100 ≤ progress → reason ≠ none := by simpa using hroute
    refine ⟨⟨?_, ?_⟩, ?_⟩
    all_goals unfold Message.record; split_ifs <;> simp_all [Message.isComplete, h.kind]
  | some route =>
    obtain ⟨hp, rfl⟩ := hroute.mp rfl
    refine ⟨⟨?_, ?_⟩, ?_⟩
    all_goals simp_all [Message.record, Message.isComplete]

lemma Message.Recorded.write (h : m.Recorded) (hc : c.Coherent) :
    (c.write m).Recorded := by
  cases c with
  | record id progress reason kind route => exact (h.record hc).toRecorded
  | apply id outcome =>
    cases outcome with
    | forwarded => constructor <;> simp [Call.write, applyOutcome, isComplete]
    | _ => exact ⟨h.route, h.kind⟩
  | _ => exact h

lemma Message.Coherent.write (h : m.Coherent)
    (hc : c.Coherent) (hm : m ∈ s.lookup c.id) (hheeds : c.Heeds s) : (c.write m).Coherent := by
  refine ⟨h.toRecorded.write hc, fun hroute => ?_⟩
  cases c with
  | record id progress reason kind route => exact (h.toRecorded.record hc).mailbox hroute
  | apply id outcome =>
    cases outcome with
    | notForwarded reason => simp [Call.write, applyOutcome, hheeds m hm] at hroute
    | _ => rfl
  | _ => exact h.mailbox hroute

lemma Call.Coherent.advance {now : ℕ} {access : Access} {post : Post} {c' : Call}
    (hc : c.Coherent) (h : (s.advance now access post c).2 = some c') : c'.Coherent := by
  cases c with
  | decide id progress reason kind =>
    obtain rfl := some.inj h
    refine ⟨hc, ?_⟩
    rw [Store.decideRoute]
    split_ifs with hdone <;> simp [hdone]
  | record id progress reason kind route =>
    simp only [Store.advance] at h
    repeat' split at h
    all_goals cases h
    trivial
  | forward id recipients =>
    obtain rfl := some.inj h
    simp only [Store.forward]
    repeat' split
    all_goals trivial
  | post id recipients todo notes =>
    cases todo with
    | nil => exact some.inj h ▸ trivial
    | cons r todo =>
      simp only [Store.advance] at h
      split at h <;> exact some.inj h ▸ trivial
  | apply id outcome => cases h

namespace Sender

/-- Each message meets `K`, and no call under way is about to write what is not coherent. -/
structure Keeps (K : Message → Prop) (w : Sender) : Prop where
  messages : ∀ m ∈ w.store.messages, K m
  calls : ∀ t, ∀ c ∈ w.calls t, c.Coherent

def Heeds (w : Sender) : Event → Prop
  | .call t _ _ => ∀ c ∈ w.calls t, c.Heeds w.store
  | _ => True

section Step

variable {K : Message → Prop} {w w' : Sender} {o : Options}

lemma Keeps.of_eq (h : w.Keeps K) (hmessages : w'.store.messages = w.store.messages)
    (hcalls : w'.calls = w.calls) : w'.Keeps K :=
  ⟨hmessages ▸ h.messages, hcalls ▸ h.calls⟩

variable {t : Thread} {e : Event}

lemma Keeps.update (h : w.Keeps K) {c : Option Call} (hmessages : ∀ m ∈ w'.store.messages, K m)
    (hcalls : w'.calls = Function.update w.calls t c) (hc : ∀ c' ∈ c, c'.Coherent) :
    w'.Keeps K := by
  refine ⟨hmessages, fun t' c' hc' => ?_⟩
  rw [hcalls, update_apply] at hc'
  split_ifs at hc'
  · exact hc c' hc'
  · exact h.calls t' c' hc'

lemma Keeps.begin (h : w.Keeps K) {c : Call} (hmessages : w'.store.messages = w.store.messages)
    (hcalls : w'.calls = Function.update w.calls t (some c)) (hc : c.Coherent) : w'.Keeps K :=
  h.update (hmessages ▸ h.messages) hcalls fun _ hc' => some.inj hc' ▸ hc

/-- What holds of a new message and survives the write of each call under way is kept. -/
lemma Keeps.step (h : w.Keeps K) (hnew : ∀ m : Message, m = m.asQueued → K m)
    (hwrite : ∀ t access post, e = .call t access post → ∀ c ∈ w.calls t,
      ∀ m ∈ w.store.lookup c.id, K (c.write m)) : (w.step o e).Keeps K := by
  cases e with
  | call t access post =>
    simp only [Sender.step]
    split
    · exact h
    · rename_i c hc
      refine h.update ?_ rfl fun c' hc' => (h.calls t c hc).advance hc'
      intro m hm
      rcases w.store.advance_messages w.now access post c with heq | heq
      · exact h.messages m (heq ▸ hm)
      · rcases lookup_of_mem_modifyMessage (heq ▸ hm) with hm | ⟨m₀, hm₀, rfl⟩
        · exact h.messages m hm
        · exact hwrite t access post rfl c hc m₀ hm₀
  | queue id recipients timestamp text =>
    simp only [Sender.step]
    split_ifs
    · refine ⟨fun m hm => ?_, h.calls⟩
      rcases mem_append.mp hm with hm | hm
      · exact h.messages m hm
      · obtain rfl := mem_singleton.mp hm
        exact hnew _ rfl
    · exact h
  | _ =>
    simp only [Sender.step, work, panic, shutdownStep]
    repeat' split
    all_goals first
      | exact h.of_eq rfl rfl
      | exact h.begin rfl rfl (by simp [Call.Coherent])

lemma keeps_init (storeAndForwardSend sidewinder : Bool) :
    (init storeAndForwardSend sidewinder).Keeps K :=
  ⟨forall_mem_nil _, fun _ _ hc => absurd hc (not_mem_none _)⟩

lemma recorded_of_new {m : Message} (hm : m = m.asQueued) : m.Recorded := by
  rw [hm]
  exact ⟨by simp [Message.asQueued, Message.isComplete], by simp [Message.asQueued]⟩

lemma Keeps.recorded_step (h : w.Keeps Message.Recorded) (e : Event) :
    (w.step o e).Keeps Message.Recorded :=
  h.step (fun _ => recorded_of_new) fun t _ _ _ c hc m hm =>
    (h.messages m (mem_of_find?_eq_some hm)).write (h.calls t c hc)

lemma Keeps.coherent_step (h : w.Keeps Message.Coherent) (he : w.Heeds e) :
    (w.step o e).Keeps Message.Coherent := by
  refine h.step (fun m hm => ⟨recorded_of_new hm, fun _ => hm ▸ rfl⟩) ?_
  rintro t access post rfl c hc m hm
  exact (h.messages m (mem_of_find?_eq_some hm)).write (h.calls t c hc) hm (he c hc)

lemma heeds_of_coherent_step (h : ∀ m ∈ (w.step o e).store.messages, m.Coherent) : w.Heeds e := by
  cases e with
  | call t access post =>
    intro c hc
    cases c with
    | apply id outcome =>
      cases outcome with
      | notForwarded reason =>
        intro m hm
        have hmem : Message.applyOutcome (.notForwarded reason) m ∈
            (w.step o (.call t access post)).store.messages := by
          simp only [Sender.step, mem_def.mp hc]
          exact mem_modifyMessage_of_find? hm
        by_contra hroute
        have hnone := (h _ hmem).mailbox (isSome_iff_ne_none.mpr hroute)
        cases hnone
      | _ => trivial
    | _ => trivial
  | _ => trivial

end Step

/-- **Status coherence.**  In every state of every run, a message has a route exactly if it is
complete without a failure, and a kind of failure with a reason only.  That a message with a route
has no failure of the Mailbox as well holds exactly as long as no call notes that it did not forward
a message that has a route by then. -/
theorem status_coherent (o : Options) (storeAndForwardSend sidewinder : Bool) (es : List Event) :
    Always (step o) (fun w => ∀ m ∈ w.store.messages, m.Recorded)
        (init storeAndForwardSend sidewinder) es ∧
      (Always (step o) (fun w => ∀ m ∈ w.store.messages, m.Coherent)
          (init storeAndForwardSend sidewinder) es ↔
        Along (step o) Heeds (init storeAndForwardSend sidewinder) es) := by
  constructor
  · have hall : Along (step o) (fun _ _ => True) (init storeAndForwardSend sidewinder) es :=
      Lib.along_of_forall_mem (fun _ _ => trivial) _
    exact (Lib.always_of_along (I := Keeps Message.Recorded) (fun w e h _ => h.recorded_step e)
      (keeps_init _ _) hall).mono fun w h => h.messages
  · exact Lib.always_iff_along_within (I := Keeps Message.Coherent)
      (fun w e h => ⟨heeds_of_coherent_step, fun he => (h.coherent_step he).messages⟩)
      (fun w e h he => h.coherent_step he) (fun w h => h.messages) (keeps_init _ _)

def noMailbox : List Event :=
  [.queue "a" ["bob"] 1 "hello", .flush 0, .flushNext 0,
    .call (.flush 0) (.noMailbox "down") .posted]

theorem noted_while_pending :
    Always (step {}) (fun w => ∀ m ∈ w.store.messages, m.Coherent) (init true true)
      (noMailbox ++ [.call (.flush 0) .ready .posted]) := by
  refine (status_coherent {} true true _).2.mpr ⟨trivial, trivial, trivial, ?_, ?_, trivial⟩
  · rintro c ⟨⟩
    trivial
  · rintro c ⟨⟩ m hm
    obtain rfl := some.inj hm
    rfl

theorem noted_after_delivery :
    ((run (step {}) (init true true) (noMailbox ++ .select "a" :: rounds 13 online ++
      [.call (.flush 0) .ready .posted])).store.messages.map fun m =>
        (m.deliveryRoute, m.storeAndForwardFailure)) =
      [(some .direct, some "Mailbox unavailable (down)")] := by
  decide +kernel

end Sender

end Bingle.Outgoing
