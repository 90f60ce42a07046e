import Bingle.Outgoing.Mailbox

/-!
# What a report of progress sets off

`update_message_status` nudges the recipients and posts to their Mailboxes while a failure is on
record: it looks at the failure *stored* on the message after the update, not at the one reported.
-/

namespace Bingle.Outgoing

open List Option
open Lib (run)

/-! ## A call from beginning to end -/

/-- What a section finds out.  The keypair may come and go between two sections. -/
structure Moment where
  now : ℕ
  access : Access := .ready
  post : Post := .posted
  /-- `sender_handle` -/
  senderHandle : Option String := some "alice"
  /-- `get_algo_ops` finds a keypair -/
  keypair : Bool := true

structure Section where
  store : Store
  moment : Moment
  call : Call

namespace Section

/-- `notify_giveup`: whether it comes to post an alert. -/
def notifyGiveup (x : Section) (recipients : List String) : Bool :=
  x.store.notifyOnGiveup && x.store.notifyGatewayUrl.isSome && !recipients.isEmpty &&
    x.moment.senderHandle.isSome && x.moment.keypair

def nudges (x : Section) : Bool :=
  match x.call with
  | .record id progress reason kind route =>
    (x.store.messages.find? fun m => m.id = id).any fun m =>
      (m.record progress reason kind route).failureReason.isSome && id ∉ x.store.nudged &&
        x.notifyGiveup m.recipientHandles
  | _ => false

def posts (x : Section) : Bool :=
  match x.call with
  | .post _ _ (_ :: _) _ => !x.moment.post.early
  | _ => false

end Section

namespace Store

def sections (s : Store) : List Moment → Call → List Section
  | [], _ => []
  | m :: ms, c =>
    ⟨s, m, c⟩ ::
      match (s.advance m.now m.access m.post c).2 with
      | some c' => (s.advance m.now m.access m.post c).1.sections ms c'
      | none => []

/-- Whatever the answers, the call neither nudges nor posts. -/
def Quiet (s : Store) (c : Call) : Prop :=
  ∀ ms, ∀ x ∈ s.sections ms c, x.nudges = false ∧ x.posts = false

def NothingToPost (s : Store) (id : String) (recipients : List String) : Prop :=
  ¬ (s.storeAndForwardSend ∧ s.sidewinder) ∨
    ∀ h ∈ recipients, (id, h) ∈ s.forwarded ∨ (s.refused (id, h)).isSome

/-- No alert can be posted for it: it has been nudged already, or nudges are off, or there is no
gateway, or nobody to nudge. -/
def NothingToNudge (s : Store) (id : String) (recipients : List String) : Prop :=
  id ∈ s.nudged ∨ s.notifyOnGiveup = false ∨ s.notifyGatewayUrl = none ∨ recipients = []

/-! ## One section at a time -/

section Quiet

variable {s : Store} {id : String}

lemma quiet_iff {c : Call} :
    s.Quiet c ↔ ∀ m : Moment,
      ((⟨s, m, c⟩ : Section).nudges = false ∧ (⟨s, m, c⟩ : Section).posts = false) ∧
        ∀ c', (s.advance m.now m.access m.post c).2 = some c' →
          (s.advance m.now m.access m.post c).1.Quiet c' := by
  constructor
  · intro h m
    refine ⟨h [m] _ (mem_cons_self ..), fun c' hc' ms x hx => h (m :: ms) x ?_⟩
    rw [sections, hc']
    exact mem_cons_of_mem _ hx
  · intro h ms x hx
    cases ms with
    | nil => exact absurd hx not_mem_nil
    | cons m ms =>
      rw [sections] at hx
      rcases mem_cons.mp hx with rfl | hx
      · exact (h m).1
      · cases hc' : (s.advance m.now m.access m.post c).2 with
        | none =>
          rw [hc'] at hx
          exact absurd hx not_mem_nil
        | some c' =>
          rw [hc'] at hx
          exact (h m).2 c' hc' ms x hx

lemma quiet_apply (outcome : ForwardOutcome) : s.Quiet (.apply id outcome) :=
  quiet_iff.mpr fun _ => ⟨⟨rfl, rfl⟩, fun _ hc' => absurd hc' (by simp [advance])⟩

variable {recipients : List String}

lemma not_quiet_post {todo notes : List String} {h : String} :
    ¬ s.Quiet (.post id recipients (h :: todo) notes) := by
  intro hq
  have := (hq [{ now := 0 }] _ (mem_cons_self ..)).2
  exact absurd this (by simp [Section.posts, Post.early])

lemma forward_of_nothingToPost (h : s.NothingToPost id recipients) (now : ℕ) (access : Access) :
    ∃ outcome, s.forward now access id recipients = .apply id outcome := by
  unfold Store.forward
  dsimp only
  split_ifs with hgate hnone hidentity hrefused
  · exact ⟨_, rfl⟩
  · exact ⟨_, rfl⟩
  · exact ⟨_, rfl⟩
  · -- every recipient that has not been posted to has been refused
    refine absurd (filter_eq_nil_iff.mpr fun r hr => ?_) hrefused
    obtain ⟨hmem, hnew⟩ := mem_filter.mp hr
    rcases h with hoff | hall
    · exact absurd hgate hoff
    · have hseen := (hall r hmem).resolve_left (by simpa using hnew)
      simpa [isNone_iff_eq_none, isSome_iff_ne_none] using hseen
  · exact ⟨_, rfl⟩

lemma forward_posts (h : ¬ s.NothingToPost id recipients) :
    ∃ now r todo notes,
      s.forward now .ready id recipients = .post id recipients (r :: todo) notes := by
  obtain ⟨hgate, hleft⟩ := not_or.mp h
  rw [not_not] at hgate
  push Not at hleft
  obtain ⟨r, hr, hnew, hopen⟩ := hleft
  -- after the backoff, a refusal of the identity no longer holds
  have hexpired : ∃ now, s.identityRefusalHolds now = false := by
    cases hat : s.identityRefusedAt with
    | none => exact ⟨0, by simp [identityRefusalHolds, hat]⟩
    | some refusedAt =>
      exact ⟨refusedAt + identityRefusedBackoff, by simp [identityRefusalHolds, hat]⟩
  obtain ⟨now, hnow⟩ := hexpired
  set pending := recipients.filter fun h => (id, h) ∉ s.forwarded with hpending
  have hmem : r ∈ pending := by simp [hpending, hr, hnew]
  have hpost : r ∈ pending.filter fun h => (s.refused (id, h)).isNone :=
    mem_filter.mpr ⟨hmem, by simpa [isNone_iff_eq_none] using hopen⟩
  cases hlist : pending.filter fun h => (s.refused (id, h)).isNone with
  | nil => exact absurd (hlist ▸ hpost) not_mem_nil
  | cons r' todo =>
    refine ⟨now, r', todo, pending.filterMap fun h => (s.refused (id, h)).map (refusedNote h), ?_⟩
    unfold Store.forward
    dsimp only
    rw [← hpending, if_neg (not_not.mpr hgate), if_neg (ne_nil_of_mem hmem), hnow,
      if_neg (by simp), hlist, if_neg (by simp)]
    rfl

lemma quiet_forward : s.Quiet (.forward id recipients) ↔ s.NothingToPost id recipients := by
  constructor
  · intro hq
    by_contra h
    obtain ⟨now, r, todo, notes, hforward⟩ := forward_posts h
    have hnext := (quiet_iff.mp hq { now }).2 _ rfl
    rw [hforward] at hnext
    exact not_quiet_post hnext
  · intro h
    refine quiet_iff.mpr fun m => ⟨⟨rfl, rfl⟩, fun c' hc' => ?_⟩
    obtain ⟨outcome, houtcome⟩ := forward_of_nothingToPost h m.now m.access
    obtain rfl := some.inj hc'
    rw [houtcome]
    exact quiet_apply outcome

end Quiet

variable {progress : ℕ} {kind : Option SendFailureKind} {route : Option DeliveryRoute}

lemma record_failureReason_of_lt {m : Message} (hp : progress < 100)
    :
    (m.record progress none kind route).failureReason = m.failureReason := by
  have hkept : ¬ ((none : Option String).isSome = true ∨ 100 ≤ progress) := by simpa using hp
  unfold Message.record
  simp only [hkept, if_false]
  split_ifs <;> rfl

lemma quiet_record {s : Store} {id : String} (hp : progress < 100)
    :
    s.Quiet (.record id progress none kind route) ↔
      ∀ m ∈ s.messages.find? fun m => m.id = id, m.failureReason = none ∨
        s.NothingToNudge id m.recipientHandles ∧ s.NothingToPost id m.recipientHandles := by
  rw [quiet_iff]
  cases hfind : s.messages.find? fun m => m.id = id with
  | none => simp [Section.nudges, Section.posts, advance, hfind]
  | some m =>
    cases hreason : m.failureReason with
    | none =>
      simp [Section.nudges, Section.posts, advance, hfind, hreason,
        record_failureReason_of_lt hp]
    | some reason =>
      have hnudges : ∀ x : Moment,
          (⟨s, x, .record id progress none kind route⟩ : Section).nudges =
            (decide (id ∉ s.nudged) &&
              (⟨s, x, .record id progress none kind route⟩ : Section).notifyGiveup
                m.recipientHandles) := by
        intro x
        simp [Section.nudges, hfind, record_failureReason_of_lt hp, hreason]
      simp only [hnudges, Section.posts, advance, hfind, record_failureReason_of_lt hp, hreason,
        isSome_some, if_true, and_true, some.injEq, forall_eq', mem_def, reduceCtorEq, false_or]
      -- what the forward looks at is not what the update has written
      constructor
      · intro h
        obtain ⟨hnudge, hquiet⟩ := h { now := 0 }
        have hnothing := quiet_forward.mp hquiet
        refine ⟨?_, hnothing⟩
        have hgates : id ∈ s.nudged ∨ (s.notifyOnGiveup = false ∨ s.notifyGatewayUrl = none) ∨
            m.recipientHandles = [] := by
          simpa [Section.notifyGiveup, imp_iff_not_or] using hnudge
        rw [NothingToNudge]
        tauto
      · intro h x
        refine ⟨?_, quiet_forward.mpr h.2⟩
        rcases h.1 with hn | hn | hn | hn <;> simp [Section.notifyGiveup, hn]

/-- **Progress and its side effects.**  A status update that reports progress below 100% and no
failure neither nudges nor posts exactly when the message has no failure stored on it, or no alert
can be posted for it and it has nobody left to be posted to. -/
theorem progress_quiet_iff (s : Store) (id : String) {progress : ℕ} (hp : progress < 100)
    (kind : Option SendFailureKind) :
    s.Quiet (.decide id progress none kind) ↔
      ∀ m ∈ s.messages.find? fun m => m.id = id, m.failureReason = none ∨
        s.NothingToNudge id m.recipientHandles ∧ s.NothingToPost id m.recipientHandles := by
  have hnext : s.Quiet (.decide id progress none kind) ↔
      s.Quiet (.record id progress none kind (s.decideRoute id progress none)) := by
    rw [quiet_iff]
    refine ⟨fun h => (h { now := 0 }).2 _ rfl, fun h m => ⟨⟨rfl, rfl⟩, fun c' hc' => ?_⟩⟩
    obtain rfl := some.inj hc'
    exact h
  rw [hnext, quiet_record hp]

theorem first_report_quiet :
    ({ storeAndForwardSend := true, sidewinder := true,
       messages := [{ id := "a", recipientHandles := ["bob"], timestamp := 1, text := "hello" }] } :
      Store).Quiet (.decide "a" 10 none none) :=
  (progress_quiet_iff _ "a" (by decide) none).mpr (by simp)

end Store

namespace Sender

/-- Bob does not answer, and the post to their Mailbox fails as well; once their offline window is
over, the message is picked again. -/
def failedOnce (answers : Answers) : List Event :=
  [.queue "a" ["bob"] 1 "hello", .select "a"] ++
    (List.replicate 14 [.work answers, .call .worker .ready (.failed "timeout"),
      .call .worker .ready (.failed "timeout")]).flatten ++
    [.tick 60, .select "a"]

/-- **Progress with side effects.**  The retry's first report, of 10%, posts the message; after a
restart, when no nudge is remembered, such a report nudges. -/
theorem retry_report_posts :
    let away : Answers := { online with sendToPeer := fun _ => .error "connect timeout" }
    let retried := failedOnce away ++ [.work away, .work away]
    ((run (step {}) (init true true) retried).calls .worker = some (.decide "a" 10 none none) ∧
      (run (step {}) (init true true) retried).store.handed = [] ∧
      (run (step {}) (init true true) (retried ++
        List.replicate 4 (.call .worker .ready .posted))).store.handed =
          [⟨"a", "bob", .storeAndForward⟩]) ∧
      ((({ storeAndForwardSend := true, sidewinder := true, notifyGatewayUrl := some "https://gw",
           messages := [{ id := "a", recipientHandles := ["bob"], timestamp := 1, text := "hello",
                          failureReason := some "Recipient unreachable — will keep retrying" }] } :
        Store).sections (List.replicate 2 { now := 0 })
          (.decide "a" 10 none none)).map Section.nudges) = [false, true] := by
  decide +kernel

end Sender

end Bingle.Outgoing
