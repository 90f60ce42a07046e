import Mathlib
import Bingle.Frpt.Transport
import Bingle.Lib.Run
import Bingle.Lib.Tasks

/-!
# Dispatches and resets at the same time

`dispatch_inbound_packet` reads the session generation of the sender in one section and enters the
transaction id under it in a later one.  `handle_new_dtls_session` moves the generation on in one
section and clears the entries of the endpoint in two more.
-/

namespace Bingle.Frpt

open List
open Lib (Along Always Tasks)

variable {κ : Type*}

/-! ## The sections -/

inductive Phase (κ : Type*)
  | idle
  | acknowledged (key : TxKey κ)
  | received (key : TxKey κ) (payload : Bytes)
  | recorded (key : TxKey κ) (payload : Bytes)

def Phase.due : Phase κ → List (TxKey κ)
  | recorded key _ => [key]
  | _ => []

structure Receiver (κ : Type*) extends Transport κ where
  phase : ℕ → Phase κ := fun _ => .idle
  bumped : List κ := []
  /-- resets that have cleared the acknowledgements and not the received blocks -/
  acksCleared : List κ := []
  acked : List ℕ := []
  /-- what the handler was called for, newest first; a packet that is not FRPT has no key -/
  handed : List (Option (TxKey κ) × Bytes) := []

inductive Section (κ : Type*)
  | packet (thread : ℕ) (sender : κ) (bytes : Bytes) (ackSent : Bool)
  | matchAck (thread : ℕ)
  | record (thread : ℕ)
  | handle (thread : ℕ)
  | newSession (endpoint : κ)
  | clearAcks (endpoint : κ)
  | clearReceived (endpoint : κ)
  | register (endpoint : κ) (waiter : ℕ)
  | clearPendingAck (key : TxKey κ)

namespace Receiver

def Resetting (r : Receiver κ) (endpoint : κ) : Prop :=
  endpoint ∈ r.bumped ∨ endpoint ∈ r.acksCleared

def setPhase (r : Receiver κ) (thread : ℕ) (phase : Phase κ) : Receiver κ :=
  { r with phase := Function.update r.phase thread phase }

def receive (r : Receiver κ) (thread : ℕ) (sender : κ) (bytes : Bytes) (ackSent : Bool) :
    Receiver κ :=
  match parsePacket bytes with
  | none => { r with handed := if r.handleMessage then (none, bytes) :: r.handed else r.handed }
  | some .unsupportedFrpt => r
  | some (.ackComplete txId) =>
    r.setPhase thread (.acknowledged ⟨sender, r.endpointSessions sender, txId⟩)
  | some (.dataSingle txId payload) =>
    if ackSent then
      r.setPhase thread (.received ⟨sender, r.endpointSessions sender, txId⟩ payload)
    else r

section Step

variable [DecidableEq κ]

def step (r : Receiver κ) : Section κ → Receiver κ
  | .packet thread sender bytes ackSent =>
    match r.phase thread with
    | .idle => r.receive thread sender bytes ackSent
    | _ => r
  | .matchAck thread =>
    match r.phase thread with
    | .acknowledged key =>
      { r.setPhase thread .idle with
        pendingAcks := Function.update r.pendingAcks key none
        acked := (r.pendingAcks key).toList ++ r.acked }
    | _ => r
  | .record thread =>
    match r.phase thread with
    | .received key payload =>
      if key ∈ r.receivedSingleBlocks then r.setPhase thread .idle
      else
        { r.setPhase thread (.recorded key payload) with
          receivedSingleBlocks := insert key r.receivedSingleBlocks }
    | _ => r
  | .handle thread =>
    match r.phase thread with
    | .recorded key payload =>
      { r.setPhase thread .idle with
        handed := if r.handleMessage then (some key, payload) :: r.handed else r.handed }
    | _ => r
  | .newSession endpoint =>
    { r with
      endpointSessions := Function.update r.endpointSessions endpoint
        (nextSessionGeneration (r.endpointSessions endpoint))
      bumped := endpoint :: r.bumped }
  | .clearAcks endpoint =>
    if endpoint ∈ r.bumped then
      { r with
        pendingAcks := fun key => if key.endpoint = endpoint then none else r.pendingAcks key
        bumped := r.bumped.erase endpoint
        acksCleared := endpoint :: r.acksCleared }
    else r
  | .clearReceived endpoint =>
    if endpoint ∈ r.acksCleared then
      { r with
        receivedSingleBlocks := r.receivedSingleBlocks.filter fun key => key.endpoint ≠ endpoint
        acksCleared := r.acksCleared.erase endpoint }
    else r
  | .register endpoint waiter =>
    { r with
      nextTxId := r.nextTxId + 1
      pendingAcks := Function.update r.pendingAcks
        ⟨endpoint, r.endpointSessions endpoint, r.nextTxId⟩ (some waiter) }
  | .clearPendingAck key => { r with pendingAcks := Function.update r.pendingAcks key none }

instance (r : Receiver κ) (endpoint : κ) : Decidable (r.Resetting endpoint) :=
  inferInstanceAs (Decidable (_ ∨ _))

/-- An id is entered under the generation of its endpoint, with no reset of it on its way; and a new
generation is larger than the one before. -/
def Undisturbed (r : Receiver κ) : Section κ → Prop
  | .record thread =>
    match r.phase thread with
    | .received key _ =>
      key.generation = r.endpointSessions key.endpoint ∧ ¬ r.Resetting key.endpoint
    | _ => True
  | .newSession endpoint => r.endpointSessions endpoint + 1 < 2 ^ 64
  | _ => True

instance (r : Receiver κ) (e : Section κ) : Decidable (r.Undisturbed e) := by
  unfold Undisturbed
  split
  · split <;> infer_instance
  · infer_instance
  · infer_instance

/-! ## Other endpoints -/

def resets : Section κ → Option κ
  | .newSession endpoint | .clearAcks endpoint | .clearReceived endpoint => some endpoint
  | _ => none

lemma reset_leaves_others (r : Receiver κ) {e : Section κ} {endpoint other : κ}
    (he : resets e = some endpoint) (hne : other ≠ endpoint) :
    (r.step e).endpointSessions other = r.endpointSessions other ∧
      (∀ key : TxKey κ, key.endpoint = other → (r.step e).pendingAcks key = r.pendingAcks key) ∧
      ∀ key : TxKey κ, key.endpoint = other →
        (key ∈ (r.step e).receivedSingleBlocks ↔ key ∈ r.receivedSingleBlocks) := by
  cases e with
  | newSession endpoint' =>
    cases he
    exact ⟨Function.update_of_ne hne _ _, fun _ _ => rfl, fun _ _ => Iff.rfl⟩
  | clearAcks endpoint' =>
    cases he
    rw [step]
    split_ifs
    · refine ⟨rfl, fun key hkey => if_neg (hkey ▸ hne), fun _ _ => Iff.rfl⟩
    · exact ⟨rfl, fun _ _ => rfl, fun _ _ => Iff.rfl⟩
  | clearReceived endpoint' =>
    cases he
    rw [step]
    split_ifs
    · refine ⟨rfl, fun _ _ => rfl, fun key hkey => ?_⟩
      simp [hkey, hne]
    · exact ⟨rfl, fun _ _ => rfl, fun _ _ => Iff.rfl⟩
  | _ => cases he

end Step

/-! ## What is handled -/

def handedKeys (r : Receiver κ) : List (TxKey κ) := r.handed.filterMap Prod.fst

def tasks (r : Receiver κ) : Tasks ℕ (TxKey κ) := ⟨r.handedKeys, fun thread => (r.phase thread).due⟩

def Claimed (r : Receiver κ) (key : TxKey κ) : Prop :=
  key ∈ r.tasks.done ∨ ∃ thread, key ∈ r.tasks.due thread

def Known (r : Receiver κ) (key : TxKey κ) : Prop :=
  key.generation < r.endpointSessions key.endpoint ∨
    (key.generation = r.endpointSessions key.endpoint ∧ key ∈ r.receivedSingleBlocks ∧
      ¬ r.Resetting key.endpoint)

structure Sane (r : Receiver κ) : Prop where
  exclusive : r.tasks.Exclusive
  known : ∀ key, r.Claimed key → r.Known key

variable {r r' : Receiver κ} {thread : ℕ} {key : TxKey κ} {payload : Bytes}

lemma tasks_setPhase (r : Receiver κ) (thread : ℕ) (phase : Phase κ) :
    (r.setPhase thread phase).tasks = r.tasks.take thread phase.due := by
  refine congrArg (Tasks.mk r.handedKeys) (funext fun other => ?_)
  by_cases h : other = thread
  · subst h
    simp only [setPhase, Function.update_self]
  · simp only [setPhase, tasks, Function.update_of_ne h]

lemma tasks_setPhase_of_due_eq {phase : Phase κ} (h : phase.due = (r.phase thread).due) :
    (r.setPhase thread phase).tasks = r.tasks := by
  rw [tasks_setPhase, h]
  exact congrArg (Tasks.mk r.handedKeys) (Function.update_eq_self thread _)

lemma Sane.of_tasks_eq (h : r.Sane) (htasks : r'.tasks = r.tasks)
    (hknown : ∀ key, r.Known key → r'.Known key) : r'.Sane where
  exclusive := htasks ▸ h.exclusive
  known key hclaimed := by
    rw [Claimed, htasks] at hclaimed
    exact hknown key (h.known key hclaimed)

lemma Sane.receive (h : r.Sane) (hphase : r.phase thread = .idle) (sender : κ) (bytes : Bytes)
    (ackSent : Bool) : (r.receive thread sender bytes ackSent).Sane := by
  have hphases : ∀ phase : Phase κ, phase.due = [] → (r.setPhase thread phase).Sane := by
    intro phase hdue
    have heq : phase.due = (r.phase thread).due := by rw [hdue, hphase]; rfl
    exact h.of_tasks_eq (tasks_setPhase_of_due_eq heq) fun _ hknown => hknown
  rw [Receiver.receive]
  split
  · refine h.of_tasks_eq ?_ fun _ hknown => hknown
    by_cases hhandler : r.handleMessage = true <;> simp [tasks, handedKeys, hhandler]
  · exact h
  · exact hphases _ rfl
  · split
    · exact hphases _ rfl
    · exact h

lemma Sane.handle (h : r.Sane) (hphase : r.phase thread = .recorded key payload) :
    Sane { r.setPhase thread .idle with
      handed := if r.handleMessage then (some key, payload) :: r.handed else r.handed } := by
  have hdue : r.tasks.due thread = [key] := congrArg Phase.due hphase
  have hidle : (r.setPhase thread .idle).tasks = r.tasks.take thread [] :=
    tasks_setPhase r thread .idle
  have hclaimed : r.Claimed key := .inr ⟨thread, hdue ▸ mem_singleton_self key⟩
  -- what is claimed after the thread is idle was claimed before
  have hsub : ∀ other t, other ∈ (r.tasks.take thread []).due t → r.Claimed other := by
    intro other t ht
    by_cases heq : t = thread
    · subst heq
      rw [Tasks.take_self] at ht
      exact absurd ht not_mem_nil
    · rw [Tasks.take_of_ne heq] at ht
      exact .inr ⟨t, ht⟩
  by_cases hhandler : r.handleMessage = true
  · have htasks : Receiver.tasks { r.setPhase thread .idle with
        handed := if r.handleMessage then (some key, payload) :: r.handed else r.handed } =
        ({ r.tasks with done := key :: r.tasks.done } : Tasks ℕ (TxKey κ)).take thread [] := by
      rw [if_pos hhandler]
      exact congrArg (Tasks.mk (key :: r.handedKeys)) (congrArg Tasks.due hidle)
    refine ⟨htasks ▸ h.exclusive.perform hdue, fun other hother => ?_⟩
    rw [Claimed, htasks] at hother
    refine h.known other ?_
    rcases hother with hdone | ⟨t, ht⟩
    · rcases mem_cons.mp hdone with rfl | hdone
      · exact hclaimed
      · exact .inl hdone
    · exact hsub other t ht
  · have htasks : Receiver.tasks { r.setPhase thread .idle with
        handed := if r.handleMessage then (some key, payload) :: r.handed else r.handed } =
        r.tasks.take thread [] := by
      rw [if_neg hhandler]
      exact hidle
    refine ⟨htasks ▸ h.exclusive.giveUp (nil_sublist _), fun other hother => ?_⟩
    rw [Claimed, htasks] at hother
    exact h.known other (hother.elim .inl fun ⟨t, ht⟩ => hsub other t ht)

lemma lt_nextSessionGeneration {current : ℕ} (h : current + 1 < 2 ^ 64) :
    current < nextSessionGeneration current := by
  rw [nextSessionGeneration, Nat.mod_eq_of_lt h, if_neg (Nat.succ_ne_zero current)]
  exact Nat.lt_succ_self current

variable [DecidableEq κ]

lemma Sane.record (h : r.Sane) (hnew : key ∉ r.receivedSingleBlocks)
    (hgeneration : key.generation = r.endpointSessions key.endpoint)
    (hreset : ¬ r.Resetting key.endpoint) :
    Sane { r.setPhase thread (.recorded key payload) with
      receivedSingleBlocks := insert key r.receivedSingleBlocks } := by
  have hunclaimed : ¬ r.Claimed key := by
    intro hclaimed
    rcases h.known key hclaimed with hlt | ⟨-, hmem, -⟩
    · omega
    · exact hnew hmem
  have hfree : ∀ a ∈ (Phase.recorded key payload).due, r.tasks.Free thread a := by
    intro a ha
    obtain rfl := mem_singleton.mp ha
    exact ⟨fun hdone => hunclaimed (.inl hdone), fun j _ hdue => hunclaimed (.inr ⟨j, hdue⟩)⟩
  have htasks := tasks_setPhase r thread (.recorded key payload)
  refine ⟨?_, fun other hclaimed => ?_⟩
  · exact (htasks ▸ h.exclusive.take (nodup_singleton key) hfree :
      (r.setPhase thread (.recorded key payload)).tasks.Exclusive)
  · have hknown : ∀ other, r.Known other → Known
        { r.setPhase thread (.recorded key payload) with
          receivedSingleBlocks := insert key r.receivedSingleBlocks } other :=
      fun other hother => hother.imp_right fun ⟨hgen, hmem, hnot⟩ =>
        ⟨hgen, Finset.mem_insert_of_mem hmem, hnot⟩
    have hclaimed' : other ∈ (r.tasks.take thread [key]).done ∨
        ∃ t, other ∈ (r.tasks.take thread [key]).due t := by
      rw [← show (Phase.recorded key payload).due = [key] from rfl, ← htasks]
      exact hclaimed
    rcases hclaimed' with hdone | ⟨t, hdue⟩
    · exact hknown other (h.known other (.inl hdone))
    · by_cases ht : t = thread
      · subst ht
        rw [Tasks.take_self] at hdue
        obtain rfl := mem_singleton.mp hdue
        exact .inr ⟨hgeneration, Finset.mem_insert_self _ _, hreset⟩
      · rw [Tasks.take_of_ne ht] at hdue
        exact hknown other (h.known other (.inr ⟨t, hdue⟩))

variable {endpoint : κ}

lemma Known.newSession (h : r.Known key) (hwrap : r.endpointSessions endpoint + 1 < 2 ^ 64) :
    (r.step (.newSession endpoint)).Known key := by
  by_cases hkey : key.endpoint = endpoint
  · have hle : key.generation ≤ r.endpointSessions endpoint := by
      rcases h with hlt | ⟨hgen, -⟩ <;> rw [hkey] at * <;> omega
    have hlt := lt_nextSessionGeneration hwrap
    refine .inl ?_
    simp only [step, hkey, Function.update_self]
    omega
  · simp only [Known, step, Resetting, Function.update_of_ne hkey, mem_cons, hkey, false_or]
    exact h

lemma Known.clearAcks (h : r.Known key) :
    (r.step (.clearAcks endpoint)).Known key := by
  rw [step]
  split_ifs with hbumped
  · refine h.imp_right fun ⟨hgen, hmem, hreset⟩ => ⟨hgen, hmem, ?_⟩
    rintro (hb | hc)
    · exact hreset (.inl (mem_of_mem_erase hb))
    · rcases mem_cons.mp hc with heq | hc
      · exact hreset (.inl (heq ▸ hbumped))
      · exact hreset (.inr hc)
  · exact h

lemma Known.clearReceived (h : r.Known key) :
    (r.step (.clearReceived endpoint)).Known key := by
  rw [step]
  split_ifs with hcleared
  · refine h.imp_right fun ⟨hgen, hmem, hreset⟩ => ⟨hgen, ?_, ?_⟩
    · have hne : key.endpoint ≠ endpoint := fun heq => hreset (.inr (heq ▸ hcleared))
      exact Finset.mem_filter.mpr ⟨hmem, hne⟩
    · rintro (hb | hc)
      · exact hreset (.inl hb)
      · exact hreset (.inr (mem_of_mem_erase hc))
  · exact h

lemma Sane.step {e : Section κ} (h : r.Sane) (he : r.Undisturbed e) : (r.step e).Sane := by
  cases e with
  | packet thread sender bytes ackSent =>
    rw [Receiver.step]
    split
    · rename_i hphase
      exact h.receive hphase sender bytes ackSent
    · exact h
  | matchAck thread =>
    rw [Receiver.step]
    split
    · rename_i key hphase
      have heq : (Phase.idle : Phase κ).due = (r.phase thread).due := by rw [hphase]; rfl
      exact h.of_tasks_eq (tasks_setPhase_of_due_eq heq) fun _ hknown => hknown
    · exact h
  | record thread =>
    rw [Receiver.step]
    split
    · rename_i key payload hphase
      simp only [Undisturbed, hphase] at he
      split_ifs with hmem
      · have heq : (Phase.idle : Phase κ).due = (r.phase thread).due := by rw [hphase]; rfl
        exact h.of_tasks_eq (tasks_setPhase_of_due_eq heq) fun _ hknown => hknown
      · exact h.record hmem he.1 he.2
    · exact h
  | handle thread =>
    rw [Receiver.step]
    split
    · rename_i key payload hphase
      exact h.handle hphase
    · exact h
  | newSession endpoint => exact h.of_tasks_eq rfl fun _ hknown => hknown.newSession he
  | clearAcks endpoint =>
    refine h.of_tasks_eq ?_ fun _ hknown => hknown.clearAcks
    rw [Receiver.step]
    split_ifs <;> rfl
  | clearReceived endpoint =>
    refine h.of_tasks_eq ?_ fun _ hknown => hknown.clearReceived
    rw [Receiver.step]
    split_ifs <;> rfl
  | register endpoint waiter => exact h.of_tasks_eq rfl fun _ hknown => hknown
  | clearPendingAck key => exact h.of_tasks_eq rfl fun _ hknown => hknown

end Receiver

/-! ## Every run -/

open Receiver

variable [DecidableEq κ]

/-- **The handler is called at most once** for each endpoint, generation and transaction id, however
dispatches and resets interleave, if every id is entered under the generation of its endpoint while
no reset of it is on its way, and no generation wraps around.  A reset leaves every other endpoint
alone. -/
theorem handler_called_at_most_once (t : Transport κ) (es : List (Section κ)) :
    (Along Receiver.step Undisturbed { toTransport := t } es →
      Always Receiver.step (fun r => ∀ key, r.handedKeys.count key ≤ 1) { toTransport := t } es) ∧
    ∀ (r : Receiver κ) (e : Section κ) (endpoint other : κ), resets e = some endpoint →
      other ≠ endpoint →
      (r.step e).endpointSessions other = r.endpointSessions other ∧
        (∀ key : TxKey κ, key.endpoint = other → (r.step e).pendingAcks key = r.pendingAcks key) ∧
        ∀ key : TxKey κ, key.endpoint = other →
          (key ∈ (r.step e).receivedSingleBlocks ↔ key ∈ r.receivedSingleBlocks) := by
  refine ⟨fun hes => ?_, fun r e endpoint other he hne => reset_leaves_others r he hne⟩
  have hstart : Sane { toTransport := t } := by
    refine ⟨⟨nodup_nil, fun _ => nodup_nil, fun _ _ h => absurd h not_mem_nil⟩, ?_⟩
    rintro key (h | ⟨_, h⟩) <;> exact absurd h not_mem_nil
  have hsane := Lib.always_of_along (I := Sane) (fun r e h he => h.step he) hstart hes
  exact hsane.mono fun r h key => nodup_iff_count_le_one.mp h.exclusive.done key

def orderly : List (Section ℕ) :=
  [.packet 0 1 (buildDataSinglePacket 7 [1]) true, .record 0, .handle 0,
    .packet 1 1 (buildDataSinglePacket 7 [1]) true, .record 1, .handle 1,
    .newSession 1, .clearAcks 1, .clearReceived 1]

theorem duplicate_dropped :
    Always Receiver.step (fun r => ∀ key, r.handedKeys.count key ≤ 1)
      { mtu := 1200, handleMessage := true : Receiver ℕ } orderly :=
  (handler_called_at_most_once { mtu := 1200, handleMessage := true } orderly).1 (by decide +kernel)

/-- **A duplicate is handled twice**: both copies read generation 0; one is handled; a new session
clears the table; and the other copy is entered and handled. -/
theorem duplicate_handled_across_reset :
    (Lib.run Receiver.step { mtu := 1200, handleMessage := true : Receiver ℕ }
      [.packet 0 1 (buildDataSinglePacket 7 [1]) true,
        .packet 1 1 (buildDataSinglePacket 7 [1]) true, .record 0, .handle 0,
        .newSession 1, .clearAcks 1, .clearReceived 1, .record 1, .handle 1]).handedKeys =
      [⟨1, 0, 7⟩, ⟨1, 0, 7⟩] := by
  decide +kernel

end Bingle.Frpt
