import Mathlib
import Bingle.Lib.Run
import Bingle.Local.State

/-!
# Recovery from a handle clash

`begin_recovery_keypair` draws a keypair and keeps it as the pending one beside the current keypair,
and `complete_recovery_keypair` makes it the current one.  Nothing records which keypair the
recovery was begun for; `startedFor` does here.
-/

namespace Bingle.Local

open Lib (Json run Along Always)

/-! ## The operations -/

def LocalState.setKeypair (s : LocalState) (kp : Keypair) : LocalState :=
  { s with keypair := some kp, ownHandle := none, ownHandleAppId := none }

def generateKeypair (s : LocalState) (kp : Keypair) : LocalState := s.setKeypair kp

def beginRecoveryKeypair (s : LocalState) (kp : Keypair) : Except String (Keypair × LocalState) :=
  match s.keypair, s.recoveryKeypair with
  | none, _ => .error "no keypair to recover: generate or import one first"
  | some _, some pending => .ok (pending, s)
  | some _, none => .ok (kp, { s with recoveryKeypair := some kp })

/-- The blockchain crate's reading of a mnemonic: its account, or what is wrong with it. -/
abbrev AddressFromPassphrase := String → Except String String

variable (address : AddressFromPassphrase)

def importKeypair (s : LocalState) (passphrase : String) : Except String (Keypair × LocalState) :=
  match address passphrase with
  | .error err => .error err
  | .ok id => .ok (⟨id, passphrase⟩, s.setKeypair ⟨id, passphrase⟩)

def completeRecoveryKeypair (s : LocalState) : Except String (Keypair × LocalState) :=
  match s.recoveryKeypair with
  | none => .error "no recovery is pending"
  | some pending =>
    match importKeypair address s pending.passphrase with
    | .error err => .error err
    | .ok (kp, s) => .ok (kp, { s with recoveryKeypair := none })

def LocalState.Completes (s : LocalState) : Prop :=
  ∃ result, completeRecoveryKeypair address s = .ok result

variable {address}

variable {s : LocalState}

lemma completes_iff :
    s.Completes address ↔
      ∃ pending id, s.recoveryKeypair = some pending ∧ address pending.passphrase = .ok id := by
  unfold LocalState.Completes completeRecoveryKeypair importKeypair
  cases hpending : s.recoveryKeypair with
  | none => simp
  | some pending => cases haddress : address pending.passphrase <;> simp [haddress]

lemma completes_congr {s' : LocalState} (h : s'.recoveryKeypair = s.recoveryKeypair) :
    s'.Completes address ↔ s.Completes address := by
  rw [completes_iff, completes_iff, h]

lemma not_completes_of_eq_none (h : s.recoveryKeypair = none) : ¬ s.Completes address := by
  simp [completes_iff, h]

lemma recoveryKeypair_eq_none_of_complete {result : Keypair × LocalState}
    (h : completeRecoveryKeypair address s = .ok result) : result.2.recoveryKeypair = none := by
  unfold completeRecoveryKeypair at h
  split at h
  · cases h
  · split at h
    · cases h
    · cases h
      rfl

/-! ## A device -/

/-- The memory and the files, with the keypair that the recovery was begun for. -/
structure Device where
  memory : LocalState
  startedFor : Option Keypair
  /-- each file, with the keypair its pending recovery keypair was drawn for -/
  files : String → Option (Json × Option Keypair)

inductive Event
  | generate (kp : Keypair)
  | importPassphrase (passphrase : String)
  | beginRecovery (kp : Keypair)
  | completeRecovery
  | save (path : String)
  | load (path : String)
  | restart

def LocalState.new : LocalState where
  keypair := none
  recoveryKeypair := none
  contacts := ∅
  messages := []
  ownHandle := none
  ownHandleAppId := none
  forwardedMessages := ∅

namespace Device

def new : Device := ⟨.new, none, fun _ => none⟩

variable (address) (serde : SerdeJson) (it : Iteration)

def step (d : Device) : Event → Device
  | .generate kp => { d with memory := generateKeypair d.memory kp }
  | .importPassphrase passphrase =>
    match importKeypair address d.memory passphrase with
    | .error _ => d
    | .ok (_, s) => { d with memory := s }
  | .beginRecovery kp =>
    match beginRecoveryKeypair d.memory kp with
    | .error _ => d
    | .ok (_, s) =>
      { d with
        memory := s
        startedFor :=
          if d.memory.recoveryKeypair.isSome then d.startedFor else d.memory.keypair }
  | .completeRecovery =>
    match completeRecoveryKeypair address d.memory with
    | .error _ => d
    | .ok (_, s) => { d with memory := s, startedFor := none }
  | .save path =>
    { d with
      files := Function.update d.files path (some (save serde it d.memory, d.startedFor)) }
  | .load path =>
    match d.files path with
    | none => d
    | some (json, startedFor) =>
      match load serde (some json) with
      | .error _ => d
      | .ok s => { d with memory := s, startedFor := startedFor }
  | .restart => { d with memory := .new, startedFor := none }

/-- A completion, if it succeeds, discards the keypair that the recovery was begun for. -/
def DiscardsOwn (s : LocalState) (startedFor : Option Keypair) : Prop :=
  s.Completes address → ∃ kp, startedFor = some kp ∧ s.keypair = some kp

/-- The keypair that a step makes current is not another one, where a recovery can be completed. -/
def Keeps (d : Device) : Event → Prop
  | .generate kp => d.memory.Completes address → d.memory.keypair = some kp
  | .importPassphrase passphrase =>
    d.memory.Completes address → ∀ id, address passphrase = .ok id →
      d.memory.keypair = some ⟨id, passphrase⟩
  | _ => True

structure Sane (d : Device) : Prop where
  memory : DiscardsOwn address d.memory d.startedFor
  files : ∀ path json startedFor, d.files path = some (json, startedFor) →
    ∀ s, load serde (some json) = .ok s → DiscardsOwn address s startedFor

variable {address serde it}

lemma discardsOwn_of_eq_none {s : LocalState} (h : s.recoveryKeypair = none)
    (startedFor : Option Keypair) : DiscardsOwn address s startedFor :=
  fun hc => absurd hc (not_completes_of_eq_none h)

lemma sane_new : Sane address serde new where
  memory := discardsOwn_of_eq_none rfl none
  files _ _ _ h := nomatch h

variable {startedFor : Option Keypair} {d : Device} {e : Event}

lemma discardsOwn_setKeypair_iff {s : LocalState}
    (h : DiscardsOwn address s startedFor) (kp : Keypair) :
    DiscardsOwn address (s.setKeypair kp) startedFor ↔
      (s.Completes address → s.keypair = some kp) := by
  have hcompletes : (s.setKeypair kp).Completes address ↔ s.Completes address :=
    completes_congr rfl
  unfold DiscardsOwn
  rw [hcompletes]
  refine forall_congr' fun hc => ?_
  obtain ⟨own, rfl, hown⟩ := h hc
  simp [LocalState.setKeypair, hown, eq_comm]

lemma step_discardsOwn_iff (h : Sane address serde d) (e : Event) :
    DiscardsOwn address (d.step address serde it e).memory (d.step address serde it e).startedFor ↔
      d.Keeps address e := by
  cases e with
  | generate kp => exact discardsOwn_setKeypair_iff h.memory kp
  | importPassphrase passphrase =>
    cases haddress : address passphrase with
    | error err => simpa [step, importKeypair, Keeps, haddress] using h.memory
    | ok id =>
      simpa [step, importKeypair, Keeps, haddress] using
        discardsOwn_setKeypair_iff h.memory ⟨id, passphrase⟩
  | beginRecovery kp =>
    refine iff_of_true ?_ trivial
    cases hkeypair : d.memory.keypair with
    | none => simpa [step, beginRecoveryKeypair, hkeypair] using h.memory
    | some own =>
      cases hpending : d.memory.recoveryKeypair with
      | some pending => simpa [step, beginRecoveryKeypair, hkeypair, hpending] using h.memory
      | none => simp [step, beginRecoveryKeypair, DiscardsOwn, hkeypair, hpending]
  | completeRecovery =>
    refine iff_of_true ?_ trivial
    cases hresult : completeRecoveryKeypair address d.memory with
    | error err => simpa [step, hresult] using h.memory
    | ok result =>
      rw [step, hresult]
      exact discardsOwn_of_eq_none (recoveryKeypair_eq_none_of_complete hresult) none
  | save path => exact iff_of_true h.memory trivial
  | load path =>
    refine iff_of_true ?_ trivial
    cases hfile : d.files path with
    | none => simpa [step, hfile] using h.memory
    | some file =>
      cases hload : load serde (some file.1) with
      | error err => simpa [step, hfile, hload] using h.memory
      | ok s => simpa [step, hfile, hload] using h.files path _ _ hfile s hload
  | restart => exact iff_of_true (discardsOwn_of_eq_none rfl none) trivial

lemma discardsOwn_of_load_save {s s' : LocalState}
    (h : DiscardsOwn address s startedFor) (hload : load serde (some (save serde it s)) = .ok s') :
    DiscardsOwn address s' startedFor := by
  rw [load_save] at hload
  cases hload
  have hcompletes : LocalState.Completes address
      { s with messages := s.messages.map Message.restored } ↔ s.Completes address :=
    completes_congr rfl
  exact fun hc => h (hcompletes.mp hc)

lemma files_step {path : String} {file : Json × Option Keypair}
    (h : (d.step address serde it e).files path = some file) :
    d.files path = some file ∨ file = (save serde it d.memory, d.startedFor) := by
  cases e with
  | save target =>
    by_cases heq : path = target
    · subst heq
      simp only [step, Function.update_self, Option.some.injEq] at h
      exact .inr h.symm
    · simp only [step, Function.update_of_ne heq] at h
      exact .inl h
  | _ =>
    left
    rw [← h]
    unfold step
    dsimp only
    repeat' split
    all_goals rfl

lemma sane_step (h : Sane address serde d) (he : d.Keeps address e) :
    Sane address serde (d.step address serde it e) where
  memory := (step_discardsOwn_iff h e).mpr he
  files path json startedFor hfile s hload := by
    rcases files_step hfile with hold | hnew
    · exact h.files path json startedFor hold s hload
    · obtain ⟨rfl, rfl⟩ := Prod.mk.inj hnew
      exact discardsOwn_of_load_save h.memory hload

/-! ## Every run -/

/-- **Recovery discards only the keypair it was begun for**, at every point of a run, exactly if no
other one is generated or imported while a recovery that can be completed is pending. -/
theorem recovery_discards_own_keypair_iff (address : AddressFromPassphrase) (serde : SerdeJson)
    (it : Iteration) (es : List Event) :
    Always (step address serde it) (fun d => DiscardsOwn address d.memory d.startedFor) new es ↔
      Along (step address serde it) (Keeps address) new es :=
  Lib.always_iff_along_within (I := Sane address serde) (fun _ e h => step_discardsOwn_iff h e)
    (fun _ _ h he => sane_step h he) (fun _ h => h.memory) sane_new

def someAddress : AddressFromPassphrase := fun passphrase => .ok ("account of " ++ passphrase)

/-- `old` is generated, its recovery begun, `other` imported, and completed: `other` is discarded.
-/
theorem imported_keypair_discarded :
    let d := run (step someAddress .ofBits .arbitrary) new
      [.generate ⟨"account of old", "old"⟩, .beginRecovery ⟨"account of fresh", "fresh"⟩,
        .importPassphrase "other"]
    d.startedFor = some ⟨"account of old", "old"⟩ ∧
    d.memory.keypair = some ⟨"account of other", "other"⟩ ∧
    ∃ s, completeRecoveryKeypair someAddress d.memory = .ok (⟨"account of fresh", "fresh"⟩, s) ∧
      s.keypair = some ⟨"account of fresh", "fresh"⟩ :=
  ⟨rfl, rfl, _, rfl, rfl⟩

end Device

end Bingle.Local
