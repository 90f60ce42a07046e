import Bingle.Local.Recovery

/-!
# The handle that is remembered

`register_keypair` and `keypair_status` remember the handle of the account, and the app it is
registered with, so that later calls need not ask the chain.  The files keep them.  The API is a
handle on shared state: a call that waits for the chain holds no lock, and other threads go on.
Locks that are taken one after the other with no such wait between them are one step.
`Client.known`, the handles that were registered with a keypair or read for its account, is not in
the program.
-/

namespace Bingle.Local

open Lib (Json Along Always)

variable (address : AddressFromPassphrase) (serde : SerdeJson) (it : Iteration)

/-- A call that waits for the chain, with the keypair that it is about. -/
inductive Call
  | registering (kp : Keypair) (appId : UInt64) (handle : String)
  /-- `keypair_status` asks whether the app has a successor -/
  | checking (kp : Keypair) (appId assetId : UInt64)
  /-- `keypair_status` reads the account -/
  | reading (kp : Keypair) (appId assetId : UInt64)

/-- What the chain answers; a read that fails is `none`. -/
inductive Answer
  | registration (result : Except String Unit)
  | successor (appId : Option UInt64)
  | account (hasAsset : Option Bool) (handle : Option (Option String))

structure Client where
  device : Device := .new
  algoOps : Option Keypair := none
  /-- the call that each thread is in -/
  calls : ℕ → Option Call := fun _ => none
  known : List (Keypair × UInt64 × String) := []

inductive ClientEvent
  | device (e : Event)
  | getAlgoOps
  | register (thread : ℕ) (appId assetId : UInt64) (handle : String)
  | status (thread : ℕ) (appId assetId : UInt64)
  | answer (thread : ℕ) (a : Answer)

def accountHandle (appId assetId : UInt64) (hasAsset : Option Bool)
    (handle : Option (Option String)) : Option String :=
  if 0 < assetId ∧ hasAsset = some true ∧ 0 < appId then handle.join else none

/-- What a call has the client remember at an answer. -/
def Call.remembers : Call → Answer → Option (Keypair × UInt64 × String)
  | .registering kp appId handle, .registration (.ok _) => some (kp, appId, handle)
  | .reading kp appId assetId, .account hasAsset handle =>
    (accountHandle appId assetId hasAsset handle).map fun h => (kp, appId, h)
  | _, _ => none

namespace Client

def getAlgoOps (c : Client) : Option Keypair := c.algoOps.or c.device.memory.keypair

def memoise (c : Client) (kp : Keypair) (appId : UInt64) (handle : String) : Client :=
  { c with
    device := { c.device with
      memory := { c.device.memory with ownHandle := some handle, ownHandleAppId := some appId } }
    known := (kp, appId, handle) :: c.known }

/-- `register_keypair` up to the chain: whose client registers. -/
def registerKeypair (c : Client) (appId assetId : UInt64) : Except String Keypair :=
  if appId = 0 then .error "app_id not set in config"
  else if assetId = 0 then .error "asset_id not set in config"
  else
    match c.getAlgoOps with
    | none => .error "no keypair"
    | some kp => .ok kp

/-- `keypair_status` up to the chain: whose account is asked about.  A handle that is remembered for
the app is served. -/
def keypairStatus (c : Client) (appId : UInt64) : Option Keypair :=
  if c.device.memory.ownHandle.isSome ∧
      (appId = 0 ∨ c.device.memory.ownHandleAppId = some appId) then none
  else c.device.memory.keypair

def set (c : Client) (thread : ℕ) (call : Option Call) : Client :=
  { c with calls := Function.update c.calls thread call }

/-- An answer at which nothing is remembered: a status check without a successor goes on to read the
account, and every other call ends. -/
def goOn (c : Client) (thread : ℕ) : Call → Answer → Client
  | .checking kp appId assetId, .successor successor =>
    if 0 < appId ∧ successor.isSome then c.set thread none
    else
      match c.getAlgoOps with
      | none => c.set thread none
      | some ops => { c with algoOps := some ops }.set thread (some (.reading kp appId assetId))
  | _, _ => c.set thread none

def rekeys (c : Client) : Event → Bool
  | .generate _ | .restart => true
  | .importPassphrase passphrase => (importKeypair address c.device.memory passphrase).toBool
  | .completeRecovery => (completeRecoveryKeypair address c.device.memory).toBool
  | .load path => (c.device.files path).any fun file => (load serde (some file.1)).toBool
  | .beginRecovery _ | .save _ => false

def step (c : Client) : ClientEvent → Client
  | .device e =>
    { c with
      device := c.device.step address serde it e
      algoOps := if c.rekeys address serde e then none else c.algoOps
      -- no thread outlives the process
      calls := if e matches .restart then fun _ => none else c.calls }
  | .getAlgoOps => { c with algoOps := c.getAlgoOps }
  | .register thread appId assetId handle =>
    match c.calls thread, c.registerKeypair appId assetId with
    | none, .ok kp =>
      { c with algoOps := some kp }.set thread (some (.registering kp appId handle))
    | _, _ => c
  | .status thread appId assetId =>
    match c.calls thread, c.keypairStatus appId with
    | none, some kp => c.set thread (some (.checking kp appId assetId))
    | _, _ => c
  | .answer thread a =>
    match c.calls thread with
    | none => c
    | some call =>
      match call.remembers a with
      | some (kp, appId, handle) => (c.set thread none).memoise kp appId handle
      | none => c.goOn thread call a

/-- **The handle belongs to the current account**: it is known of the current keypair, with the app
that is remembered. -/
def Belongs (known : List (Keypair × UInt64 × String)) (s : LocalState) : Prop :=
  ∀ handle ∈ s.ownHandle, ∃ kp app, s.keypair = some kp ∧ s.ownHandleAppId = some app ∧
    (kp, app, handle) ∈ known

/-- **The keypair of a call is still the current one** when the call has its handle remembered, or
the handle is the current account's as well. -/
def InTime (c : Client) : ClientEvent → Prop
  | .answer thread a => ∀ call ∈ c.calls thread, ∀ kp app handle,
    call.remembers a = some (kp, app, handle) →
      ∃ now, c.device.memory.keypair = some now ∧ (now = kp ∨ (now, app, handle) ∈ c.known)
  | _ => True

structure Owned (c : Client) : Prop where
  memory : Belongs c.known c.device.memory
  files : ∀ path file, c.device.files path = some file → ∀ s, load serde (some file.1) = .ok s →
    Belongs c.known s

variable {address serde it} {c : Client}

variable {kp : Keypair} {app : UInt64} {handle : String} {s : LocalState}

lemma belongs_memoise_iff :
    Belongs (c.memoise kp app handle).known (c.memoise kp app handle).device.memory ↔
      ∃ now, c.device.memory.keypair = some now ∧ (now = kp ∨ (now, app, handle) ∈ c.known) := by
  simp [Belongs, memoise]

lemma Owned.memoise (h : c.Owned serde)
    (hmemory : Belongs (c.memoise kp app handle).known (c.memoise kp app handle).device.memory) :
    (c.memoise kp app handle).Owned serde := by
  refine ⟨hmemory, fun path file hfile s hs handle' hhandle => ?_⟩
  obtain ⟨kp', app', hkeypair, happ, hknown⟩ := h.files path file hfile s hs handle' hhandle
  exact ⟨kp', app', hkeypair, happ, List.mem_cons_of_mem _ hknown⟩

/-- What is remembered, and whose it is, is all that counts. -/
lemma Owned.congr {c' : Client} (h : c.Owned serde) (hdevice : c'.device = c.device)
    (hknown : c'.known = c.known) : c'.Owned serde := by
  constructor
  · rw [hdevice, hknown]
    exact h.memory
  · rw [hdevice, hknown]
    exact h.files

lemma goOn_eq (thread : ℕ) (call : Call) (a : Answer) :
    (c.goOn thread call a).device = c.device ∧ (c.goOn thread call a).known = c.known := by
  unfold goOn
  repeat' split
  all_goals exact ⟨rfl, rfl⟩

lemma belongs_of_eq_none {known : List (Keypair × UInt64 × String)}
    (h : s.ownHandle = none) : Belongs known s := by
  simp [Belongs, h]

lemma ownHandle_of_complete {result : Keypair × LocalState}
    (h : completeRecoveryKeypair address s = .ok result) : result.2.ownHandle = none := by
  simp only [completeRecoveryKeypair, importKeypair] at h
  repeat' split at h
  all_goals cases h
  rename_i himport
  repeat' split at himport
  all_goals cases himport
  rfl

lemma Owned.device (h : c.Owned serde) (e : Event) :
    Belongs c.known (c.device.step address serde it e).memory := by
  cases e with
  | generate kp => exact belongs_of_eq_none rfl
  | restart => exact belongs_of_eq_none rfl
  | save path => exact h.memory
  | importPassphrase passphrase =>
    simp only [Device.step, importKeypair]
    cases address passphrase with
    | error err => exact h.memory
    | ok id => exact belongs_of_eq_none rfl
  | completeRecovery =>
    simp only [Device.step]
    cases hresult : completeRecoveryKeypair address c.device.memory with
    | error err => exact h.memory
    | ok result => exact belongs_of_eq_none (ownHandle_of_complete hresult)
  | beginRecovery kp =>
    simp only [Device.step, beginRecoveryKeypair]
    split
    · exact h.memory
    · rename_i s hbegin
      repeat' split at hbegin
      all_goals cases hbegin
      · exact h.memory
      · exact h.memory
  | load path =>
    simp only [Device.step]
    cases hfile : c.device.files path with
    | none => exact h.memory
    | some file =>
      cases hload : load serde (some file.1) with
      | error err => simpa only [hload] using h.memory
      | ok s => simpa only [hload] using h.files path file hfile s hload

/-- A step that is in time keeps the handle the current account's. -/
lemma Owned.step (h : c.Owned serde) (e : ClientEvent) (he : c.InTime e) :
    (c.step address serde it e).Owned serde := by
  cases e with
  | device e =>
    refine ⟨h.device e, fun path file hfile s hs => ?_⟩
    rcases Device.files_step hfile with hold | rfl
    · exact h.files path file hold s hs
    · rw [load_save] at hs
      cases hs
      exact h.memory
  | getAlgoOps => exact h.congr rfl rfl
  | register thread appId assetId handle =>
    simp only [Client.step]
    split
    · exact h.congr rfl rfl
    · exact h
  | status thread appId assetId =>
    simp only [Client.step]
    split
    · exact h.congr rfl rfl
    · exact h
  | answer thread a =>
    simp only [Client.step]
    split
    · exact h
    · rename_i call hcall
      split
      · rename_i kp appId handle hremembers
        have hset : (c.set thread none).Owned serde := h.congr rfl rfl
        exact hset.memoise (belongs_memoise_iff.mpr (he call hcall kp appId handle hremembers))
      · exact h.congr (goOn_eq thread call a).1 (goOn_eq thread call a).2

end Client

end Bingle.Local
