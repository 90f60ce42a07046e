import Bingle.Dapp.Allow
import Bingle.Lib.Run

/-!
# The dapp's methods

The state-changing methods of the contract, each a function to the app it leaves, or `none` when the
call is rejected.  A method that reads an old app takes it as an `App` of its own.  `buy_bingle`,
`sell_bingle`, `withdraw`, `opt_in_to_bingle` and `migrate_reserve` touch none of the state here.
-/

namespace Bingle.Dapp

open Option

def Ctx.sawFee (c : Ctx) (assetId : ℕ) : Bool :=
  c.group.any fun t =>
    t.xferAsset = assetId ∧ t.sender = c.sender ∧ t.assetReceiver = c.appAddress ∧ t.assetAmount = 1

def registerTime (latestTimestamp lastTime : U64) : Option U64 :=
  if latestTimestamp ≤ lastTime then checkedAdd lastTime 1 else some latestTimestamp

def migrateTime (oldTime lastTime : U64) : Option U64 :=
  if oldTime > lastTime then some oldTime else checkedAdd lastTime 1

variable {last t : U64} {a : App} {k : Call}

lemma registerTime_gt {ts : U64} (h : registerTime ts last = some t) : last < t := by
  unfold registerTime at h
  split_ifs at h with hle
  · exact lt_of_checkedAdd_one h
  · cases h
    exact not_le.mp hle

lemma migrateTime_gt {old : U64} (h : migrateTime old last = some t) : last < t := by
  unfold migrateTime at h
  split_ifs at h with hlt
  · cases h
    exact hlt
  · exact lt_of_checkedAdd_one h

namespace Local

/-- The handle half of `migrate_local`: first write wins.  Returns the record, and the HandleTime it
assigned if it assigned one. -/
def migrateHandle (l o : Local) (lastTime : U64) : Option (Local × Option U64) :=
  match o.handle with
  | none => some (l, none)
  | some oldHandle =>
    if l.hasHandle then some (l, none)
    else
      match o.handleTime with
      | none => some ({ l with handle := some oldHandle }, none)
      | some oldTime => do
          let t ← migrateTime oldTime lastTime
          some ({ l with handle := some oldHandle, handleTime := some t }, some t)

def copyAllow (l o : Local) : Local :=
  { l with
    configBitfield := o.configBitfield <|> l.configBitfield
    legacyAllowRelay := o.legacyAllowRelay <|> l.legacyAllowRelay }

def copyStaticEndpoint (l o : Local) : Local :=
  if granted l.packed BIT_STATIC then
    { l with
      staticEndpoint := o.staticEndpoint <|> l.staticEndpoint
      staticEndpointX := o.staticEndpointX <|> l.staticEndpointX }
  else l

def copySidewinderEndpoint (l o : Local) : Local :=
  if granted l.packed BIT_SW_NODE then
    { l with sidewinderEndpoint := o.sidewinderEndpoint <|> l.sidewinderEndpoint }
  else l

def storeEndpoint (l : Local) (endpoint : Bytes) : Local :=
  if endpoint.length > 64 then
    { l with staticEndpoint := some (endpoint.take 64), staticEndpointX := some (endpoint.drop 64) }
  else { l with staticEndpoint := some endpoint, staticEndpointX := none }

end Local

namespace App

def create (c : Ctx) (appAdmin appWithdrawer : Account) : App :=
  { creator := c.sender, appAdmin := some appAdmin, appWithdrawer := some appWithdrawer }

def setBinglePrice (a : App) (c : Ctx) (price : ℕ) : Option App := do
  guard (a.appAdmin = some c.sender)
  some { a with binglePrice := some price }

def register (a : App) (c : Ctx) (handle : String) : Option App := do
  guard (¬ a.isSuperseded)
  let assetId ← c.assets[0]?
  guard (c.sawFee assetId)
  let lastTime := a.lastHandleTime.getD 0
  let handleTime ← registerTime c.latestTimestamp lastTime
  let a := { a with lastHandleTime := some handleTime }
  let a ← a.modifyLocal c.sender fun l =>
    if l.hasHandle then l else { l with handle := some handle, handleTime := some handleTime }
  a.selfGrantSwClient c.sender

def enrolSwClient (a : App) (c : Ctx) : Option App := do
  guard (¬ a.isSuperseded)
  let l ← a.locals c.sender
  guard l.hasHandle
  a.selfGrantSwClient c.sender

/-- `set_predecessor_app`: the immediate predecessor, then its own lineage, then its legacy
pointer, without duplicates. -/
def setPredecessorApp (a : App) (c : Ctx) (predecessorId : AppId) (predecessor : App) :
    Option App := do
  guard (c.sender = a.creator)
  let lineage := (predecessor.ancestorApps.getD []).foldl
    (fun lineage id => if lineage.contains id then lineage else lineage ++ [id]) [predecessorId]
  let lineage := match predecessor.predecessorApp with
    | some old => if old ≠ 0 ∧ ¬ lineage.contains old then lineage ++ [old] else lineage
    | none => lineage
  some { a with ancestorApps := some lineage }

def setSuccessorApp (a : App) (c : Ctx) (successorId : AppId) : Option App := do
  guard (c.sender = a.creator)
  some { a with successorApp := some successorId }

def setAppAdmin (a : App) (c : Ctx) (admin : Account) : Option App := do
  guard (c.sender = a.creator)
  some { a with appAdmin := some admin }

def setAppWithdrawer (a : App) (c : Ctx) (withdrawer : Account) : Option App := do
  guard (c.sender = a.creator)
  some { a with appWithdrawer := some withdrawer }

def migrateGlobal (a : App) (c : Ctx) (old : App) : Option App := do
  guard (c.sender = a.creator)
  some { a with
    binglePrice := old.binglePrice <|> a.binglePrice
    lastHandleTime := old.lastHandleTime <|> a.lastHandleTime
    appAdmin := old.appAdmin <|> a.appAdmin
    appWithdrawer := old.appWithdrawer <|> a.appWithdrawer }

/-- `migrate_local`: the sender takes over what they have in a blessed older app. -/
def migrateLocal (a : App) (c : Ctx) (oldId : AppId) (old : App) : Option App := do
  guard (a.lineageContains oldId)
  let o ← old.locals c.sender
  let l ← a.locals c.sender
  let (l, assigned) ← l.migrateHandle o (a.lastHandleTime.getD 0)
  let a := { a with lastHandleTime := assigned <|> a.lastHandleTime }
  let l := ((l.copyAllow o).copyStaticEndpoint o).copySidewinderEndpoint o
  let a ← a.modifyLocal c.sender fun _ => l
  -- a migrated user never calls `register` here, so the client bit is granted on the way
  if l.hasHandle then a.selfGrantSwClient c.sender else some a

def registerEndpoint (a : App) (c : Ctx) (endpoint : Bytes) : Option App := do
  guard (¬ a.isSuperseded)
  let packed ← a.packedAllowBits c.sender
  guard (granted packed BIT_STATIC)
  if endpoint ≠ [] then a.modifyLocal c.sender fun l => l.storeEndpoint endpoint
  else a.clearEndpoint c.sender

def registerSidewinderEndpoint (a : App) (c : Ctx) (record : Bytes) : Option App := do
  guard (¬ a.isSuperseded)
  let packed ← a.packedAllowBits c.sender
  guard (granted packed BIT_SW_NODE)
  if record ≠ [] then a.modifyLocal c.sender fun l => { l with sidewinderEndpoint := some record }
  else a.clearSidewinderEndpoint c.sender

end App

/-! ## Calls -/

/-- The methods of the contract that write to its state, with their arguments. -/
inductive Call
  | optin (c : Ctx)
  | setBinglePrice (c : Ctx) (price : ℕ)
  | register (c : Ctx) (handle : String)
  | enrolSwClient (c : Ctx)
  | setAllow (f : Flag) (c : Ctx) (target : Account) (allow : ℕ)
  | setPredecessorApp (c : Ctx) (predecessorId : AppId) (predecessor : App)
  | setSuccessorApp (c : Ctx) (successorId : AppId)
  | setAppAdmin (c : Ctx) (admin : Account)
  | setAppWithdrawer (c : Ctx) (withdrawer : Account)
  | migrateGlobal (c : Ctx) (old : App)
  | migrateLocal (c : Ctx) (oldId : AppId) (old : App)
  | registerEndpoint (c : Ctx) (endpoint : Bytes)
  | registerSidewinderEndpoint (c : Ctx) (record : Bytes)

def Call.isGlobal : Call → Bool
  | .setBinglePrice _ _ | .setPredecessorApp _ _ _ | .setSuccessorApp _ _ | .setAppAdmin _ _
  | .setAppWithdrawer _ _ | .migrateGlobal _ _ => true
  | _ => false

def App.call (a : App) : Call → Option App
  | .optin c => a.optin c
  | .setBinglePrice c price => a.setBinglePrice c price
  | .register c handle => a.register c handle
  | .enrolSwClient c => a.enrolSwClient c
  | .setAllow f c target allow => a.setAllow f c target allow
  | .setPredecessorApp c id old => a.setPredecessorApp c id old
  | .setSuccessorApp c id => a.setSuccessorApp c id
  | .setAppAdmin c admin => a.setAppAdmin c admin
  | .setAppWithdrawer c withdrawer => a.setAppWithdrawer c withdrawer
  | .migrateGlobal c old => a.migrateGlobal c old
  | .migrateLocal c id old => a.migrateLocal c id old
  | .registerEndpoint c endpoint => a.registerEndpoint c endpoint
  | .registerSidewinderEndpoint c record => a.registerSidewinderEndpoint c record

/-- A call that the contract rejects changes nothing. -/
def exec (a : App) (k : Call) : App := (a.call k).getD a

lemma exec_of_call {b : App} (h : a.call k = some b) : exec a k = b := by
  simp [exec, h]

lemma call_eq_some_exec (h : (a.call k).isSome) :
    a.call k = some (exec a k) := by
  obtain ⟨b, hb⟩ := isSome_iff_exists.mp h
  rw [hb, exec_of_call hb]

lemma exec_of_rejected (h : a.call k = none) : exec a k = a := by
  simp [exec, h]

/-- A condition on the calls that go through.  A rejected call is left out: it changes nothing. -/
def WhenAccepted (P : App → Call → Prop) (a : App) (k : Call) : Prop := (a.call k).isSome → P a k

instance (P : App → Call → Prop) [∀ a k, Decidable (P a k)] (a : App) (k : Call) :
    Decidable (WhenAccepted P a k) :=
  inferInstanceAs (Decidable (_ → _))

/-- **The rule for one call**: what a rejected call keeps, a call has only to keep when it goes
through. -/
lemma exec_iff_whenAccepted {P : App → Prop} {Q : App → Call → Prop}
    (h : P a) (hcall : ∀ b, a.call k = some b → (P b ↔ Q a k)) :
    P (exec a k) ↔ WhenAccepted Q a k := by
  cases hb : a.call k with
  | none => simp [exec_of_rejected hb, h, WhenAccepted, hb]
  | some b =>
    rw [exec_of_call hb, WhenAccepted, hb, hcall b hb]
    simp only [isSome_some, forall_const]

def deployed (c : Ctx) (admin withdrawer : Account) (ks : List Call) : App :=
  Lib.run exec (App.create c admin withdrawer) ks

/-! ## What a call that goes through leaves -/

namespace Local

def registered (l : Local) (handle : String) (handleTime : U64) : Local :=
  if l.hasHandle then l else { l with handle := some handle, handleTime := some handleTime }

def migrated (l o : Local) : Local :=
  let l := ((l.copyAllow o).copyStaticEndpoint o).copySidewinderEndpoint o
  if l.hasHandle then l.grantSwClient else l

def writeEndpoint (l : Local) (endpoint : Bytes) : Local :=
  if endpoint ≠ [] then l.storeEndpoint endpoint
  else { l with staticEndpoint := none, staticEndpointX := none }

def writeSidewinderEndpoint (l : Local) (record : Bytes) : Local :=
  if record ≠ [] then { l with sidewinderEndpoint := some record }
  else { l with sidewinderEndpoint := none }

variable (l : Local)

lemma writeEndpoint_frame (e : Bytes) :
    (l.writeEndpoint e).handle = l.handle ∧ (l.writeEndpoint e).handleTime = l.handleTime ∧
      (l.writeEndpoint e).packed = l.packed ∧
      (l.writeEndpoint e).sidewinderEndpoint = l.sidewinderEndpoint := by
  unfold writeEndpoint storeEndpoint
  split_ifs <;> exact ⟨rfl, rfl, rfl, rfl⟩

lemma writeSidewinderEndpoint_frame (e : Bytes) :
    (l.writeSidewinderEndpoint e).handle = l.handle ∧
      (l.writeSidewinderEndpoint e).handleTime = l.handleTime ∧
      (l.writeSidewinderEndpoint e).packed = l.packed ∧
      (l.writeSidewinderEndpoint e).staticEndpoint = l.staticEndpoint ∧
      (l.writeSidewinderEndpoint e).staticEndpointX = l.staticEndpointX := by
  unfold writeSidewinderEndpoint
  split_ifs <;> exact ⟨rfl, rfl, rfl, rfl, rfl⟩

lemma copyEndpoints_frame (o : Local) :
    ((l.copyStaticEndpoint o).copySidewinderEndpoint o).packed = l.packed ∧
      ((l.copyStaticEndpoint o).copySidewinderEndpoint o).handle = l.handle ∧
      ((l.copyStaticEndpoint o).copySidewinderEndpoint o).handleTime = l.handleTime := by
  unfold copySidewinderEndpoint copyStaticEndpoint
  split_ifs <;> exact ⟨rfl, rfl, rfl⟩

lemma grantSwClient_frame :
    l.grantSwClient.handle = l.handle ∧ l.grantSwClient.handleTime = l.handleTime := by
  unfold grantSwClient
  split_ifs <;> exact ⟨rfl, rfl⟩

lemma setAllow_frame (f : Flag) (allow : ℕ) :
    (l.setAllow f allow).handle = l.handle ∧ (l.setAllow f allow).handleTime = l.handleTime := by
  cases f <;> simp only [setAllow] <;> first | exact ⟨rfl, rfl⟩ | split_ifs <;> exact ⟨rfl, rfl⟩

lemma migrated_frame (o : Local) :
    (l.migrated o).handle = l.handle ∧ (l.migrated o).handleTime = l.handleTime := by
  obtain ⟨-, hh, ht⟩ := copyEndpoints_frame (l.copyAllow o) o
  unfold migrated
  dsimp only
  split_ifs
  · obtain ⟨gh, gt⟩ :=
      grantSwClient_frame (((l.copyAllow o).copyStaticEndpoint o).copySidewinderEndpoint o)
    exact ⟨gh.trans hh, gt.trans ht⟩
  · exact ⟨hh, ht⟩

end Local

/-! ### What migration does to a record -/

namespace Local

variable {l o l' : Local} {last : U64} {t : Option U64}

lemma migrateHandle_frame (h : l.migrateHandle o last = some (l', t)) :
    { l' with handle := l.handle, handleTime := l.handleTime } = l := by
  unfold migrateHandle at h
  split at h
  · cases h; rfl
  · split_ifs at h
    · cases h; rfl
    · split at h
      · cases h; rfl
      · obtain ⟨_, -, h⟩ := bind_eq_some_iff.mp h
        cases h; rfl

lemma migrateHandle_copyAllow (h : l.migrateHandle o last = some (l', t)) :
    (l'.copyAllow o).packed = (l.copyAllow o).packed := by
  rw [← migrateHandle_frame h]
  rfl

lemma migrateHandle_hasHandle
    (h : l.migrateHandle o last = some (l', t)) : l'.hasHandle ↔ l.hasHandle ∨ o.hasHandle := by
  unfold migrateHandle at h
  split at h
  case h_1 ho => cases h; simp [hasHandle, ho]
  case h_2 oh ho =>
      split_ifs at h with hl
      · cases h; simp [hl]
      · have hiff : oh ≠ "" ↔ l.hasHandle ∨ o.hasHandle := by
          rw [or_iff_right hl, hasHandle, ho, getD_some]
        split at h
        · cases h; exact hiff
        · obtain ⟨_, -, h⟩ := bind_eq_some_iff.mp h
          cases h; exact hiff

lemma getLsbD_packed_migrated (l o : Local) (j : ℕ) :
    (l.migrated o).packed.getLsbD j =
      ((l.copyAllow o).packed.getLsbD j ||
        (decide l.hasHandle && decide (j = 3) && !(l.copyAllow o).packed.getLsbD 4)) := by
  obtain ⟨hp, hh, -⟩ := copyEndpoints_frame (l.copyAllow o) o
  have hhas : (((l.copyAllow o).copyStaticEndpoint o).copySidewinderEndpoint o).hasHandle ↔
      l.hasHandle := by
    rw [hasHandle, hh]; rfl
  unfold migrated
  dsimp only
  split_ifs with h
  · rw [getLsbD_packed_grantSwClient, hp]
    simp [hhas.mp h]
  · rw [hp, decide_eq_false (mt hhas.mpr h)]
    simp

end Local

namespace App

variable {a b : App}

variable {c : Ctx}

lemma register_eq_some {h : String} (hb : a.register c h = some b) :
    ∃ l t, a.locals c.sender = some l ∧
      registerTime c.latestTimestamp (a.lastHandleTime.getD 0) = some t ∧
      b = { a with lastHandleTime := some t }.setLocal c.sender
        (l.registered h t).grantSwClient := by
  simp only [register, selfGrantSwClient_eq, bind_eq_bind, guard_eq_some,
    bind_eq_some_iff, modifyLocal_eq_some] at hb
  obtain ⟨_, -, _, -, _, -, t, ht, _, ⟨l, hl, rfl⟩, l', hl', rfl⟩ := hb
  obtain rfl := some.inj ((setLocal_self _ _ _).symm.trans hl')
  exact ⟨l, t, hl, ht, by rw [setLocal_setLocal, Local.registered]⟩

lemma enrolSwClient_eq_some (hb : a.enrolSwClient c = some b) :
    ∃ l, a.locals c.sender = some l ∧ l.hasHandle ∧ b = a.setLocal c.sender l.grantSwClient := by
  simp only [enrolSwClient, selfGrantSwClient_eq, bind_eq_bind, guard_eq_some,
    bind_eq_some_iff, modifyLocal_eq_some] at hb
  obtain ⟨_, -, l, hl, _, hh, l', hl', rfl⟩ := hb
  obtain rfl := some.inj (hl.symm.trans hl')
  exact ⟨l, hl, hh, rfl⟩

lemma migrateLocal_eq_some {id : AppId} {old : App} (hb : a.migrateLocal c id old = some b) :
    ∃ o l l' assigned, old.locals c.sender = some o ∧ a.locals c.sender = some l ∧
      l.migrateHandle o (a.lastHandleTime.getD 0) = some (l', assigned) ∧
      b = { a with lastHandleTime := assigned <|> a.lastHandleTime }.setLocal c.sender
        (l'.migrated o) := by
  simp only [migrateLocal, selfGrantSwClient_eq, bind_eq_bind, guard_eq_some,
    bind_eq_some_iff, modifyLocal_eq_some] at hb
  obtain ⟨_, -, o, ho, l, hl, ⟨l', assigned⟩, hm, _, ⟨l₀, -, rfl⟩, hg⟩ := hb
  refine ⟨o, l, l', assigned, ho, hl, hm, ?_⟩
  unfold Local.migrated
  dsimp only at hg ⊢
  split_ifs at hg ⊢ with hh
  · rw [eq_setLocal_of_modifyLocal (setLocal_self _ _ _) hg, setLocal_setLocal]
  · exact (some.inj hg).symm

lemma registerEndpoint_eq_some {e : Bytes} (hb : a.registerEndpoint c e = some b) :
    ∃ l, a.locals c.sender = some l ∧ granted l.packed BIT_STATIC = true ∧
      b = a.setLocal c.sender (l.writeEndpoint e) := by
  simp only [registerEndpoint, bind_eq_bind, guard_eq_some, bind_eq_some_iff,
    packedAllowBits, map_eq_some_iff, clearEndpoint] at hb
  obtain ⟨_, -, _, ⟨l, hl, rfl⟩, _, hstatic, hb⟩ := hb
  refine ⟨l, hl, hstatic, ?_⟩
  unfold Local.writeEndpoint
  split_ifs at hb ⊢
  · exact (eq_setLocal_of_modifyLocal hl hb :)
  · exact (eq_setLocal_of_modifyLocal hl hb :)

lemma registerSidewinderEndpoint_eq_some {r : Bytes}
    (hb : a.registerSidewinderEndpoint c r = some b) :
    ∃ l, a.locals c.sender = some l ∧ granted l.packed BIT_SW_NODE = true ∧
      b = a.setLocal c.sender (l.writeSidewinderEndpoint r) := by
  simp only [registerSidewinderEndpoint, bind_eq_bind, guard_eq_some,
    bind_eq_some_iff, packedAllowBits, map_eq_some_iff,
    clearSidewinderEndpoint] at hb
  obtain ⟨_, -, _, ⟨l, hl, rfl⟩, _, hnode, hb⟩ := hb
  refine ⟨l, hl, hnode, ?_⟩
  unfold Local.writeSidewinderEndpoint
  split_ifs at hb ⊢
  · exact (eq_setLocal_of_modifyLocal hl hb :)
  · exact (eq_setLocal_of_modifyLocal hl hb :)

lemma optin_eq_some (hb : a.optin c = some b) :
    a.locals c.sender = none ∧ b = a.setLocal c.sender {} := by
  unfold optin at hb
  split at hb
  · exact ⟨by assumption, (some.inj hb).symm⟩
  · exact absurd hb (by simp)

lemma locals_of_isGlobal {k : Call} (hb : a.call k = some b) (hk : k.isGlobal = true) :
    b.locals = a.locals := by
  cases k <;> simp only [Call.isGlobal, Bool.false_eq_true] at hk
  all_goals
    simp only [call, setBinglePrice, setPredecessorApp, setSuccessorApp, setAppAdmin,
      setAppWithdrawer, migrateGlobal, bind_eq_bind, bind_eq_some_iff, guard_eq_some,
      some.injEq] at hb
    obtain ⟨-, -, rfl⟩ := hb
    rfl

end App

end Bingle.Dapp
