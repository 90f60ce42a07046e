import Bingle.Dapp.Contract

/-!
# A client that moves to a new app

On start the client calls `ensure_local_migrated` (`bingle_core/src/blockchain/algo_bingle.rs`): an
account that is not registered on the new app is migrated there from the nearest app of its lineage
on which it has local state.  Any `Handle` is taken for a registration.
-/

namespace Bingle.Dapp

inductive ClientError
  | bail (message : String)
  | rejected
deriving DecidableEq, Repr

abbrev Apps := AppId → Option App

namespace Apps

def localStateForAccount (apps : Apps) (appId : AppId) (account : Account) : Option Local :=
  (apps appId).bind fun a => a.locals account

def ancestorApps (apps : Apps) (newAppId : AppId) : Except ClientError (List AppId) :=
  if newAppId = 0 then .error (.bail "new_app_id must be > 0")
  else .ok (((apps newAppId).bind App.ancestorApps).getD [])

def findMigratableAncestor (apps : Apps) (newAppId : AppId) (account : Account) :
    Except ClientError (Option AppId) := do
  let ancestors ← apps.ancestorApps newAppId
  .ok (ancestors.find? fun ancestor => (apps.localStateForAccount ancestor account).isSome)

def holdsHandle (apps : Apps) (appId : AppId) (account : Account) : Except ClientError Bool :=
  if appId = 0 then .error (.bail "app_id must be > 0")
  else .ok ((apps.localStateForAccount appId account).any fun l => l.handle.isSome)

def optInApp (apps : Apps) (appId : AppId) (account : Account) : Except ClientError Apps :=
  match apps appId with
  | none => .error .rejected
  | some a =>
    .ok (Function.update apps appId (some ((a.optin { sender := account }).getD a)))

def migrateLocal (apps : Apps) (appId oldAppId : AppId) (account : Account) :
    Except ClientError Apps :=
  if appId = 0 then .error (.bail "app_id must be > 0")
  else if oldAppId = 0 then .error (.bail "old_app_id must be > 0")
  else
    match apps appId, apps oldAppId with
    | some a, some old =>
      match a.migrateLocal { sender := account } oldAppId old with
      | some b => .ok (Function.update apps appId (some b))
      | none => .error .rejected
    | _, _ => .error .rejected

def ensureLocalMigrated (apps : Apps) (address : Option Account) (newAppId : AppId) :
    Except ClientError (Option AppId × Apps) := do
  if newAppId = 0 then .error (.bail "new_app_id must be > 0")
  else
    match address with
    | none => .error (.bail "No sender address")
    | some me =>
      if ← apps.holdsHandle newAppId me then .ok (none, apps)
      else
        match ← apps.findMigratableAncestor newAppId me with
        | none => .ok (none, apps)
        | some ancestor => do
            let apps ← apps.optInApp newAppId me
            let apps ← apps.migrateLocal newAppId ancestor me
            .ok (some ancestor, apps)

def HasHandle (apps : Apps) (appId : AppId) (account : Account) : Prop :=
  ∃ l, apps.localStateForAccount appId account = some l ∧ l.hasHandle

def lineage (apps : Apps) (newAppId : AppId) : List AppId :=
  ((apps newAppId).bind App.ancestorApps).getD []

/-- The nearest ancestor in which the account has opted in. -/
def nearest (apps : Apps) (newAppId : AppId) (account : Account) : Option AppId :=
  (apps.lineage newAppId).find? fun ancestor => (apps.localStateForAccount ancestor account).isSome

def HasKey (apps : Apps) (appId : AppId) (account : Account) : Prop :=
  ∃ l, apps.localStateForAccount appId account = some l ∧ l.handle.isSome

/-! ## What a call that succeeds did -/

section Ok

variable {apps apps' : Apps} {newAppId : AppId} {me : Account} {r : Option AppId}

lemma bind_eq_ok {α β : Type} {x : Except ClientError α} {f : α → Except ClientError β} {b : β} :
    (x >>= f) = .ok b ↔ ∃ a, x = .ok a ∧ f a = .ok b := by
  cases x <;> simp [Bind.bind, Except.bind]

lemma hasKey_iff :
    ((apps.localStateForAccount newAppId me).any fun l => l.handle.isSome) = true ↔
      apps.HasKey newAppId me := by
  rw [Option.any_eq_true]
  rfl

lemma isSome_of_hasHandle {l : Local} (h : l.hasHandle) : l.handle.isSome := by
  cases hh : l.handle with
  | none => simp [Local.hasHandle, hh] at h
  | some x => rfl

lemma ensureLocalMigrated_eq_ok (h : apps.ensureLocalMigrated (some me) newAppId = .ok (r, apps')) :
    (apps.HasKey newAppId me ∧ apps' = apps) ∨
      (¬ apps.HasKey newAppId me ∧ apps.nearest newAppId me = none ∧ apps' = apps) ∨
      ∃ ancestor opted, ¬ apps.HasKey newAppId me ∧ apps.nearest newAppId me = some ancestor ∧
        apps.optInApp newAppId me = .ok opted ∧
        opted.migrateLocal newAppId ancestor me = .ok apps' := by
  unfold ensureLocalMigrated at h
  by_cases hid : newAppId = 0
  · simp [hid] at h
  have hholds : apps.holdsHandle newAppId me =
      .ok ((apps.localStateForAccount newAppId me).any fun l => l.handle.isSome) := if_neg hid
  have hfind : apps.findMigratableAncestor newAppId me = .ok (apps.nearest newAppId me) := by
    rw [findMigratableAncestor, ancestorApps, if_neg hid]
    rfl
  rw [if_neg hid] at h
  obtain ⟨held, hheld, h⟩ := bind_eq_ok.mp h
  obtain rfl := Except.ok.inj (hholds.symm.trans hheld)
  by_cases hkey : apps.HasKey newAppId me
  · rw [if_pos (hasKey_iff.mpr hkey)] at h
    exact Or.inl ⟨hkey, (Prod.mk.inj (Except.ok.inj h)).2.symm⟩
  · rw [if_neg (mt hasKey_iff.mp hkey)] at h
    obtain ⟨found, hfound, h⟩ := bind_eq_ok.mp h
    obtain rfl := Except.ok.inj (hfind.symm.trans hfound)
    cases hnear : apps.nearest newAppId me with
    | none =>
      rw [hnear] at h
      exact Or.inr (Or.inl ⟨hkey, rfl, (Prod.mk.inj (Except.ok.inj h)).2.symm⟩)
    | some ancestor =>
      rw [hnear] at h
      obtain ⟨opted, hopted, h⟩ := bind_eq_ok.mp h
      obtain ⟨migrated, hmigrated, h⟩ := bind_eq_ok.mp h
      obtain ⟨-, rfl⟩ := Prod.mk.inj (Except.ok.inj h)
      exact Or.inr (Or.inr ⟨ancestor, opted, hkey, rfl, hopted, hmigrated⟩)

lemma localStateForAccount_optInApp {opted : Apps} (h : apps.optInApp newAppId me = .ok opted)
    (id : AppId) :
    opted.localStateForAccount id me =
      if id = newAppId then some ((apps.localStateForAccount id me).getD {})
      else apps.localStateForAccount id me := by
  unfold optInApp at h
  cases ha : apps newAppId with
  | none =>
    rw [ha] at h
    cases h
  | some a =>
    rw [ha] at h
    obtain rfl := Except.ok.inj h
    by_cases hid : id = newAppId
    · subst hid
      cases hl : a.locals me <;> simp [localStateForAccount, App.optin, ha, hl]
    · simp [localStateForAccount, hid]

lemma hasHandle_migrateLocal {ancestor : AppId}
    (h : apps.migrateLocal newAppId ancestor me = .ok apps') :
    apps'.HasHandle newAppId me ↔ apps.HasHandle newAppId me ∨ apps.HasHandle ancestor me := by
  unfold migrateLocal at h
  split_ifs at h
  split at h
  case h_2 => cases h
  case h_1 a old ha hold =>
      split at h
      case h_2 => cases h
      case h_1 b hb =>
          obtain rfl := Except.ok.inj h
          obtain ⟨o, l, l', assigned, ho, hl, hm, rfl⟩ := App.migrateLocal_eq_some hb
          have hhandle := Local.migrateHandle_hasHandle hm
          have hframe := (Local.migrated_frame l' o).1
          simp only [HasHandle, localStateForAccount, Function.update_self, Option.bind_some,
            App.setLocal_self, ha, hold, ho, hl, Option.some.injEq, exists_eq_left']
          rw [← hhandle, Local.hasHandle, Local.hasHandle, hframe]

end Ok

/-! ## The handle -/

/-- **When the client keeps the handle.**  Of an account with a handle on some app of the lineage: a
call of `ensure_local_migrated` that succeeds leaves it with one on the new app exactly when it had
one there, or there was no `Handle` there, not even an empty one, and the nearest ancestor with
local state of the account has its handle. -/
theorem handle_kept_iff {apps apps' : Apps} {newAppId : AppId} {me : Account} {r : Option AppId}
    (hheld : ∃ ancestor ∈ apps.lineage newAppId, apps.HasHandle ancestor me)
    (h : apps.ensureLocalMigrated (some me) newAppId = .ok (r, apps')) :
    apps'.HasHandle newAppId me ↔ apps.HasHandle newAppId me ∨
      ¬ apps.HasKey newAppId me ∧
        ∃ ancestor, apps.nearest newAppId me = some ancestor ∧ apps.HasHandle ancestor me := by
  rcases ensureLocalMigrated_eq_ok h with ⟨hkey, rfl⟩ | ⟨-, hnone, -⟩ | ⟨ancestor, opted, hkey,
    hnear, hopted, hmigrated⟩
  · simp [hkey]
  · -- somebody on the lineage has local state of the account
    obtain ⟨ancestor, hmem, l, hl, -⟩ := hheld
    exact absurd (List.find?_eq_none.mp hnone ancestor hmem) (by simp [hl])
  · have hlocal := localStateForAccount_optInApp hopted
    have hnew : ¬ opted.HasHandle newAppId me := by
      rintro ⟨l, hl, hh⟩
      rw [hlocal, if_pos rfl] at hl
      obtain rfl := Option.some.inj hl
      cases hbefore : apps.localStateForAccount newAppId me with
      | none => simp [hbefore, Local.hasHandle] at hh
      | some l => exact hkey ⟨l, hbefore, isSome_of_hasHandle (by simpa [hbefore] using hh)⟩
    have hold : opted.HasHandle ancestor me ↔ apps.HasHandle ancestor me := by
      have hfound : (apps.localStateForAccount ancestor me).isSome = true := by
        simpa using List.find?_some hnear
      obtain ⟨l, hl⟩ := Option.isSome_iff_exists.mp hfound
      unfold HasHandle
      rw [hlocal, hl]
      simp
    have hbefore : ¬ apps.HasHandle newAppId me := by
      rintro ⟨l, hl, hh⟩
      exact hkey ⟨l, hl, isSome_of_hasHandle hh⟩
    rw [hasHandle_migrateLocal hmigrated, or_iff_right hnew, hold, or_iff_right hbefore]
    simp [hkey, hnear]

def threeApps (first second third : Option Local) : Apps
  | 1 => some { creator := "C", locals := fun _ => first }
  | 2 => some { creator := "C", locals := fun _ => second }
  | 3 => some { creator := "C", ancestorApps := some [2, 1], locals := fun _ => third }
  | _ => none

theorem skipped_app_keeps_handle :
    ∃ apps', (threeApps (some { handle := some "alice" }) none none).ensureLocalMigrated
        (some "X") 3 = .ok (some 1, apps') ∧ apps'.HasHandle 3 "X" := by
  have hok : ∃ r, (threeApps (some { handle := some "alice" }) none none).ensureLocalMigrated
      (some "X") 3 = .ok r ∧ r.1 = some 1 := ⟨_, rfl, rfl⟩
  obtain ⟨⟨r, apps'⟩, hok, rfl⟩ := hok
  have hheld : (threeApps (some { handle := some "alice" }) none none).HasHandle 1 "X" :=
    ⟨_, rfl, by decide⟩
  refine ⟨apps', hok, (handle_kept_iff ⟨1, by decide, hheld⟩ hok).mpr (Or.inr ⟨?_, 1, rfl, hheld⟩)⟩
  rintro ⟨l, hl, -⟩
  cases hl

/-- An account without a handle on the app 2 loses the one it has on the app 1; so does one with an
empty handle on the new app. -/
theorem nearer_record_hides_handle :
    let alice : Option Local := some { handle := some "alice" }
    let hidden := threeApps alice (some { configBitfield := some 1#64 }) none
    let empty := threeApps alice none (some { handle := some "" })
    hidden.HasHandle 1 "X" ∧
      (∃ apps', hidden.ensureLocalMigrated (some "X") 3 = .ok (some 2, apps') ∧
        ¬ apps'.HasHandle 3 "X") ∧
      ∃ apps', empty.ensureLocalMigrated (some "X") 3 = .ok (none, apps') ∧
        ¬ apps'.HasHandle 3 "X" := by
  intro alice hidden empty
  refine ⟨⟨_, rfl, by decide⟩, ⟨_, rfl, ?_⟩, ⟨_, rfl, ?_⟩⟩
  · rintro ⟨l, hl, hh⟩
    obtain rfl := Option.some.inj hl
    exact absurd hh (by decide)
  · rintro ⟨l, hl, hh⟩
    obtain rfl := Option.some.inj hl
    exact absurd hh (by decide)

end Apps

end Bingle.Dapp
