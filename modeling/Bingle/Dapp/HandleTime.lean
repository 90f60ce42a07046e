import Bingle.Dapp.Contract
import Bingle.Lib.Register

/-!
# HandleTime as a registration order

Readers give a handle that several accounts hold to the one with the oldest HandleTime.  Here the
app is a register of handles (`Lib.Register`), with `LastHandleTime` as the counter, and every call
one entry of it (`registry_exec`).  Two calls can spoil the order: `migrate_global` sets the counter
to the old app's, and `migrate_local` copies a handle without a time.
-/

namespace Bingle.Dapp

open Option
open Function (update_eq_self)

namespace App

def handleOf (a : App) (x : Account) : Option String :=
  ((a.locals x).bind Local.handle).filter (· ≠ "")

def handleTimeOf (a : App) (x : Account) : Option U64 := (a.locals x).bind Local.handleTime

/-- The app seen as a register of names: its counter, the handles and their times. -/
def registry (a : App) : Lib.Register Account String U64 :=
  ⟨a.lastHandleTime.getD 0, a.handleOf, a.handleTimeOf⟩

end App

def migrationEntry (a : App) (x : Account) (o : Local) : Lib.Entry Account String U64 :=
  match o.handle with
  | none => .skip
  | some h =>
    if (a.handleOf x).isSome then .skip
    else
      match o.handleTime with
      | none => .bare x ((some h).filter (· ≠ ""))
      | some t =>
        match migrateTime t (a.lastHandleTime.getD 0) with
        | some t => .claim x ((some h).filter (· ≠ "")) t
        | none => .skip

def entry (a : App) : Call → Lib.Entry Account String U64
  | .register c h =>
    match registerTime c.latestTimestamp (a.lastHandleTime.getD 0) with
    | some t => .claim c.sender ((some h).filter (· ≠ "")) t
    | none => .skip
  | .migrateLocal c _ old =>
    match old.locals c.sender with
    | some o => migrationEntry a c.sender o
    | none => .skip
  | .migrateGlobal _ old =>
    match old.lastHandleTime with
    | some t => .reset t
    | none => .skip
  | _ => .skip

def entryOf (a : App) (k : Call) : Lib.Entry Account String U64 :=
  if (a.call k).isSome then entry a k else .skip

/-! ## Every call is an entry -/

namespace App

variable {a b : App} {x : Account} {l : Local} {c : Ctx}

lemma handleOf_eq (h : a.locals x = some l) :
    a.handleOf x = l.handle.filter (· ≠ "") := by
  simp [handleOf, h]

lemma handleTimeOf_eq (h : a.locals x = some l) :
    a.handleTimeOf x = l.handleTime := by
  simp [handleTimeOf, h]

lemma hasHandle_iff (h : a.locals x = some l) :
    l.hasHandle ↔ (a.handleOf x).isSome := by
  rw [handleOf_eq h, Local.hasHandle]
  cases l.handle <;> simp [Option.filter]

lemma handleOf_setLocal (a : App) (x : Account) (l : Local) :
    (a.setLocal x l).handleOf = Function.update a.handleOf x (l.handle.filter (· ≠ "")) := by
  funext y
  by_cases hy : y = x
  · subst hy; simp [handleOf]
  · simp [handleOf, hy]

lemma handleTimeOf_setLocal (a : App) (x : Account) (l : Local) :
    (a.setLocal x l).handleTimeOf = Function.update a.handleTimeOf x l.handleTime := by
  funext y
  by_cases hy : y = x
  · subst hy; simp [handleTimeOf]
  · simp [handleTimeOf, hy]

lemma registry_setLocal_of_same {l' : Local} (hl : a.locals x = some l)
    (hh : l'.handle = l.handle) (ht : l'.handleTime = l.handleTime) :
    (a.setLocal x l').registry = a.registry := by
  rw [registry, handleOf_setLocal, handleTimeOf_setLocal, hh, ht, ← handleOf_eq hl,
    ← handleTimeOf_eq hl, update_eq_self, update_eq_self]
  rfl

lemma registry_register {h : String} (hb : a.register c h = some b) :
    b.registry = a.registry.apply (entry a (.register c h)) := by
  obtain ⟨l, t, hl, ht, rfl⟩ := register_eq_some hb
  obtain ⟨gh, gt⟩ := (l.registered h t).grantSwClient_frame
  simp only [entry, ht, Lib.Register.apply]
  rw [registry, handleOf_setLocal, handleTimeOf_setLocal, gh, gt]
  have hval : (a.registry.value c.sender).isSome ↔ l.hasHandle := (hasHandle_iff hl).symm
  by_cases hh : l.hasHandle
  · rw [if_pos (hval.mpr hh), Local.registered, if_pos hh, ← handleOf_eq hl, ← handleTimeOf_eq hl]
    exact congrArg₂ (Lib.Register.mk t) (update_eq_self _ _) (update_eq_self _ _)
  · rw [if_neg (mt hval.mp hh), Local.registered, if_neg hh]
    rfl

lemma registry_migrateLocal {id : AppId} {old : App} (hb : a.migrateLocal c id old = some b) :
    b.registry = a.registry.apply (entry a (.migrateLocal c id old)) := by
  obtain ⟨o, l, l', assigned, ho, hl, hm, rfl⟩ := migrateLocal_eq_some hb
  obtain ⟨gh, gt⟩ := l'.migrated_frame o
  have hval : l.hasHandle ↔ (a.handleOf c.sender).isSome := hasHandle_iff hl
  have hsame : Function.update a.handleOf c.sender (l.handle.filter (· ≠ "")) = a.handleOf ∧
      Function.update a.handleTimeOf c.sender l.handleTime = a.handleTimeOf := by
    rw [← handleOf_eq hl, ← handleTimeOf_eq hl]
    exact ⟨update_eq_self _ _, update_eq_self _ _⟩
  rw [registry, handleOf_setLocal, handleTimeOf_setLocal, gh, gt]
  simp only [entry, ho, migrationEntry]
  -- the cases are those of `migrateHandle`
  unfold Local.migrateHandle at hm
  cases hoh : o.handle with
  | none =>
    rw [hoh] at hm
    cases hm
    exact congrArg₂ (Lib.Register.mk _) hsame.1 hsame.2
  | some oh =>
    rw [hoh] at hm
    dsimp only at hm ⊢
    by_cases hh : l.hasHandle
    · rw [if_pos hh] at hm
      rw [if_pos (hval.mp hh)]
      cases hm
      exact congrArg₂ (Lib.Register.mk _) hsame.1 hsame.2
    · rw [if_neg hh] at hm
      rw [if_neg (mt hval.mpr hh)]
      have hfree : ¬ (a.registry.value c.sender).isSome := mt hval.mpr hh
      cases hot : o.handleTime with
      | none =>
        rw [hot] at hm
        cases hm
        simp only [Lib.Register.apply, if_neg hfree]
        exact congrArg₂ (Lib.Register.mk _) rfl hsame.2
      | some ot =>
        rw [hot] at hm
        obtain ⟨t, ht, hm⟩ := bind_eq_some_iff.mp hm
        cases hm
        simp only [ht, Lib.Register.apply, if_neg hfree]
        rfl

/-- **Every call is one entry of the register.** -/
theorem registry_exec (a : App) (k : Call) :
    (exec a k).registry = a.registry.apply (entryOf a k) := by
  cases hb : a.call k with
  | none => simp [exec_of_rejected hb, entryOf, hb, Lib.Register.apply]
  | some b =>
    rw [exec_of_call hb, entryOf, hb, isSome_some, if_pos rfl]
    cases k with
    | register c h => exact registry_register hb
    | migrateLocal c id old => exact registry_migrateLocal hb
    | enrolSwClient c =>
      obtain ⟨l, hl, -, rfl⟩ := enrolSwClient_eq_some hb
      obtain ⟨gh, gt⟩ := l.grantSwClient_frame
      exact registry_setLocal_of_same hl gh gt
    | setAllow f c x allow =>
      obtain ⟨-, l, hl, rfl⟩ := setAllow_eq_some.mp hb
      obtain ⟨gh, gt⟩ := l.setAllow_frame f allow
      exact registry_setLocal_of_same hl gh gt
    | registerEndpoint c e =>
      obtain ⟨l, hl, -, rfl⟩ := registerEndpoint_eq_some hb
      obtain ⟨gh, gt, -⟩ := l.writeEndpoint_frame e
      exact registry_setLocal_of_same hl gh gt
    | registerSidewinderEndpoint c r =>
      obtain ⟨l, hl, -, rfl⟩ := registerSidewinderEndpoint_eq_some hb
      obtain ⟨gh, gt, -⟩ := l.writeSidewinderEndpoint_frame r
      exact registry_setLocal_of_same hl gh gt
    | optin c =>
      -- an account that has not opted in and one with an empty record read the same
      obtain ⟨hn, rfl⟩ := optin_eq_some hb
      have hh : a.handleOf c.sender = none := by simp [handleOf, hn]
      have ht : a.handleTimeOf c.sender = none := by simp [handleTimeOf, hn]
      rw [registry, handleOf_setLocal, handleTimeOf_setLocal]
      have hh' := update_eq_self c.sender a.handleOf
      have ht' := update_eq_self c.sender a.handleTimeOf
      rw [hh] at hh'
      rw [ht] at ht'
      exact congrArg₂ (Lib.Register.mk _) hh' ht'
    | migrateGlobal c old =>
      simp only [call, migrateGlobal, bind_eq_bind, bind_eq_some_iff,
        guard_eq_some, some.injEq] at hb
      obtain ⟨-, -, rfl⟩ := hb
      cases ht : old.lastHandleTime <;> simp [entry, ht, Lib.Register.apply] <;> rfl
    | _ =>
      simp only [call, setBinglePrice, setPredecessorApp, setSuccessorApp, setAppAdmin,
        setAppWithdrawer, bind_eq_bind, bind_eq_some_iff, guard_eq_some,
        some.injEq] at hb
      obtain ⟨-, -, rfl⟩ := hb
      rfl

end App

/-! ## Runs -/

/-- A `migrate_global` does not wind `LastHandleTime` back, and a `migrate_local` that brings a
handle finds its HandleTime on the old app (or one left here by an empty registration). -/
def KeepsOrder (a : App) : Call → Prop
  | .migrateGlobal _ old => ∀ t ∈ old.lastHandleTime, a.lastHandleTime.getD 0 ≤ t
  | .migrateLocal c _ old =>
    old.handleOf c.sender ≠ none → a.handleOf c.sender = none →
      old.handleTimeOf c.sender ≠ none ∨ a.handleTimeOf c.sender ≠ none
  | _ => True

instance KeepsOrder.decidable (a : App) : ∀ k, Decidable (KeepsOrder a k)
  -- by the option, not by the 2 ^ 64 times there are
  | .migrateGlobal _ old => Option.decidableForallMem old.lastHandleTime
  | .migrateLocal _ _ _ => inferInstanceAs (Decidable (_ → _ → _ ∨ _))
  | .optin _ | .setBinglePrice _ _ | .setPredecessorApp _ _ _ | .setSuccessorApp _ _
  | .setAppAdmin _ _ | .setAppWithdrawer _ _ | .register _ _ | .enrolSwClient _ | .setAllow _ _ _ _
  | .registerEndpoint _ _ | .registerSidewinderEndpoint _ _ => isTrue trivial

lemma migrationEntry_cases (a : App) (x : Account) (o : Local) :
    migrationEntry a x o = .skip ∨
      a.handleOf x = none ∧
        (o.handleTime = none ∧ migrationEntry a x o = .bare x (o.handle.filter (· ≠ "")) ∨
          ∃ t, a.registry.last < t ∧
            migrationEntry a x o = .claim x (o.handle.filter (· ≠ "")) t) := by
  unfold migrationEntry
  cases hoh : o.handle with
  | none => exact Or.inl rfl
  | some oh =>
    dsimp only
    split_ifs with hx
    · exact Or.inl rfl
    have hfree : a.handleOf x = none := by simpa using hx
    cases hot : o.handleTime with
    | none => exact Or.inr ⟨hfree, Or.inl ⟨rfl, rfl⟩⟩
    | some ot =>
      dsimp only
      split
      case h_1 t ht => exact Or.inr ⟨hfree, Or.inr ⟨t, migrateTime_gt ht, rfl⟩⟩
      case h_2 => exact Or.inl rfl

lemma migrationEntry_orderly {a : App} {x : Account} {o : Local}
    (h : o.handle.filter (· ≠ "") ≠ none → a.handleOf x = none →
      o.handleTime ≠ none ∨ a.handleTimeOf x ≠ none) :
    a.registry.Orderly (migrationEntry a x o) := by
  rcases migrationEntry_cases a x o with he | ⟨hfree, ⟨hnt, he⟩ | ⟨t, ht, he⟩⟩ <;> rw [he]
  · trivial
  · by_cases hne : o.handle.filter (· ≠ "") = none
    · exact Or.inl hne
    · have hown := (h hne hfree).resolve_left (not_not_intro hnt)
      exact Or.inr (Or.inr (isSome_iff_ne_none.mpr hown))
  · exact ht

lemma KeepsOrder.orderly {a : App} {k : Call} (h : WhenAccepted KeepsOrder a k) :
    a.registry.Orderly (entryOf a k) := by
  unfold entryOf
  split_ifs with hc
  · specialize h hc
    cases k with
    | register c hd =>
      simp only [entry]
      split
      case h_1 t ht => exact registerTime_gt ht
      case h_2 => trivial
    | migrateGlobal c old =>
      simp only [entry]
      cases ht : old.lastHandleTime with
      | none => trivial
      | some t => exact h t ht
    | migrateLocal c id old =>
      simp only [entry]
      cases ho : old.locals c.sender with
      | none => trivial
      | some o =>
        refine migrationEntry_orderly fun hne hfree => ?_
        rw [← App.handleOf_eq ho] at hne
        rw [← App.handleTimeOf_eq ho]
        exact h hne hfree
    | _ => trivial
  · trivial

lemma create_ordered (c : Ctx) (admin withdrawer : Account) :
    (App.create c admin withdrawer).registry.Ordered :=
  ⟨fun _ h => absurd h (by simp [App.registry, App.handleOf, App.create]),
    fun _ _ _ h => absurd h (by simp [App.registry, App.handleTimeOf, App.create]),
    fun _ _ h => absurd h (by simp [App.registry, App.handleTimeOf, App.create])⟩

section Runs

variable {a : App} {ks : List Call}

lemma run_ordered (ho : a.registry.Ordered) (h : Lib.Along exec (WhenAccepted KeepsOrder) a ks) :
    (Lib.run exec a ks).registry.Ordered :=
  Lib.run_invariant (I := fun s => s.registry.Ordered)
    (fun s k hs hk => App.registry_exec s k ▸ hs.apply (KeepsOrder.orderly hk)) ho h

lemma last_le_run (h : Lib.Along exec (WhenAccepted KeepsOrder) a ks) :
    a.registry.last ≤ (Lib.run exec a ks).registry.last :=
  Lib.run_invariant (I := fun s => a.registry.last ≤ s.registry.last)
    (fun s k hs hk => hs.trans
      (App.registry_exec s k ▸ Lib.Register.last_le_apply (KeepsOrder.orderly hk))) le_rfl h

lemma run_kept (a : App) (ks : List Call) {x : Account} (hx : (a.handleOf x).isSome) :
    (Lib.run exec a ks).handleOf x = a.handleOf x ∧
      (Lib.run exec a ks).handleTimeOf x = a.handleTimeOf x := by
  induction ks generalizing a with
  | nil => exact ⟨rfl, rfl⟩
  | cons k ks ih =>
    have hk := Lib.Register.apply_kept a.registry (entryOf a k) (x := x) hx
    rw [← App.registry_exec] at hk
    have hv : (exec a k).handleOf x = a.handleOf x := hk.1
    have ht : (exec a k).handleTimeOf x = a.handleTimeOf x := hk.2
    rw [← hv, ← ht]
    exact ih (exec a k) (hv ▸ hx)

end Runs

/-- **HandleTime is the registration order.**  After any run from a fresh app whose calls keep the
order: every non-empty handle has a time and no two accounts share one; a time assigned exceeds all
held before; and whoever has a non-empty handle keeps it, with its time. -/
theorem handleTime_is_registration_order (c : Ctx) (admin withdrawer : Account) (ks : List Call)
    (h : Lib.Along exec (WhenAccepted KeepsOrder) (App.create c admin withdrawer) ks) :
    (∀ x, ((deployed c admin withdrawer ks).handleOf x).isSome →
      ((deployed c admin withdrawer ks).handleTimeOf x).isSome) ∧
    (∀ x y t, (deployed c admin withdrawer ks).handleTimeOf x = some t →
      (deployed c admin withdrawer ks).handleTimeOf y = some t → x = y) ∧
    (∀ before k, before ++ [k] <+: ks → ∀ x t,
      (deployed c admin withdrawer (before ++ [k])).handleTimeOf x = some t →
      (deployed c admin withdrawer before).handleTimeOf x ≠ some t →
      ∀ earlier, earlier <+: before → ∀ y s,
        (deployed c admin withdrawer earlier).handleTimeOf y = some s → s < t) ∧
    (∀ before, before <+: ks → ∀ x,
      ((deployed c admin withdrawer before).handleOf x).isSome →
      (deployed c admin withdrawer ks).handleOf x =
          (deployed c admin withdrawer before).handleOf x ∧
        (deployed c admin withdrawer ks).handleTimeOf x =
          (deployed c admin withdrawer before).handleTimeOf x) := by
  unfold deployed
  have hfresh := create_ordered c admin withdrawer
  have hord := run_ordered hfresh h
  refine ⟨hord.stamped, hord.injective, ?_, ?_⟩
  · rintro before k ⟨after, rfl⟩ x t ht hnew earlier ⟨mid, rfl⟩ y s hs
    rw [Lib.along_append, Lib.along_append, Lib.along_append] at h
    obtain ⟨⟨⟨hearlier, hmid⟩, hk, -⟩, -⟩ := h
    -- `s` is within the counter of its own state, which has only grown, and `t` is past it
    have hs_le := (run_ordered hfresh hearlier).bounded y s hs
    have hlast := last_le_run hmid
    rw [Lib.run_append] at ht
    have hlt := Lib.Register.last_lt_of_new_stamp (KeepsOrder.orderly hk)
      (App.registry_exec _ k ▸ ht) hnew
    rw [Lib.run_append] at hlt
    exact (hs_le.trans hlast).trans_lt hlt
  · rintro before ⟨after, rfl⟩ x hx
    rw [Lib.run_append]
    exact run_kept _ after hx

def registering (x : Account) (t : U64) : Ctx :=
  { sender := x, appAddress := "APP", assets := [1], latestTimestamp := t
    group := [{ sender := x, receiver := "", amount := 0, xferAsset := 1, assetReceiver := "APP",
                assetAmount := 1 }] }

def sameBlock : List Call :=
  [.migrateGlobal { sender := "CREATOR" } { creator := "CREATOR", lastHandleTime := some 9 },
    .optin { sender := "X" }, .register (registering "X" 10) "x",
    .optin { sender := "Y" }, .register (registering "Y" 10) "y"]

theorem same_block_registrations_distinct :
    (deployed { sender := "CREATOR" } "ADMIN" "WITHDRAWER" sameBlock).handleTimeOf "X" = some 10 ∧
      (deployed { sender := "CREATOR" } "ADMIN" "WITHDRAWER" sameBlock).handleTimeOf "Y" = some 11 ∧
      ∀ x y t,
        (deployed { sender := "CREATOR" } "ADMIN" "WITHDRAWER" sameBlock).handleTimeOf x = some t →
        (deployed { sender := "CREATOR" } "ADMIN" "WITHDRAWER" sameBlock).handleTimeOf y = some t →
        x = y :=
  ⟨by decide, by decide, (handleTime_is_registration_order { sender := "CREATOR" } "ADMIN"
    "WITHDRAWER" sameBlock (by decide)).2.1⟩

/-- `X` has registered at 10, `migrate_global` winds the counter back to 9, and `Y` registers in the
same block with the same HandleTime. -/
theorem handleTime_shared :
    ¬ ∀ x y t,
      (deployed { sender := "CREATOR" } "ADMIN" "WITHDRAWER"
        [.optin { sender := "X" }, .register (registering "X" 10) "x",
          .migrateGlobal { sender := "CREATOR" } { creator := "CREATOR", lastHandleTime := some 9 },
          .optin { sender := "Y" }, .register (registering "Y" 10) "y"]).handleTimeOf x = some t →
      (deployed { sender := "CREATOR" } "ADMIN" "WITHDRAWER"
        [.optin { sender := "X" }, .register (registering "X" 10) "x",
          .migrateGlobal { sender := "CREATOR" } { creator := "CREATOR", lastHandleTime := some 9 },
          .optin { sender := "Y" }, .register (registering "Y" 10) "y"]).handleTimeOf y = some t →
      x = y := by
  intro h
  exact absurd (h "X" "Y" 10 (by decide) (by decide)) (by decide)

end Bingle.Dapp
