import Bingle.Dapp.Contract

/-!
# Whether a revoked permission stays revoked

An admin clears a permission of an account; afterwards anybody calls anything.  The permission can
come back by two doors only, and `KeepsCleared` says of one call that it goes through neither.
-/

namespace Bingle.Dapp

namespace App

def revoked (a : App) (x : Account) : Bool :=
  ((a.packedAllowBits x).map (granted · BIT_SW_CLIENT_REVOKED)).getD false

lemma revoked_eq {a : App} {x : Account} {l : Local} (h : a.locals x = some l) :
    a.revoked x = l.packed.getLsbD 4 := by
  simp [revoked, packedAllowBits, h, granted_revoked]

lemma effective_setLocal_self (a : App) (x : Account) (l : Local) (f : Flag) :
    (a.setLocal x l).effective x f = l.packed.getLsbD f.bit :=
  effective_eq (setLocal_self a x l) f

lemma effective_congr {a b : App} {x : Account} (h : b.locals x = a.locals x) (f : Flag) :
    b.effective x f = a.effective x f := by
  simp [effective, packedAllowBits, h]

end App

/-! ## The condition on one call -/

/-- The copied allow state has it cleared, and for the client permission of an account with a handle
it records the revoke. -/
def CopyKeeps (f : Flag) (l o : Local) : Prop :=
  granted (l.copyAllow o).packed f.mask = false ∧
    (f = .swClient → l.hasHandle ∨ o.hasHandle →
      granted (l.copyAllow o).packed BIT_SW_CLIENT_REVOKED = true)

instance (f : Flag) (l o : Local) : Decidable (CopyKeeps f l o) :=
  inferInstanceAs (Decidable (_ ∧ _))

/-- A call that goes through does not bring permission `f` of `x` back: a `set_allow_*` clears, a
self-grant finds the revoke on record, a `migrate_local` copies a cleared permission. -/
def KeepsCleared (x : Account) (f : Flag) (a : App) : Call → Prop
  | .setAllow g _ target allow => target = x → g = f → allow = 0
  | .register c _ => c.sender = x → f = .swClient → a.revoked x = true
  | .enrolSwClient c => c.sender = x → f = .swClient → a.revoked x = true
  | .migrateLocal c _ old =>
    c.sender = x → ∀ l ∈ a.locals x, ∀ o ∈ old.locals x, CopyKeeps f l o
  | _ => True

instance KeepsCleared.decidable (x : Account) (f : Flag) (a : App) :
    ∀ k, Decidable (KeepsCleared x f a k)
  | .setAllow _ _ _ _ => inferInstanceAs (Decidable (_ → _ → _))
  | .register _ _ => inferInstanceAs (Decidable (_ → _ → _))
  | .enrolSwClient _ => inferInstanceAs (Decidable (_ → _ → _))
  | .migrateLocal _ _ _ => inferInstanceAs (Decidable (_ → ∀ _ ∈ _, ∀ _ ∈ _, CopyKeeps _ _ _))
  | .optin _ | .setBinglePrice _ _ | .setPredecessorApp _ _ _ | .setSuccessorApp _ _
  | .setAppAdmin _ _ | .setAppWithdrawer _ _ | .migrateGlobal _ _ | .registerEndpoint _ _
  | .registerSidewinderEndpoint _ _ => isTrue trivial

/-! ## One call -/

section Step

variable {x : Account} {f : Flag} {a b : App}

variable {l l' : Local} {y : Account} {c : Ctx}

lemma grant_keeps_iff (hl : a.locals x = some l) (h0 : a.effective x f = false) :
    l.grantSwClient.packed.getLsbD f.bit = false ↔ (f = .swClient → a.revoked x = true) := by
  rw [App.effective_eq hl] at h0
  rw [App.revoked_eq hl, Local.getLsbD_packed_grantSwClient, h0]
  cases f <;> simp [Flag.bit]

lemma cleared_setLocal_iff {a' : App} {P : Prop}
    (hlocals : a'.locals = a.locals) (h0 : a.effective x f = false)
    (hself : y = x → (l'.packed.getLsbD f.bit = false ↔ P)) :
    (a'.setLocal y l').effective x f = false ↔ (y = x → P) := by
  by_cases hx : y = x
  · subst hx
    rw [App.effective_setLocal_self, hself rfl]
    simp
  · have hother : (a'.setLocal y l').locals x = a.locals x := by
      rw [App.setLocal_of_ne _ _ (Ne.symm hx), hlocals]
    rw [App.effective_congr hother]
    exact ⟨fun _ h => absurd h hx, fun _ => h0⟩

lemma effective_register {h : String} (hb : a.register c h = some b)
    (h0 : a.effective x f = false) :
    b.effective x f = false ↔ (c.sender = x → f = .swClient → a.revoked x = true) := by
  obtain ⟨l, t, hl, -, rfl⟩ := App.register_eq_some hb
  refine cleared_setLocal_iff rfl h0 fun hx => ?_
  subst hx
  have hp : (l.registered h t).packed = l.packed := by
    unfold Local.registered; split_ifs <;> rfl
  have hg : (l.registered h t).grantSwClient.packed.getLsbD f.bit =
      l.grantSwClient.packed.getLsbD f.bit := by
    rw [Local.getLsbD_packed_grantSwClient, Local.getLsbD_packed_grantSwClient, hp]
  rw [hg, grant_keeps_iff hl h0]

lemma effective_enrolSwClient (hb : a.enrolSwClient c = some b) (h0 : a.effective x f = false) :
    b.effective x f = false ↔ (c.sender = x → f = .swClient → a.revoked x = true) := by
  obtain ⟨l, hl, -, rfl⟩ := App.enrolSwClient_eq_some hb
  refine cleared_setLocal_iff rfl h0 fun hx => ?_
  subst hx
  exact grant_keeps_iff hl h0

lemma effective_setAllow {g : Flag} {target : Account} {allow : ℕ}
    (hb : a.setAllow g c target allow = some b) (h0 : a.effective x f = false) :
    b.effective x f = false ↔ (target = x → g = f → allow = 0) := by
  obtain ⟨-, l, hl, rfl⟩ := App.setAllow_eq_some.mp hb
  refine cleared_setLocal_iff rfl h0 fun hx => ?_
  subst hx
  rw [App.effective_eq hl] at h0
  rw [Local.getLsbD_packed_setAllow, h0]
  cases g <;> cases f <;> simp [Flag.bit]

lemma effective_migrateLocal {id : AppId} {old : App}
    (hb : a.migrateLocal c id old = some b) (h0 : a.effective x f = false) :
    b.effective x f = false ↔
      (c.sender = x → ∀ l ∈ a.locals x, ∀ o ∈ old.locals x, CopyKeeps f l o) := by
  obtain ⟨o, l, l', t, ho, hl, hm, rfl⟩ := App.migrateLocal_eq_some hb
  refine cleared_setLocal_iff rfl h0 fun hx => ?_
  subst hx
  rw [Local.getLsbD_packed_migrated, Local.migrateHandle_copyAllow hm]
  simp only [ho, hl, Option.mem_def, Option.some.injEq, forall_eq', CopyKeeps, granted_mask,
    granted_revoked, ← Local.migrateHandle_hasHandle hm]
  by_cases hh : l'.hasHandle <;> cases f <;> simp [Flag.bit, hh]

lemma effective_of_packed_eq (hl : a.locals y = some l)
    (hp : l'.packed = l.packed) : (a.setLocal y l').effective x f = a.effective x f := by
  by_cases hx : y = x
  · subst hx
    rw [App.effective_setLocal_self, hp, App.effective_eq hl]
  · exact App.effective_congr (App.setLocal_of_ne _ _ (Ne.symm hx)) f

lemma effective_optin (hb : a.optin c = some b) : b.effective x f = a.effective x f := by
  obtain ⟨hn, rfl⟩ := App.optin_eq_some hb
  by_cases hx : c.sender = x
  · subst hx
    rw [App.effective_setLocal_self]
    have hnone : a.effective c.sender f = false := by
      simp [App.effective, App.packedAllowBits, hn]
    rw [hnone]
    cases f <;> decide
  · exact App.effective_congr (App.setLocal_of_ne _ _ (Ne.symm hx)) f

lemma exec_keeps_cleared_iff (a : App) (k : Call) (h0 : a.effective x f = false) :
    (exec a k).effective x f = false ↔ WhenAccepted (KeepsCleared x f) a k := by
  refine exec_iff_whenAccepted (P := fun s => s.effective x f = false) h0 fun b hb => ?_
  cases k with
  | register c h => exact effective_register hb h0
  | enrolSwClient c => exact effective_enrolSwClient hb h0
  | setAllow g c target allow => exact effective_setAllow hb h0
  | migrateLocal c id old => exact effective_migrateLocal hb h0
  | optin c => simp [effective_optin hb, h0, KeepsCleared]
  | registerEndpoint c e =>
    obtain ⟨l, hl, -, rfl⟩ := App.registerEndpoint_eq_some hb
    simp [effective_of_packed_eq hl (l.writeEndpoint_frame e).2.2.1, h0, KeepsCleared]
  | registerSidewinderEndpoint c r =>
    obtain ⟨l, hl, -, rfl⟩ := App.registerSidewinderEndpoint_eq_some hb
    simp [effective_of_packed_eq hl (l.writeSidewinderEndpoint_frame r).2.2.1, h0,
      KeepsCleared]
  -- the remaining methods write global state only
  | _ =>
    have hsame : b.locals = a.locals := App.locals_of_isGlobal hb rfl
    simp [App.effective_congr (congrFun hsame x), h0, KeepsCleared]

end Step

/-! ## Runs -/

def Call.ByUser (admin : Option Account) : Call → Prop
  | .register c _ => admin ≠ some c.sender
  | .enrolSwClient c => admin ≠ some c.sender
  | .migrateLocal c _ _ => admin ≠ some c.sender
  | .registerEndpoint c _ => admin ≠ some c.sender
  | .registerSidewinderEndpoint c _ => admin ≠ some c.sender
  | _ => False

/-- **Revocation.**  A permission of `x` that an admin clears is cleared in every state of a run
exactly when every call that goes through meets `KeepsCleared` in the state it finds. -/
theorem stays_cleared_iff {a₀ a : App} {c : Ctx} {x : Account} {f : Flag}
    (h : a₀.setAllow f c x 0 = some a) (ks : List Call) :
    Lib.Always exec (fun s => s.effective x f = false) a ks ↔
      Lib.Along exec (WhenAccepted (KeepsCleared x f)) a ks := by
  refine Lib.always_iff_along (fun s k hs => exec_keeps_cleared_iff s k hs) ?_
  obtain ⟨-, l, hl, rfl⟩ := App.setAllow_eq_some.mp h
  rw [App.effective_setLocal_self, Local.getLsbD_packed_setAllow]
  cases f <;> simp [Flag.bit]

def grantingAncestor : App :=
  { creator := "CREATOR"
    locals := fun x =>
      if x = "X" then
        some { handle := some "x", handleTime := some 5, configBitfield := some 1#64 }
      else none }

def successor : App :=
  deployed { sender := "CREATOR" } "ADMIN" "WITHDRAWER"
    [.optin { sender := "X" }, .setPredecessorApp { sender := "CREATOR" } 7 grantingAncestor]

theorem relay_stays_cleared :
    Lib.Always exec (fun s => s.effective "X" .relay = false)
      (exec successor (.setAllow .relay { sender := "ADMIN" } "X" 0))
      [.migrateLocal { sender := "X" } 7 grantingAncestor, .enrolSwClient { sender := "X" }] := by
  have hset : successor.setAllow .relay { sender := "ADMIN" } "X" 0 =
      some (exec successor (.setAllow .relay { sender := "ADMIN" } "X" 0)) :=
    call_eq_some_exec (k := .setAllow .relay { sender := "ADMIN" } "X" 0) (by decide)
  exact (stays_cleared_iff hset _).mpr (by decide)

/-- The admin revokes the client permission, `X` migrates, and the ancestor's word is in place of
the admin's, the record of the revocation included. -/
theorem revocation_undone :
    ¬ ∀ (a₀ a : App) (c : Ctx) (x : Account) (f : Flag) (ks : List Call),
      a₀.setAllow f c x 0 = some a → (∀ k ∈ ks, k.ByUser a.appAdmin) →
        Lib.Always exec (fun s => s.effective x f = false) a ks := by
  intro h
  have hset : successor.setAllow .swClient { sender := "ADMIN" } "X" 0 =
      some (exec successor (.setAllow .swClient { sender := "ADMIN" } "X" 0)) :=
    call_eq_some_exec (k := .setAllow .swClient { sender := "ADMIN" } "X" 0) (by decide)
  have hs := h successor _ { sender := "ADMIN" } "X" .swClient
    [.migrateLocal { sender := "X" } 7 grantingAncestor] hset
    (by simp only [List.mem_singleton, forall_eq, Call.ByUser]; decide)
  have hback : (exec (exec successor (.setAllow .swClient { sender := "ADMIN" } "X" 0))
      (.migrateLocal { sender := "X" } 7 grantingAncestor)).effective "X" .swClient = false := hs.2
  exact absurd hback (by decide)

end Bingle.Dapp
