import Bingle.Dapp.Superseded

/-!
# Whether an endpoint implies its permission

The methods that register an endpoint ask for the permission, and those that take it away delete the
endpoint with it.  `migrate_local` does neither: it copies the ancestor's allow state over this
app's.
-/

namespace Bingle.Dapp

/-! ## Records -/

namespace Local

def Permitted (l : Local) : Prop :=
  (l.staticEndpoint.isSome ∨ l.staticEndpointX.isSome → granted l.packed BIT_STATIC = true) ∧
    (l.sidewinderEndpoint.isSome → granted l.packed BIT_SW_NODE = true)

instance (l : Local) : Decidable l.Permitted := inferInstanceAs (Decidable (_ ∧ _))

/-- What `migrate_local` must find: where the copied allow state has no permission, the record has
no endpoint. -/
def CopyPermits (l o : Local) : Prop :=
  (l.staticEndpoint.isSome ∨ l.staticEndpointX.isSome →
      granted (l.copyAllow o).packed BIT_STATIC = true) ∧
    (l.sidewinderEndpoint.isSome → granted (l.copyAllow o).packed BIT_SW_NODE = true)

lemma granted_static (p : Word) : granted p BIT_STATIC = p.getLsbD 0 := granted_mask p .static

lemma granted_swNode (p : Word) : granted p BIT_SW_NODE = p.getLsbD 2 := granted_mask p .swNode

variable {l : Local}

lemma Permitted.mono {l' : Local} (h : l.Permitted)
    (hstatic : l'.packed.getLsbD 0 = l.packed.getLsbD 0)
    (hnode : l'.packed.getLsbD 2 = l.packed.getLsbD 2)
    (hs : l'.staticEndpoint = l.staticEndpoint) (hx : l'.staticEndpointX = l.staticEndpointX)
    (hw : l'.sidewinderEndpoint = l.sidewinderEndpoint) : l'.Permitted := by
  unfold Permitted at h ⊢
  rwa [granted_static, granted_swNode, hs, hx, hw, hstatic, hnode, ← granted_static,
    ← granted_swNode]

lemma Permitted.grantSwClient (h : l.Permitted) : l.grantSwClient.Permitted := by
  refine h.mono ?_ ?_ ?_ ?_ ?_
  · rw [getLsbD_packed_grantSwClient]
    simp
  · rw [getLsbD_packed_grantSwClient]
    simp
  all_goals unfold Local.grantSwClient; split_ifs <;> rfl

lemma Permitted.setAllow (h : l.Permitted) (f : Flag) (allow : ℕ) :
    (l.setAllow f allow).Permitted := by
  have hbit := l.getLsbD_packed_setAllow f allow
  unfold Permitted at h ⊢
  rw [granted_static, granted_swNode] at h ⊢
  rw [hbit, hbit]
  by_cases h0 : allow = 0 <;> cases f <;>
    simp [Local.setAllow, Local.writeAllow, Flag.bit, h0] at h ⊢ <;> tauto

lemma Permitted.writeEndpoint (h : l.Permitted) (e : Bytes)
    (hstatic : granted l.packed BIT_STATIC = true) : (l.writeEndpoint e).Permitted := by
  obtain ⟨-, -, hp, hw⟩ := l.writeEndpoint_frame e
  unfold Permitted
  rw [hp, hw]
  exact ⟨fun _ => hstatic, h.2⟩

lemma Permitted.writeSidewinderEndpoint (h : l.Permitted) (e : Bytes)
    (hnode : granted l.packed BIT_SW_NODE = true) : (l.writeSidewinderEndpoint e).Permitted := by
  obtain ⟨-, -, hp, hs, hx⟩ := l.writeSidewinderEndpoint_frame e
  unfold Permitted
  rw [hp, hs, hx]
  exact ⟨h.1, fun _ => hnode⟩

lemma migrated_endpoints (l o : Local) :
    ((l.migrated o).staticEndpoint, (l.migrated o).staticEndpointX,
        (l.migrated o).sidewinderEndpoint) =
      (if granted (l.copyAllow o).packed BIT_STATIC then o.staticEndpoint <|> l.staticEndpoint
        else l.staticEndpoint,
       if granted (l.copyAllow o).packed BIT_STATIC then o.staticEndpointX <|> l.staticEndpointX
        else l.staticEndpointX,
       if granted (l.copyAllow o).packed BIT_SW_NODE then
          o.sidewinderEndpoint <|> l.sidewinderEndpoint
        else l.sidewinderEndpoint) := by
  have hgrant : ∀ l : Local, (l.grantSwClient.staticEndpoint, l.grantSwClient.staticEndpointX,
      l.grantSwClient.sidewinderEndpoint) =
      (l.staticEndpoint, l.staticEndpointX, l.sidewinderEndpoint) := by
    intro l
    unfold Local.grantSwClient
    split_ifs <;> rfl
  have hpacked : ((l.copyAllow o).copyStaticEndpoint o).packed = (l.copyAllow o).packed := by
    unfold copyStaticEndpoint
    split_ifs <;> rfl
  unfold migrated
  dsimp only
  split_ifs <;> simp_all [copySidewinderEndpoint, copyStaticEndpoint, copyAllow]

lemma permitted_migrated_iff (l o : Local) : (l.migrated o).Permitted ↔ l.CopyPermits o := by
  have hbit : ∀ j, j = 0 ∨ j = 2 →
      (l.migrated o).packed.getLsbD j = (l.copyAllow o).packed.getLsbD j := by
    rintro j (rfl | rfl) <;> rw [getLsbD_packed_migrated] <;> simp
  obtain ⟨hs, hrest⟩ := Prod.mk.inj (l.migrated_endpoints o)
  obtain ⟨hx, hw⟩ := Prod.mk.inj hrest
  unfold Permitted CopyPermits
  rw [hs, hx, hw]
  simp only [granted_static, granted_swNode, hbit 0 (Or.inl rfl), hbit 2 (Or.inr rfl)]
  cases (l.copyAllow o).packed.getLsbD 0 <;> cases (l.copyAllow o).packed.getLsbD 2 <;> simp

end Local

/-! ## Runs -/

/-- Whoever has an endpoint on chain is permitted to have one. -/
def App.EndpointsPermitted (a : App) : Prop :=
  ∀ x l, a.locals x = some l →
    (l.staticEndpoint.isSome ∨ l.staticEndpointX.isSome → a.effective x .static = true) ∧
      (l.sidewinderEndpoint.isSome → a.effective x .swNode = true)

def KeepsPermitted (a : App) : Call → Prop
  | .migrateLocal c _ old =>
    ∀ l ∈ a.locals c.sender, ∀ o ∈ old.locals c.sender, l.CopyPermits o
  | _ => True

lemma App.endpointsPermitted_iff (a : App) :
    a.EndpointsPermitted ↔ ∀ x l, a.locals x = some l → l.Permitted := by
  refine forall₂_congr fun x l => forall_congr' fun hl => ?_
  rw [App.effective_eq hl, App.effective_eq hl, Local.Permitted, Local.granted_static,
    Local.granted_swNode]
  rfl

section Step

variable {a a' : App} {y : Account} {l' : Local}

lemma endpointsPermitted_setLocal_iff (h : a.EndpointsPermitted) (hlocals : a'.locals = a.locals) :
    (a'.setLocal y l').EndpointsPermitted ↔ l'.Permitted := by
  rw [App.endpointsPermitted_iff] at h ⊢
  constructor
  · intro hall
    exact hall y l' (App.setLocal_self a' y l')
  · intro hl' x l hl
    by_cases hx : x = y
    · subst hx
      rw [App.setLocal_self] at hl
      exact Option.some.inj hl ▸ hl'
    · rw [App.setLocal_of_ne _ _ hx, hlocals] at hl
      exact h x l hl

lemma exec_endpointsPermitted_iff (a : App) (k : Call) (h : a.EndpointsPermitted) :
    (exec a k).EndpointsPermitted ↔ WhenAccepted KeepsPermitted a k := by
  have hp := (App.endpointsPermitted_iff a).mp h
  refine exec_iff_whenAccepted h fun b hb => ?_
  cases k with
  | migrateLocal c id old =>
    obtain ⟨o, l, l', t, ho, hl, hm, rfl⟩ := App.migrateLocal_eq_some hb
    have hsame : l'.CopyPermits o ↔ l.CopyPermits o := by
      rw [← Local.migrateHandle_frame hm]
      rfl
    refine (endpointsPermitted_setLocal_iff h rfl).trans ?_
    rw [Local.permitted_migrated_iff, hsame]
    simp [KeepsPermitted, ho, hl]
  | register c hd =>
    obtain ⟨l, t, hl, -, rfl⟩ := App.register_eq_some hb
    refine iff_of_true ((endpointsPermitted_setLocal_iff h rfl).mpr ?_) trivial
    have hreg : (l.registered hd t).Permitted := by
      refine (hp _ l hl).mono ?_ ?_ ?_ ?_ ?_ <;> unfold Local.registered <;> split_ifs <;> rfl
    exact hreg.grantSwClient
  | enrolSwClient c =>
    obtain ⟨l, hl, -, rfl⟩ := App.enrolSwClient_eq_some hb
    exact iff_of_true ((endpointsPermitted_setLocal_iff h rfl).mpr
      (hp _ l hl).grantSwClient) trivial
  | setAllow f c target allow =>
    obtain ⟨-, l, hl, rfl⟩ := App.setAllow_eq_some.mp hb
    exact iff_of_true ((endpointsPermitted_setLocal_iff h rfl).mpr
      ((hp _ l hl).setAllow f allow)) trivial
  | registerEndpoint c e =>
    obtain ⟨l, hl, hstatic, rfl⟩ := App.registerEndpoint_eq_some hb
    exact iff_of_true ((endpointsPermitted_setLocal_iff h rfl).mpr
      ((hp _ l hl).writeEndpoint e hstatic)) trivial
  | registerSidewinderEndpoint c e =>
    obtain ⟨l, hl, hnode, rfl⟩ := App.registerSidewinderEndpoint_eq_some hb
    exact iff_of_true ((endpointsPermitted_setLocal_iff h rfl).mpr
      ((hp _ l hl).writeSidewinderEndpoint e hnode)) trivial
  | optin c =>
    obtain ⟨-, rfl⟩ := App.optin_eq_some hb
    exact iff_of_true ((endpointsPermitted_setLocal_iff h rfl).mpr (by decide)) trivial
  -- the remaining methods write global state only
  | _ =>
    have hsame : b.locals = a.locals := App.locals_of_isGlobal hb rfl
    refine iff_of_true ((App.endpointsPermitted_iff b).mpr ?_) trivial
    rwa [hsame]

/-- The same of every call of the app: clearing an account's state takes its endpoints along. -/
def Invocation.KeepsPermitted (a : App) : Invocation → Prop
  | .method k => WhenAccepted Dapp.KeepsPermitted a k
  | _ => True

lemma invoke_endpointsPermitted_iff (a : App) (v : Invocation) (h : a.EndpointsPermitted) :
    (invoke a v).EndpointsPermitted ↔ v.KeepsPermitted a := by
  cases v with
  | method k =>
    rw [invoke_method]
    exact exec_endpointsPermitted_iff a k h
  | clearState c =>
    refine iff_of_true ((App.endpointsPermitted_iff _).mpr fun x l hl => ?_) trivial
    have hl : Function.update a.locals c.sender none x = some l := hl
    by_cases hx : x = c.sender
    · simp [hx] at hl
    · exact (App.endpointsPermitted_iff a).mp h x l (by rwa [Function.update_of_ne hx] at hl)
  | _ => exact iff_of_true (by rwa [invoke_eq_self rfl]) trivial

end Step

/-- **Endpoints and permissions.**  In every state of a run from a fresh app every endpoint implies
its permission, exactly when no migration takes a permission away from under an endpoint. -/
theorem endpoints_permitted_iff (c : Ctx) (admin withdrawer : Account) (vs : List Invocation) :
    Lib.Always invoke App.EndpointsPermitted (App.create c admin withdrawer) vs ↔
      Lib.Along invoke (fun a v => v.KeepsPermitted a) (App.create c admin withdrawer) vs :=
  Lib.always_iff_along (fun s v hs => invoke_endpointsPermitted_iff s v hs)
    fun _ _ h => absurd h (by simp [App.create])

def refusingAncestor : App :=
  { creator := "CREATOR"
    locals := fun x => if x = "X" then some { configBitfield := some 0#64 } else none }

/-- The admin permits `X` a static endpoint, `X` registers one, and then migrates: the permission is
gone and the endpoint is still there. -/
theorem endpoint_without_permission :
    ¬ ∀ (c : Ctx) (admin withdrawer : Account) (vs : List Invocation),
      Lib.Always invoke App.EndpointsPermitted (App.create c admin withdrawer) vs := by
  intro h
  have hrun := (Lib.always_iff_prefix ..).mp (h { sender := "CREATOR" } "ADMIN" "WITHDRAWER"
    [.method (.setPredecessorApp { sender := "CREATOR" } 7 refusingAncestor),
      .method (.optin { sender := "X" }), .method (.setAllow .static { sender := "ADMIN" } "X" 1),
      .method (.registerEndpoint { sender := "X" } [1]),
      .method (.migrateLocal { sender := "X" } 7 refusingAncestor)]) _ List.prefix_rfl
  have hpermitted := (hrun "X"
    { configBitfield := some 0#64, staticEndpoint := some [1] } (by decide)).1 (by decide)
  exact absurd hpermitted (by decide)

end Bingle.Dapp
