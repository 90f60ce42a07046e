import Bingle.Engine.Lifecycle

/-!
# The state and what the application was told

The engine tells the application whether the node listens, `notify_listening`, and has a state.
`on_stun_none` clears the flags before it says that the node no longer listens; `on_stun_blocked`
and a change of address do not.
-/

namespace Bingle

namespace Engine

open Lib.Code

/-! ## State and listening -/

/-- If the application was last told that the node does not listen, it is not registered. -/
def Agrees (e : Engine) : Prop := e.lastNotified = some false → e.state ≠ .registered

instance (e : Engine) : Decidable e.Agrees :=
  inferInstanceAs (Decidable (e.lastNotified = some false → e.state ≠ .registered))

/-- Saying that the node does not listen finds it unregistered, and marking it registered finds that
it has not just said so. -/
def Write.Fits (e : Engine) : Write → Prop
  | .notifyListening false => e.state ≠ .registered
  | .registered true => e.lastNotified ≠ some false
  | _ => True

lemma agrees_of_same {e e' : Engine} (h : e.Agrees) (hreg : e'.registered = e.registered)
    (hsaid : e'.lastNotified = e.lastNotified) : e'.Agrees := by
  rw [Agrees, ne_eq, state_eq_registered_iff, hreg, hsaid, ← state_eq_registered_iff]
  exact h

lemma agrees_apply_iff {e : Engine} (h : e.Agrees) (w : Write) : (e.apply w).Agrees ↔ w.Fits e := by
  cases w with
  | notifyListening listening =>
    cases listening with
    | true => simp [Agrees, apply, Write.Fits]
    | false => simp [Agrees, apply, Write.Fits, state_eq_registered_iff]
  | registered b =>
    cases b with
    | true => simp [Agrees, apply, Write.Fits, state_eq_registered_iff]
    | false => simp [Agrees, apply, Write.Fits, state_eq_registered_iff]
  | _ => exact iff_of_true (agrees_of_same h rfl rfl) trivial

lemma agrees_iff (e : Engine) : e.Agrees ↔ e.registered = false ∨ e.lastNotified ≠ some false := by
  rw [Agrees, ne_eq, state_eq_registered_iff]
  cases e.registered <;> simp

/-! ## One handler at a time -/

section Alone

variable {e : Engine} (appId : Bool)

lemma wp_getState {Q : Engine → EngineState → Prop} (h : ∀ r, Q e r) : getState.wp apply Q e := by
  simp only [getState, wp_bind, wp_look]
  intro i
  split
  · exact h _
  · simp only [wp_bind, wp_look]
    intro i
    split
    · exact h _
    · simp only [wp_bind, wp_look]
      intro i
      split
      · exact h _
      · exact fun _ => h _

variable {Q : Engine → Bool → Prop}

lemma wp_sendRelayListen (h : ∀ b, Q e b) (attempts : ℕ) :
    (sendRelayListen attempts).wp apply Q e := by
  induction attempts with
  | zero => exact h false
  | succ attempts ih =>
    simp only [sendRelayListen, wp_bind, wp_look]
    intro i
    cases i.listen with
    | listenResponse => exact h true
    | unexpected => exact h false
    | failed => exact ih

lemma wp_registerWithRelay (hfail : Q e false)
    (hdone : ∀ e' : Engine, e'.lastNotified = some true → Q e' true) (o : Option RelayInfo) :
    (registerWithRelay appId o).wp apply Q e := by
  have hregister (info : RelayInfo) : (registerWithRelay appId (some info)).wp apply Q e := by
    rw [registerWithRelay, wp_bind, wp_pure, wp_bind]
    refine wp_sendRelayListen (fun b => ?_) 3
    cases b with
    | false => exact hfail
    | true =>
      simp only [Bool.not_true, Bool.false_eq_true, if_false, wp_bind, wp_look, setStateInternal]
      intro i
      cases i.ddbRegistered with
      | false => exact hfail
      | true => simpa using hdone _ rfl
  cases o with
  | some info => exact hregister info
  | none =>
    simp only [registerWithRelay, findRelay, wp_bind, wp_look]
    intro i
    split
    · exact hfail
    · exact hregister _

lemma wp_reregisterOrSwitch (hfail : Q e false)
    (hdone : ∀ e' : Engine, e'.lastNotified = some true → Q e' true) (relay : RelayInfo) :
    (reregisterOrSwitch appId relay).wp apply Q e := by
  rw [reregisterOrSwitch, wp_bind]
  refine wp_registerWithRelay appId ?_ ?_ _
  · exact wp_registerWithRelay appId hfail hdone none
  · exact fun e' h => hdone e' h

lemma agrees_of_notified (h : e.lastNotified = some true) : e.Agrees := by
  intro hfalse
  rw [h] at hfalse
  cases hfalse

lemma wp_registration {c : Run Bool} (h : e.Agrees) (hc : ∀ Q : Engine → Bool → Prop, Q e false →
      (∀ e' : Engine, e'.lastNotified = some true → Q e' true) → c.wp apply Q e) :
    (do let _ ← c : Run Unit).wp apply (fun e' _ => e'.Agrees) e := by
  rw [wp_bind]
  exact hc _ h fun e' h' => agrees_of_notified h'

lemma wp_refreshRelayRegistration (h : e.Agrees) :
    (refreshRelayRegistration appId).wp apply (fun e' _ => e'.Agrees) e := by
  rw [refreshRelayRegistration, wp_bind]
  refine wp_getState fun r => ?_
  split
  · simp only [wp_bind, wp_look]
    intro i
    split
    · simp only [wp_bind, wp_update]
      intro i
      split
      · exact h
      · refine wp_registration (agrees_of_same h rfl rfl) fun Q hfail hdone => ?_
        exact wp_reregisterOrSwitch appId hfail hdone _
    · exact h
  · exact h

lemma wp_onOutboundSessionEstablished (h : e.Agrees) (endpoint : Stun.SocketAddr) :
    (onOutboundSessionEstablished appId endpoint).wp apply (fun e' _ => e'.Agrees) e := by
  simp only [onOutboundSessionEstablished, wp_bind, wp_look]
  intro i
  split
  · rw [wp_ite]
    split_ifs
    · exact wp_refreshRelayRegistration appId h
    · exact h
  · exact h

lemma wp_renewHomeRelayListen (h : e.Agrees) :
    (renewHomeRelayListen appId).wp apply (fun e' _ => e'.Agrees) e := by
  rw [renewHomeRelayListen, wp_bind]
  refine wp_getState fun r => ?_
  split
  · simp only [wp_bind, wp_look]
    intro i
    split
    · rw [wp_bind]
      refine wp_sendRelayListen (fun b => ?_) 3
      split
      · refine wp_registration h fun Q hfail hdone => ?_
        exact wp_registerWithRelay appId hfail hdone none
      · exact h
    · exact h
  · exact h

lemma wp_postTriangleRelayRegister (h : e.Agrees) :
    (postTriangleRelayRegister appId).wp apply (fun e' _ => e'.Agrees) e := by
  have hregister {e : Engine} (h : e.Agrees) : (registerWithRelay appId none).wp apply
      (fun e' _ => e'.Agrees) e :=
    wp_registerWithRelay appId h (fun e' h' => agrees_of_notified h') none
  have hrestrict : (setStateInternal .natRestricted).wp apply
      (fun e _ => (registerWithRelay appId none).wp apply (fun e' _ => e'.Agrees)
        (e.apply (.natType .restricted))) e := by
    simp only [setStateInternal, wp_bind, wp_look]
    intro i
    split
    · rw [wp_write]
      exact hregister (agrees_of_same h rfl rfl)
    · exact hregister (agrees_of_same h rfl rfl)
  rw [postTriangleRelayRegister, wp_bind]
  refine wp_getState fun r => ?_
  simp only [wp_bind, wp_ite, wp_pure, wp_look, wp_write]
  split
  · intro i
    split
    · exact hrestrict
    · exact h
  · exact hrestrict

lemma wp_onTriangleTest3 (h : e.Agrees) : onTriangleTest3.wp apply (fun e' _ => e'.Agrees) e := by
  simp only [onTriangleTest3, setStateInternal, wp_bind, wp_write, wp_look]
  intro i
  split
  · simp only [wp_bind, wp_look]
    intro i
    split
    · simp only [wp_bind, wp_write]
      exact agrees_of_notified rfl
    · exact agrees_of_same h rfl rfl
  · exact agrees_of_same h rfl rfl

lemma wp_startWithAddr (staticAddr : Stun.SocketAddr) (amRelay : Bool) :
    (startWithAddr appId staticAddr amRelay).wp apply (fun e' _ => e'.Agrees) e := by
  have hend (e : Engine) : (look fun e _ => e.relayFinder : Run Bool).wp apply
      (fun s t =>
        if (amRelay && t) = true then
          ((s.apply (.registered true)).apply (.notifyListening true)).Agrees
        else ((s.apply (.notifyListening true)).apply (.registered true)).Agrees) e := by
    rw [wp_look]
    intro i
    split <;> exact agrees_of_notified rfl
  simp only [startWithAddr, setStateInternal, wp_bind, wp_write, wp_ite]
  split
  · exact hend _
  · exact hend _

lemma wp_onStunNone : onStunNone.wp apply (fun e' _ => e'.Agrees) e := by
  simp only [onStunNone, wp_bind, wp_write, agrees_iff]
  exact Or.inl rfl

lemma wp_noConnection (h : e.registered = false) :
    noConnection.wp apply (fun e' _ => e'.Agrees) e := by
  simp only [noConnection, wp_bind, wp_write, agrees_iff]
  exact Or.inl h

lemma wp_classifyPublicAddrChange {Q : Engine → PublicAddrChange → Prop}
    (h : ∀ p r, Q (e.apply (.pendingIpChange p)) r) (prevAddr newAddr : Option Stun.SocketAddr) :
    (classifyPublicAddrChange prevAddr newAddr).wp apply Q e := by
  cases prevAddr with
  | none =>
    simp only [classifyPublicAddrChange, wp_bind, wp_write]
    exact h none _
  | some prev =>
    cases newAddr with
    | none =>
      simp only [classifyPublicAddrChange, wp_bind, wp_write]
      exact h none _
    | some new =>
      simp only [classifyPublicAddrChange, wp_ite, wp_bind, wp_write, wp_update]
      split_ifs
      · exact h none _
      · exact h none _
      · exact fun _ => h none _
      · exact fun _ => h _ _

lemma wp_triangleTestInProgress {Q : Engine → Bool → Prop} (h : ∀ b, Q e b) :
    triangleTestInProgress.wp apply Q e := by
  simp only [triangleTestInProgress, wp_bind, wp_look, wp_ite]
  intro i
  split
  · exact h false
  · exact wp_getState fun r i => h _

def searchRelay (publicAddr : Option Stun.SocketAddr) : Run Unit :=
  match publicAddr with
  | none => noConnection
  | some _ => do
      if !(← look fun e _ => e.relayFinder || appId) then return
      match ← look fun _ i => i.relay with
      | none => noConnection
      | some _ => write .relayFinder

lemma wp_searchRelay (publicAddr : Option Stun.SocketAddr) {e : Engine} (h : e.registered = false) :
    (searchRelay appId publicAddr).wp apply (fun e' _ => e'.Agrees) e := by
  unfold searchRelay
  cases publicAddr with
  | none => exact wp_noConnection h
  | some addr =>
    simp only [wp_bind, wp_look, wp_ite]
    intro i
    split
    · exact (agrees_iff _).mpr (Or.inl h)
    · intro i
      split
      · exact wp_noConnection h
      · rw [wp_write]
        exact (agrees_iff _).mpr (Or.inl h)

lemma wp_stunConsistentProcess (h : e.registered = false) (publicAddr : Option Stun.SocketAddr) :
    (stunConsistentProcess appId publicAddr).wp apply (fun e' _ => e'.Agrees) e := by
  have hquiet {e : Engine} (h : e.registered = false) : triangleTestInProgress.wp apply
      (fun s t =>
        if t = true then s.Agrees
        else ∀ i : Answer, (searchRelay appId publicAddr).wp apply (fun e' _ => e'.Agrees)
          ((s.apply (.stateField .trianglePing)).apply (.registerAttemptAt i.now))) e := by
    refine wp_triangleTestInProgress fun b => ?_
    split
    · exact (agrees_iff _).mpr (Or.inl h)
    · exact fun i => wp_searchRelay appId publicAddr h
  simp only [stunConsistentProcess, wp_bind, wp_look]
  intro i
  refine wp_classifyPublicAddrChange (fun p change => ?_) _ _
  by_cases hreset : change = .reset
  · subst hreset
    simp only [if_true, ne_eq, reduceCtorEq, not_false_eq_true, wp_bind, wp_write, wp_look]
    intro i
    split
    · simp only [wp_bind, wp_ite, wp_pure, wp_write, wp_update]
      refine wp_reregisterOrSwitch appId ?_ (fun e' h' => agrees_of_notified h') _
      exact fun i => wp_searchRelay appId publicAddr h
    · simp only [wp_bind, wp_write, wp_update]
      exact fun i => wp_searchRelay appId publicAddr h
  · simp only [if_neg hreset, wp_bind, wp_ite, wp_pure, wp_write, wp_update]
    split
    · exact hquiet h
    · exact hquiet h

/-- **A handler that nobody comes between** keeps the agreement, unless it finds the node registered
and is that of a blocked or a consistent STUN. -/
lemma wp_code (trigger : Trigger) (h : e.Agrees)
    (hstun : trigger = .stunBlocked ∨ (∃ addr, trigger = .stunConsistent addr) →
      e.state ≠ .registered) :
    (code appId trigger).wp apply (fun e' _ => e'.Agrees) e := by
  have hunregistered (hne : e.state ≠ .registered) : e.registered = false := by
    rw [ne_eq, state_eq_registered_iff] at hne
    exact eq_false_of_ne_true hne
  cases trigger with
  | stunConsistent addr =>
    exact wp_stunConsistentProcess appId (hunregistered (hstun (Or.inr ⟨addr, rfl⟩))) addr
  | stunInconsistent =>
    exact wp_registration h fun Q hfail hdone => wp_registerWithRelay appId hfail hdone none
  | stunBlocked => exact wp_noConnection (hunregistered (hstun (Or.inl rfl)))
  | stunNone => exact wp_onStunNone
  | triangleTest1Response => exact wp_postTriangleRelayRegister appId h
  | triangleTest3 => exact wp_onTriangleTest3 h
  | foreground => exact wp_refreshRelayRegistration appId h
  | outboundSessionEstablished endpoint => exact wp_onOutboundSessionEstablished appId h endpoint
  | advertRefresh => exact wp_renewHomeRelayListen appId h
  | startWithAddr staticAddr amRelay => exact wp_startWithAddr appId staticAddr amRelay

end Alone

/-- A handler that nobody comes between: a thread of its own is started and goes on with the
answers. -/
def handle (appId : Bool) (s : Lib.Threads Engine Write Answer) (h : Trigger × List Answer) :
    Lib.Threads Engine Write Answer :=
  Lib.run (Lib.Threads.step apply (code appId)) s
    (.start h.1 :: h.2.map (.go s.threads.length))

/-- The handler returns, and finds the node unregistered if it is that of a blocked or a consistent
STUN. -/
structure Undisturbed (appId : Bool) (s : Lib.Threads Engine Write Answer)
    (h : Trigger × List Answer) : Prop where
  returns : (handle appId s h).threads[s.threads.length]? = some (.ret ())
  stun : h.1 = .stunBlocked ∨ (∃ addr, h.1 = .stunConsistent addr) →
    s.shared.state ≠ .registered

lemma Undisturbed.agrees {appId : Bool} {s : Lib.Threads Engine Write Answer}
    {h : Trigger × List Answer} (hu : Undisturbed appId s h) (hs : s.shared.Agrees) :
    (handle appId s h).shared.Agrees := by
  obtain ⟨trigger, answers⟩ := h
  have hthread : (s.step apply (code appId) (.start trigger)).threads[s.threads.length]? =
      some (code appId trigger) := List.getElem?_concat_length
  exact Lib.Threads.wp_shared (s := s.step apply (code appId) (.start trigger)) apply (code appId)
    (wp_code appId trigger hs hu.stun) hthread answers hu.returns

/-- **State and listening.**  Over any triggers, interleavings and answers, the state agrees with
what was said throughout exactly when every write fits.  Handlers that follow one another, with
nobody between the steps of any, leave them in agreement after each, unless that of a blocked or a
consistent STUN finds the node registered. -/
theorem state_agrees_with_listening_iff (appId : Bool) :
    (∀ es : List (Lib.Threads.Event Trigger Answer),
      Lib.Always (Lib.Threads.step apply (code appId)) (fun s => s.shared.Agrees) ⟨{}, []⟩ es ↔
        Lib.Along (Lib.Threads.step apply (code appId))
          (fun s event => ∀ w ∈ s.write? event, w.Fits s.shared) ⟨{}, []⟩ es) ∧
    ∀ (s : Lib.Threads Engine Write Answer) (handlers : List (Trigger × List Answer)),
      s.shared.Agrees → Lib.Along (handle appId) (Undisturbed appId) s handlers →
        Lib.Always (handle appId) (fun s => s.shared.Agrees) s handlers := by
  constructor
  · intro es
    have h0 : Agrees {} := by decide
    exact Lib.Threads.always_shared_iff (I := Agrees) (P := Write.Fits) apply (code appId)
      (fun _ w h => agrees_apply_iff h w) h0
  · intro s handlers hs hhandlers
    exact Lib.always_of_along (fun _ _ hs hu => hu.agrees hs) hs hhandlers

/-- Blocked before the node registers, then without STUN. -/
def blockedThenNone : List (Trigger × List Answer) :=
  [(.stunBlocked, List.replicate 3 {}), (.stunNone, List.replicate 9 {})]

theorem blocked_before_registration :
    (Lib.run (handle true) ⟨{}, []⟩ blockedThenNone).shared.lastNotified = some false ∧
      Lib.Always (handle true) (fun s => s.shared.Agrees) ⟨{}, []⟩ blockedThenNone := by
  refine ⟨by decide, (state_agrees_with_listening_iff true).2 _ _ (by decide) ⟨?_, ?_, trivial⟩⟩
  · exact ⟨rfl, fun _ => by decide⟩
  · exact ⟨rfl, fun _ => by decide⟩

def alone (thread : ℕ) (trigger : Trigger) : List (Lib.Threads.Event Trigger Answer) :=
  .start trigger :: List.replicate 10
    (.go thread { relay := some ⟨"relay", ⟨[192, 0, 2, 7], 4000⟩⟩, ddbRegistered := true })

/-- **Blocked while registered.**  A node registers; then STUN is blocked.  The application was told
that the node does not listen, and the node is registered. -/
theorem blocked_node_stays_registered :
    let s := Lib.run (Lib.Threads.step apply (code true)) ⟨{}, []⟩
      (alone 0 (.stunConsistent (some ⟨[198, 51, 100, 1], 4001⟩)) ++ alone 1 .triangleTest3 ++
        alone 2 .stunBlocked)
    s.shared.lastNotified = some false ∧ s.shared.state = .registered ∧
      s.threads.all Lib.Code.returned = true := by
  decide

end Engine

end Bingle
