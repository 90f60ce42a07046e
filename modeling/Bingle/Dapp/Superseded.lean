import Bingle.Dapp.Market

/-!
# An app that has been superseded

The creator marks the app as superseded by a newer one, and from then on the users' methods reject
every call.  Here are all methods of the contract and the clear-state program; an `Invocation`
leaves an app and a list of inner transactions.  Updating and deleting the application are left out.
-/

namespace Bingle.Dapp

open Option
open Lib (run Along Always)

inductive InnerTxn
  | payment (receiver : Account) (amount : ℕ)
  | assetTransfer (assetId : ℕ) (receiver : Account) (amount : ℕ)
deriving DecidableEq, Repr

structure Funds where
  balance : ℕ
  minBalance : ℕ
  minTxnFee : ℕ
  assetBalance : ℕ → Option ℕ

namespace App

def optInToBingle (a : App) (c : Ctx) (assetId : ℕ) : Option (List InnerTxn) := do
  guard (a.appAdmin = some c.sender)
  some [.assetTransfer assetId c.appAddress 0]

def withdraw (a : App) (c : Ctx) (funds : Funds) (address : Account)
    (amount assetId assetAmount : ℕ) : Option (List InnerTxn) := do
  guard (a.appWithdrawer = some c.sender)
  let withdrawable :=
    if funds.balance > funds.minBalance then funds.balance - funds.minBalance else 0
  let actual := if amount ≤ withdrawable then amount else withdrawable
  guard (amount > 0 → actual > 0)
  some ((if amount > 0 then [.payment address actual] else []) ++
    if assetAmount > 0 then [.assetTransfer assetId address assetAmount] else [])

def migrateReserve (a : App) (c : Ctx) (funds : Funds) (newAppAddress : Account) (assetId : ℕ) :
    Option (List InnerTxn) := do
  guard (c.sender = a.creator)
  let feeReserve := funds.minTxnFee + if assetId ≠ 0 then funds.minTxnFee else 0
  -- a sum that does not fit 64 bits fails the call
  guard (funds.minBalance + feeReserve < 2 ^ 64)
  let withdrawable :=
    if funds.balance > funds.minBalance + feeReserve then
      funds.balance - funds.minBalance - feeReserve
    else 0
  let asaBalance := if assetId ≠ 0 then (funds.assetBalance assetId).getD 0 else 0
  some ((if withdrawable > 0 then [.payment newAppAddress withdrawable] else []) ++
    if asaBalance > 0 then [.assetTransfer assetId newAppAddress asaBalance] else [])

def clearState (a : App) (c : Ctx) : App :=
  { a with locals := Function.update a.locals c.sender none }

end App

/-- All that can be sent to the app, `clear_state` and the moves of funds included. -/
inductive Invocation
  | method (k : Call)
  | buyBingle (c : Ctx)
  | sellBingle (c : Ctx) (amount : ℕ)
  | withdraw (c : Ctx) (funds : Funds) (address : Account) (amount assetId assetAmount : ℕ)
  | optInToBingle (c : Ctx) (assetId : ℕ)
  | migrateReserve (c : Ctx) (funds : Funds) (newAppAddress : Account) (assetId : ℕ)
  | clearState (c : Ctx)

def Call.ctx : Call → Ctx
  | .optin c | .setBinglePrice c _ | .register c _ | .enrolSwClient c | .setAllow _ c _ _
  | .setPredecessorApp c _ _ | .setSuccessorApp c _ | .setAppAdmin c _ | .setAppWithdrawer c _
  | .migrateGlobal c _ | .migrateLocal c _ _ | .registerEndpoint c _
  | .registerSidewinderEndpoint c _ => c

namespace Invocation

def sender : Invocation → Account
  | .method k => k.ctx.sender
  | .buyBingle c | .sellBingle c _ | .withdraw c _ _ _ _ _ | .optInToBingle c _
  | .migrateReserve c _ _ _ | .clearState c => c.sender

def isExempt : Invocation → Bool
  | .method (.optin _) | .method (.migrateLocal _ _ _) | .clearState _ => true
  | _ => false

end Invocation

def App.perform (a : App) : Invocation → Option (App × List InnerTxn)
  | .method k => (a.call k).map fun b => (b, [])
  | .buyBingle c => do
      let _price ← a.buyBingle c
      let assetId ← c.assets[0]?
      some (a, [.assetTransfer assetId c.sender 1])
  | .sellBingle c amount => (a.sellBingle c amount).map fun _ => (a, [])
  | .withdraw c funds address amount assetId assetAmount =>
    (a.withdraw c funds address amount assetId assetAmount).map fun txns => (a, txns)
  | .optInToBingle c assetId => (a.optInToBingle c assetId).map fun txns => (a, txns)
  | .migrateReserve c funds newAppAddress assetId =>
    (a.migrateReserve c funds newAppAddress assetId).map fun txns => (a, txns)
  | .clearState c => some (a.clearState c, [])

/-- A call as the chain makes it: a rejected one leaves the app as it was and pays nothing. -/
def App.outcome (a : App) (v : Invocation) : App × List InnerTxn := (a.perform v).getD (a, [])

def invoke (a : App) (v : Invocation) : App := (a.outcome v).1

/-- Of the calls only these write the app's own state. -/
def Invocation.writes : Invocation → Bool
  | .method _ | .clearState _ => true
  | _ => false

lemma invoke_method (a : App) (k : Call) : invoke a (.method k) = exec a k := by
  rw [invoke, App.outcome, App.perform, exec]
  cases a.call k <;> rfl

variable {a : App} {v : Invocation}

lemma invoke_eq_self (h : v.writes = false) : invoke a v = a := by
  rw [invoke, App.outcome]
  cases hv : a.perform v with
  | none => rfl
  | some r =>
    cases v with
    | method k | clearState c => cases h
    | buyBingle c =>
      obtain ⟨price, -, hv⟩ := bind_eq_some_iff.mp hv
      obtain ⟨assetId, -, hr⟩ := bind_eq_some_iff.mp hv
      obtain rfl := some.inj hr
      rfl
    | sellBingle c _ | withdraw c _ _ _ _ _ | optInToBingle c _ | migrateReserve c _ _ _ =>
      obtain ⟨_, -, rfl⟩ := map_eq_some_iff.mp hv
      rfl

def App.Outsider (a : App) (x : Account) : Prop :=
  a.appAdmin ≠ some x ∧ a.appWithdrawer ≠ some x ∧ x ≠ a.creator

instance (a : App) (x : Account) : Decidable (a.Outsider x) :=
  inferInstanceAs (Decidable (_ ∧ _ ∧ _))

/-! ## Who may call what -/

section Entitled

variable {a b : App}

lemma entitled_of_call {k : Call} (h : a.call k = some b) :
    ¬ a.Outsider k.ctx.sender ∨ (Invocation.method k).isExempt = true ∨ ¬ a.isSuperseded := by
  have hadmin : ∀ {x}, a.appAdmin = some x → ¬ a.Outsider x := fun h ho => ho.1 h
  have hcreator : ∀ {x}, x = a.creator → ¬ a.Outsider x := fun h ho => ho.2.2 h
  cases k with
  | optin c => exact Or.inr (Or.inl rfl)
  | migrateLocal c id old => exact Or.inr (Or.inl rfl)
  | setAllow f c target allow => exact Or.inl (hadmin (App.setAllow_eq_some.mp h).1)
  | setBinglePrice c price => exact Or.inl (hadmin (of_guard_bind h))
  | register c handle => exact Or.inr (Or.inr (of_guard_bind h))
  | enrolSwClient c => exact Or.inr (Or.inr (of_guard_bind h))
  | registerEndpoint c endpoint => exact Or.inr (Or.inr (of_guard_bind h))
  | registerSidewinderEndpoint c record => exact Or.inr (Or.inr (of_guard_bind h))
  | setPredecessorApp c id old => exact Or.inl (hcreator (of_guard_bind h))
  | setSuccessorApp c id => exact Or.inl (hcreator (of_guard_bind h))
  | setAppAdmin c admin => exact Or.inl (hcreator (of_guard_bind h))
  | setAppWithdrawer c withdrawer => exact Or.inl (hcreator (of_guard_bind h))
  | migrateGlobal c old => exact Or.inl (hcreator (of_guard_bind h))

lemma entitled_of_perform {v : Invocation} {r : App × List InnerTxn} (h : a.perform v = some r) :
    ¬ a.Outsider v.sender ∨ v.isExempt = true ∨ ¬ a.isSuperseded := by
  cases v with
  | method k =>
    obtain ⟨b, hb, -⟩ := map_eq_some_iff.mp h
    exact entitled_of_call hb
  | buyBingle c =>
    obtain ⟨price, hprice, -⟩ := bind_eq_some_iff.mp h
    exact Or.inr (Or.inr (of_guard_bind hprice))
  | sellBingle c amount =>
    obtain ⟨u, hu, -⟩ := map_eq_some_iff.mp h
    exact Or.inr (Or.inr (of_guard_bind hu))
  | withdraw c funds address amount assetId assetAmount =>
    obtain ⟨txns, htxns, -⟩ := map_eq_some_iff.mp h
    exact Or.inl fun ho => ho.2.1 (of_guard_bind htxns)
  | optInToBingle c assetId =>
    obtain ⟨txns, htxns, -⟩ := map_eq_some_iff.mp h
    exact Or.inl fun ho => ho.1 (of_guard_bind htxns)
  | migrateReserve c funds newAppAddress assetId =>
    obtain ⟨txns, htxns, -⟩ := map_eq_some_iff.mp h
    exact Or.inl fun ho => ho.2.2 (of_guard_bind htxns)
  | clearState c => exact Or.inr (Or.inl rfl)

end Entitled

lemma outcome_of_outsider (hs : a.isSuperseded)
    (ho : a.Outsider v.sender) (hv : v.isExempt = false) : a.outcome v = (a, []) := by
  unfold App.outcome
  cases h : a.perform v with
  | none => rfl
  | some r =>
    rcases entitled_of_perform h with h | h | h
    · exact absurd ho h
    · exact absurd h (by simp [hv])
    · exact absurd hs h

/-! ## The mark stays -/

lemma isSuperseded_of_call {b : App} {k : Call} (h : a.call k = some b) (hs : a.isSuperseded) :
    b.isSuperseded := by
  cases k with
  | optin c =>
    obtain ⟨-, rfl⟩ := App.optin_eq_some h
    exact hs
  | register c handle =>
    obtain ⟨l, t, -, -, rfl⟩ := App.register_eq_some h
    exact hs
  | enrolSwClient c =>
    obtain ⟨l, -, -, rfl⟩ := App.enrolSwClient_eq_some h
    exact hs
  | setAllow f c target allow =>
    obtain ⟨-, l, -, rfl⟩ := App.setAllow_eq_some.mp h
    exact hs
  | migrateLocal c id old =>
    obtain ⟨o, l, l', assigned, -, -, -, rfl⟩ := App.migrateLocal_eq_some h
    exact hs
  | registerEndpoint c endpoint =>
    obtain ⟨l, -, -, rfl⟩ := App.registerEndpoint_eq_some h
    exact hs
  | registerSidewinderEndpoint c record =>
    obtain ⟨l, -, -, rfl⟩ := App.registerSidewinderEndpoint_eq_some h
    exact hs
  | setSuccessorApp c id =>
    obtain ⟨_, -, hb⟩ := bind_eq_some_iff.mp h
    obtain rfl := some.inj hb
    rfl
  | setBinglePrice c _ | setPredecessorApp c _ _ | setAppAdmin c _ | setAppWithdrawer c _
  | migrateGlobal c _ =>
    obtain ⟨_, -, hb⟩ := bind_eq_some_iff.mp h
    obtain rfl := some.inj hb
    exact hs

lemma isSuperseded_invoke (v : Invocation) (hs : a.isSuperseded) :
    (invoke a v).isSuperseded := by
  cases v with
  | method k =>
    rw [invoke_method, exec]
    cases h : a.call k with
    | none => exact hs
    | some b => exact isSuperseded_of_call h hs
  | clearState c => exact hs
  | _ => rwa [invoke_eq_self rfl]

/-- **Superseding is permanent.**  After `set_successor_app`, every state of a run is superseded;
and a call by an account that is then neither admin, withdrawer nor creator, opt-in, clear and
`migrate_local` apart, leaves the app as it is and makes no inner transaction. -/
theorem superseding_is_permanent {a₀ a : App} {c : Ctx} {id : AppId}
    (hset : a₀.setSuccessorApp c id = some a) (vs : List Invocation) :
    Always invoke (fun s => s.isSuperseded = true) a vs ∧
      Along invoke (fun s v => s.Outsider v.sender → v.isExempt = false → s.outcome v = (s, []))
        a vs := by
  have hs : a.isSuperseded = true := by
    obtain ⟨_, -, hb⟩ := bind_eq_some_iff.mp hset
    obtain rfl := some.inj hb
    rfl
  have hany : Along invoke (fun _ _ => True) a vs := Lib.along_of_forall_mem (fun _ _ => trivial) a
  have hstep : ∀ (s : App) (v : Invocation), s.isSuperseded = true → True →
      (invoke s v).isSuperseded = true := fun s v h _ => isSuperseded_invoke v h
  have hrejected : ∀ (s : App) (v : Invocation), s.isSuperseded = true → True →
      (s.Outsider v.sender → v.isExempt = false → s.outcome v = (s, [])) :=
    fun s v h _ ho hv => outcome_of_outsider h ho hv
  exact ⟨Lib.always_of_along hstep hs hany, Along.of_invariant hstep hrejected hs hany⟩

theorem superseded_sells_nothing :
    let a₀ : App := { creator := "C", binglePrice := some 5 }
    let a : App := { a₀ with successorApp := some 9 }
    let c : Ctx := { sender := "X", appAddress := "APP", assets := [7],
                     group := [⟨"X", "APP", 5, 0, "", 0⟩] }
    (a₀.outcome (.buyBingle c)).2 = [.assetTransfer 7 "X" 1] ∧
      a₀.setSuccessorApp { sender := "C" } 9 = some a ∧ a.outcome (.buyBingle c) = (a, []) := by
  intro a₀ a c
  have hset : a₀.setSuccessorApp { sender := "C" } 9 = some a := rfl
  refine ⟨by decide, hset, ?_⟩
  exact (superseding_is_permanent hset [.buyBingle c]).2.1 (by decide) rfl

end Bingle.Dapp
