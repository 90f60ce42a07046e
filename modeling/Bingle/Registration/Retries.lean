import Bingle.Lib.Run
import Bingle.Outgoing.Path

/-!
# Registering a handle, and trying again

`run_registration` (`bingle_local/src/api/registration.rs`) opts the account in, buys one Bingle$
and spends it on the handle.  A retry leaves the opt-ins out that were made.  It does not ask
whether a unit has been bought.
-/

namespace Bingle.Registration

open Lib (Always)
open Outgoing (BingleError)

/-- A transaction that is sent: it may be on chain although its sender gets an error. -/
inductive Sent
  | done
  | lost (e : BingleError)
  | failed (e : BingleError)
deriving DecidableEq

structure RegistrationOps where
  selfAddress : Except BingleError String
  handleLookup : String → Except BingleError (Option String) := fun _ => .ok none
  isOptedInApp : Except BingleError Bool := .ok true
  isOptedInAsset : Except BingleError Bool := .ok true
  optInApp : Except BingleError Unit := .ok ()
  optInToAsset : Except BingleError Unit := .ok ()
  getBinglePrice : Except BingleError ℕ
  buyBingle : ℕ → Sent
  register : String → Sent

inductive Change
  | bought
  | spent
deriving DecidableEq

def RegistrationOps.prepare (ops : RegistrationOps) (handle : String) : Except BingleError ℕ := do
  let selfAddress ← ops.selfAddress
  if let some owner ← ops.handleLookup handle then
    if owner ≠ selfAddress then throw (.handleTaken owner)
  unless ← ops.isOptedInApp do ops.optInApp
  unless ← ops.isOptedInAsset do ops.optInToAsset
  ops.getBinglePrice

def runRegistration (ops : RegistrationOps) (handle : String) :
    Except BingleError Unit × List Change :=
  match ops.prepare handle with
  | .error e => (.error e, [])
  | .ok price =>
    match ops.buyBingle price with
    | .failed e => (.error e, [])
    | .lost e => (.error e, [.bought])
    | .done =>
      match ops.register handle with
      | .failed e => (.error e, [.bought])
      | .lost e => (.error e, [.bought, .spent])
      | .done => (.ok (), [.bought, .spent])

def changes (attempt : RegistrationOps × String) : List Change :=
  (runRegistration attempt.1 attempt.2).2

lemma changes_cases (attempt : RegistrationOps × String) :
    changes attempt = [] ∨ changes attempt = [.bought] ∨ changes attempt = [.bought, .spent] := by
  rw [changes, runRegistration]
  repeat' split
  all_goals simp

/-! ## What the answers of the steps come to -/

/-- **No step before the purchase fails**: the handle is free or the account's own, and the account
is opted in to the app and to the asset or opts in. -/
@[mk_iff]
structure Ready (ops : RegistrationOps) (handle : String) (price : ℕ) : Prop where
  free : ∃ self, ops.selfAddress = .ok self ∧
    (ops.handleLookup handle = .ok none ∨ ops.handleLookup handle = .ok (some self))
  app : ops.isOptedInApp = .ok true ∨ ops.isOptedInApp = .ok false ∧ ops.optInApp = .ok ()
  asset : ops.isOptedInAsset = .ok true ∨ ops.isOptedInAsset = .ok false ∧ ops.optInToAsset = .ok ()
  price : ops.getBinglePrice = .ok price

/-- **The purchase gets on chain**, whether or not the sender learns of it. -/
def Buys (attempt : RegistrationOps × String) : Prop :=
  ∃ price, Ready attempt.1 attempt.2 price ∧ ∀ e, attempt.1.buyBingle price ≠ .failed e

/-- **The purchase gets on chain and the registration does not**: the answer to the purchase is
lost, or the registration fails. -/
def Strands (attempt : RegistrationOps × String) : Prop :=
  ∃ price, Ready attempt.1 attempt.2 price ∧
    ((∃ e, attempt.1.buyBingle price = .lost e) ∨
      attempt.1.buyBingle price = .done ∧ ∃ e, attempt.1.register attempt.2 = .failed e)

variable {price : ℕ} {attempt : RegistrationOps × String}

lemma opt_in_bind_eq_ok_iff {opted : Except BingleError Bool} {optIn : Except BingleError Unit}
    {rest : Except BingleError ℕ} :
    (do unless ← opted do optIn
        rest) = .ok price ↔
      (opted = .ok true ∨ opted = .ok false ∧ optIn = .ok ()) ∧ rest = .ok price := by
  rcases opted with e | _ | _ <;> rcases optIn with e | _ <;> simp [bind, Except.bind]

lemma prepare_eq_ok_iff {ops : RegistrationOps} {handle : String} :
    ops.prepare handle = .ok price ↔ Ready ops handle price := by
  rw [ready_iff, ← opt_in_bind_eq_ok_iff, ← opt_in_bind_eq_ok_iff, RegistrationOps.prepare]
  cases ops.selfAddress with
  | error e => simp [bind, Except.bind]
  | ok self =>
    rcases ops.handleLookup handle with e | _ | owner
    · simp [bind, Except.bind]
    · simp [bind, Except.bind]
    · by_cases howner : owner = self <;>
        simp [bind, Except.bind, howner, throw, throwThe, MonadExceptOf.throw]

lemma changes_eq_nil_iff :
    changes attempt = [] ↔ ¬ Buys attempt := by
  simp only [changes, runRegistration, Buys, ← prepare_eq_ok_iff]
  cases attempt.1.prepare attempt.2 with
  | error e => simp
  | ok price =>
    cases hbuy : attempt.1.buyBingle price <;> cases attempt.1.register attempt.2 <;> simp [hbuy]

lemma changes_eq_bought_iff :
    changes attempt = [.bought] ↔ Strands attempt := by
  simp only [changes, runRegistration, Strands, ← prepare_eq_ok_iff]
  cases attempt.1.prepare attempt.2 with
  | error e => simp
  | ok price =>
    cases hbuy : attempt.1.buyBingle price <;> cases attempt.1.register attempt.2 <;> simp [hbuy]

/-! ## Attempt after attempt -/

def unspent (n : ℕ) : Change → ℕ
  | .bought => n + 1
  | .spent => n - 1

/-- At no moment of the attempts does the account hold two units it has not spent. -/
def AtMostOneUnspent (attempts : List (RegistrationOps × String)) : Prop :=
  Always unspent (· ≤ 1) 0 (attempts.flatMap changes)

lemma always_one_iff (attempts : List (RegistrationOps × String)) :
    Always unspent (· ≤ 1) 1 (attempts.flatMap changes) ↔ ∀ a ∈ attempts, changes a = [] := by
  induction attempts with
  | nil => simp
  | cons a attempts ih =>
    rw [List.flatMap_cons, List.forall_mem_cons, ← ih]
    have htwo : ¬ Always unspent (· ≤ 1) 2 (attempts.flatMap changes) := by
      intro h
      exact absurd ((Lib.always_iff_prefix ..).mp h [] List.nil_prefix) (by decide)
    rcases changes_cases a with h | h | h
    · simp [h]
    · simpa [h, unspent] using htwo
    · simp [h, unspent]

/-- **Retries.**  For every sequence of attempts in which any step may fail: the account holds at
most one unspent unit exactly if no attempt whose purchase gets on chain comes after one whose
purchase did and whose registration did not. -/
theorem at_most_one_unspent_iff (attempts : List (RegistrationOps × String)) :
    AtMostOneUnspent attempts ↔ attempts.Pairwise fun a b => Strands a → ¬ Buys b := by
  simp only [AtMostOneUnspent, ← changes_eq_bought_iff, ← changes_eq_nil_iff]
  induction attempts with
  | nil => simp
  | cons a attempts ih =>
    rw [List.flatMap_cons, List.pairwise_cons, ← ih]
    rcases changes_cases a with h | h | h
    · simp [h]
    · have hrest : Always unspent (· ≤ 1) 1 (attempts.flatMap changes) →
          Always unspent (· ≤ 1) 0 (attempts.flatMap changes) := by
        rw [always_one_iff, ih]
        exact fun hall => List.pairwise_of_forall_mem_list fun _ _ b hb _ => hall b hb
      simpa [h, unspent, always_one_iff] using hrest
    · simp [h, unspent]

def alice (register : Sent) : RegistrationOps × String :=
  ({ selfAddress := .ok "alice"
     getBinglePrice := .ok 10
     buyBingle := fun _ => .done
     register := fun _ => register }, "alice")

theorem retry_buys_again :
    ¬ AtMostOneUnspent [alice (.failed (.algo "timed out")), alice .done] := by
  intro h
  exact absurd h.2.2.1 (by decide)

end Bingle.Registration
