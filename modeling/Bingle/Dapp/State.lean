import Mathlib

/-!
# The Bingle dapp: what one application stores

The dapp is an Algorand application (`dapp_projects/smart_contracts/bingle_dapp/contract.py`) with a
handful of *global* values and, for each account that has opted in, a record of *local* values.

A missing key is `none`, an account that has not opted in is `none` in `locals`.  A failed `assert`
fails the transaction: a method is a function into `Option App`.  The chain's own limits reject
further calls; a rejected call changes nothing, so leaving them out only adds runs.  The reserved
spare slots (`rsvd_*` other than `rsvd_l_b1`) are left out.
-/

namespace Bingle.Dapp

abbrev Account := String

abbrev AppId := ℕ

/-- The AVM's `uint64`, where its bits matter. -/
abbrev Word := BitVec 64

/-- The AVM's `uint64`, where its order matters: a timestamp. -/
abbrev U64 := Fin (2 ^ 64)

scoped instance neZeroU64 : NeZero (2 ^ 64) := ⟨by decide⟩

abbrev Bytes := List UInt8

/-- The local state of one opted-in account, by the key of each value. -/
structure Local where
  handle : Option String := none
  handleTime : Option U64 := none
  /-- `allow_static`: the packed allow flags, or the legacy scalar -/
  configBitfield : Option Word := none
  /-- `allow_relay`: the legacy relay scalar -/
  legacyAllowRelay : Option Word := none
  staticEndpoint : Option Bytes := none
  staticEndpointX : Option Bytes := none
  /-- `rsvd_l_b1`: the published Sidewinder endpoint record -/
  sidewinderEndpoint : Option Bytes := none
deriving DecidableEq, Repr

def Local.hasHandle (l : Local) : Prop := l.handle.getD "" ≠ ""

instance (l : Local) : Decidable l.hasHandle := inferInstanceAs (Decidable (_ ≠ _))

/-- The state of a deployed contract: its globals, and the locals of who opted in. -/
structure App where
  creator : Account
  binglePrice : Option ℕ := none
  lastHandleTime : Option U64 := none
  appAdmin : Option Account := none
  appWithdrawer : Option Account := none
  /-- `AncestorApps`: the packed 8-byte ids, as a list -/
  ancestorApps : Option (List AppId) := none
  /-- `PredecessorApp`: only apps deployed with the older contract have it -/
  predecessorApp : Option AppId := none
  successorApp : Option AppId := none
  /-- local state, by account; `none` where the account has not opted in -/
  locals : Account → Option Local := fun _ => none

structure GTxn where
  sender : Account
  receiver : Account
  amount : ℕ
  xferAsset : ℕ
  assetReceiver : Account
  assetAmount : ℕ

/-- What a call sees of the transaction it is in and of the chain. -/
structure Ctx where
  sender : Account
  appAddress : Account := ""
  assets : List ℕ := []
  group : List GTxn := []
  latestTimestamp : U64 := 0

def checkedAdd (a b : U64) : Option U64 :=
  if h : a.val + b.val < 2 ^ 64 then some ⟨a.val + b.val, h⟩ else none

lemma lt_of_checkedAdd_one {a c : U64} (h : checkedAdd a 1 = some c) : a < c := by
  unfold checkedAdd at h
  split at h
  · cases h
    exact Fin.lt_def.mpr (Nat.lt_succ_self _)
  · exact absurd h (by simp)

@[simp] lemma guard_eq_some {p : Prop} [Decidable p] {u : Unit} :
    (guard p : Option Unit) = some u ↔ p := by
  by_cases hp : p <;> simp [guard, hp]

lemma of_guard_bind {p : Prop} [Decidable p] {β : Type} {f : Unit → Option β} {b : β}
    (h : (guard p >>= f) = some b) : p := by
  obtain ⟨_, hp, -⟩ := Option.bind_eq_some_iff.mp h
  exact guard_eq_some.mp hp

namespace App

def setLocal (a : App) (x : Account) (l : Local) : App :=
  { a with locals := Function.update a.locals x (some l) }

@[simp] lemma setLocal_self (a : App) (x : Account) (l : Local) :
    (a.setLocal x l).locals x = some l := by
  simp [setLocal]

variable {x : Account} {a b : App} {l : Local}

@[simp] lemma setLocal_of_ne (a : App) {y : Account} (l : Local) (h : y ≠ x) :
    (a.setLocal x l).locals y = a.locals y := by
  simp [setLocal, h]

@[simp] lemma setLocal_setLocal (a : App) (x : Account) (l l' : Local) :
    (a.setLocal x l).setLocal x l' = a.setLocal x l' := by
  simp [setLocal]

lemma setLocal_eq_self (h : a.locals x = some l) :
    a.setLocal x l = a := by
  simp [setLocal, ← h]

def modifyLocal (a : App) (x : Account) (f : Local → Local) : Option App :=
  (a.locals x).map fun l => a.setLocal x (f l)

@[simp] lemma modifyLocal_eq_some {f : Local → Local} :
    a.modifyLocal x f = some b ↔ ∃ l, a.locals x = some l ∧ a.setLocal x (f l) = b := by
  simp [modifyLocal]

lemma eq_setLocal_of_modifyLocal {f : Local → Local}
    (hl : a.locals x = some l) (hb : a.modifyLocal x f = some b) : b = a.setLocal x (f l) := by
  obtain ⟨l', hl', rfl⟩ := modifyLocal_eq_some.mp hb
  rw [Option.some.inj (hl.symm.trans hl')]

def isSuperseded (a : App) : Bool := a.successorApp.isSome

def lineageContains (a : App) (appId : AppId) : Bool := (a.ancestorApps.getD []).contains appId

/-- The `OptIn` bare method: the caller gets an empty local state.  An account that has already
opted in is refused by the chain. -/
def optin (a : App) (c : Ctx) : Option App :=
  match a.locals c.sender with
  | none => some (a.setLocal c.sender {})
  | some _ => none

end App

end Bingle.Dapp
