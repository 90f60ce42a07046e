import Bingle.Dapp.State

/-!
# The allow flags

The per-account permissions are bits of one `uint64` under the key `allow_static`.  Bit 63 says the
value *is* packed; without it the account still holds two separate 0/1 scalars, under `allow_static`
and `allow_relay`.  Every read goes through `foldAllow`, and every admin write stores the packed
form.
-/

namespace Bingle.Dapp

def BIT_STATIC : Word := 1#64 <<< 0
def BIT_RELAY : Word := 1#64 <<< 1
def BIT_SW_NODE : Word := 1#64 <<< 2
def BIT_SW_CLIENT : Word := 1#64 <<< 3
def BIT_SW_CLIENT_REVOKED : Word := 1#64 <<< 4
def BIT_MIGRATED : Word := 1#64 <<< 63

def granted (packed mask : Word) : Bool := packed &&& mask ≠ 0#64

lemma granted_shl (p : Word) {i : ℕ} (hi : i < 64) : granted p (1#64 <<< i) = p.getLsbD i := by
  rw [granted, Bool.eq_iff_iff, decide_eq_true_iff, ← BitVec.twoPow_eq, BitVec.and_twoPow]
  cases h : p.getLsbD i with
  | false => simp
  | true =>
    have hne : BitVec.twoPow 64 i ≠ 0#64 := by
      intro hz
      have hbit := congrArg (BitVec.getLsbD · i) hz
      simp [hi] at hbit
    simpa using hne

lemma granted_revoked (p : Word) : granted p BIT_SW_CLIENT_REVOKED = p.getLsbD 4 :=
  granted_shl p (by decide)

lemma granted_migrated (p : Word) : granted p BIT_MIGRATED = p.getLsbD 63 :=
  granted_shl p (by decide)

lemma getLsbD_one_shl {i : ℕ} (hi : i < 64) (j : ℕ) :
    (1#64 <<< i).getLsbD j = decide (i = j) := by
  rw [← BitVec.twoPow_eq, BitVec.getLsbD_twoPow]
  simp [hi]

/-! ## Reading -/

/-- `_fold_allow`: a value that carries the sentinel is returned as it is; otherwise the two scalars
are folded into bits 0 and 1. -/
def foldAllow (static relay : Option Word) : Word :=
  if granted (static.getD 0#64) BIT_MIGRATED then static.getD 0#64
  else
    let packed := BIT_MIGRATED
    let packed := if static.getD 0#64 ≠ 0#64 then packed ||| BIT_STATIC else packed
    if relay.getD 0#64 ≠ 0#64 then packed ||| BIT_RELAY else packed

/-- The flags of an account, with what it has in the older encoding folded in. -/
def Local.packed (l : Local) : Word := foldAllow l.configBitfield l.legacyAllowRelay

lemma foldAllow_migrated (s r : Option Word) : (foldAllow s r).getLsbD 63 = true := by
  unfold foldAllow
  split
  case isTrue h => rwa [granted_migrated] at h
  case isFalse h =>
      have hm : BIT_MIGRATED.getLsbD 63 = true := getLsbD_one_shl (by decide) 63
      dsimp only
      split_ifs <;> simp [hm]

lemma foldAllow_packed {w : Word} (h : w.getLsbD 63 = true) (r : Option Word) :
    foldAllow (some w) r = w := by
  simp only [foldAllow, Option.getD_some, granted_migrated, h, if_true]

namespace App

/-- `_packed_allow_bits`.  Reading the local state of an account that has not opted in fails the
call. -/
def packedAllowBits (a : App) (x : Account) : Option Word := (a.locals x).map Local.packed

/-! ## Writing -/

def setAllowBit (a : App) (c : Ctx) (target : Account) (mask : Word) (allow : ℕ) : Option App := do
  guard (a.appAdmin = some c.sender)
  let packed ← a.packedAllowBits target
  let packed := packed ||| BIT_MIGRATED
  let packed := if allow ≠ 0 then packed ||| mask else packed &&& ~~~mask
  a.modifyLocal target fun l => { l with configBitfield := some packed }

def selfGrantSwClient (a : App) (account : Account) : Option App := do
  let packed ← a.packedAllowBits account
  let packed := packed ||| BIT_MIGRATED
  if granted packed BIT_SW_CLIENT_REVOKED then some a
  else a.modifyLocal account fun l => { l with configBitfield := some (packed ||| BIT_SW_CLIENT) }

def clearEndpoint (a : App) (account : Account) : Option App :=
  a.modifyLocal account fun l => { l with staticEndpoint := none, staticEndpointX := none }

def clearSidewinderEndpoint (a : App) (account : Account) : Option App :=
  a.modifyLocal account fun l => { l with sidewinderEndpoint := none }

def setAllowStatic (a : App) (c : Ctx) (target : Account) (allow : ℕ) : Option App := do
  let a ← a.setAllowBit c target BIT_STATIC allow
  if allow = 0 then a.clearEndpoint target else some a

def setAllowRelay (a : App) (c : Ctx) (target : Account) (allow : ℕ) : Option App :=
  a.setAllowBit c target BIT_RELAY allow

def setAllowSwNode (a : App) (c : Ctx) (target : Account) (allow : ℕ) : Option App := do
  let a ← a.setAllowBit c target BIT_SW_NODE allow
  if allow = 0 then a.clearSidewinderEndpoint target else some a

def setAllowSwClient (a : App) (c : Ctx) (target : Account) (allow : ℕ) : Option App := do
  let a ← a.setAllowBit c target BIT_SW_CLIENT allow
  a.setAllowBit c target BIT_SW_CLIENT_REVOKED (if allow = 0 then 1 else 0)

end App

inductive Flag
  | static
  | relay
  | swNode
  | swClient
deriving DecidableEq, Repr

def Flag.mask : Flag → Word
  | .static => BIT_STATIC
  | .relay => BIT_RELAY
  | .swNode => BIT_SW_NODE
  | .swClient => BIT_SW_CLIENT

def Flag.bit : Flag → ℕ
  | .static => 0
  | .relay => 1
  | .swNode => 2
  | .swClient => 3

lemma granted_mask (p : Word) (f : Flag) : granted p f.mask = p.getLsbD f.bit := by
  cases f <;> exact granted_shl p (by decide)

namespace App

def setAllow (a : App) (f : Flag) (c : Ctx) (target : Account) (allow : ℕ) : Option App :=
  match f with
  | .static => a.setAllowStatic c target allow
  | .relay => a.setAllowRelay c target allow
  | .swNode => a.setAllowSwNode c target allow
  | .swClient => a.setAllowSwClient c target allow

/-- The effective value of a permission of `x`: what the sentinel-aware read says.  An account that
has not opted in has none. -/
def effective (a : App) (x : Account) (f : Flag) : Bool :=
  ((a.packedAllowBits x).map (granted · f.mask)).getD false

end App

/-! ## The record a write leaves -/

namespace Local

def writeAllow (l : Local) (mask : Word) (allow : ℕ) : Local :=
  let packed := l.packed ||| BIT_MIGRATED
  { l with configBitfield := some (if allow ≠ 0 then packed ||| mask else packed &&& ~~~mask) }

def setAllow (l : Local) (f : Flag) (allow : ℕ) : Local :=
  match f with
  | .static =>
    let l := l.writeAllow BIT_STATIC allow
    if allow = 0 then { l with staticEndpoint := none, staticEndpointX := none } else l
  | .relay => l.writeAllow BIT_RELAY allow
  | .swNode =>
    let l := l.writeAllow BIT_SW_NODE allow
    if allow = 0 then { l with sidewinderEndpoint := none } else l
  | .swClient =>
    (l.writeAllow BIT_SW_CLIENT allow).writeAllow BIT_SW_CLIENT_REVOKED (if allow = 0 then 1 else 0)

def grantSwClient (l : Local) : Local :=
  if granted (l.packed ||| BIT_MIGRATED) BIT_SW_CLIENT_REVOKED then l
  else { l with configBitfield := some (l.packed ||| BIT_MIGRATED ||| BIT_SW_CLIENT) }

end Local

namespace App

variable {a b : App} {c : Ctx} {x : Account} {allow : ℕ}

lemma setAllowBit_eq_some {mask : Word} :
    a.setAllowBit c x mask allow = some b ↔
      a.appAdmin = some c.sender ∧
        ∃ l, a.locals x = some l ∧ a.setLocal x (l.writeAllow mask allow) = b := by
  cases hl : a.locals x <;>
    simp [setAllowBit, packedAllowBits, modifyLocal, hl, Local.writeAllow, Option.bind_eq_some_iff]

lemma setAllow_eq_some {f : Flag} :
    a.setAllow f c x allow = some b ↔
      a.appAdmin = some c.sender ∧
        ∃ l, a.locals x = some l ∧ a.setLocal x (l.setAllow f allow) = b := by
  cases f with
  | static =>
    by_cases h0 : allow = 0 <;>
      simp [setAllow, setAllowStatic, Option.bind_eq_some_iff, setAllowBit_eq_some, clearEndpoint,
        Local.setAllow, h0, and_assoc]
  | relay => exact setAllowBit_eq_some
  | swNode =>
    by_cases h0 : allow = 0 <;>
      simp [setAllow, setAllowSwNode, Option.bind_eq_some_iff, setAllowBit_eq_some,
        clearSidewinderEndpoint, Local.setAllow, h0, and_assoc]
  | swClient =>
    simp [setAllow, setAllowSwClient, Option.bind_eq_some_iff, setAllowBit_eq_some,
      Local.setAllow, and_assoc]
    tauto

lemma selfGrantSwClient_eq (a : App) (x : Account) :
    a.selfGrantSwClient x = a.modifyLocal x Local.grantSwClient := by
  cases hl : a.locals x with
  | none => simp [selfGrantSwClient, packedAllowBits, modifyLocal, hl]
  | some l =>
    by_cases hr : granted (l.packed ||| BIT_MIGRATED) BIT_SW_CLIENT_REVOKED = true
    · simp [selfGrantSwClient, packedAllowBits, modifyLocal, hl, Local.grantSwClient, hr,
        setLocal_eq_self hl]
    · simp [selfGrantSwClient, packedAllowBits, modifyLocal, hl, Local.grantSwClient, hr]

lemma effective_eq {l : Local} (h : a.locals x = some l) (f : Flag) :
    a.effective x f = l.packed.getLsbD f.bit := by
  simp [effective, packedAllowBits, h, granted_mask]

end App

/-! ## The bits of the record a write leaves -/

namespace Local

lemma packed_of_migrated {l : Local} {w : Word} (hw : l.configBitfield = some w)
    (h : w.getLsbD 63 = true) : l.packed = w := by
  rw [packed, hw, foldAllow_packed h]

lemma getLsbD_packed_writeAllow (l : Local) {i : ℕ} (hi : i < 63) (allow j : ℕ) :
    (l.writeAllow (1#64 <<< i) allow).packed.getLsbD j =
      if i = j then decide (allow ≠ 0) else l.packed.getLsbD j := by
  have hm : ∀ j, BIT_MIGRATED.getLsbD j = decide (63 = j) := getLsbD_one_shl (by decide)
  have hb : ∀ j, (1#64 <<< i).getLsbD j = decide (i = j) := getLsbD_one_shl (by omega)
  have h63 : l.packed.getLsbD 63 = true := foldAllow_migrated _ _
  have hlt : l.packed.getLsbD j = true → j < 64 := BitVec.lt_of_getLsbD
  have hmig : (l.writeAllow (1#64 <<< i) allow).packed =
      if allow ≠ 0 then l.packed ||| BIT_MIGRATED ||| 1#64 <<< i
      else (l.packed ||| BIT_MIGRATED) &&& ~~~(1#64 <<< i) := by
    refine packed_of_migrated rfl ?_
    have hne : i ≠ 63 := by omega
    split_ifs <;>
      simp only [BitVec.getLsbD_or, BitVec.getLsbD_and, BitVec.getLsbD_not, h63, hb] <;> simp [hne]
  rw [hmig]
  split_ifs <;> simp only [BitVec.getLsbD_or, BitVec.getLsbD_and, BitVec.getLsbD_not, hm, hb] <;>
    grind

lemma getLsbD_packed_grantSwClient (l : Local) (j : ℕ) :
    l.grantSwClient.packed.getLsbD j =
      (l.packed.getLsbD j || (decide (j = 3) && !l.packed.getLsbD 4)) := by
  have hm : ∀ j, BIT_MIGRATED.getLsbD j = decide (63 = j) := getLsbD_one_shl (by decide)
  have hc : ∀ j, BIT_SW_CLIENT.getLsbD j = decide (3 = j) := getLsbD_one_shl (by decide)
  have h63 : l.packed.getLsbD 63 = true := foldAllow_migrated _ _
  have hrev : granted (l.packed ||| BIT_MIGRATED) BIT_SW_CLIENT_REVOKED = l.packed.getLsbD 4 := by
    rw [granted_revoked, BitVec.getLsbD_or, hm]
    simp
  unfold grantSwClient
  rw [hrev]
  split_ifs with h
  · grind
  · rw [packed_of_migrated (w := l.packed ||| BIT_MIGRATED ||| BIT_SW_CLIENT) rfl]
    · simp only [BitVec.getLsbD_or, hm, hc]
      grind
    · simp [h63]

lemma getLsbD_packed_setAllow (l : Local) (f : Flag) (allow j : ℕ) :
    (l.setAllow f allow).packed.getLsbD j =
      if f = .swClient ∧ j = 4 then decide (allow = 0)
      else if f.bit = j then decide (allow ≠ 0) else l.packed.getLsbD j := by
  cases f with
  | static =>
    have h : (l.setAllow .static allow).packed = (l.writeAllow BIT_STATIC allow).packed := by
      simp only [setAllow]; split_ifs <;> rfl
    rw [h, BIT_STATIC, getLsbD_packed_writeAllow l (by decide)]
    simp [Flag.bit]
  | relay =>
    rw [setAllow, BIT_RELAY, getLsbD_packed_writeAllow l (by decide)]
    simp [Flag.bit]
  | swNode =>
    have h : (l.setAllow .swNode allow).packed = (l.writeAllow BIT_SW_NODE allow).packed := by
      simp only [setAllow]; split_ifs <;> rfl
    rw [h, BIT_SW_NODE, getLsbD_packed_writeAllow l (by decide)]
    simp [Flag.bit]
  | swClient =>
    rw [setAllow, BIT_SW_CLIENT_REVOKED, BIT_SW_CLIENT, getLsbD_packed_writeAllow _ (by decide),
      getLsbD_packed_writeAllow l (by decide)]
    by_cases h4 : j = 4 <;> by_cases h0 : allow = 0 <;> simp [Flag.bit, h4, h0, eq_comm]

end Local

end Bingle.Dapp
