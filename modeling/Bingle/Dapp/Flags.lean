import Bingle.Dapp.Contract
import Bingle.Reader

/-!
# The allow flags as a plain record

What the admin and the users mean by the allow flags is a record of booleans per account.  The
contract keeps them in a word, or in the two scalars that were there before the word, and converts
an account when it is first written.  The Rust side decodes what it reads from the chain on its own.
-/

namespace Bingle.Dapp

/-! ## Plain records -/

@[ext]
structure Flags where
  static : Bool
  relay : Bool
  swNode : Bool
  swClient : Bool
  revoked : Bool
  reserved : BitVec 58
deriving DecidableEq, Repr

namespace Flags

def ofBits (w : Word) : Flags where
  static := w.getLsbD 0
  relay := w.getLsbD 1
  swNode := w.getLsbD 2
  swClient := w.getLsbD 3
  revoked := w.getLsbD 4
  reserved := w.extractLsb' 5 58

def setAllow (fl : Flags) (f : Flag) (allow : ℕ) : Flags :=
  match f with
  | .static => { fl with static := allow ≠ 0 }
  | .relay => { fl with relay := allow ≠ 0 }
  | .swNode => { fl with swNode := allow ≠ 0 }
  | .swClient => { fl with swClient := allow ≠ 0, revoked := allow = 0 }

def selfGrant (fl : Flags) : Flags := if fl.revoked then fl else { fl with swClient := true }

end Flags

/-- The abstract record: who is the admin, and five flags for each account. -/
@[ext]
structure Permissions where
  admin : Option Account
  flags : Account → Option Flags

inductive AllowCall
  | setAllow (f : Flag) (c : Ctx) (target : Account) (allow : ℕ)
  | selfGrant (account : Account)

def Permissions.call (p : Permissions) : AllowCall → Permissions
  | .setAllow f c target allow =>
    if p.admin = some c.sender then
      { p with flags :=
          Function.update p.flags target ((p.flags target).map (·.setAllow f allow)) }
    else p
  | .selfGrant account =>
    { p with flags := Function.update p.flags account ((p.flags account).map Flags.selfGrant) }

/-! ## What the contract's state stands for -/

def Local.flags (l : Local) : Flags :=
  if (l.configBitfield.getD 0#64).getLsbD 63 then Flags.ofBits (l.configBitfield.getD 0#64)
  else ⟨l.configBitfield.getD 0#64 ≠ 0#64, l.legacyAllowRelay.getD 0#64 ≠ 0#64, false, false, false,
    0#58⟩

def App.permissions (a : App) : Permissions := ⟨a.appAdmin, fun x => (a.locals x).map Local.flags⟩

def App.execAllow (a : App) : AllowCall → App
  | .setAllow f c target allow => (a.setAllow f c target allow).getD a
  | .selfGrant account => (a.selfGrantSwClient account).getD a

lemma getLsbD_foldAllow_legacy {s r : Option Word} (h : (s.getD 0#64).getLsbD 63 = false) (j : ℕ)
    (hj : j ≠ 63) :
    (foldAllow s r).getLsbD j =
      (decide (j = 0) && decide (s.getD 0#64 ≠ 0#64) ||
        decide (j = 1) && decide (r.getD 0#64 ≠ 0#64)) := by
  have hm : BIT_MIGRATED.getLsbD j = false := by
    rw [BIT_MIGRATED, getLsbD_one_shl (by decide)]
    exact decide_eq_false hj.symm
  have hs : BIT_STATIC.getLsbD j = decide (0 = j) := getLsbD_one_shl (by decide) j
  have hr : BIT_RELAY.getLsbD j = decide (1 = j) := getLsbD_one_shl (by decide) j
  simp only [foldAllow, granted_migrated, h, Bool.false_eq_true, if_false]
  split_ifs <;> simp only [BitVec.getLsbD_or, hm, hs, hr] <;> grind

lemma Local.ofBits_packed (l : Local) : Flags.ofBits l.packed = l.flags := by
  rw [Local.flags, Local.packed]
  split_ifs with h
  · cases hw : l.configBitfield with
    | none => simp [hw] at h
    | some w =>
      rw [hw, Option.getD_some] at h
      rw [foldAllow_packed h, Option.getD_some]
  · have hbit := getLsbD_foldAllow_legacy (r := l.legacyAllowRelay) (eq_false_of_ne_true h)
    have hreserved : (foldAllow l.configBitfield l.legacyAllowRelay).extractLsb' 5 58 = 0#58 := by
      refine BitVec.eq_of_getLsbD_eq fun i hi => ?_
      have h1 : ¬ 5 + i = 1 := by omega
      rw [BitVec.getLsbD_extractLsb', hbit (5 + i) (by omega)]
      simp [h1]
    rw [Flags.ofBits, hreserved, hbit 0 (by decide), hbit 1 (by decide), hbit 2 (by decide),
      hbit 3 (by decide), hbit 4 (by decide)]
    simp

/-! ## Simulation -/

lemma Local.flags_setAllow (l : Local) (f : Flag) (allow : ℕ) :
    (l.setAllow f allow).flags = l.flags.setAllow f allow := by
  rw [← Local.ofBits_packed, ← Local.ofBits_packed]
  have hreserved : (l.setAllow f allow).packed.extractLsb' 5 58 = l.packed.extractLsb' 5 58 := by
    refine BitVec.eq_of_getLsbD_eq fun i hi => ?_
    have hf : f.bit ≠ 5 + i := by cases f <;> simp only [Flag.bit] <;> omega
    rw [BitVec.getLsbD_extractLsb', BitVec.getLsbD_extractLsb', Local.getLsbD_packed_setAllow,
      if_neg (by omega), if_neg hf]
  cases f <;>
    simp only [Flags.ofBits, Flags.setAllow, Local.getLsbD_packed_setAllow, Flag.bit, hreserved] <;>
    simp

lemma Local.flags_grantSwClient (l : Local) : l.grantSwClient.flags = l.flags.selfGrant := by
  rw [← Local.ofBits_packed, ← Local.ofBits_packed]
  have hreserved : l.grantSwClient.packed.extractLsb' 5 58 = l.packed.extractLsb' 5 58 := by
    refine BitVec.eq_of_getLsbD_eq fun i hi => ?_
    have h3 : (5 + i = 3) = False := by simp; omega
    rw [BitVec.getLsbD_extractLsb', BitVec.getLsbD_extractLsb', Local.getLsbD_packed_grantSwClient]
    simp [h3]
  cases hrev : l.packed.getLsbD 4 <;>
    simp only [Flags.ofBits, Flags.selfGrant, Local.getLsbD_packed_grantSwClient, hreserved, hrev] <;>
    simp

lemma App.permissions_setLocal (a : App) (x : Account) (l : Local) :
    (a.setLocal x l).permissions =
      { a.permissions with flags := Function.update a.permissions.flags x (some l.flags) } := by
  refine Permissions.ext rfl (funext fun y => ?_)
  by_cases hy : y = x
  · simp [App.permissions, hy]
  · simp [App.permissions, hy]

lemma Permissions.update_none (p : Permissions) {x : Account} (h : p.flags x = none)
    (f : Flags → Flags) :
    { p with flags := Function.update p.flags x ((p.flags x).map f) } = p := by
  rw [h, Option.map_none, ← h, Function.update_eq_self]

/-- **Simulation.**  A call on the contract is that call on the records it stands for. -/
lemma App.permissions_execAllow (a : App) (k : AllowCall) :
    (a.execAllow k).permissions = a.permissions.call k := by
  cases k with
  | setAllow f c x allow =>
    rw [Permissions.call, App.execAllow]
    split_ifs with hadmin
    · cases hl : a.locals x with
      | none =>
        have hnone : a.permissions.flags x = none := by simp [App.permissions, hl]
        have hreject : a.setAllow f c x allow = none := by
          refine Option.eq_none_iff_forall_ne_some.mpr fun b hb => ?_
          obtain ⟨-, l, hl', -⟩ := App.setAllow_eq_some.mp hb
          exact absurd (hl.symm.trans hl') (by simp)
        rw [hreject, Option.getD_none, Permissions.update_none _ hnone]
      | some l =>
        have haccept : a.setAllow f c x allow = some (a.setLocal x (l.setAllow f allow)) :=
          App.setAllow_eq_some.mpr ⟨hadmin, l, hl, rfl⟩
        have hflags : a.permissions.flags x = some l.flags := by simp [App.permissions, hl]
        rw [haccept, Option.getD_some, App.permissions_setLocal, hflags, Option.map_some,
          Local.flags_setAllow]
    · have hreject : a.setAllow f c x allow = none :=
        Option.eq_none_iff_forall_ne_some.mpr fun b hb => hadmin (App.setAllow_eq_some.mp hb).1
      rw [hreject, Option.getD_none]
  | selfGrant x =>
    rw [Permissions.call, App.execAllow, App.selfGrantSwClient_eq, App.modifyLocal]
    cases hl : a.locals x with
    | none =>
      have hnone : a.permissions.flags x = none := by simp [App.permissions, hl]
      rw [Option.map_none, Option.getD_none, Permissions.update_none _ hnone]
    | some l =>
      have hflags : a.permissions.flags x = some l.flags := by simp [App.permissions, hl]
      rw [Option.map_some, Option.getD_some, App.permissions_setLocal, hflags, Option.map_some,
        Local.flags_grantSwClient]

lemma App.permissions_run (a : App) (ks : List AllowCall) :
    (Lib.run App.execAllow a ks).permissions = Lib.run Permissions.call a.permissions ks := by
  induction ks generalizing a with
  | nil => rfl
  | cons k ks ih => rw [Lib.run_cons, Lib.run_cons, ih, App.permissions_execAllow]

end Bingle.Dapp

/-! ## The Rust reader -/

namespace Bingle.Reader

open Dapp

def findUint (entries : List (String × String)) (key : String) : Option Word :=
  ((entries.find? fun kv => kv.1 = key).bind fun kv => parseU64 kv.2).map (BitVec.ofNat 64)

def effectiveAllowBits (entries : List (String × String)) : Word :=
  let raw := findUint entries "allow_static"
  if raw.any fun r => granted r BIT_MIGRATED then raw.getD 0#64
  else
    let bits := 0#64
    let bits := if raw.any fun r => r ≠ 0#64 then bits ||| BIT_STATIC else bits
    if (findUint entries "allow_relay").any fun r => r ≠ 0#64 then bits ||| BIT_RELAY else bits

def Lists (entries : List (String × String)) (l : Local) : Prop :=
  (entries.find? fun kv => kv.1 = "allow_static").map Prod.snd =
      l.configBitfield.map (fun w => Nat.repr w.toNat) ∧
    (entries.find? fun kv => kv.1 = "allow_relay").map Prod.snd =
      l.legacyAllowRelay.map fun w => Nat.repr w.toNat

instance (entries : List (String × String)) (l : Local) : Decidable (Lists entries l) :=
  inferInstanceAs (Decidable (_ ∧ _))

variable {entries : List (String × String)}

lemma findUint_eq {key : String} {v : Option Word}
    (h : (entries.find? fun kv => kv.1 = key).map Prod.snd = v.map fun w => Nat.repr w.toNat) :
    findUint entries key = v := by
  rw [findUint]
  cases hfind : entries.find? fun kv => kv.1 = key with
  | none =>
    rw [hfind, Option.map_none, eq_comm, Option.map_eq_none_iff] at h
    rw [h]
    rfl
  | some kv =>
    rw [hfind, Option.map_some, eq_comm, Option.map_eq_some_iff] at h
    obtain ⟨w, rfl, hw⟩ := h
    rw [Option.bind_some, ← hw, parseU64_repr w.isLt]
    simp

lemma effectiveAllowBits_getLsbD {l : Local} (h : Lists entries l) {j : ℕ} (hj : j ≠ 63) :
    (effectiveAllowBits entries).getLsbD j = l.packed.getLsbD j := by
  have hs : BIT_STATIC.getLsbD j = decide (0 = j) := getLsbD_one_shl (by decide) j
  have hr : BIT_RELAY.getLsbD j = decide (1 = j) := getLsbD_one_shl (by decide) j
  simp only [effectiveAllowBits, findUint_eq h.1, findUint_eq h.2, granted_migrated, Local.packed]
  by_cases hpacked : (l.configBitfield.getD 0#64).getLsbD 63 = true
  · cases hw : l.configBitfield with
    | none => simp [hw] at hpacked
    | some w =>
      rw [hw, Option.getD_some] at hpacked
      simp [foldAllow_packed hpacked, hpacked]
  · have hlegacy := eq_false_of_ne_true hpacked
    rw [getLsbD_foldAllow_legacy hlegacy j hj]
    have hany : (l.configBitfield.any fun r => r.getLsbD 63) = false := by
      cases hw : l.configBitfield <;> simp_all
    have hne : ∀ v : Option Word, (v.any fun r => r ≠ 0#64) = decide (v.getD 0#64 ≠ 0#64) := by
      intro v
      cases v <;> simp
    rw [hany, hne, hne, if_neg Bool.false_ne_true]
    split_ifs <;> simp only [BitVec.getLsbD_or, BitVec.getLsbD_zero, hs, hr] <;> grind

end Bingle.Reader

/-! ## Flags as independent flags -/

namespace Bingle.Dapp

/-- **Allow flags are independent flags.**  From any local states, in either encoding, after any
`set_allow_*` and self-grant calls, the flags the contract reads are those of plain records under
the same calls; and the Rust reader makes of a local state the bits the contract reads from it, but
for the sentinel. -/
theorem allow_flags_independent (a : App) (ks : List AllowCall) :
    (∀ x, ((Lib.run App.execAllow a ks).packedAllowBits x).map Flags.ofBits =
      (Lib.run Permissions.call a.permissions ks).flags x) ∧
    ∀ (l : Local) (entries : List (String × String)), Reader.Lists entries l →
      ∀ j ≠ 63, (Reader.effectiveAllowBits entries).getLsbD j = l.packed.getLsbD j := by
  refine ⟨fun x => ?_, fun l entries h j hj => Reader.effectiveAllowBits_getLsbD h hj⟩
  rw [← App.permissions_run, App.packedAllowBits, Option.map_map]
  exact congrFun (congrArg Option.map (funext Local.ofBits_packed)) _

def legacyAccount : Local := { configBitfield := some 1#64, legacyAllowRelay := some 1#64 }

def legacyApp : App where
  creator := "creator"
  appAdmin := some "admin"
  locals := fun x => if x = "user" then some legacyAccount else none

theorem legacy_account_converted :
    ((Lib.run App.execAllow legacyApp
        [.setAllow .relay ⟨"admin", "", [], [], 0⟩ "user" 0]).packedAllowBits "user").map
          Flags.ofBits =
      some ⟨true, false, false, false, false, 0#58⟩ ∧
      (Reader.effectiveAllowBits [("allow_relay", "1"), ("allow_static", "1")]).getLsbD 1 =
        legacyAccount.packed.getLsbD 1 :=
  ⟨((allow_flags_independent legacyApp _).1 "user").trans (by decide),
    (allow_flags_independent legacyApp []).2 legacyAccount _ (by decide) 1 (by decide)⟩

end Bingle.Dapp
