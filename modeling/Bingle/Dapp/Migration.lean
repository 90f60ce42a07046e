import Bingle.Dapp.HandleTime
import Bingle.Dapp.Superseded
import Bingle.Reader

/-!
# Whether migration keeps the owner of a handle

When accounts move to a new app by `migrate_local`, their HandleTimes are moved past the new app's
`LastHandleTime`.  So the order there is the order in which the accounts happened to migrate.
-/

namespace Bingle.Dapp

open List Option
open Reader (ScannedAccount older handleLookup pickOldestMatch)

/-! ## The app as the reader scans it -/

def Local.keyValues (l : Local) : List (String × String) :=
  (l.handle.map fun h => ("Handle", h)).toList ++
    (l.handleTime.map fun t => ("HandleTime", Nat.repr t)).toList

namespace App

def scan (a : App) (xs : List Account) : List ScannedAccount :=
  xs.filterMap fun x => (a.locals x).map fun l => ⟨x, l.keyValues⟩

def readTime (a : App) (x : Account) : ℕ := ((a.handleTimeOf x).map Fin.val).getD 0

def holds (isAlphanumeric : Char → Bool) (a : App) (handle : String) (x : Account) : Bool :=
  ((a.locals x).bind Local.handle).any fun h =>
    Reader.normalizeHandle isAlphanumeric h = Reader.normalizeHandle isAlphanumeric handle

end App

lemma get_handle_keyValues (x : Account) (l : Local) :
    (ScannedAccount.mk x l.keyValues).get "Handle" = l.handle := by
  cases hh : l.handle <;> cases ht : l.handleTime <;>
    simp [ScannedAccount.get, Local.keyValues, hh, ht]

lemma get_handleTime_keyValues (x : Account) (l : Local) :
    (ScannedAccount.mk x l.keyValues).get "HandleTime" = l.handleTime.map fun t => Nat.repr t := by
  cases hh : l.handle <;> cases ht : l.handleTime <;>
    simp [ScannedAccount.get, Local.keyValues, hh, ht]

variable {a old : App} {x : Account} {k : Call}

lemma extractHandleMatch_keyValues (isAlphanumeric : Char → Bool)
    {l : Local} (hl : a.locals x = some l) (handle : String) :
    Reader.extractHandleMatch isAlphanumeric ⟨x, l.keyValues⟩ handle [] =
      if a.holds isAlphanumeric handle x then [(x, a.readTime x)] else [] := by
  have htime : (l.handleTime.map fun t => Nat.repr t).bind Reader.parseU64 =
      l.handleTime.map Fin.val := by
    cases l.handleTime with
    | none => rfl
    | some t => exact Reader.parseU64_repr t.isLt
  unfold Reader.extractHandleMatch
  rw [get_handle_keyValues, get_handleTime_keyValues, htime]
  cases hh : l.handle with
  | none => simp [App.holds, hl, hh]
  | some h => simp [App.holds, App.readTime, App.handleTimeOf, hl, hh]

lemma handleLookup_scan (isAlphanumeric : Char → Bool) (a : App) (xs : List Account)
    (handle : String) :
    handleLookup isAlphanumeric (a.scan xs) handle =
      pickOldestMatch ((xs.filter (a.holds isAlphanumeric handle)).map fun x =>
        (x, a.readTime x)) := by
  rw [handleLookup, Reader.foldl_extractHandleMatch, nil_append]
  congr 1
  induction xs with
  | nil => rfl
  | cons x xs ih =>
    cases hl : a.locals x with
    | none => simpa [App.scan, App.holds, hl] using ih
    | some l =>
      have hx := extractHandleMatch_keyValues isAlphanumeric hl handle
      rw [App.scan] at ih ⊢
      rw [filterMap_cons, hl, map_some, flatMap_cons, ih, hx,
        filter_cons]
      split_ifs <;> simp

/-! ## The order of arrival -/

def Call.MigratesFrom (old : App) : Call → Prop
  | .register _ _ => False
  | .migrateLocal _ _ o => o = old
  | .migrateGlobal _ o => o = old
  | _ => True

/-- A migration of the global state does not set the counter back. -/
def KeepsCounter (a : App) : Call → Prop
  | .migrateGlobal _ old => ∀ t ∈ old.lastHandleTime, a.lastHandleTime.getD 0 ≤ t
  | _ => True

def Migrates (old a : App) (k : Call) : Prop := WhenAccepted KeepsCounter a k ∧ k.MigratesFrom old

/-- At some time `x` has a handle in the new app and `y` has none yet. -/
def MigratesBefore (a : App) (ks : List Call) (x y : Account) : Prop :=
  ∃ before, before <+: ks ∧ ((Lib.run exec a before).handleOf x).isSome ∧
    (Lib.run exec a before).handleOf y = none

/-- What a migration from `old` enters: the account's own handle on `old`, stamped past the counter
if `old` has a time for it and bare if not. -/
def CarriesFrom (old a : App) : Lib.Entry Account String U64 → Prop
  | .skip => True
  | .claim x v t => v = old.handleOf x ∧ a.registry.last < t
  | .bare x v => v = old.handleOf x ∧ old.handleTimeOf x = none
  | .reset t => a.registry.last ≤ t

lemma Migrates.carriesFrom (h : Migrates old a k) :
    CarriesFrom old a (entryOf a k) := by
  obtain ⟨hkeeps, hk⟩ := h
  unfold entryOf
  split_ifs with hc
  swap
  · trivial
  specialize hkeeps hc
  cases k with
  | register c hd => exact absurd hk id
  | migrateGlobal c o =>
    simp only [entry]
    cases ht : o.lastHandleTime with
    | none => trivial
    | some t => exact hkeeps t ht
  | migrateLocal c id o =>
    obtain rfl : o = old := hk
    simp only [entry]
    cases ho : o.locals c.sender with
    | none => trivial
    | some l =>
      dsimp only
      have hval : l.handle.filter (· ≠ "") = o.handleOf c.sender := (App.handleOf_eq ho).symm
      rcases migrationEntry_cases a c.sender l with he | ⟨-, ⟨hnt, he⟩ | ⟨t, ht, he⟩⟩ <;>
        rw [he]
      · trivial
      · exact ⟨hval, (App.handleTimeOf_eq ho).trans hnt⟩
      · exact ⟨hval, ht⟩
  | _ => trivial

structure Migrated (old a : App) : Prop where
  bounded : ∀ x t, a.handleTimeOf x = some t → t ≤ a.registry.last
  carried : ∀ x, (a.handleOf x).isSome → a.handleOf x = old.handleOf x
  timed : ∀ x, (a.handleOf x).isSome → (old.handleTimeOf x).isSome → (a.handleTimeOf x).isSome

lemma create_migrated (old : App) (c : Ctx) (admin withdrawer : Account) :
    Migrated old (App.create c admin withdrawer) where
  bounded := fun _ _ h => absurd h (by simp [App.handleTimeOf, App.create])
  carried := fun _ h => absurd h (by simp [App.handleOf, App.create])
  timed := fun _ h => absurd h (by simp [App.handleOf, App.create])

section Step

variable {old a : App} {k : Call}

lemma handleOf_exec (a : App) (k : Call) :
    (exec a k).handleOf = (a.registry.apply (entryOf a k)).value :=
  congrArg Lib.Register.value (App.registry_exec a k)

lemma handleTimeOf_exec (a : App) (k : Call) :
    (exec a k).handleTimeOf = (a.registry.apply (entryOf a k)).stamp :=
  congrArg Lib.Register.stamp (App.registry_exec a k)

lemma Migrates.last_le (h : Migrates old a k) : a.registry.last ≤ (exec a k).registry.last := by
  rw [App.registry_exec]
  have he := h.carriesFrom
  cases hentry : entryOf a k <;> rw [hentry] at he <;> simp only [Lib.Register.apply]
  · exact le_rfl
  · split_ifs <;> exact he.2.le
  · split_ifs <;> exact le_rfl
  · exact he

lemma Migrates.new_handle (h : Migrates old a k) {x : Account} (hnone : a.handleOf x = none)
    (hx : ((exec a k).handleOf x).isSome) :
    (exec a k).handleOf x = old.handleOf x ∧
      ((old.handleTimeOf x).isSome → ∃ t, (exec a k).handleTimeOf x = some t ∧
        a.registry.last < t) := by
  have he := h.carriesFrom
  rw [handleOf_exec] at hx ⊢
  rw [handleTimeOf_exec]
  obtain ⟨v, hv, ⟨t, hclaim, ht⟩ | hbare⟩ := Lib.Register.new_value (r := a.registry) hnone hx
  · rw [hclaim] at he
    exact ⟨hv.trans he.1, fun _ => ⟨t, ht, he.2⟩⟩
  · rw [hbare] at he
    exact ⟨hv.trans he.1, fun hsome => absurd hsome (by rw [he.2]; exact Bool.false_ne_true)⟩

lemma migrated_exec (hm : Migrated old a) (h : Migrates old a k) : Migrated old (exec a k) := by
  have hkept : ∀ x, (a.handleOf x).isSome → (exec a k).handleOf x = a.handleOf x ∧
      (exec a k).handleTimeOf x = a.handleTimeOf x := fun x hx => run_kept a [k] hx
  refine ⟨fun x t ht => ?_, fun x hx => ?_, fun x hx htime => ?_⟩
  · by_cases hold : a.handleTimeOf x = some t
    · exact (hm.bounded x t hold).trans h.last_le
    · -- a new time is the one the counter was moved to
      rw [handleTimeOf_exec] at ht
      rcases Lib.Register.apply_stamp a.registry (entryOf a k) x with hs | ⟨v, t', he, hv, hs⟩
      · exact absurd (hs.symm.trans ht) hold
      · obtain rfl : t' = t := some.inj (hs.symm.trans ht)
        rw [App.registry_exec, he]
        simp [Lib.Register.apply, hv]
  · by_cases hold : (a.handleOf x).isSome
    · rw [(hkept x hold).1]
      exact hm.carried x hold
    · exact (h.new_handle (by simpa using hold) hx).1
  · by_cases hold : (a.handleOf x).isSome
    · rw [(hkept x hold).2]
      exact hm.timed x hold htime
    · obtain ⟨t, ht, -⟩ := (h.new_handle (by simpa using hold) hx).2 htime
      rw [ht]
      rfl

end Step

section Arrival

variable {old a : App} {ks : List Call} {x y : Account}

lemma migrated_run (hm : Migrated old a) (h : Lib.Along exec (Migrates old) a ks) :
    Migrated old (Lib.run exec a ks) :=
  Lib.run_invariant (fun _ _ hs hk => migrated_exec hs hk) hm h

lemma migratesBefore_total (hxy : x ≠ y) (hx : a.handleOf x = none) (hy : a.handleOf y = none)
    (hx' : ((Lib.run exec a ks).handleOf x).isSome)
    (hy' : ((Lib.run exec a ks).handleOf y).isSome) :
    MigratesBefore a ks x y ∨ MigratesBefore a ks y x := by
  induction ks generalizing a with
  | nil =>
    rw [Lib.run_nil, hx] at hx'
    exact absurd hx' Bool.false_ne_true
  | cons k ks ih =>
    have hfirst : ([k] : List Call) <+: k :: ks := ⟨ks, rfl⟩
    cases hxk : (exec a k).handleOf x with
    | none =>
      cases hyk : (exec a k).handleOf y with
      | none =>
        have hlater : ∀ {z w}, MigratesBefore (exec a k) ks z w →
            MigratesBefore a (k :: ks) z w := by
          rintro z w ⟨before, hpre, hz, hw⟩
          exact ⟨k :: before, cons_prefix_cons.mpr ⟨rfl, hpre⟩, hz, hw⟩
        exact (ih hxk hyk hx' hy').imp hlater hlater
      | some h => exact Or.inr ⟨[k], hfirst, by simp [hyk], hxk⟩
    | some h =>
      cases hyk : (exec a k).handleOf y with
      | none => exact Or.inl ⟨[k], hfirst, by simp [hxk], hyk⟩
      | some h' =>
        rw [handleOf_exec] at hxk hyk
        have hsame : x = y := Lib.Register.eq_of_new_value (r := a.registry)
          (e := entryOf a k) hx hy (by rw [hxk]; rfl) (by rw [hyk]; rfl)
        exact absurd hsame hxy

lemma MigratesBefore.time_lt (hm : Migrated old a) (h : Lib.Along exec (Migrates old) a ks)
    (hbefore : MigratesBefore a ks x y) (hx : (old.handleTimeOf x).isSome)
    (hy : (old.handleTimeOf y).isSome) (hy' : ((Lib.run exec a ks).handleOf y).isSome) :
    ∃ s t, (Lib.run exec a ks).handleTimeOf x = some s ∧
      (Lib.run exec a ks).handleTimeOf y = some t ∧ s < t := by
  obtain ⟨before, ⟨after, rfl⟩, hxb, hyb⟩ := hbefore
  rw [Lib.along_append] at h
  rw [Lib.run_append] at hy' ⊢
  have hmid := migrated_run hm h.1
  generalize Lib.run exec a before = b at *
  obtain ⟨s, hs⟩ := isSome_iff_exists.mp (hmid.timed x hxb hx)
  -- from here on the counter is at least `s`, and `y` gets a time past it
  have hinv : s ≤ (Lib.run exec b after).registry.last ∧
      (((Lib.run exec b after).handleOf y).isSome →
        ∃ t, (Lib.run exec b after).handleTimeOf y = some t ∧ s < t) := by
    refine Lib.run_invariant (I := fun b => s ≤ b.registry.last ∧ ((b.handleOf y).isSome →
      ∃ t, b.handleTimeOf y = some t ∧ s < t)) ?_ ?_ h.2
    · rintro b k ⟨hlast, htime⟩ hk
      refine ⟨hlast.trans hk.last_le, fun hyk => ?_⟩
      by_cases hold : (b.handleOf y).isSome
      · obtain ⟨t, ht, hlt⟩ := htime hold
        exact ⟨t, (run_kept b [k] hold).2.trans ht, hlt⟩
      · obtain ⟨t, ht, hlt⟩ := (hk.new_handle (by simpa using hold) hyk).2 hy
        exact ⟨t, ht, hlast.trans_lt hlt⟩
    · exact ⟨hmid.bounded x s hs, fun hyb' => absurd hyb' (by rw [hyb]; exact Bool.false_ne_true)⟩
  obtain ⟨t, ht, hlt⟩ := hinv.2 hy'
  exact ⟨s, t, (run_kept b after hxb).2.trans hs, ht, hlt⟩

lemma migratesBefore_iff (hm : Migrated old a) (h : Lib.Along exec (Migrates old) a ks)
    (hfresh : ∀ z, a.handleOf z = none) (hxy : x ≠ y) (hx : (old.handleTimeOf x).isSome)
    (hy : (old.handleTimeOf y).isSome) (hx' : ((Lib.run exec a ks).handleOf x).isSome)
    (hy' : ((Lib.run exec a ks).handleOf y).isSome) :
    (MigratesBefore a ks x y ↔ ∃ s t, (Lib.run exec a ks).handleTimeOf x = some s ∧
      (Lib.run exec a ks).handleTimeOf y = some t ∧ s < t) ∧
    (MigratesBefore a ks x y ↔ older (x, (Lib.run exec a ks).readTime x)
      (y, (Lib.run exec a ks).readTime y)) := by
  rcases migratesBefore_total hxy (hfresh x) (hfresh y) hx' hy' with hbefore | hbefore
  · obtain ⟨s, t, hs, ht, hlt⟩ := hbefore.time_lt hm h hx hy hy'
    refine ⟨iff_of_true hbefore ⟨s, t, hs, ht, hlt⟩, iff_of_true hbefore (Or.inl ?_)⟩
    simpa [App.readTime, hs, ht] using hlt
  · obtain ⟨t, s, ht, hs, hlt⟩ := hbefore.time_lt hm h hy hx hx'
    have hnot : ¬ ∃ s t, (Lib.run exec a ks).handleTimeOf x = some s ∧
        (Lib.run exec a ks).handleTimeOf y = some t ∧ s < t := by
      rintro ⟨s', t', hs', ht', hlt'⟩
      obtain rfl := some.inj (hs.symm.trans hs')
      obtain rfl := some.inj (ht.symm.trans ht')
      exact absurd hlt' hlt.not_gt
    have hno : ¬ MigratesBefore a ks x y := fun hb => hnot (hb.time_lt hm h hx hy hy')
    refine ⟨iff_of_false hno hnot, iff_of_false hno ?_⟩
    have hval : t.val < s.val := hlt
    rintro (h' | ⟨h', -⟩) <;> simp only [App.readTime, hs, ht, map_some, getD_some] at h' <;>
      omega

end Arrival

/-! ## The owner -/

lemma Migrated.holds_eq (hm : Migrated old a) (isAlphanumeric : Char → Bool)
    (handle : String) (hx : (a.handleOf x).isSome) :
    a.holds isAlphanumeric handle x = old.holds isAlphanumeric handle x := by
  have hraw : ∀ b : App, (b.handleOf x).isSome → (b.locals x).bind Local.handle = b.handleOf x := by
    intro b hb
    unfold App.handleOf at hb ⊢
    cases hl : (b.locals x).bind Local.handle with
    | none => rfl
    | some h =>
      rw [hl] at hb
      by_cases hne : h ≠ "" <;> simp_all [Option.filter]
  have hc := hm.carried x hx
  unfold App.holds
  rw [hraw a hx, hraw old (hc ▸ hx), hc]

lemma handleLookup_scan_eq_some (isAlphanumeric : Char → Bool) (a : App) (xs : List Account)
    (handle : String) (owner : Account) :
    handleLookup isAlphanumeric (a.scan xs) handle = some owner ↔
      owner ∈ xs ∧ a.holds isAlphanumeric handle owner ∧
        ∀ y ∈ xs, a.holds isAlphanumeric handle y →
          older (owner, a.readTime owner) (y, a.readTime y) := by
  rw [handleLookup_scan, Reader.pickOldestMatch_map_eq_some_iff]
  simp only [mem_filter, and_imp, and_assoc]

/-- **Migration keeps the order of arrival, and the owner who comes first.**  After any run on a
fresh app of calls that migrate from `old` and do not wind the counter back: of two accounts that
have migrated, the earlier one on the ancestor is the earlier one here exactly if it migrated first;
and so it is for the owner of a handle and the others that hold it. -/
theorem migration_keeps_owner (isAlphanumeric : Char → Bool) (old : App) (c : Ctx)
    (admin withdrawer : Account) (ks : List Call) (hks : ∀ k ∈ ks, k.MigratesFrom old)
    (h : Lib.Along exec (WhenAccepted KeepsCounter) (App.create c admin withdrawer) ks) :
    (∀ x y s t, ((deployed c admin withdrawer ks).handleOf x).isSome →
      ((deployed c admin withdrawer ks).handleOf y).isSome →
      old.handleTimeOf x = some s → old.handleTimeOf y = some t → s < t →
      (MigratesBefore (App.create c admin withdrawer) ks x y ↔
        ∃ s' t', (deployed c admin withdrawer ks).handleTimeOf x = some s' ∧
          (deployed c admin withdrawer ks).handleTimeOf y = some t' ∧ s' < t')) ∧
    (∀ handle xs owner,
      (∀ x ∈ xs, ((deployed c admin withdrawer ks).handleOf x).isSome ∧
        (old.handleTimeOf x).isSome) →
      handleLookup isAlphanumeric (old.scan xs) handle = some owner →
      ((∀ y ∈ xs, y ≠ owner → old.holds isAlphanumeric handle y →
          MigratesBefore (App.create c admin withdrawer) ks owner y) ↔
        handleLookup isAlphanumeric ((deployed c admin withdrawer ks).scan xs) handle =
          some owner)) := by
  have hmigrates : Lib.Along exec (Migrates old) (App.create c admin withdrawer) ks := h.and_mem hks
  have hcreate := create_migrated old c admin withdrawer
  have hm : Migrated old (deployed c admin withdrawer ks) := migrated_run hcreate hmigrates
  have hfresh : ∀ z, (App.create c admin withdrawer).handleOf z = none := fun _ => rfl
  have hiff := fun x y => migratesBefore_iff (x := x) (y := y) hcreate hmigrates hfresh
  change ∀ x y, x ≠ y → _ → _ → ((deployed c admin withdrawer ks).handleOf x).isSome →
    ((deployed c admin withdrawer ks).handleOf y).isSome →
    (_ ↔ ∃ s t, (deployed c admin withdrawer ks).handleTimeOf x = some s ∧
      (deployed c admin withdrawer ks).handleTimeOf y = some t ∧ s < t) ∧
    (_ ↔ older (x, (deployed c admin withdrawer ks).readTime x)
      (y, (deployed c admin withdrawer ks).readTime y)) at hiff
  generalize deployed c admin withdrawer ks = a at hm hiff ⊢
  refine ⟨fun x y s t hx hy hsx hty hlt => ?_, fun handle xs owner hxs howner => ?_⟩
  · refine (hiff x y ?_ (by rw [hsx]; rfl) (by rw [hty]; rfl) hx hy).1
    rintro rfl
    exact absurd (some.inj (hsx.symm.trans hty)) hlt.ne
  · obtain ⟨hmem, hholds, -⟩ := (handleLookup_scan_eq_some ..).mp howner
    rw [handleLookup_scan_eq_some, hm.holds_eq isAlphanumeric handle (hxs owner hmem).1]
    have hreads : ∀ y ∈ xs, y ≠ owner →
        (MigratesBefore (App.create c admin withdrawer) ks owner y ↔
          older (owner, a.readTime owner) (y, a.readTime y)) := fun y hy hne =>
      (hiff owner y hne.symm (hxs owner hmem).2 (hxs y hy).2 (hxs owner hmem).1 (hxs y hy).1).2
    constructor
    · intro hall
      refine ⟨hmem, hholds, fun y hy hy' => ?_⟩
      by_cases hne : y = owner
      · subst hne
        exact Or.inr ⟨rfl, le_rfl⟩
      · exact (hreads y hy hne).mp
          (hall y hy hne (hm.holds_eq isAlphanumeric handle (hxs y hy).1 ▸ hy'))
    · rintro ⟨-, -, hall⟩ y hy hne hy'
      refine (hreads y hy hne).mpr (hall y hy ?_)
      rwa [hm.holds_eq isAlphanumeric handle (hxs y hy).1]

def twoHolders : App :=
  { creator := "CREATOR"
    lastHandleTime := some 7
    locals := fun x =>
      if x = "A" then some { handle := some "dup", handleTime := some 5 }
      else if x = "B" then some { handle := some "dup", handleTime := some 7 }
      else none }

def migrationSetup : List Call :=
  [.setPredecessorApp { sender := "CREATOR" } 7 twoHolders, .optin { sender := "A" },
    .optin { sender := "B" }]

theorem owner_kept_in_order :
    handleLookup Char.isAlphanum
        ((deployed { sender := "CREATOR" } "ADMIN" "WITHDRAWER"
          (migrationSetup ++ [.migrateLocal { sender := "A" } 7 twoHolders,
            .migrateLocal { sender := "B" } 7 twoHolders])).scan ["A", "B"]) "dup" = some "A" := by
  refine ((migration_keeps_owner Char.isAlphanum twoHolders { sender := "CREATOR" } "ADMIN"
    "WITHDRAWER" _ ?_ ?_).2 "dup" ["A", "B"] "A" (by decide) (by decide)).mp ?_
  · simp [migrationSetup, Call.MigratesFrom]
  · exact ⟨fun _ => trivial, fun _ => trivial, fun _ => trivial, fun _ => trivial, fun _ => trivial,
      trivial⟩
  · intro y hy hne _
    obtain rfl : y = "B" := by simpa [hne] using hy
    exact ⟨migrationSetup ++ [.migrateLocal { sender := "A" } 7 twoHolders],
      ⟨[.migrateLocal { sender := "B" } 7 twoHolders], rfl⟩, by decide, by decide⟩

/-- `B` migrates first and keeps its time 7, `A` is moved past it to 8: the order of the two is
reversed, and `B` is the owner now. -/
theorem owner_changed_out_of_order :
    twoHolders.handleTimeOf "A" = some 5 ∧ twoHolders.handleTimeOf "B" = some 7 ∧
      handleLookup Char.isAlphanum (twoHolders.scan ["A", "B"]) "dup" = some "A" ∧
      (deployed { sender := "CREATOR" } "ADMIN" "WITHDRAWER"
        (migrationSetup ++ [.migrateLocal { sender := "B" } 7 twoHolders,
          .migrateLocal { sender := "A" } 7 twoHolders])).handleTimeOf "A" = some 8 ∧
      (deployed { sender := "CREATOR" } "ADMIN" "WITHDRAWER"
        (migrationSetup ++ [.migrateLocal { sender := "B" } 7 twoHolders,
          .migrateLocal { sender := "A" } 7 twoHolders])).handleTimeOf "B" = some 7 ∧
      handleLookup Char.isAlphanum
        ((deployed { sender := "CREATOR" } "ADMIN" "WITHDRAWER"
          (migrationSetup ++ [.migrateLocal { sender := "B" } 7 twoHolders,
            .migrateLocal { sender := "A" } 7 twoHolders])).scan ["A", "B"]) "dup" = some "B" := by
  decide

/-! ## The first holder -/

/-- A `migrate_global` does not wind the counter back, and a handle that a `migrate_local` brings
comes with a HandleTime. -/
def BringsTimes (a : App) : Call → Prop
  | .migrateGlobal _ old => ∀ t ∈ old.lastHandleTime, a.lastHandleTime.getD 0 ≤ t
  | .migrateLocal c _ old => old.handleOf c.sender ≠ none → old.handleTimeOf c.sender ≠ none
  | _ => True

lemma BringsTimes.keepsOrder (h : BringsTimes a k) : KeepsOrder a k := by
  cases k with
  | migrateGlobal c old => exact h
  | migrateLocal c id old => exact fun hold _ => Or.inl (h hold)
  | _ => trivial

lemma BringsTimes.not_bare (h : WhenAccepted BringsTimes a k)
    {v : Option String} (he : entryOf a k = .bare x v) : v = none := by
  unfold entryOf at he
  split_ifs at he with hc
  cases k with
  | migrateLocal c id old =>
    simp only [entry] at he
    cases ho : old.locals c.sender with
    | none => simp [ho] at he
    | some o =>
      simp only [ho] at he
      rcases migrationEntry_cases a c.sender o with hm | ⟨-, ⟨hnt, hm⟩ | ⟨t, -, hm⟩⟩ <;>
        rw [hm] at he
      · cases he
      · by_contra hv
        obtain ⟨rfl, rfl⟩ := Lib.Entry.bare.inj he
        exact h hc (App.handleOf_eq ho ▸ hv) (App.handleTimeOf_eq ho ▸ hnt)
      · cases he
  | register c hd => simp only [entry] at he; split at he <;> cases he
  | migrateGlobal c old => cases ht : old.lastHandleTime <;> simp [entry, ht] at he
  | _ => cases he

/-- A call that keeps the times in order, and does not clear the state of `owner`. -/
def KeepsHolder (owner : Account) (a : App) : Invocation → Prop
  | .method k => WhenAccepted BringsTimes a k
  | .clearState c => c.sender ≠ owner
  | _ => True

/-- What `owner` has in `a` it has in `b`, and what anybody has in `b` and not in `a` is stamped past
the counter of `a`. -/
structure Later (owner : Account) (a b : App) : Prop where
  last : a.registry.last ≤ b.registry.last
  kept : (a.handleOf owner).isSome → b.handleOf owner = a.handleOf owner ∧
    b.handleTimeOf owner = a.handleTimeOf owner
  new : ∀ y, (b.handleOf y).isSome →
    (b.handleOf y = a.handleOf y ∧ b.handleTimeOf y = a.handleTimeOf y) ∨
      ∃ t, b.handleTimeOf y = some t ∧ a.registry.last < t

section Later

variable {owner : Account} {a b : App}

lemma Later.exec (hl : Later owner a b) {k : Call} (h : WhenAccepted BringsTimes b k) :
    Later owner a (exec b k) := by
  have horderly := KeepsOrder.orderly fun hc => (h hc).keepsOrder
  refine ⟨hl.last.trans (App.registry_exec b k ▸ Lib.Register.last_le_apply horderly),
    fun ho => ?_, fun y hy => ?_⟩
  · obtain ⟨hhandle, htime⟩ := hl.kept ho
    obtain ⟨hhandle', htime'⟩ := run_kept b [k] (x := owner) (by rwa [hhandle])
    exact ⟨hhandle'.trans hhandle, htime'.trans htime⟩
  · by_cases hv : (b.handleOf y).isSome
    · have hkept := run_kept b [k] hv
      rw [Lib.run_cons, Lib.run_nil] at hkept
      rw [hkept.1, hkept.2]
      exact hl.new y hv
    · rw [handleOf_exec] at hy
      obtain ⟨v, hval, ⟨t, he, ht⟩ | he⟩ :=
        Lib.Register.new_value (not_isSome_iff_eq_none.mp hv) hy
      · rw [he] at horderly
        exact Or.inr ⟨t, handleTimeOf_exec b k ▸ ht, hl.last.trans_lt horderly⟩
      · rw [hval, BringsTimes.not_bare h he] at hy
        cases hy

lemma handleOf_clearState (a : App) (c : Ctx) (x : Account) :
    (a.clearState c).handleOf x = (if x = c.sender then none else a.handleOf x) ∧
      (a.clearState c).handleTimeOf x = if x = c.sender then none else a.handleTimeOf x := by
  by_cases hx : x = c.sender <;> simp [App.handleOf, App.handleTimeOf, App.clearState, hx]

lemma Later.invoke (hl : Later owner a b) {v : Invocation} (h : KeepsHolder owner b v) :
    Later owner a (invoke b v) := by
  cases v with
  | method k => exact invoke_method b k ▸ hl.exec h
  | clearState c =>
    refine ⟨hl.last, fun ho => ?_, fun y hy => ?_⟩
    · obtain ⟨hhandle, htime⟩ := handleOf_clearState b c owner
      rw [if_neg (Ne.symm h)] at hhandle htime
      exact ⟨hhandle.trans (hl.kept ho).1, htime.trans (hl.kept ho).2⟩
    · obtain ⟨hhandle, htime⟩ := handleOf_clearState b c y
      change ((b.clearState c).handleOf y).isSome at hy
      change ((b.clearState c).handleOf y = _ ∧ (b.clearState c).handleTimeOf y = _) ∨
        ∃ t, (b.clearState c).handleTimeOf y = some t ∧ _
      rw [hhandle] at hy
      split_ifs at hy hhandle htime
      · cases hy
      · rw [hhandle, htime]
        exact hl.new y hy
  | _ => rwa [invoke_eq_self rfl]

end Later

end Bingle.Dapp
