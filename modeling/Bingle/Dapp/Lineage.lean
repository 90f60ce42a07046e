import Bingle.Dapp.Contract
import Bingle.Lib.Framing
import Bingle.Lib.KeepFirst

/-!
# The lineage of an app, packed

`AncestorApps` is one global value: the ids of the blessed ancestors, eight bytes each.  `App` keeps
it as a list of ids; here it is the bytes, and the two are connected.  How many bytes the chain
leaves a global value is a parameter, `room`: a write of more fails the call.
-/

namespace Bingle.Dapp

open Lib (keep keepFirst)

def itob (n : U64) : Bytes := Lib.Field.u64.enc n

def btoi (bytes : Bytes) : U64 := Lib.Field.u64.dec bytes

def extract (bytes : Bytes) (start length : ℕ) : Bytes := (bytes.drop start).take length

structure Ancestry where
  ancestorApps : Option Bytes := none
  predecessorApp : Option U64 := none
deriving DecidableEq, Repr

namespace Ancestry

def lineageContains (lineage : Bytes) (appId : U64) : Bool :=
  (List.range (lineage.length / 8)).foldl
    (fun found i => if extract lineage (i * 8) 8 = itob appId then true else found) false

def lineageFrom (predecessor : U64) (pred : Ancestry) : Bytes :=
  let lineage := itob predecessor
  let lineage := match pred.ancestorApps with
    | some predAnc => (List.range (predAnc.length / 8)).foldl (fun lineage i =>
        let chunk := extract predAnc (i * 8) 8
        if lineageContains lineage (btoi chunk) then lineage else lineage ++ chunk) lineage
    | none => lineage
  match pred.predecessorApp with
  | some oldPred =>
    if oldPred ≠ 0 ∧ ¬ lineageContains lineage oldPred then lineage ++ itob oldPred else lineage
  | none => lineage

def setPredecessorApp (room : ℕ) (g : Ancestry) (predecessor : U64) (pred : Ancestry) :
    Option Ancestry := do
  guard ((lineageFrom predecessor pred).length ≤ room)
  some { g with ancestorApps := some (lineageFrom predecessor pred) }

/-- The ids that the packed bytes hold, read one after the other. -/
def recorded (g : Ancestry) : List U64 := (g.ancestorApps.map Lib.Field.u64.unpack).getD []

def legacy (g : Ancestry) : List U64 := (g.predecessorApp.filter fun id => id ≠ 0).toList

def blessed (g : Ancestry) : Finset U64 := (g.recorded ++ g.legacy).toFinset

/-- A chain of upgrades, the newest first: each app, before it is superseded, is made the
predecessor of a new one. -/
def upgrades (room : ℕ) (base : Ancestry) : List U64 → Option Ancestry
  | [] => some base
  | id :: earlier => do
      let pred ← upgrades room base earlier
      setPredecessorApp room {} id pred

/-- The list of ids in the model of the contract is what the bytes hold. -/
def Packs (g : Ancestry) (a : App) : Prop :=
  a.ancestorApps = g.ancestorApps.map (fun bytes => (Lib.Field.u64.unpack bytes).map Fin.val) ∧
    a.predecessorApp = g.predecessorApp.map Fin.val

/-! ## The walk over the packed ids -/

lemma foldl_found (p : ℕ → Prop) [DecidablePred p] (is : List ℕ) (found : Bool) :
    is.foldl (fun found i => if p i then true else found) found = true ↔
      found = true ∨ ∃ i ∈ is, p i := by
  induction is generalizing found with
  | nil => simp
  | cons i is ih =>
    rw [List.foldl_cons, ih]
    by_cases hi : p i <;> simp [hi]

lemma chunk_eq_itob_iff {bytes : Bytes} {i : ℕ} (h : i < bytes.length / 8) (id : U64) :
    Lib.Field.u64.chunk bytes i = itob id ↔ btoi (Lib.Field.u64.chunk bytes i) = id := by
  have hlen : (Lib.Field.u64.chunk bytes i).length = Lib.Field.u64.width :=
    Lib.Field.u64.length_chunk h
  constructor
  · intro heq
    rw [heq]
    exact Lib.Field.u64.dec_enc id
  · rintro rfl
    exact (Lib.Field.u64.enc_dec _ hlen).symm

lemma lineageContains_iff (lineage : Bytes) (id : U64) :
    lineageContains lineage id = true ↔ id ∈ Lib.Field.u64.unpack lineage := by
  rw [lineageContains, foldl_found, Lib.Field.unpack, List.mem_map]
  simp only [Bool.false_eq_true, false_or, List.mem_range]
  refine exists_congr fun i => and_congr_right fun hi => ?_
  exact chunk_eq_itob_iff hi id

/-! ## What `set_predecessor_app` writes -/

def lineageIds (predecessor : U64) (pred : Ancestry) : List U64 :=
  keepFirst some (predecessor :: (pred.recorded ++ pred.legacy))

lemma lineageContains_pack (held : List U64) (id : U64) :
    lineageContains (Lib.Field.u64.pack held) id = true ↔ id ∈ held := by
  rw [lineageContains_iff, Lib.Field.u64.unpack_pack (by decide)]

lemma isHeld_iff {α : Type*} [DecidableEq α] (held : List α) (a : α) :
    Lib.isHeld some held a = true ↔ a ∈ held := by
  simp [Lib.isHeld, List.any_eq_true]

lemma append_unless_contained (held : List U64) (id : U64) :
    (if lineageContains (Lib.Field.u64.pack held) id then Lib.Field.u64.pack held
      else Lib.Field.u64.pack held ++ itob id) = Lib.Field.u64.pack (keep some held id) := by
  unfold keep
  by_cases h : id ∈ held
  · rw [if_pos ((lineageContains_pack held id).mpr h), if_pos ((isHeld_iff held id).mpr h)]
  · rw [if_neg (mt (lineageContains_pack held id).mp h), if_neg (mt (isHeld_iff held id).mp h),
      Lib.Field.pack_append, Lib.Field.pack_singleton]
    rfl

lemma foldl_append_chunks (predAnc : Bytes) {is : List ℕ} (his : ∀ i ∈ is, i < predAnc.length / 8)
    (held : List U64) :
    is.foldl (fun lineage i =>
        let chunk := extract predAnc (i * 8) 8
        if lineageContains lineage (btoi chunk) then lineage else lineage ++ chunk)
        (Lib.Field.u64.pack held) =
      Lib.Field.u64.pack
        ((is.map fun i => btoi (Lib.Field.u64.chunk predAnc i)).foldl (keep some) held) := by
  induction is generalizing held with
  | nil => rfl
  | cons i is ih =>
    obtain ⟨hi, his⟩ := List.forall_mem_cons.mp his
    have hchunk : extract predAnc (i * 8) 8 = itob (btoi (Lib.Field.u64.chunk predAnc i)) :=
      (chunk_eq_itob_iff hi _).mpr rfl
    rw [List.foldl_cons, List.map_cons, List.foldl_cons, ← ih his, ← append_unless_contained,
      ← hchunk]
    rfl

lemma lineageIds_eq_of_legacy (id : U64) (pred : Ancestry) :
    lineageIds id pred = match pred.predecessorApp with
      | some old => if old = 0 then keepFirst some (id :: pred.recorded)
          else keep some (keepFirst some (id :: pred.recorded)) old
      | none => keepFirst some (id :: pred.recorded) := by
  unfold lineageIds legacy
  rw [← List.cons_append]
  cases pred.predecessorApp with
  | none => simp
  | some old =>
    by_cases h0 : old = 0
    · simp [h0, Option.filter]
    · have hfilter : (Option.filter (fun id => id ≠ 0) (some old)).toList = [old] := by
        simp [Option.filter, h0]
      simp only [hfilter, Lib.keepFirst_concat, if_neg h0]

lemma lineageFrom_eq (predecessor : U64) (pred : Ancestry) :
    lineageFrom predecessor pred = Lib.Field.u64.pack (lineageIds predecessor pred) := by
  have hstart : itob predecessor = Lib.Field.u64.pack (keep some [] predecessor) :=
    (Lib.Field.pack_singleton _ _).symm
  -- after the loop
  have hloop : (match pred.ancestorApps with
      | some predAnc => (List.range (predAnc.length / 8)).foldl (fun lineage i =>
          let chunk := extract predAnc (i * 8) 8
          if lineageContains lineage (btoi chunk) then lineage else lineage ++ chunk)
          (itob predecessor)
      | none => itob predecessor) =
      Lib.Field.u64.pack (keepFirst some (predecessor :: pred.recorded)) := by
    cases hanc : pred.ancestorApps with
    | none => simpa [recorded, hanc, keepFirst] using hstart
    | some predAnc =>
      simp only [hstart]
      rw [foldl_append_chunks predAnc fun i hi => List.mem_range.mp hi]
      simp only [recorded, hanc]
      rfl
  rw [lineageIds_eq_of_legacy]
  unfold lineageFrom
  simp only [hloop]
  generalize keepFirst some (predecessor :: pred.recorded) = held
  cases pred.predecessorApp with
  | none => rfl
  | some oldPred =>
    by_cases h0 : oldPred = 0
    · simp [h0]
    · simp only [if_neg h0, ← append_unless_contained]
      split_ifs <;> simp_all

section Ids

variable {room : ℕ} {id predecessor : U64} {g g' pred base : Ancestry}

lemma mem_lineageIds : id ∈ lineageIds predecessor pred ↔ id ∈ insert predecessor pred.blessed := by
  have h : (∃ a ∈ lineageIds predecessor pred, some a = some id) ↔
      ∃ a ∈ predecessor :: (pred.recorded ++ pred.legacy), some a = some id :=
    Lib.exists_mem_keepFirst_iff _ id
  simpa [blessed] using h

lemma nodup_lineageIds : (lineageIds predecessor pred).Nodup := by
  have h : ((lineageIds predecessor pred).filterMap some).Nodup := Lib.nodup_keys_keepFirst _
  rwa [List.filterMap_some] at h

lemma length_lineageFrom :
    (lineageFrom predecessor pred).length = 8 * (insert predecessor pred.blessed).card := by
  have hset : (lineageIds predecessor pred).toFinset = insert predecessor pred.blessed := by
    ext id
    rw [List.mem_toFinset, mem_lineageIds]
  rw [lineageFrom_eq, Lib.Field.length_pack, ← hset, List.toFinset_card_of_nodup nodup_lineageIds,
    Nat.mul_comm]
  rfl

lemma setPredecessorApp_eq_some_iff :
    setPredecessorApp room g predecessor pred = some g' ↔
      8 * (insert predecessor pred.blessed).card ≤ room ∧
        g' = { g with
          ancestorApps := some (Lib.Field.u64.pack (lineageIds predecessor pred)) } := by
  rw [setPredecessorApp, Option.bind_eq_bind, Option.bind_eq_some_iff, length_lineageFrom,
    lineageFrom_eq]
  constructor
  · rintro ⟨_, hfits, hg'⟩
    exact ⟨guard_eq_some.mp hfits, (Option.some.inj hg').symm⟩
  · rintro ⟨hfits, rfl⟩
    exact ⟨(), guard_eq_some.mpr hfits, rfl⟩

lemma setPredecessorApp_isSome_iff :
    (setPredecessorApp room g predecessor pred).isSome ↔
      8 * (insert predecessor pred.blessed).card ≤ room := by
  rw [Option.isSome_iff_exists]
  simp [setPredecessorApp_eq_some_iff]

lemma recorded_setPredecessorApp (h : setPredecessorApp room g predecessor pred = some g') :
    g'.recorded = lineageIds predecessor pred := by
  obtain ⟨-, rfl⟩ := setPredecessorApp_eq_some_iff.mp h
  rw [recorded, Option.map_some, Option.getD_some, Lib.Field.u64.unpack_pack (by decide)]

/-! ## A chain of upgrades -/

lemma blessed_setPredecessorApp (h : setPredecessorApp room {} predecessor pred = some g') :
    g'.blessed = insert predecessor pred.blessed := by
  have hlegacy : g'.legacy = [] := by
    obtain ⟨-, rfl⟩ := setPredecessorApp_eq_some_iff.mp h
    rfl
  ext id
  rw [blessed, hlegacy, recorded_setPredecessorApp h, List.append_nil, List.mem_toFinset,
    mem_lineageIds]

lemma blessed_upgrades {ids : List U64} (h : upgrades room base ids = some g) :
    g.blessed = ids.toFinset ∪ base.blessed := by
  induction ids generalizing g with
  | nil =>
    obtain rfl := Option.some.inj h
    simp
  | cons id earlier ih =>
    obtain ⟨pred, hpred, hset⟩ := Option.bind_eq_some_iff.mp h
    rw [blessed_setPredecessorApp hset, ih hpred, List.toFinset_cons, Finset.insert_union]

lemma mem_recorded_upgrades {ids : List U64} (h : upgrades room base ids = some g)
    (hids : ids ≠ []) : id ∈ g.recorded ↔ id ∈ ids ∨ id ∈ base.blessed := by
  cases ids with
  | nil => exact absurd rfl hids
  | cons last earlier =>
    obtain ⟨pred, hpred, hset⟩ := Option.bind_eq_some_iff.mp h
    rw [recorded_setPredecessorApp hset, mem_lineageIds, blessed_upgrades hpred]
    simp [or_assoc]

lemma upgrades_isSome_iff (room : ℕ) (base : Ancestry) (ids : List U64) :
    (upgrades room base ids).isSome ↔
      ids = [] ∨ 8 * (ids.toFinset ∪ base.blessed).card ≤ room := by
  induction ids with
  | nil => simp [upgrades]
  | cons id earlier ih =>
    have hset : (id :: earlier).toFinset ∪ base.blessed =
        insert id (earlier.toFinset ∪ base.blessed) := by
      rw [List.toFinset_cons, Finset.insert_union]
    simp only [reduceCtorEq, false_or, hset]
    constructor
    · intro h
      obtain ⟨g, hg⟩ := Option.isSome_iff_exists.mp h
      obtain ⟨pred, hpred, hlast⟩ := Option.bind_eq_some_iff.mp hg
      rw [← blessed_upgrades hpred]
      exact (setPredecessorApp_eq_some_iff.mp hlast).1
    · intro h
      have hle := Finset.card_le_card (Finset.subset_insert id (earlier.toFinset ∪ base.blessed))
      obtain ⟨pred, hpred⟩ := Option.isSome_iff_exists.mp (ih.mpr (Or.inr (by omega)))
      rw [upgrades, hpred]
      exact setPredecessorApp_isSome_iff.mpr (by rwa [blessed_upgrades hpred])

end Ids

/-! ## The app's list -/

section Packs

variable {room : ℕ} {g pred : Ancestry} {a p b : App}

lemma keepFirst_map_val (l : List U64) :
    keepFirst some (l.map Fin.val) = (keepFirst some l).map Fin.val := by
  induction l using List.reverseRecOn with
  | nil => rfl
  | append_singleton l id ih =>
    have hheld : Lib.isHeld some ((keepFirst some l).map Fin.val) id.val =
        Lib.isHeld some (keepFirst some l) id := by
      rw [Bool.eq_iff_iff, isHeld_iff, isHeld_iff, List.mem_map_of_injective Fin.val_injective]
    rw [List.map_append, List.map_cons, List.map_nil, Lib.keepFirst_concat, Lib.keepFirst_concat,
      ih, keep, keep, hheld]
    split_ifs <;> simp

lemma app_lineage_eq (id : AppId) (ancestors : List AppId) :
    ancestors.foldl (fun lineage id => if lineage.contains id then lineage else lineage ++ [id])
      [id] = keepFirst some (id :: ancestors) := by
  have hstep : (fun (lineage : List AppId) id =>
      if lineage.contains id then lineage else lineage ++ [id]) = keep some := by
    funext lineage id
    have hheld : lineage.contains id = Lib.isHeld some lineage id := by
      rw [Bool.eq_iff_iff, isHeld_iff, List.contains_iff_mem]
    rw [keep, hheld]
  rw [hstep]
  rfl

/-- **The connection.**  The app's own method leaves the ids that the packed one writes. -/
lemma packs_setPredecessorApp {g' : Ancestry} {c : Ctx} {id : U64} (hg : g.Packs a)
    (hpred : pred.Packs p) (hc : c.sender = a.creator)
    (h : setPredecessorApp room g id pred = some g') :
    ∃ b, a.setPredecessorApp c id p = some b ∧ g'.Packs b := by
  have hids : (p.ancestorApps.getD []).foldl
      (fun lineage id => if lineage.contains id then lineage else lineage ++ [id]) [id.val] =
      (keepFirst some (id :: pred.recorded)).map Fin.val := by
    rw [app_lineage_eq, ← keepFirst_map_val, hpred.1, recorded]
    cases pred.ancestorApps <;> rfl
  refine ⟨{ a with ancestorApps := some ((lineageIds id pred).map Fin.val) }, ?_, ?_⟩
  · simp only [App.setPredecessorApp, hc, hids, hpred.2, lineageIds_eq_of_legacy]
    generalize keepFirst some (id :: pred.recorded) = held
    cases pred.predecessorApp with
    | none => rfl
    | some old =>
      have hmem : (held.map Fin.val).contains old.val = Lib.isHeld some held old := by
        rw [Bool.eq_iff_iff, isHeld_iff, List.contains_iff_mem,
          List.mem_map_of_injective Fin.val_injective]
      have hzero : old.val = 0 ↔ old = 0 := Fin.val_eq_zero_iff
      simp only [Option.map_some, hmem, ne_eq, hzero, keep]
      split_ifs <;> simp_all
  · obtain ⟨-, rfl⟩ := setPredecessorApp_eq_some_iff.mp h
    refine ⟨?_, hg.2⟩
    rw [Option.map_some, Lib.Field.u64.unpack_pack (by decide)]

lemma lineageContains_of_packs (hg : g.Packs a) (id : U64) :
    a.lineageContains id = lineageContains (g.ancestorApps.getD []) id := by
  have hids : a.ancestorApps.getD [] =
      (Lib.Field.u64.unpack (g.ancestorApps.getD [])).map Fin.val := by
    rw [hg.1]
    cases g.ancestorApps <;> rfl
  rw [Bool.eq_iff_iff, lineageContains_iff, App.lineageContains, hids, List.contains_iff_mem,
    List.mem_map_of_injective Fin.val_injective]

lemma migrateLocal_isSome_iff {a old : App} {c : Ctx} {id : AppId} :
    (a.migrateLocal c id old).isSome ↔ a.lineageContains id ∧
      ∃ o l, old.locals c.sender = some o ∧ a.locals c.sender = some l ∧
        (l.migrateHandle o (a.lastHandleTime.getD 0)).isSome := by
  constructor
  · intro h
    obtain ⟨b, hb⟩ := Option.isSome_iff_exists.mp h
    obtain ⟨o, l, l', t, ho, hl, hm, -⟩ := App.migrateLocal_eq_some hb
    exact ⟨of_guard_bind hb, o, l, ho, hl, Option.isSome_iff_exists.mpr ⟨_, hm⟩⟩
  · rintro ⟨hlineage, o, l, ho, hl, hm⟩
    obtain ⟨⟨l', t⟩, hm⟩ := Option.isSome_iff_exists.mp hm
    have hguard : (guard (a.lineageContains id = true) : Option Unit) = some () :=
      guard_eq_some.mpr hlineage
    rw [App.migrateLocal, hguard]
    simp only [App.selfGrantSwClient_eq, App.modifyLocal, ho, hl, hm, Option.bind_eq_bind,
      Option.bind_some, Option.map_some]
    split_ifs <;> simp

end Packs

/-! ## The lineage -/

/-- **The lineage is correct while it fits.**  `set_predecessor_app` goes through exactly when the
different ids have room, and stores the predecessor, its recorded ancestors and its legacy pointer,
none twice; `migrate_local` then goes through exactly for these.  In a chain of upgrades the last
app has all earlier ones on record, and what the first had. -/
theorem lineage_correct (room : ℕ) :
    (∀ (a p : App) (g pred : Ancestry) (c : Ctx) (id : U64), g.Packs a → pred.Packs p →
      c.sender = a.creator →
        ((setPredecessorApp room g id pred).isSome ↔ 8 * (insert id pred.blessed).card ≤ room) ∧
          ∀ g', setPredecessorApp room g id pred = some g' → ∃ b ids,
            a.setPredecessorApp c id p = some b ∧ g'.Packs b ∧
              g'.ancestorApps = some (Lib.Field.u64.pack ids) ∧ ids.head? = some id ∧ ids.Nodup ∧
              (∀ x, x ∈ ids ↔
                x = id ∨ x ∈ pred.recorded ∨ pred.predecessorApp = some x ∧ x ≠ 0) ∧
              ∀ (c' : Ctx) (x : U64) (old : App) (o l : Local), old.locals c'.sender = some o →
                b.locals c'.sender = some l →
                (l.migrateHandle o (b.lastHandleTime.getD 0)).isSome →
                  ((b.migrateLocal c' x old).isSome ↔ x ∈ ids)) ∧
      ∀ (base : Ancestry) (ids : List U64),
        ((upgrades room base ids).isSome ↔
            ids = [] ∨ 8 * (ids.toFinset ∪ base.blessed).card ≤ room) ∧
          ∀ g, upgrades room base ids = some g → ids ≠ [] →
            ∀ x, x ∈ g.recorded ↔ x ∈ ids ∨ x ∈ base.blessed := by
  refine ⟨fun a p g pred c id hg hpred hc => ⟨setPredecessorApp_isSome_iff, ?_⟩,
    fun base ids => ⟨upgrades_isSome_iff room base ids, fun g h hids x =>
      mem_recorded_upgrades h hids⟩⟩
  intro g' hg'
  obtain ⟨b, hb, hpacks⟩ := packs_setPredecessorApp hg hpred hc hg'
  have hstored : g'.ancestorApps = some (Lib.Field.u64.pack (lineageIds id pred)) := by
    obtain ⟨-, rfl⟩ := setPredecessorApp_eq_some_iff.mp hg'
    rfl
  refine ⟨b, lineageIds id pred, hb, hpacks, hstored, Lib.head?_keepFirst_cons _ _,
    nodup_lineageIds, fun x => ?_, ?_⟩
  · rw [mem_lineageIds, Finset.mem_insert, blessed, List.mem_toFinset, List.mem_append]
    simp [legacy, Option.filter_eq_some_iff]
  · intro c' x old o l ho hl hm
    rw [migrateLocal_isSome_iff, lineageContains_of_packs hpacks, hstored, Option.getD_some,
      lineageContains_pack]
    exact and_iff_left ⟨o, l, ho, hl, hm⟩

theorem lineage_of_two :
    let pred : Ancestry := ⟨some (itob 1), none⟩
    let a : App := { creator := "C", locals := fun _ => some {} }
    let p : App := { creator := "C", ancestorApps := some [1] }
    ∃ (b : App) (ids : List U64), a.setPredecessorApp { sender := "C" } 2 p = some b ∧
      ids.head? = some 2 ∧
      (∀ x, x ∈ ids ↔ x = 2 ∨ x ∈ pred.recorded ∨ pred.predecessorApp = some x ∧ x ≠ 0) ∧
      ∀ x : U64, (b.migrateLocal { sender := "X" } x a).isSome ↔ x ∈ ids := by
  intro pred a p
  have hpacks : ({} : Ancestry).Packs a := ⟨rfl, rfl⟩
  have hpred : pred.Packs p := ⟨by decide, rfl⟩
  obtain ⟨hfits, hstored⟩ :=
    (lineage_correct 116).1 a p {} pred { sender := "C" } 2 hpacks hpred rfl
  obtain ⟨g', hg'⟩ := Option.isSome_iff_exists.mp (hfits.mpr (by decide))
  obtain ⟨b, ids, hb, -, -, hhead, -, hmem, hmigrate⟩ := hstored g' hg'
  have hlocals : b.locals = a.locals :=
    App.locals_of_isGlobal (k := .setPredecessorApp { sender := "C" } 2 p) hb rfl
  refine ⟨b, ids, hb, hhead, hmem, fun x => ?_⟩
  exact hmigrate { sender := "X" } x a {} {} rfl (by rw [hlocals]) rfl

theorem lineage_outgrows_value :
    upgrades 128 {} ((List.finRange 17).map fun i => Fin.ofNat (2 ^ 64) (i + 1)) = none ∧
      upgrades 116 {} ((List.finRange 15).map fun i => Fin.ofNat (2 ^ 64) (i + 1)) = none := by
  rw [← Option.not_isSome_iff_eq_none, ← Option.not_isSome_iff_eq_none, upgrades_isSome_iff,
    upgrades_isSome_iff]
  decide

end Ancestry

end Bingle.Dapp
