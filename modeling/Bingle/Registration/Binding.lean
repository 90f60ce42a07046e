import Bingle.Registration.Signing

/-!
# What a group id binds

The transactions of an atomic group all carry the group id, the hash of the ids that the
transactions have without it.  The client checks that the transactions it is given carry one group
id; it does not compute the hash.
-/

namespace Bingle.Registration

open List Option
open Lib.MsgPack (Value pack Value.Fits)

/-! ## The hash of a group -/

def Txn.ungrouped (t : Txn) : Bytes := pack (keyed (t.fields.filter fun e => e.1 ≠ "grp"))

section Hash

variable {Key : Type} (crates : Crates Key)

def txMessage (raw : Bytes) : Bytes := utf8 "TX" ++ raw

def txList (raws : List Bytes) : Value :=
  .map [(.str (utf8 "txlist"), .arr (raws.map fun raw => .bin (crates.sha512256 (txMessage raw))))]

def groupMessage (raws : List Bytes) : Bytes := utf8 "TG" ++ pack (txList crates raws)

def groupHash (raws : List Bytes) : Bytes := crates.sha512256 (groupMessage crates raws)

def hashed (raws : List Bytes) : List Bytes := groupMessage crates raws :: raws.map txMessage

def Crates.Digests : Prop := ∀ b, (crates.sha512256 b).length = 32

variable {crates}

lemma fits_txList (hdigests : crates.Digests) {raws : List Bytes} (h : raws.length ≤ 16) :
    (txList crates raws).Fits := by
  have hkey : (utf8 "txlist").length < 256 ^ 4 := by decide
  have hids : Lib.MsgPack.FitAll
      (raws.map fun raw => Value.bin (crates.sha512256 (txMessage raw))) := by
    rw [Lib.MsgPack.fitAll_iff]
    intro v hv
    obtain ⟨raw, -, rfl⟩ := List.mem_map.mp hv
    rw [Value.Fits, hdigests]
    norm_num
  refine ⟨by norm_num, ⟨hkey, ?_, hids⟩, trivial⟩
  rw [length_map]
  omega

lemma eq_of_map_eq_of_injOn {α β : Type} {f : α → β} {l l' : List α}
    (hinj : Set.InjOn f {a | a ∈ l ++ l'}) (h : l.map f = l'.map f) : l = l' := by
  induction l generalizing l' with
  | nil => exact (map_eq_nil_iff.mp h.symm).symm
  | cons a l ih =>
    cases l' with
    | nil => cases h
    | cons a' l' =>
      rw [map_cons, map_cons, List.cons.injEq] at h
      have hhead : a = a' := hinj (by simp) (by simp) h.1
      have htail : l = l' := by
        refine ih (hinj.mono ?_) h.2
        intro x hx
        rcases mem_append.mp hx with hx | hx <;> simp [hx]
      rw [hhead, htail]

/-- **Two groups with one hash have the same transactions.** -/
theorem eq_of_groupHash_eq (hdigests : crates.Digests) {raws raws' : List Bytes}
    (hlength : raws.length ≤ 16) (hlength' : raws'.length ≤ 16)
    (hinj : Set.InjOn crates.sha512256 {m | m ∈ hashed crates raws ++ hashed crates raws'})
    (h : groupHash crates raws = groupHash crates raws') : raws = raws' := by
  have hmessage : groupMessage crates raws = groupMessage crates raws' :=
    hinj (by simp [hashed]) (by simp [hashed]) h
  have hlist : txList crates raws = txList crates raws' :=
    Lib.MsgPack.pack_injective (fits_txList hdigests hlength) (fits_txList hdigests hlength')
      (append_cancel_left hmessage)
  have hids : (raws.map txMessage).map crates.sha512256 =
      (raws'.map txMessage).map crates.sha512256 := by
    simp only [txList, Value.map.injEq, List.cons.injEq, Prod.mk.injEq, true_and, and_true,
      Value.arr.injEq] at hlist
    have hbin : Function.Injective (List.map Value.bin) :=
      map_injective_iff.mpr fun _ _ h => Value.bin.inj h
    refine hbin ?_
    simpa only [List.map_map, Function.comp_def] using hlist
  have hmessages : raws.map txMessage = raws'.map txMessage := by
    refine eq_of_map_eq_of_injOn (hinj.mono ?_) hids
    intro m hm
    rcases mem_append.mp hm with hm | hm
    · exact mem_append_left _ (mem_cons_of_mem _ hm)
    · exact mem_append_right _ (mem_cons_of_mem _ hm)
  exact map_injective_iff.mpr (fun _ _ h => append_cancel_left h) hmessages

end Hash

/-! ## Groups -/

variable {fields : List (String × Value)} {t t' : Txn}

lemma fits_keyed_filter (h : (keyed fields).Fits)
    (p : String × Value → Bool) : (keyed (fields.filter p)).Fits := by
  have hentries := Lib.MsgPack.fitEntries_iff.mp h.2
  refine ⟨?_, Lib.MsgPack.fitEntries_iff.mpr ?_⟩
  · have hlt := h.1
    have hle := length_filter_le p fields
    rw [length_map] at hlt ⊢
    omega
  · intro e he
    obtain ⟨field, hfield, rfl⟩ := List.mem_map.mp he
    exact hentries _ (List.mem_map.mpr ⟨field, mem_of_mem_filter hfield, rfl⟩)

lemma keyed_injective : Function.Injective keyed := by
  intro fields fields' h
  refine map_injective_iff.mpr ?_ (Value.map.inj h)
  rintro ⟨k, v⟩ ⟨k', v'⟩ heq
  rw [Prod.mk.injEq, Value.str.injEq] at heq
  exact Prod.ext (utf8_injective heq.1) heq.2

lemma Txn.ext_fields (h : t.fields = t'.fields) : t = t' := by
  cases t
  cases t'
  cases h
  rfl

lemma Txn.encode_injective : Function.Injective Txn.encode := by
  intro t t' h
  exact Txn.ext_fields (keyed_injective (Lib.MsgPack.pack_injective t.fits t'.fits h))

lemma filter_eq_of_lookup (h : (fields.map Prod.fst).Nodup)
    {name : String} {v : Value} (hv : fields.lookup name = some v) :
    fields.filter (fun e => e.1 = name) = [(name, v)] := by
  induction fields with
  | nil => cases hv
  | cons e fields ih =>
    obtain ⟨k, w⟩ := e
    rw [map_cons, nodup_cons] at h
    by_cases hk : name = k
    · subst hk
      have hrest : fields.filter (fun e => e.1 = name) = [] := by
        rw [filter_eq_nil_iff]
        intro e he
        have hne : e.1 ≠ name := fun heq => h.1 (List.mem_map.mpr ⟨e, he, heq⟩)
        simpa using hne
      rw [lookup_cons_self, some.injEq] at hv
      rw [filter_cons_of_pos (by simp), hrest, hv]
    · rw [lookup_cons, beq_false_of_ne hk] at hv
      rw [filter_cons_of_neg (by simpa using Ne.symm hk)]
      exact ih h.2 hv

lemma Txn.eq_of_ungrouped {grp : Value} (hgrp : t.get "grp" = some grp)
    (hgrp' : t'.get "grp" = some grp) (h : t.ungrouped = t'.ungrouped) : t = t' := by
  have hfilter := keyed_injective (Lib.MsgPack.pack_injective (fits_keyed_filter t.fits _)
    (fits_keyed_filter t'.fits _) h)
  have hperm (u : Txn) (hu : u.get "grp" = some grp) :
      (("grp", grp) :: u.fields.filter fun e => e.1 ≠ "grp").Perm u.fields := by
    have := filter_append_perm (fun e : String × Value => e.1 = "grp") u.fields
    rw [filter_eq_of_lookup u.nodup hu] at this
    simpa only [decide_not, singleton_append] using this
  have hfields : t.fields.Perm t'.fields := by
    have hgrouped := hperm t hgrp
    rw [hfilter] at hgrouped
    exact hgrouped.symm.trans (hperm t' hgrp')
  refine Txn.ext_fields (hfields.eq_of_pairwise ?_ (pairwise_map.mp t.sorted)
    (pairwise_map.mp t'.sorted))
  intro e e' _ _ hlt hgt
  exact absurd hgt (List.lt_asymm hlt)

section Groups

variable {Key : Type} {crates : Crates Key}

variable {t : Txn} {transactions : List String} {group : List Bytes}

lemma get_grp_of_groupOnly (hreads : crates.ReadsShortest) {grp : Bytes}
    (h : crates.unpack t.encode >>= groupOnly = some (some grp)) :
    t.get "grp" = some (.bin grp) := by
  obtain ⟨v, hunpack, hgroup⟩ := bind_eq_some_iff.mp h
  rw [hreads _ v t.fits hunpack] at hgroup
  obtain ⟨slot, hslot, hread⟩ := bind_eq_some_iff.mp hgroup
  rw [keyed, readStruct, readEntries_keyed t.nodup] at hslot
  simp only [Bool.false_eq_true, false_and, if_false, some.injEq] at hslot
  subst hslot
  exact get_bytes (o := some grp) hread rfl

lemma exists_grp_of_decodeGroupFrom {index : ℕ} {groupId : Option Bytes}
    (h : decodeGroupFrom crates index groupId transactions = .ok group) :
    ∃ grp, groupId.all (· = grp) ∧
      ∀ bytes ∈ group, crates.unpack bytes >>= groupOnly = some (some grp) := by
  induction transactions generalizing index groupId group with
  | nil =>
    cases h
    exact ⟨groupId.getD [], by cases groupId <;> simp, by simp⟩
  | cons encoded transactions ih =>
    obtain ⟨bytes, grp, rest, -, hgrp, hid, hrest, rfl⟩ := decodeGroupFrom_cons h
    obtain ⟨grp', hall, hgroup⟩ := ih hrest
    obtain rfl : grp = grp' := by simpa using hall
    exact ⟨grp, hid, forall_mem_cons.mpr ⟨hgrp, hgroup⟩⟩

structure Submittable (crates : Crates Key) (ts : List Txn) : Prop where
  length_le : ts.length ≤ 16
  grp : ∀ t ∈ ts, t.get "grp" = some (.bin (groupHash crates (ts.map Txn.ungrouped)))

/-- The hash tells apart whatever is hashed for the two groups. -/
def CollisionFree (crates : Crates Key) (ts ts' : List Txn) : Prop :=
  Set.InjOn crates.sha512256
    {m | m ∈ hashed crates (ts.map Txn.ungrouped) ++ hashed crates (ts'.map Txn.ungrouped)}

/-- **A transaction is in one group.** -/
theorem Submittable.eq_of_mem (hdigests : crates.Digests) {ts ts' : List Txn}
    (h : Submittable crates ts) (h' : Submittable crates ts') (hfree : CollisionFree crates ts ts')
    (ht : t ∈ ts) (ht' : t ∈ ts') : ts = ts' := by
  have hhash := (h.grp t ht).symm.trans (h'.grp t ht')
  rw [some.injEq, Value.bin.injEq] at hhash
  have hraws : ts.map Txn.ungrouped = ts'.map Txn.ungrouped := by
    refine eq_of_groupHash_eq hdigests ?_ ?_ hfree hhash
    · rw [length_map]
      exact h.length_le
    · rw [length_map]
      exact h'.length_le
  have hgrp : ∀ u ∈ ts ++ ts',
      u.get "grp" = some (.bin (groupHash crates (ts.map Txn.ungrouped))) := by
    intro u hu
    rcases mem_append.mp hu with hu | hu
    · exact h.grp u hu
    · rw [hhash]
      exact h'.grp u hu
  exact eq_of_map_eq_of_injOn (fun u hu u' hu' => Txn.eq_of_ungrouped (hgrp u hu) (hgrp u' hu'))
    hraws

structure Bound (crates : Crates Key) (indexes : List ℕ) (group : List Bytes) (grp : Bytes) :
    Prop where
  carries : ∀ bytes ∈ group, crates.unpack bytes >>= groupOnly = some (some grp)
  get_grp : ∀ ts : List Txn, group = ts.map Txn.encode → ∀ t ∈ ts, t.get "grp" = some (.bin grp)
  binds : ∀ ts : List Txn, group = ts.map Txn.encode → grp = groupHash crates (ts.map Txn.ungrouped) →
    ∀ ts' : List Txn, Submittable crates ts' → CollisionFree crates ts ts' →
      (∃ i ∈ indexes, ∃ t ∈ ts', t.encode = group.getD i []) → ts = ts'

lemma exists_bound (hreads : crates.ReadsShortest) (hdigests : crates.Digests) (indexes : List ℕ)
    {sizes : List ℕ} (h : decodeGroup crates transactions = .ok group ∧ transactions.length ∈ sizes)
    (hsizes : ∀ n ∈ sizes, n ≤ 16 ∧ ∀ i ∈ indexes, i < n) :
    ∃ grp, Bound crates indexes group grp := by
  obtain ⟨-, hlength⟩ := given_of_decodeGroupFrom h.1
  obtain ⟨hsize, hinside⟩ := hsizes _ h.2
  obtain ⟨grp, -, hcarries⟩ := exists_grp_of_decodeGroupFrom h.1
  have hget : ∀ ts : List Txn, group = ts.map Txn.encode →
      ∀ t ∈ ts, t.get "grp" = some (.bin grp) := by
    rintro ts rfl t ht
    exact get_grp_of_groupOnly hreads (hcarries _ (List.mem_map_of_mem ht))
  refine ⟨grp, hcarries, hget, ?_⟩
  rintro ts hgroup hhash ts' hts' hfree ⟨i, hi, t, ht, hencode⟩
  have hts : Submittable crates ts := by
    refine ⟨?_, fun t ht => ?_⟩
    · rw [← hlength, hgroup, length_map] at hsize
      exact hsize
    · rw [← hhash]
      exact hget ts hgroup t ht
  have hmem : t.encode ∈ ts.map Txn.encode := by
    have hlt : i < group.length := hlength ▸ hinside i hi
    rw [hencode, ← hgroup, getD_eq_getElem _ _ hlt]
    exact getElem_mem hlt
  obtain ⟨u, hu, heq⟩ := List.mem_map.mp hmem
  rw [Txn.encode_injective heq] at hu
  exact hts.eq_of_mem hdigests hts' hfree hu ht

/-- **What the client signs is bound to one group, where that carries its hash.**  The transactions
of a group that is accepted carry one group id; that it is their hash is not checked. -/
theorem accepted_groups_bound (hreads : crates.ReadsShortest) (hdigests : crates.Digests) :
    (∀ (transactions : List String) (signIndexes : List ℕ) (ids : GroupIds) (handle : String)
        (key : Key) (signed : List String) (log : List (Key × Bytes)),
      (signRegistrationGroup crates transactions signIndexes ids handle key).exec [] =
        (.ok signed, log) →
      ∃ group grp, transactions.mapM crates.base64Decode = some group ∧
        Bound crates registrationSignIndexes group grp) ∧
    (∀ (transactions : List String) (signIndexes : List ℕ) (ids : GroupIds) (handle : String)
        (oldKey newKey : Key) (signed : List String) (log : List (Key × Bytes)),
      (signRecoveryGroup crates transactions signIndexes ids handle oldKey newKey).exec [] =
        (.ok signed, log) →
      ∃ group grp, transactions.mapM crates.base64Decode = some group ∧
        Bound crates recoverySignIndexes group grp) := by
  constructor
  · intro transactions signIndexes ids handle key signed log h
    obtain ⟨group, hcheck⟩ := (exec_eq_ok_iff crates).mp ⟨signed, log, h⟩
    obtain ⟨hdecode, -⟩ := withinRegistration_of_check hreads hcheck
    obtain ⟨grp, hbound⟩ := exists_bound hreads hdigests registrationSignIndexes hdecode (by decide)
    exact ⟨group, grp, (given_of_decodeGroupFrom hdecode.1).1, hbound⟩
  · intro transactions signIndexes ids handle oldKey newKey signed log h
    obtain ⟨group, hcheck⟩ := (exec_eq_ok_iff crates).mp ⟨signed, log, h⟩
    obtain ⟨hdecode, -⟩ := withinRecovery_of_check hreads hcheck
    obtain ⟨grp, hbound⟩ := exists_bound hreads hdigests recoverySignIndexes hdecode (by decide)
    exact ⟨group, grp, (given_of_decodeGroupFrom hdecode.1).1, hbound⟩

end Groups

/-! ## A group that is not what it says

The service sends the group of `Signing`, with another first transaction: it shows a payment of
500000, where the group that has the group id pays 1. -/

namespace Alice

open Lib.MsgPack (be)

def shown : Txn := .ofFields (paymentFields 500000) (by decide +kernel)

def shownGroup : List Txn := [shown, optIn, gift, appOptIn, payment, register, claim]

def txIds : List Bytes :=
  [be 32 0x277bb05c146701a877a991bc399286079dfecbebfc501428f4678a8546fd11d9,
    be 32 0xada6242165708eaab18383c5b44e6a9f6f7c5149ea0a0deed0a0692a2d4328d3,
    be 32 0x6399703e2d1001acf33efd0cb553c0fb7b6bbdead2a7c87dc396dc7ea53ce350,
    be 32 0xee0ad574c53e61c9f1c1b46b35cfbd478d29d9710afb3570ddfd7a2ee47c5f4e,
    be 32 0xbd94e1c75315dce92885651504f9c2d21433e4da1739092498aa7676951a4316,
    be 32 0x3f002fe7d891997c83e6df9979920559032c5cc5a8433041cedfda36148b3049,
    be 32 0xec78abf69dac25996a07dfb776fe0bb824f69ce3138f3a1dc938333028ced4fe]

def shownId : Bytes := be 32 0x612ab9f00b1ba6a1ac86dbce23d23c4bb8ece784f59865671f7179f84c3756f9

def idsMessage (txids : List Bytes) : Bytes :=
  utf8 "TG" ++ pack (.map [(.str (utf8 "txlist"), .arr (txids.map .bin))])

def digests : List (Bytes × Bytes) :=
  [(utf8 registerMethod, method), (utf8 "appID" ++ be 8 1001, dapp),
    (txMessage shown.ungrouped, shownId), (idsMessage txIds, groupId),
    (idsMessage (shownId :: txIds.tail),
      be 32 0xc676cefe1107368bdf70eb95e77d7b7e6557aec4f0adfc44ce7b04d6e51737e5)] ++
    (group.map fun t => txMessage t.ungrouped).zip txIds

def groupDigest (b : Bytes) : Bytes := (digests.lookup b).getD (List.replicate 32 0)

lemma crates_digests : (crates groupDigest).Digests := by
  intro b
  have hlength : ∀ e ∈ digests, e.2.length = 32 := by decide +kernel
  show ((digests.lookup b).getD (List.replicate 32 0)).length = 32
  cases hlookup : digests.lookup b with
  | none => rfl
  | some d =>
    obtain ⟨before, after, heq, -⟩ := lookup_eq_some_iff.mp hlookup
    exact hlength (b, d) (heq ▸ mem_append_right before mem_cons_self)

lemma groupHash_group : groupHash (crates groupDigest) (group.map Txn.ungrouped) = groupId := by
  decide +kernel

lemma groupHash_shownGroup :
    groupHash (crates groupDigest) (shownGroup.map Txn.ungrouped) ≠ groupId := by
  decide +kernel

lemma get_grp_group : ∀ t ∈ group, t.get "grp" = some (.bin groupId) := by
  simp only [group, forall_mem_cons]
  exact ⟨rfl, rfl, rfl, rfl, rfl, rfl, rfl, by simp⟩

lemma submittable_group : Submittable (crates groupDigest) group := by
  refine ⟨by decide, fun t ht => ?_⟩
  rw [groupHash_group]
  exact get_grp_group t ht

lemma collisionFree_groups : CollisionFree (crates groupDigest) shownGroup group := by
  have hmem : ∀ m ∈ hashed (crates groupDigest) (shownGroup.map Txn.ungrouped) ++
      hashed (crates groupDigest) (group.map Txn.ungrouped), m ∈ digests.map Prod.fst := by
    decide +kernel
  have hnodup : ((digests.map Prod.fst).map groupDigest).Nodup := by decide +kernel
  exact fun m hm m' hm' h => inj_on_of_nodup_map hnodup (hmem m hm) (hmem m' hm') h

lemma decodeGroup_shownGroup :
    decodeGroup (crates groupDigest) (transactions shownGroup) = .ok (shownGroup.map Txn.encode) :=
  decodeGroup_transactions groupDigest (by decide +kernel)

lemma exec_group : ∃ signed log,
    (signRegistrationGroup (crates groupDigest) (transactions group) registrationSignIndexes ids
      "alice" ()).exec [] = (.ok signed, log) := by
  refine (exec_eq_ok_iff (crates groupDigest)).mpr ⟨group.map Txn.encode, ?_⟩
  rw [checkRegistrationGroup, decodeGroup_group]
  decide +kernel

lemma exec_shownGroup : ∃ signed log,
    (signRegistrationGroup (crates groupDigest) (transactions shownGroup) registrationSignIndexes ids
      "alice" ()).exec [] = (.ok signed, log) := by
  refine (exec_eq_ok_iff (crates groupDigest)).mpr ⟨shownGroup.map Txn.encode, ?_⟩
  rw [checkRegistrationGroup, decodeGroup_shownGroup]
  decide +kernel

theorem alice_group_bound :
    (crates groupDigest).ReadsShortest ∧ (crates groupDigest).Digests ∧
    (∃ signed log, (signRegistrationGroup (crates groupDigest) (transactions group)
      registrationSignIndexes ids "alice" ()).exec [] = (.ok signed, log)) ∧
    Submittable (crates groupDigest) group ∧
    ∀ ts', Submittable (crates groupDigest) ts' → CollisionFree (crates groupDigest) group ts' →
      (∃ i ∈ registrationSignIndexes, ∃ t ∈ ts', t.encode = (group.map Txn.encode).getD i []) →
      group = ts' := by
  obtain ⟨hregistration, -⟩ :=
    accepted_groups_bound (crates_readsShortest groupDigest) crates_digests
  have hdecode := given_of_decodeGroupFrom (decodeGroup_group groupDigest)
  have hexec := exec_group
  -- the texts are not to be evaluated
  obtain ⟨given, heq⟩ : ∃ given, given = transactions group := ⟨_, rfl⟩
  rw [← heq] at hdecode hexec ⊢
  refine ⟨crates_readsShortest groupDigest, crates_digests, hexec, submittable_group, ?_⟩
  obtain ⟨signed, log, hexec⟩ := hexec
  obtain ⟨bytes, grp, hgiven, hbound⟩ := hregistration given _ _ _ _ signed log hexec
  obtain rfl : group.map Txn.encode = bytes := some.inj (hdecode.1.symm.trans hgiven)
  have hgrp : grp = groupId := by
    have hcarried := hbound.get_grp group rfl optIn (by simp [group])
    rw [get_grp_group optIn (by simp [group]), some.injEq, Value.bin.injEq] at hcarried
    exact hcarried.symm
  exact hbound.binds group rfl (hgrp.trans groupHash_group.symm)

theorem shown_group_not_bound :
    (∃ signed log, (signRegistrationGroup (crates groupDigest) (transactions shownGroup)
      registrationSignIndexes ids "alice" ()).exec [] = (.ok signed, log)) ∧
    (transactions shownGroup).mapM (crates groupDigest).base64Decode =
      some (shownGroup.map Txn.encode) ∧
    optIn ∈ shownGroup ∧ optIn.get "grp" = some (.bin groupId) ∧
    groupHash (crates groupDigest) (shownGroup.map Txn.ungrouped) ≠ groupId ∧
    Submittable (crates groupDigest) group ∧ CollisionFree (crates groupDigest) shownGroup group ∧
    (∀ i ∈ registrationSignIndexes,
      (group.map Txn.encode).getD i [] = (shownGroup.map Txn.encode).getD i []) ∧
    group.map Txn.encode ≠ shownGroup.map Txn.encode := by
  refine ⟨exec_shownGroup, (given_of_decodeGroupFrom decodeGroup_shownGroup).1,
    by simp [shownGroup], get_grp_group optIn (by simp [group]), groupHash_shownGroup,
    submittable_group, collisionFree_groups, ?_, ?_⟩
  · decide +kernel
  · decide +kernel

end Alice

end Bingle.Registration
