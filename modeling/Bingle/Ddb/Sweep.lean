import Bingle.Lib.Run
import Bingle.Messages.Handlers

/-!
# The expiry sweep

A periodic sweep (`sweep_expired`, `bingle_core/src/ddb/mod.rs`) takes the adverts that have passed
their time to live out of the map.  What has expired stays expired as the clock goes on.
-/

namespace Bingle.Ddb

open Messages Lib

namespace Backend

variable (b : Backend) (now : ℕ)

def expiredIds : List Id :=
  ((b.map.entries.map Sigma.snd).filter (b.isExpired now)).map fun s => s.record.id

/-- `sweep_expired`: deletes what has expired and returns the ids. -/
def sweepExpired : Backend × List Id := ((b.expiredIds now).foldl delete b, b.expiredIds now)

def liveAt (id : Id) : Option StoredRecord := (b.map.lookup id).filter fun s => !b.isExpired now s

end Backend

/-! ## What a sweep removes -/

section Sweep

variable {b b' : Backend} {t t' : ℕ}

lemma isExpired_congr (httl : b.advertTtl = b'.advertTtl) (hown : b.ownId = b'.ownId) (t : ℕ) :
    b.isExpired t = b'.isExpired t := by
  funext s
  rw [Backend.isExpired, Backend.isExpired, httl, hown]

lemma isExpired_mono (ht : t ≤ t') {s : StoredRecord} (h : b.isExpired t s = true) :
    b.isExpired t' s = true := by
  rw [Backend.isExpired] at h ⊢
  split at h
  · cases h
  · split at h
    · cases h
    · next hkept =>
        rw [if_neg hkept]
        simp only [decide_eq_true_eq] at h ⊢
        omega

lemma isExpired_of_ownId {s : StoredRecord} (h : b.ownId = some s.record.id) (t : ℕ) :
    b.isExpired t s = false := by
  rw [Backend.isExpired]
  split <;> simp [h]

lemma mem_expiredIds {id : Id} :
    id ∈ b.expiredIds t ↔ ∃ s ∈ b.map.lookup id, b.isExpired t s = true := by
  simp only [Backend.expiredIds, List.mem_map, List.mem_filter]
  constructor
  · rintro ⟨s, ⟨⟨e, he, rfl⟩, hexp⟩, rfl⟩
    have hlookup : e.2 ∈ b.map.lookup e.1 := AList.mem_lookup_iff.mpr he
    exact ⟨e.2, b.keyed e.1 e.2 hlookup ▸ hlookup, hexp⟩
  · rintro ⟨s, hs, hexp⟩
    exact ⟨s, ⟨⟨⟨id, s⟩, AList.mem_lookup_iff.mp hs, rfl⟩, hexp⟩, b.keyed id s hs⟩

lemma foldl_delete_settings (ids : List Id) (b : Backend) :
    (ids.foldl Backend.delete b).advertTtl = b.advertTtl ∧
      (ids.foldl Backend.delete b).ownId = b.ownId := by
  induction ids generalizing b with
  | nil => exact ⟨rfl, rfl⟩
  | cons id ids ih => exact ih (b.delete id)

lemma lookup_foldl_delete (ids : List Id) (b : Backend) (id : Id) :
    (ids.foldl Backend.delete b).map.lookup id = if id ∈ ids then none else b.map.lookup id := by
  induction ids generalizing b with
  | nil => simp
  | cons id' ids ih =>
    rw [List.foldl_cons, ih]
    by_cases hid : id = id'
    · subst hid
      simp [Backend.delete]
    · simp [Backend.delete, hid, AList.lookup_erase_ne hid]

lemma lookup_sweepExpired (b : Backend) (t : ℕ) (id : Id) :
    (b.sweepExpired t).1.map.lookup id = b.liveAt t id := by
  rw [Backend.sweepExpired, lookup_foldl_delete, Backend.liveAt]
  cases hs : b.map.lookup id with
  | none => simp
  | some s =>
    have hmem : id ∈ b.expiredIds t ↔ b.isExpired t s = true := by
      rw [mem_expiredIds, hs]
      simp
    cases hexp : b.isExpired t s <;> simp [hmem, hexp, Option.filter]

end Sweep

/-! ## Agreement on what is live -/

structure Agree (t : ℕ) (b b' : Backend) : Prop where
  ttl : b.advertTtl = b'.advertTtl
  ownId : b.ownId = b'.ownId
  live : ∀ id, b.liveAt t id = b'.liveAt t id

section Agree

variable {b b' b'' : Backend} {t t' : ℕ}

lemma Agree.trans (h : Agree t b b') (h' : Agree t b' b'') : Agree t b b'' :=
  ⟨h.ttl.trans h'.ttl, h.ownId.trans h'.ownId, fun id => (h.live id).trans (h'.live id)⟩

lemma Agree.symm (h : Agree t b b') : Agree t b' b :=
  ⟨h.ttl.symm, h.ownId.symm, fun id => (h.live id).symm⟩

lemma Agree.isExpired (h : Agree t b b') (t' : ℕ) : b.isExpired t' = b'.isExpired t' :=
  isExpired_congr h.ttl h.ownId t'

lemma liveAt_later (ht : t ≤ t') (id : Id) :
    b.liveAt t' id = (b.liveAt t id).filter fun s => !b.isExpired t' s := by
  rw [Backend.liveAt, Backend.liveAt, Option.filter_filter]
  congr 1
  funext s
  cases hexp : b.isExpired t s with
  | false => simp
  | true => simp [isExpired_mono ht hexp]

lemma Agree.later (h : Agree t b b') (ht : t ≤ t') : Agree t' b b' :=
  ⟨h.ttl, h.ownId, fun id => by
    rw [liveAt_later ht, liveAt_later ht, h.live, h.isExpired]⟩

lemma agree_sweepExpired (b : Backend) (t : ℕ) : Agree t (b.sweepExpired t).1 b := by
  obtain ⟨httl, hown⟩ := foldl_delete_settings (b.expiredIds t) b
  have hexp : (b.sweepExpired t).1.isExpired t = b.isExpired t := isExpired_congr httl hown t
  refine ⟨httl, hown, fun id => ?_⟩
  rw [Backend.liveAt, lookup_sweepExpired, Backend.liveAt, Option.filter_filter, hexp]
  simp only [Bool.and_self]

lemma Agree.sweepExpired (h : Agree t b b') : Agree t (b.sweepExpired t).1 (b'.sweepExpired t).1 :=
  (agree_sweepExpired b t).trans (h.trans (agree_sweepExpired b' t).symm)

lemma Agree.upsert (h : Agree t b b') (record : AdvertRecord) :
    Agree t (b.upsert t record) (b'.upsert t record) := by
  refine ⟨h.ttl, h.ownId, fun id => ?_⟩
  by_cases hid : id = record.id
  · subst hid
    have hexp : (b.upsert t record).isExpired t = (b'.upsert t record).isExpired t := h.isExpired t
    rw [Backend.liveAt, Backend.liveAt, hexp]
    simp [Backend.upsert]
  · have hlive := h.live id
    simp only [Backend.liveAt, Backend.upsert, AList.lookup_insert_ne hid] at hlive ⊢
    exact hlive

lemma Agree.delete (h : Agree t b b') (id' : Id) : Agree t (b.delete id') (b'.delete id') := by
  refine ⟨h.ttl, h.ownId, fun id => ?_⟩
  by_cases hid : id = id'
  · subst hid
    simp [Backend.liveAt, Backend.delete]
  · have hlive := h.live id
    simp only [Backend.liveAt, Backend.delete, AList.lookup_erase_ne hid] at hlive ⊢
    exact hlive

end Agree

/-! ## What can be seen -/

section Seen

variable {b b' : Backend} {t : ℕ}

lemma Agree.lookup (h : Agree t b b') (id : Id) : b.lookup t id = b'.lookup t id :=
  congrArg (Option.map StoredRecord.record) (h.live id)

lemma Agree.liveRecords (h : Agree t b b') : (b.liveRecords t).Perm (b'.liveRecords t) := by
  refine (List.perm_ext_iff_of_nodup (b.nodup_liveRecords t).of_map
    (b'.nodup_liveRecords t).of_map).mpr fun r => ?_
  rw [Backend.mem_liveRecords_iff, Backend.mem_liveRecords_iff, h.lookup]

lemma insertionSort_id_congr {l l' : List AdvertRecord} (h : l.Perm l')
    (hnodup : (l.map AdvertRecord.id).Nodup) :
    (l.insertionSort fun r r' => r.id ≤ r'.id) = l'.insertionSort fun r r' => r.id ≤ r'.id := by
  have : IsTrans AdvertRecord fun r r' => r.id ≤ r'.id := ⟨fun _ _ _ => le_trans⟩
  have : Std.Total fun r r' : AdvertRecord => r.id ≤ r'.id := ⟨fun _ _ => le_total _ _⟩
  have hperm := List.perm_insertionSort fun r r' : AdvertRecord => r.id ≤ r'.id
  refine List.Perm.eq_of_pairwise (fun r r' hr hr' hle hle' => ?_)
    (List.pairwise_insertionSort _ l) (List.pairwise_insertionSort _ l')
    ((hperm l).trans (h.trans (hperm l').symm))
  exact List.inj_on_of_nodup_map hnodup ((hperm l).subset hr)
    (h.symm.subset ((hperm l').subset hr')) (le_antisymm hle hle')

lemma Agree.len (h : Agree t b b') : b.len t = b'.len t := h.liveRecords.length_eq

lemma Agree.makeEpochInfo (h : Agree t b b') : b.makeEpochInfo t = b'.makeEpochInfo t := by
  have hnodup : (((b.liveRecords t).filter AdvertRecord.isRelay).map AdvertRecord.id).Nodup :=
    (List.filter_sublist.map _).nodup (b.nodup_liveRecords t)
  rw [Backend.makeEpochInfo, insertionSort_id_congr (h.liveRecords.filter _) hnodup,
    Backend.makeEpochInfo]

lemma Agree.handleInit (h : Agree t b b') (nsk : Outgoing.NetworkEndpoint) (userId : Id)
    (tag : Option String) : handleInit b t nsk userId tag = handleInit b' t nsk userId tag := by
  have hsnapshot : b.snapshot t = b'.snapshot t :=
    insertionSort_id_congr h.liveRecords (b.nodup_liveRecords t)
  rw [Messages.handleInit, Messages.handleInit, hsnapshot]

end Seen

/-! ## Runs -/

inductive Op
  | upsert (record : AdvertRecord)
  | delete (id : Id)
  | sweepExpired
deriving DecidableEq

def Backend.apply (b : Backend) : ℕ × Op → Backend
  | (now, .upsert record) => b.upsert now record
  | (_, .delete id) => b.delete id
  | (now, .sweepExpired) => (b.sweepExpired now).1

lemma Agree.apply {b b' : Backend} {t : ℕ} (h : Agree t b b') (op : Op) :
    Agree t (b.apply (t, op)) (b'.apply (t, op)) := by
  cases op with
  | upsert record => exact h.upsert record
  | delete id => exact h.delete id
  | sweepExpired => exact h.sweepExpired

lemma Agree.run {ops : List (ℕ × Op)} : ∀ {b b' : Backend} {now t : ℕ}, Agree now b b' →
    (now :: (ops.map Prod.fst ++ [t])).IsChain (· ≤ ·) →
    Agree t (run Backend.apply b ops) (run Backend.apply b' ops) := by
  induction ops with
  | nil =>
    intro b b' now t h hclock
    exact h.later (by simpa using hclock)
  | cons op ops ih =>
    intro b b' now t h hclock
    rw [List.map_cons, List.cons_append, List.isChain_cons_cons] at hclock
    exact ih ((h.later hclock.1).apply op.2) hclock.2

/-- **The sweep is invisible.**  After any operations at times that go on, a database that was swept
at the start answers as one that was not.  The adverts of relays and the node's own stay, and
`handle_init` announces as many records as it sends: each live one, once. -/
theorem sweep_is_invisible (b : Backend) (now t : ℕ) (ops : List (ℕ × Op))
    (hclock : (now :: (ops.map Prod.fst ++ [t])).IsChain (· ≤ ·)) :
    let swept := run Backend.apply (b.sweepExpired now).1 ops
    let kept := run Backend.apply b ops
    (∀ id, swept.lookup t id = kept.lookup t id) ∧ swept.len t = kept.len t ∧
      swept.makeEpochInfo t = kept.makeEpochInfo t ∧
      (∀ nsk userId tag, handleInit swept t nsk userId tag = handleInit kept t nsk userId tag) ∧
      (∀ id, ∀ s ∈ b.map.lookup id, s.record.isRelay = true ∨ b.ownId = some id →
        (b.sweepExpired now).1.map.lookup id = some s) ∧
      ∀ nsk userId tag, ∃ records : List AdvertRecord, records.Perm (kept.liveRecords t) ∧
        handleInit kept t nsk userId tag =
          .send nsk userId (.ddb (.initResponse records.length tag)) ::
            records.map fun record => .send nsk userId (.ddb (.dumpResolve record)) := by
  have hagree : Agree t (run Backend.apply (b.sweepExpired now).1 ops)
      (run Backend.apply b ops) := (agree_sweepExpired b now).run hclock
  refine ⟨hagree.lookup, hagree.len, hagree.makeEpochInfo, hagree.handleInit, ?_, ?_⟩
  · intro id s hs hkept
    have hlive : b.isExpired now s = false := by
      rcases hkept with hrelay | hown
      · exact b.isExpired_of_isRelay now hrelay
      · exact isExpired_of_ownId (b.keyed id s hs ▸ hown) now
    rw [lookup_sweepExpired, Backend.liveAt, Option.mem_def.mp hs]
    simp [Option.filter, hlive]
  · intro nsk userId tag
    exact ⟨_, List.perm_insertionSort _ _, rfl⟩

def oneClient : Backend := (Backend.empty (some 10) (some "me")).upsert 0 { id := "c" }

theorem sweep_of_oneClient :
    (oneClient.sweepExpired 20).2 = ["c"] ∧ (20 :: ([25] ++ [30])).IsChain (· ≤ ·) ∧
      (run Backend.apply (oneClient.sweepExpired 20).1 [(25, .upsert { id := "d" })]).len 30 =
        (run Backend.apply oneClient [(25, .upsert { id := "d" })]).len 30 :=
  ⟨by decide, by simp, (sweep_is_invisible oneClient 20 30 [(25, .upsert { id := "d" })]
    (by simp)).2.1⟩

end Bingle.Ddb
