import Bingle.Messages.Types

/-!
# The database a relay holds

`InMemoryDdbBackend` (`bingle_core/src/ddb/mod.rs`): at most one record for each node id, with the
time it was last written.  An upsert replaces what is there and a delete removes it, whatever the
dates; an advert that is older than the time to live counts as absent.
-/

namespace Bingle.Ddb

open Messages (Id AdvertRecord InetSocketAddress)

structure StoredRecord where
  record : AdvertRecord
  received : ℕ
deriving DecidableEq, Repr

/-- The records of a relay, each under its own id with the time it was stored. -/
structure Backend where
  map : AList fun _ : Id => StoredRecord
  advertTtl : Option ℕ
  ownId : Option Id
  keyed : ∀ id, ∀ s ∈ map.lookup id, s.record.id = id

namespace Backend

variable (b : Backend) (now : ℕ)

def empty (advertTtl : Option ℕ) (ownId : Option Id) : Backend := ⟨∅, advertTtl, ownId, by simp⟩

def isExpired (s : StoredRecord) : Bool :=
  match b.advertTtl with
  | none => false
  | some ttl =>
    if s.record.isRelay || b.ownId == some s.record.id then false
    else decide (ttl ≤ now - s.received)

/-- The records that have not expired. -/
def liveRecords : List AdvertRecord :=
  ((b.map.entries.map Sigma.snd).filter fun s => !b.isExpired now s).map StoredRecord.record

def upsert (record : AdvertRecord) : Backend where
  map := b.map.insert record.id ⟨record, now⟩
  advertTtl := b.advertTtl
  ownId := b.ownId
  keyed := by
    intro id s hs
    by_cases hid : id = record.id
    · subst hid
      rw [AList.lookup_insert, Option.mem_some_iff] at hs
      exact hs ▸ rfl
    · rw [AList.lookup_insert_ne hid] at hs
      exact b.keyed id s hs

def delete (id : Id) : Backend where
  map := b.map.erase id
  advertTtl := b.advertTtl
  ownId := b.ownId
  keyed := by
    intro id' s hs
    by_cases hid : id' = id
    · subst hid
      simp [AList.lookup_erase] at hs
    · rw [AList.lookup_erase_ne hid] at hs
      exact b.keyed id' s hs

def lookup (id : Id) : Option AdvertRecord :=
  ((b.map.lookup id).filter fun s => !b.isExpired now s).map StoredRecord.record

def makeEpochInfo : List Id × Option (List InetSocketAddress) :=
  let rels := ((b.liveRecords now).filter AdvertRecord.isRelay).insertionSort fun r r' => r.id ≤ r'.id
  (rels.map AdvertRecord.id,
    if rels.all fun r => r.endpoint.isSome then some (rels.filterMap AdvertRecord.endpoint) else none)

def snapshot : List AdvertRecord :=
  (b.liveRecords now).insertionSort fun r r' => r.id ≤ r'.id

def len : ℕ := (b.liveRecords now).length

/-- The record under the id, expired or not. -/
def held (id : Id) : Option AdvertRecord := (b.map.lookup id).map StoredRecord.record

/-! ## What the operations leave -/

@[simp] lemma held_upsert_self (record : AdvertRecord) :
    (b.upsert now record).held record.id = some record := by
  simp [held, upsert]

variable {id : Id} {record : AdvertRecord}

lemma held_upsert_of_ne (h : id ≠ record.id) :
    (b.upsert now record).held id = b.held id := by
  simp [held, upsert, AList.lookup_insert_ne h]

@[simp] lemma held_delete_self (id : Id) : (b.delete id).held id = none := by
  simp [held, delete]

lemma held_delete_of_ne {id' : Id} (h : id' ≠ id) : (b.delete id).held id' = b.held id' := by
  simp [held, delete, AList.lookup_erase_ne h]

lemma id_of_held (h : b.held id = some record) :
    record.id = id := by
  obtain ⟨s, hs, rfl⟩ := Option.map_eq_some_iff.mp h
  exact b.keyed id s hs

/-! ## The live records -/

lemma isExpired_of_isRelay {s : StoredRecord} (h : s.record.isRelay = true) :
    b.isExpired now s = false := by
  rw [isExpired]
  split <;> simp [h]

lemma map_id_entries : b.map.entries.map (fun e => e.2.record.id) = b.map.keys :=
  List.map_congr_left fun e he => b.keyed e.1 e.2 (AList.mem_lookup_iff.mpr he)

lemma nodup_liveRecords : ((b.liveRecords now).map AdvertRecord.id).Nodup := by
  have hsub : ((b.liveRecords now).map AdvertRecord.id).Sublist b.map.keys := by
    rw [← b.map_id_entries, liveRecords, List.map_map]
    have h := (List.filter_sublist (l := b.map.entries.map Sigma.snd)
      (p := fun s => !b.isExpired now s)).map (AdvertRecord.id ∘ StoredRecord.record)
    rwa [List.map_map] at h
  exact hsub.nodup b.map.keys_nodup

lemma len_of_fresh (h : ∀ ttl ∈ b.advertTtl, now < ttl) : b.len now = b.map.keys.length := by
  have hlive : ∀ s, b.isExpired now s = false := by
    intro s
    rw [isExpired]
    split
    · rfl
    · next ttl httl =>
        have hnow : now < ttl := h ttl httl
        split
        · rfl
        · simp only [decide_eq_false_iff_not]
          omega
  rw [len, liveRecords, List.length_map, List.filter_eq_self.mpr fun s _ => by simp [hlive s],
    List.length_map]
  exact (List.length_map Sigma.fst).symm

lemma mem_liveRecords_iff {r : AdvertRecord} :
    r ∈ b.liveRecords now ↔ b.lookup now r.id = some r := by
  simp only [liveRecords, List.mem_map, List.mem_filter, lookup, Option.map_eq_some_iff,
    Option.filter_eq_some_iff]
  constructor
  · rintro ⟨s, ⟨⟨e, he, rfl⟩, hlive⟩, rfl⟩
    have hlookup : e.2 ∈ b.map.lookup e.1 := AList.mem_lookup_iff.mpr he
    have hid := b.keyed e.1 e.2 hlookup
    exact ⟨e.2, ⟨hid ▸ hlookup, hlive⟩, rfl⟩
  · rintro ⟨s, ⟨hs, hlive⟩, rfl⟩
    exact ⟨s, ⟨⟨⟨s.record.id, s⟩, AList.mem_lookup_iff.mp hs, rfl⟩, hlive⟩, rfl⟩

end Backend

end Bingle.Ddb
