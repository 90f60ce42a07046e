import Bingle.Relay.Updater

/-!
# The health of the relay cache

The list is sorted after every write, and an empty discovery is not written.  What is written is
not looked at otherwise.
-/

namespace Bingle.Relay.Updater

open List
open Identity (issuerSuffix)
open Lib (run Along trimEndMatches)
open Messages (Id SocketAddr InetSocketAddress DdbRelaysStatusResponse)

inductive CacheEvent
  | access (e : Event)
  | addRelay (relay : RelayInfo)
  | updateRelay (relay : RelayInfo)

def updateFirst (relay : RelayInfo) : List RelayInfo → List RelayInfo
  | [] => []
  | r :: relays => if r.id = relay.id then relay :: relays else r :: updateFirst relay relays

section Step

variable (socketAddr : InetSocketAddress → Option SocketAddr) (myId : Id)

def onCache (u : Updater) : CacheEvent → Updater
  | .access e => u.step socketAddr myId e
  | .addRelay relay =>
    if u.cache.any fun r => r.id == relay.id then u
    else { u with cache := sortById (u.cache ++ [relay]) }
  | .updateRelay relay =>
    if u.cache.any fun r => r.id == relay.id then
      { u with cache := sortById (updateFirst relay u.cache) }
    else u

def ids (relays : List RelayInfo) : List Id := relays.map RelayInfo.id

/-- After the access the cache is sorted, without duplicates, and not emptied by it. -/
structure Healthy (u : Updater) (e : CacheEvent) : Prop where
  sorted : (ids (u.onCache socketAddr myId e).cache).SortedLT
  discovery : ∀ relays, e = .access (.initFromBlockchain relays) → u.cache ≠ [] →
    (u.onCache socketAddr myId e).cache ≠ []
  status : ∀ now status, e = .access (.status now status) → u.cache ≠ [] →
    (u.onCache socketAddr myId e).cache ≠ []

def Distinct (u : Updater) : CacheEvent → Prop
  | .access (.initFromBlockchain relays) => (ids relays).Nodup
  | .access (.status now status) => Takes socketAddr myId now status →
      ((listed socketAddr status).map Prod.fst).Nodup ∧
        (u.cache ≠ [] → listed socketAddr status ≠ [])
  | _ => True

end Step

/-! ## Ids -/

variable {socketAddr : InetSocketAddress → Option SocketAddr} {myId : Id} {u : Updater}
variable {relays : List RelayInfo}

lemma ids_sortById (relays : List RelayInfo) :
    ids (sortById relays) = (ids relays).insertionSort (· ≤ ·) :=
  map_insertionSort _ _ RelayInfo.id relays fun _ _ _ _ => Iff.rfl

lemma sortedLT_sortById_iff (relays : List RelayInfo) :
    (ids (sortById relays)).SortedLT ↔ (ids relays).Nodup := by
  rw [ids_sortById]
  have hperm := perm_insertionSort (· ≤ ·) (ids relays)
  refine ⟨fun h => hperm.nodup_iff.mp h.nodup, fun h => ?_⟩
  exact sortedLE_insertionSort.sortedLT_of_nodup (hperm.nodup_iff.mpr h)

variable {relays' : List RelayInfo}

lemma ids_of_marks (socketAddr : InetSocketAddress → Option SocketAddr)
    (h : relays'.map (RelayInfo.mark socketAddr) = relays.map (RelayInfo.mark socketAddr)) :
    ids relays' = ids relays := by
  have hids := congrArg (List.map fun m => m.1.1) h
  rwa [map_map, map_map] at hids

lemma ids_updateFirst (relay : RelayInfo) (relays : List RelayInfo) :
    ids (updateFirst relay relays) = ids relays := by
  induction relays with
  | nil => rfl
  | cons r relays ih =>
    rw [updateFirst]
    split_ifs with h
    · exact congrArg (· :: ids relays) h.symm
    · exact congrArg (r.id :: ·) ih

/-! ## One access -/

structure Ordered (u : Updater) : Prop where
  cache : (ids u.cache).SortedLT
  snapshot : ∀ thread, (ids (u.snapshot thread)).SortedLT

lemma Ordered.snapshot_onCache (h : u.Ordered) (e : CacheEvent) (thread : ℕ) :
    (ids ((u.onCache socketAddr myId e).snapshot thread)).SortedLT := by
  match e with
  | .access (.read reader) =>
    simp only [onCache, step]
    by_cases heq : thread = reader
    · have hall : u.cache.filter (fun r => true || r.id != trimEndMatches myId issuerSuffix) =
          u.cache := by simp
      rw [heq, Function.update_self, listAllRelays, hall, sortedLT_sortById_iff]
      exact h.cache.nodup
    · rw [Function.update_of_ne heq]
      exact h.snapshot thread
  | .access (.initFromBlockchain _) | .access .clearStateCache | .access (.removeRelay _) =>
    exact h.snapshot thread
  | .access (.write _ _ _) | .access (.status _ _) =>
    simp only [onCache, step]
    split <;> exact h.snapshot thread
  | .addRelay _ | .updateRelay _ =>
    simp only [onCache]
    split_ifs <;> exact h.snapshot thread

lemma sorted_sortById (h : (ids relays).SortedLT)
    (heq : ids relays' = ids relays) : (ids (sortById relays')).SortedLT := by
  rw [sortedLT_sortById_iff, heq]
  exact h.nodup

lemma sortById_ne_nil_iff : sortById relays ≠ [] ↔ relays ≠ [] := by
  rw [← length_pos_iff, sortById, length_insertionSort, length_pos_iff]

lemma healthy_init_iff (h : u.Ordered) (relays : List RelayInfo) :
    u.Healthy socketAddr myId (.access (.initFromBlockchain relays)) ↔ (ids relays).Nodup := by
  by_cases hempty : relays = []
  · subst hempty
    exact iff_of_true ⟨h.cache, fun _ _ hne => hne, by simp⟩ nodup_nil
  · have hcache : (u.onCache socketAddr myId (.access (.initFromBlockchain relays))).cache =
        sortById (relays.map (initRelay (trimEndMatches myId issuerSuffix))) := by
      simp [onCache, step, hempty, replaceRelays]
    have hids : ids (relays.map (initRelay (trimEndMatches myId issuerSuffix))) = ids relays := by
      simp only [ids, map_map]
      rfl
    have hsorted := sortedLT_sortById_iff
      (relays.map (initRelay (trimEndMatches myId issuerSuffix)))
    rw [hids, ← hcache] at hsorted
    refine ⟨fun hh => hsorted.mp hh.sorted,
      fun hnodup => ⟨hsorted.mpr hnodup, fun _ _ _ => ?_, by simp⟩⟩
    rw [hcache, sortById_ne_nil_iff]
    simpa using hempty

lemma healthy_status_iff (h : u.Ordered) (now : String) (status : DdbRelaysStatusResponse) :
    u.Healthy socketAddr myId (.access (.status now status)) ↔
      u.Distinct socketAddr myId (.access (.status now status)) := by
  by_cases htakes : Takes socketAddr myId now status
  · obtain ⟨relays, hmarks, hstep⟩ := exists_cache_status (u := u) htakes
    have hids : ids relays = (listed socketAddr status).map Prod.fst := by
      have hfst := congrArg (List.map fun m => m.1.1) hmarks
      rw [map_map, map_map] at hfst
      exact hfst
    have hcache : (u.onCache socketAddr myId (.access (.status now status))).cache =
        sortById relays := by
      rw [onCache, hstep]
      rfl
    have hne : sortById relays ≠ [] ↔ listed socketAddr status ≠ [] := by
      rw [sortById_ne_nil_iff, ← not_iff_not, not_not, not_not, ← map_eq_nil_iff (f := Prod.fst),
        ← hids, ids, map_eq_nil_iff]
    have hsorted := sortedLT_sortById_iff relays
    rw [hids, ← hcache] at hsorted
    rw [← hcache] at hne
    constructor
    · exact fun hh _ => ⟨hsorted.mp hh.sorted, fun hold => hne.mp (hh.status now status rfl hold)⟩
    · intro hd
      obtain ⟨hnodup, hlists⟩ := hd htakes
      exact ⟨hsorted.mpr hnodup, by simp, fun _ _ _ hold => hne.mpr (hlists hold)⟩
  · have hsame : u.onCache socketAddr myId (.access (.status now status)) = u :=
      step_status_of_not_takes htakes
    refine iff_of_true ⟨?_, by simp, fun _ _ _ hold => ?_⟩
      fun ht => absurd ht htakes
    · rw [hsame]
      exact h.cache
    · rwa [hsame]

lemma healthy_iff (h : u.Ordered) (e : CacheEvent) :
    u.Healthy socketAddr myId e ↔ u.Distinct socketAddr myId e := by
  match e with
  | .access (.initFromBlockchain relays) => exact healthy_init_iff h relays
  | .access (.status now status) => exact healthy_status_iff h now status
  | .access (.read _) => exact iff_of_true ⟨h.cache, by simp, by simp⟩ trivial
  | .access .clearStateCache =>
    refine iff_of_true ⟨?_, by simp, by simp⟩ trivial
    have hids : ids (Relay.clearStateCache u.cache) = ids u.cache := by
      simp only [ids, Relay.clearStateCache, map_map]
      rfl
    exact hids ▸ h.cache
  | .access (.removeRelay id) =>
    refine iff_of_true ⟨?_, by simp, by simp⟩ trivial
    exact (h.cache.pairwise.sublist (filter_sublist.map _)).sortedLT
  | .access (.write thread id state) =>
    refine iff_of_true ⟨?_, by simp, by simp⟩ trivial
    simp only [onCache, step]
    split
    · exact h.cache
    · rename_i relays hset
      exact sorted_sortById (h.snapshot thread) (ids_of_marks socketAddr
        (map_setState hset))
  | .addRelay relay =>
    refine iff_of_true ⟨?_, by simp, by simp⟩ trivial
    simp only [onCache]
    split_ifs with hany
    · exact h.cache
    · rw [sortedLT_sortById_iff, ids, map_append, nodup_append]
      refine ⟨h.cache.nodup, by simp, fun a ha b hb => ?_⟩
      obtain ⟨r, hr, rfl⟩ := mem_map.mp ha
      rw [mem_singleton.mp hb]
      rintro heq
      exact hany (any_eq_true.mpr ⟨r, hr, by simp [heq]⟩)
  | .updateRelay relay =>
    refine iff_of_true ⟨?_, by simp, by simp⟩ trivial
    simp only [onCache]
    split_ifs
    · exact sorted_sortById h.cache (ids_updateFirst relay u.cache)
    · exact h.cache

/-- **Sorted, without duplicates, and not emptied.**  In every run of accesses to the cache each
leaves the ids in strict order and no discovery or answer empties the list, exactly if every access
writes distinct ids and no answer that is taken is empty while the cache is not. -/
theorem cache_health_iff (socketAddr : InetSocketAddress → Option SocketAddr) (myId : Id)
    (es : List CacheEvent) :
    Along (onCache socketAddr myId) (Healthy socketAddr myId) {} es ↔
      Along (onCache socketAddr myId) (Distinct socketAddr myId) {} es := by
  have hstep : ∀ (u : Updater) (e : CacheEvent), u.Ordered → u.Healthy socketAddr myId e →
      (u.onCache socketAddr myId e).Ordered := fun u e h he => ⟨he.sorted, h.snapshot_onCache e⟩
  have hstart : Ordered {} := ⟨List.Pairwise.nil.sortedLT, fun _ => List.Pairwise.nil.sortedLT⟩
  constructor
  · exact Lib.Along.of_invariant hstep (fun u e h he => (healthy_iff h e).mp he) hstart
  · exact Lib.Along.of_invariant (fun u e h he => hstep u e h ((healthy_iff h e).mpr he))
      (fun u e h he => (healthy_iff h e).mpr he) hstart

theorem status_empties_cache :
    let socketAddr : InetSocketAddress → Option SocketAddr := fun ep => some ep.host
    let u := onCache socketAddr "ME" {} (.access (.initFromBlockchain [chainRelay]))
    u.cache ≠ [] ∧
      (u.onCache socketAddr "ME"
        (.access (.status "" ⟨.available, 0, 2, [], some [], [], none⟩))).cache = [] ∧
      ids (u.onCache socketAddr "ME" (.access (.status "" ⟨.available, 0, 2, ["R", "R"],
        some [⟨"192.0.2.1", 9000⟩, ⟨"192.0.2.1", 9000⟩], [.available, .off], none⟩))).cache
        = ["R", "R"] := by
  decide

end Bingle.Relay.Updater
