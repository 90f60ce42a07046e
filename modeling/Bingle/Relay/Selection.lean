import Mathlib
import Bingle.Relay.Updater

/-!
# Which relay is asked

`find_relay` (`relay_finder.rs`) asks the chain for the root relays and probes them, in an order
that depends on the node's own id, until one answers that it is available (`relay_select_and_query`
in `relay_updater.rs`).  The relay that is returned is read back from the cache.
-/

namespace Bingle.Relay

open Identity (issuerSuffix)
open Lib (run trimEndMatches)
open Messages (Id SocketAddr InetSocketAddress AdvertRecord RelayState DdbRelaysStatusResponse)

/-! ## The order of the candidates -/

/-- `select_indices_internal`: the preferred and the alternate one of `n` relays, for a node by the
first four bytes of its key. -/
def selectIndices (bucket : UInt32) (n : ℕ) : ℕ × ℕ :=
  if n = 1 then (0, 0)
  else
    let index := bucket.toNat / (2 ^ 32 / n) % n
    (index, (index + 1) % n)

def selectionOrder (bucket : UInt32) (n : ℕ) : List ℕ :=
  if n = 0 then [] else (List.range n).map fun offset => ((selectIndices bucket n).1 + offset) % n

structure Finder where
  socketAddr : InetSocketAddress → Option SocketAddr
  discoverRoots : List RelayInfo
  idBucket : Id → UInt32
  isCoolingDown : Id → Bool
  now : String

abbrev ProbeResult := ℕ × Except String DdbRelaysStatusResponse

namespace Finder

section Select

variable (f : Finder) (myId : Id)

def candidates (cache : List RelayInfo) (excludeIds : List Id) : List RelayInfo :=
  (sortById <| (listAllRelays cache myId true).filter fun r =>
    r.state != some .own && r.id != trimEndMatches myId issuerSuffix && !excludeIds.contains r.id)
    |>.destutter fun left right => left.id ≠ right.id

def probed (cache : List RelayInfo) (excludeIds : List Id) : List RelayInfo :=
  let candidates := candidates myId cache excludeIds
  let bucket := f.idBucket (trimEndMatches myId issuerSuffix)
  let ranked := (selectionOrder bucket candidates.length).filterMap fun index => candidates[index]?
  let ready := ranked.filter fun r => !f.isCoolingDown r.id
  if ready.isEmpty then ranked else ready

/-- `accept_available`: the relay that answered, as the cache now has it. -/
def acceptAvailable (cache : List RelayInfo) (candidate : RelayInfo) : RelayInfo :=
  ((listAllRelays cache myId true).find? fun r => r.id == candidate.id).getD
    { candidate with isRoot := true, state := some .available, ttl := some mediumTtlSecs }

def settles : Except String DdbRelaysStatusResponse → Bool
  | .ok status =>
    decide (status.responderState = .available) &&
      (updateCacheFromStatus f.socketAddr (trimEndMatches myId issuerSuffix) f.now status).isSome
  | .error _ => false

def afterProbe (u : Updater) (candidate : RelayInfo)
    (result : Except String DdbRelaysStatusResponse) : Updater :=
  run (Updater.step f.socketAddr myId) u
    (probeEvents f.socketAddr (trimEndMatches myId issuerSuffix) 0 candidate.id f.now result)

/-- The loop of `relay_select_and_query`.  It ends with the first available relay, or with none when
no more answers are received. -/
def receiveProbes (probed : List RelayInfo) : Updater → List ProbeResult → Option RelayInfo
  | _, [] => none
  | u, (rank, result) :: rest =>
    match probed[rank]? with
    -- only candidates are probed, so no other rank is received
    | none => receiveProbes probed u rest
    | some candidate =>
      let u' := f.afterProbe myId u candidate result
      if f.settles myId result then some (acceptAvailable myId u'.cache candidate)
      else receiveProbes probed u' rest

def initial : Updater := Updater.step f.socketAddr myId {} (.initFromBlockchain f.discoverRoots)

def findRelay (received : List ProbeResult) : Except String RelayInfo :=
  let u := f.initial myId
  match f.receiveProbes myId (f.probed myId u.cache []) u received with
  | some relay => .ok relay
  | none => .error "no available relay (all candidates failed or were excluded)"

end Select

/-! ## The relay that is found -/

section Found

variable {f : Finder} {myId : Id}

variable {cache : List RelayInfo} {excludeIds : List Id} {r : RelayInfo}

lemma mem_of_mem_candidates (h : r ∈ candidates myId cache excludeIds) : r ∈ cache := by
  have hmem := (List.destutter_sublist _ _).subset h
  exact Updater.mem_listAllRelays_true.mp (List.mem_filter.mp (mem_sortById.mp hmem)).1

lemma mem_candidates_of_mem_probed
    (h : r ∈ f.probed myId cache excludeIds) : r ∈ candidates myId cache excludeIds := by
  have hranked : r ∈ (selectionOrder (f.idBucket (trimEndMatches myId issuerSuffix))
      (candidates myId cache excludeIds).length).filterMap
        fun index => (candidates myId cache excludeIds)[index]? := by
    unfold probed at h
    dsimp only at h
    split at h
    · exact h
    · exact (List.mem_filter.mp h).1
  obtain ⟨index, -, hindex⟩ := List.mem_filterMap.mp hranked
  exact List.mem_of_getElem? hindex

lemma mem_of_mem_probed (h : r ∈ f.probed myId cache excludeIds) : r ∈ cache :=
  mem_of_mem_candidates (mem_candidates_of_mem_probed h)

lemma exists_cache_afterProbe (u : Updater) (candidate : RelayInfo)
    {status : DdbRelaysStatusResponse} (hsettles : f.settles myId (.ok status) = true) :
    ∃ relays : List RelayInfo,
      relays.map (RelayInfo.mark f.socketAddr) = (listed f.socketAddr status).map (·, true) ∧
        (f.afterProbe myId u candidate (.ok status)).cache = sortById relays := by
  obtain ⟨havailable, htaken⟩ := Bool.and_eq_true_iff.mp hsettles
  have hevents : probeEvents f.socketAddr (trimEndMatches myId issuerSuffix) 0 candidate.id f.now
      (.ok status) =
        [.read 0, .write 0 candidate.id status.responderState] ++ [.status f.now status] := by
    simp [probeEvents, of_decide_eq_true havailable, htaken]
  rw [afterProbe, hevents, Lib.run_append, Lib.run_cons, Lib.run_nil]
  obtain ⟨relays, hmarks, hstep⟩ := Updater.exists_cache_status htaken
  rw [hstep]
  exact ⟨relays, hmarks, rfl⟩

end Found

end Finder

/-! ## The preferred relay -/

def Finder.selectIndices (bucket : UInt32) (n : ℕ) : ℕ × ℕ :=
  if n = 1 then (0, 0)
  else
    let span := 2 ^ 32 - 1 + 1
    let partSize := span / n
    let idx := bucket.toNat / partSize % n
    let alt := (idx + 1) % n
    (idx, alt)

lemma mod_le_mod {q q' n : ℕ} (hle : q ≤ q') (h : q' < n ∨ n ≤ q ∧ q' < n + n) :
    q % n ≤ q' % n := by
  rcases h with h | ⟨hq, hq'⟩
  · rwa [Nat.mod_eq_of_lt (hle.trans_lt h), Nat.mod_eq_of_lt h]
  · rw [Nat.mod_eq_sub_mod hq, Nat.mod_eq_sub_mod (hq.trans hle), Nat.mod_eq_of_lt (by omega),
      Nat.mod_eq_of_lt (by omega)]
    omega

/-- **The choice of a relay.**  Both indices are below `n` and differ where there are two relays.
The index grows with the bucket, up to the fewer than `n` buckets that the equal parts leave over,
and among these.  The finder chooses as the updater does. -/
theorem preferred_choice {n : ℕ} (hpos : 1 ≤ n) (hn : n ≤ 2 ^ 32) (bucket : UInt32) :
    ((selectIndices bucket n).1 < n ∧ (selectIndices bucket n).2 < n) ∧
    (2 ≤ n → (selectIndices bucket n).1 ≠ (selectIndices bucket n).2) ∧
    (∀ bucket' : UInt32, bucket ≤ bucket' →
      bucket'.toNat < 2 ^ 32 / n * n ∨ 2 ^ 32 / n * n ≤ bucket.toNat →
      (selectIndices bucket n).1 ≤ (selectIndices bucket' n).1) ∧
    2 ^ 32 - 2 ^ 32 / n * n < n ∧
    Finder.selectIndices bucket n = selectIndices bucket n := by
  have hrest : 2 ^ 32 - 2 ^ 32 / n * n < n := by
    have hmod := Nat.mod_lt (2 ^ 32) hpos
    have hsplit := Nat.div_add_mod' (2 ^ 32) n
    omega
  refine ⟨?_, ?_, ?_, hrest, rfl⟩
  · rw [selectIndices]
    split_ifs
    · exact ⟨hpos, hpos⟩
    · exact ⟨Nat.mod_lt _ hpos, Nat.mod_lt _ hpos⟩
  · intro htwo
    rw [selectIndices, if_neg (by omega)]
    have hlt := Nat.mod_lt (bucket.toNat / (2 ^ 32 / n)) hpos
    dsimp only
    generalize bucket.toNat / (2 ^ 32 / n) % n = index at hlt ⊢
    rcases Nat.lt_or_eq_of_le hlt with h | h
    · rw [Nat.mod_eq_of_lt h]
      omega
    · rw [← Nat.succ_eq_add_one, h, Nat.mod_self]
      omega
  · intro bucket' hle hpart
    have hsize : 0 < 2 ^ 32 / n := Nat.div_pos hn hpos
    rw [selectIndices, selectIndices]
    split_ifs
    · exact le_rfl
    · refine mod_le_mod (Nat.div_le_div_right (UInt32.le_iff_toNat_le.mp hle)) ?_
      rcases hpart with h | h
      · exact .inl (Nat.div_lt_of_lt_mul h)
      · refine .inr ⟨(Nat.le_div_iff_mul_le hsize).mpr (Nat.mul_comm _ _ ▸ h), ?_⟩
        refine Nat.div_lt_of_lt_mul ?_
        have hlt := bucket'.toNat_lt
        have hone : n ≤ 2 ^ 32 / n * n := Nat.le_mul_of_pos_left n hsize
        rw [Nat.mul_add]
        omega

theorem preferred_choice_of_three :
    selectIndices 0xFFFFFFFF 3 = (0, 1) ∧ (selectIndices 0xFFFFFFFF 3).1 < 3 :=
  ⟨by decide, (preferred_choice (by decide) (by decide) 0xFFFFFFFF).1.1⟩

end Bingle.Relay
