import Mathlib
import Bingle.Identity.Certificate
import Bingle.Lib.Run
import Bingle.Lib.Text
import Bingle.Messages.Types

/-!
# The cache of known relays

The root relays that a search of the chain finds, and the state of all relays that one of them
answers, end in the same list (`relay_info_cache.rs`), behind one lock that every operation takes
for a single read or write.  The interleavings of any number of threads are the runs of
`Updater.step`.  What the chain returned is recorded (`discovered`), and nothing reads it.
-/

namespace Bingle.Relay

open List
open Identity (issuerSuffix)
open Lib (run Along Always trimEndMatches)
open Messages (Id SocketAddr InetSocketAddress AdvertRecord RelayState DdbRelaysStatusResponse)

/-! ## The list -/

structure RelayInfo where
  advertRecord : AdvertRecord
  isRoot : Bool
  state : Option RelayState
  ttl : Option ℕ
deriving DecidableEq

namespace RelayInfo

variable (socketAddr : InetSocketAddress → Option SocketAddr)

def id (r : RelayInfo) : Id := r.advertRecord.id

def address (r : RelayInfo) : Option SocketAddr := r.advertRecord.endpoint.bind socketAddr

def rootWith (advertRecord : AdvertRecord) (state : Option RelayState) (ttl : Option ℕ) :
    RelayInfo :=
  ⟨advertRecord, true, state, ttl⟩

def place (r : RelayInfo) : Id × Option SocketAddr := (r.id, r.address socketAddr)

def mark (r : RelayInfo) : (Id × Option SocketAddr) × Bool := (r.place socketAddr, r.isRoot)

end RelayInfo

def sortById (relays : List RelayInfo) : List RelayInfo :=
  relays.insertionSort fun left right => left.id ≤ right.id

variable {relays : List RelayInfo} {r : RelayInfo} {myIdNorm : Id} {now : String}

@[simp] lemma mem_sortById :
    r ∈ sortById relays ↔ r ∈ relays := mem_insertionSort _

def replaceRelays (relays : List RelayInfo) : List RelayInfo := sortById relays

def listAllRelays (cache : List RelayInfo) (myId : Id) (includeSelf : Bool) : List RelayInfo :=
  sortById (cache.filter fun r => includeSelf || r.id != trimEndMatches myId issuerSuffix)

def listRootRelays (cache : List RelayInfo) (myId : Id) (includeSelf : Bool) : List RelayInfo :=
  listAllRelays (cache.filter RelayInfo.isRoot) myId includeSelf

def lookupRootId (socketAddr : InetSocketAddress → Option SocketAddr) (cache : List RelayInfo)
    (id : Id) : Option SocketAddr :=
  (cache.find? fun r => r.id == trimEndMatches id issuerSuffix && r.isRoot).bind
    (RelayInfo.address socketAddr)

def clearStateCache (cache : List RelayInfo) : List RelayInfo :=
  cache.map fun r => { r with state := none }

def deleteRelay (cache : List RelayInfo) (id : Id) : List RelayInfo :=
  cache.filter fun r => r.id != id

/-! ## What is written to it -/

def longTtlSecs : ℕ := 30000

def mediumTtlSecs : ℕ := 300

def shortTtlSecs : ℕ := 30

def ttlForState : RelayState → ℕ
  | .own => longTtlSecs
  | .available => mediumTtlSecs
  | _ => shortTtlSecs

def initRelay (myIdNorm : Id) (r : RelayInfo) : RelayInfo :=
  { r with
    state := some (if r.id = myIdNorm then .own else .unknown)
    ttl := some (if r.id = myIdNorm then longTtlSecs else shortTtlSecs)
    isRoot := true }

def relayOfStatus (socketAddr : InetSocketAddress → Option SocketAddr) (myIdNorm : Id) (now : String)
    (entry : (Id × RelayState) × InetSocketAddress) : Option RelayInfo :=
  (socketAddr entry.2).map fun _ =>
    let state := if entry.1.1 = myIdNorm then .own else entry.1.2
    .rootWith { id := entry.1.1, endpoint := some entry.2, amRelay := some true, date := now }
      (some state) (some (ttlForState state))

def updateCacheFromStatus (socketAddr : InetSocketAddress → Option SocketAddr) (myIdNorm : Id)
    (now : String) (status : DdbRelaysStatusResponse) : Option (List RelayInfo) :=
  match status.relayEndpoints with
  | none => none
  | some endpoints =>
    if status.relayIds.length ≠ status.relayStates.length ∨
        status.relayIds.length ≠ endpoints.length then none
    else ((status.relayIds.zip status.relayStates).zip endpoints).mapM
      (relayOfStatus socketAddr myIdNorm now)

def setState (id : Id) (state : RelayState) : List RelayInfo → Option (List RelayInfo)
  | [] => none
  | r :: relays =>
    if r.id = id then some ({ r with state := some state, ttl := some (ttlForState state) } :: relays)
    else (setState id state relays).map (r :: ·)

/-! ## Where the entries of a list are -/

variable {socketAddr : InetSocketAddress → Option SocketAddr}

def listed (socketAddr : InetSocketAddress → Option SocketAddr) (status : DdbRelaysStatusResponse) :
    List (Id × Option SocketAddr) :=
  match status.relayEndpoints with
  | none => []
  | some endpoints =>
    ((status.relayIds.zip status.relayStates).zip endpoints).map fun entry =>
      (entry.1.1, socketAddr entry.2)

lemma relayOfStatus_eq_some {entry : (Id × RelayState) × InetSocketAddress}
    (h : relayOfStatus socketAddr myIdNorm now entry = some r) :
    r.mark socketAddr = ((entry.1.1, socketAddr entry.2), true) := by
  obtain ⟨addr, -, rfl⟩ := Option.map_eq_some_iff.mp h
  rfl

lemma map_of_mapM_eq_some {α β γ : Type} {f : α → Option β} {g : β → γ} {k : α → γ}
    (hf : ∀ a b, f a = some b → g b = k a) {l : List α} {l' : List β} (h : l.mapM f = some l') :
    l'.map g = l.map k := by
  induction l generalizing l' with
  | nil =>
    cases h
    rfl
  | cons a l ih =>
    simp only [mapM_cons, Option.bind_eq_bind, Option.bind_eq_some_iff, Option.pure_def,
      Option.some.injEq] at h
    obtain ⟨b, hb, bs, hbs, rfl⟩ := h
    rw [map_cons, map_cons, hf a b hb, ih hbs]

lemma updateCacheFromStatus_eq_some {status : DdbRelaysStatusResponse}
    (h : updateCacheFromStatus socketAddr myIdNorm now status = some relays) :
    relays.map (RelayInfo.mark socketAddr) = (listed socketAddr status).map (·, true) := by
  unfold updateCacheFromStatus at h
  unfold listed
  split at h
  · cases h
  · split at h
    · cases h
    · rw [map_map]
      exact map_of_mapM_eq_some (fun entry r hr => relayOfStatus_eq_some hr) h

lemma map_setState {id : Id} {state : RelayState} {relays' : List RelayInfo}
    (h : setState id state relays = some relays') :
    relays'.map (RelayInfo.mark socketAddr) = relays.map (RelayInfo.mark socketAddr) := by
  induction relays generalizing relays' with
  | nil => cases h
  | cons r relays ih =>
    unfold setState at h
    split at h
    · cases h
      rfl
    · obtain ⟨rest, hrest, rfl⟩ := Option.map_eq_some_iff.mp h
      rw [map_cons, map_cons, ih hrest]

/-! ## Threads -/

inductive Event
  | initFromBlockchain (relays : List RelayInfo)
  | read (thread : ℕ)
  | write (thread : ℕ) (id : Id) (state : RelayState)
  | status (now : String) (status : DdbRelaysStatusResponse)
  | clearStateCache
  | removeRelay (id : Id)

def probeEvents (socketAddr : InetSocketAddress → Option SocketAddr) (myIdNorm : Id) (thread : ℕ)
    (candidate : Id) (now : String) (answer : Except String DdbRelaysStatusResponse) : List Event :=
  match answer with
  | .error _ => [.read thread, .write thread candidate .off]
  | .ok status =>
    [.read thread, .write thread candidate status.responderState] ++
      if status.responderState = .available then
        .status now status ::
          if (updateCacheFromStatus socketAddr myIdNorm now status).isSome then []
          else [.read thread, .write thread candidate .off]
      else []

/-- The relay cache, with the copies that threads hold and what the chain has told. -/
structure Updater where
  cache : List RelayInfo := []
  snapshot : ℕ → List RelayInfo := fun _ => []
  discovered : List (Id × Option SocketAddr) := []

namespace Updater

section Step

variable (socketAddr : InetSocketAddress → Option SocketAddr) (myId : Id)

/-- One access of a thread to the cache. -/
def step (u : Updater) : Event → Updater
  | .initFromBlockchain relays =>
    { u with
      cache :=
        -- an unreachable indexer looks like a chain without relays: the list is kept
        if relays.isEmpty then u.cache
        else replaceRelays (relays.map (initRelay (trimEndMatches myId issuerSuffix)))
      discovered := u.discovered ++ relays.map (RelayInfo.place socketAddr) }
  | .read thread =>
    { u with snapshot := Function.update u.snapshot thread (listAllRelays u.cache myId true) }
  | .write thread id state =>
    match setState id state (u.snapshot thread) with
    | none => u
    | some relays => { u with cache := replaceRelays relays }
  | .status now status =>
    match updateCacheFromStatus socketAddr (trimEndMatches myId issuerSuffix) now status with
    | none => u
    | some relays => { u with cache := replaceRelays relays }
  | .clearStateCache => { u with cache := Relay.clearStateCache u.cache }
  | .removeRelay id => { u with cache := deleteRelay u.cache id }

/-- Root relays, by whichever reader, are relays that the chain returned. -/
structure FromChain (u : Updater) : Prop where
  roots : ∀ r ∈ u.cache, r.isRoot → r.place socketAddr ∈ u.discovered
  lists : ∀ id includeSelf, ∀ r ∈ listRootRelays u.cache id includeSelf,
    r.place socketAddr ∈ u.discovered
  lookups : ∀ id addr, lookupRootId socketAddr u.cache id = some addr →
    (trimEndMatches id issuerSuffix, some addr) ∈ u.discovered

def Takes (now : String) (status : DdbRelaysStatusResponse) : Prop :=
  (updateCacheFromStatus socketAddr (trimEndMatches myId issuerSuffix) now status).isSome

def ListsDiscovered (u : Updater) : Event → Prop
  | .status now status =>
    Takes socketAddr myId now status → ∀ p ∈ listed socketAddr status, p ∈ u.discovered
  | _ => True

structure OnlyUpdates (relays relays' : List RelayInfo) : Prop where
  kept : ∀ r ∈ relays, ∃ r' ∈ relays', r'.mark socketAddr = r.mark socketAddr
  added : ∀ r' ∈ relays', r'.isRoot → ∃ r ∈ relays, r.mark socketAddr = r'.mark socketAddr

def StatusOnlyUpdates (u : Updater) (e : Event) : Prop :=
  ∀ now status, e = .status now status →
    OnlyUpdates socketAddr u.cache (u.step socketAddr myId e).cache

def ListsCached (u : Updater) : Event → Prop
  | .status now status =>
    Takes socketAddr myId now status →
      ∀ p, p ∈ listed socketAddr status ↔ p ∈ u.cache.map (RelayInfo.place socketAddr)
  | _ => True

/-! ## One access -/

structure All (u : Updater) (Q : (Id × Option SocketAddr) × Bool → Prop) : Prop where
  cache : ∀ r ∈ u.cache, Q (r.mark socketAddr)
  snapshot : ∀ thread, ∀ r ∈ u.snapshot thread, Q (r.mark socketAddr)

def newMarks : Event → List ((Id × Option SocketAddr) × Bool)
  | .initFromBlockchain relays => relays.map fun r => (r.place socketAddr, true)
  | .status now status =>
    if (updateCacheFromStatus socketAddr (trimEndMatches myId issuerSuffix) now status).isSome
    then (listed socketAddr status).map (·, true) else []
  | _ => []

end Step

variable {myId : Id} {u : Updater} {e : Event} {Q : (Id × Option SocketAddr) × Bool → Prop}

variable {relays relays' : List RelayInfo} {now : String} {status : DdbRelaysStatusResponse}

lemma forall_mark_of_map_eq
    (heq : relays'.map (RelayInfo.mark socketAddr) = relays.map (RelayInfo.mark socketAddr))
    (h : ∀ r ∈ relays, Q (r.mark socketAddr)) : ∀ r ∈ relays', Q (r.mark socketAddr) := by
  rw [← forall_mem_map] at h ⊢
  rwa [heq]

lemma All.cache_step (h : u.All socketAddr Q) (hnew : ∀ m ∈ newMarks socketAddr myId e, Q m) :
    ∀ r ∈ (u.step socketAddr myId e).cache, Q (r.mark socketAddr) := by
  cases e with
  | initFromBlockchain relays =>
    rw [step]
    dsimp only
    split
    · exact h.cache
    · intro r hr
      obtain ⟨r₀, hr₀, rfl⟩ := mem_map.mp (mem_sortById.mp hr)
      exact hnew _ (mem_map.mpr ⟨r₀, hr₀, rfl⟩)
  | read thread => exact h.cache
  | write thread id state =>
    rw [step]
    split
    · exact h.cache
    · rename_i relays hset
      intro r hr
      exact forall_mark_of_map_eq (map_setState hset) (h.snapshot thread) r (mem_sortById.mp hr)
  | status now status =>
    rw [step]
    split
    · exact h.cache
    · rename_i relays htaken
      intro r hr
      have hmem : r.mark socketAddr ∈ relays.map (RelayInfo.mark socketAddr) :=
        mem_map_of_mem (mem_sortById.mp hr)
      rw [updateCacheFromStatus_eq_some htaken] at hmem
      exact hnew _ (by simpa [newMarks, htaken] using hmem)
  | clearStateCache =>
    intro r hr
    obtain ⟨r₀, hr₀, rfl⟩ := mem_map.mp hr
    exact h.cache r₀ hr₀
  | removeRelay id =>
    intro r hr
    exact h.cache r (mem_filter.mp hr).1

lemma mem_listAllRelays_true {cache : List RelayInfo} {r : RelayInfo} :
    r ∈ listAllRelays cache myId true ↔ r ∈ cache := by
  simp [listAllRelays]

lemma All.snapshot_step (h : u.All socketAddr Q) (thread : ℕ) :
    ∀ r ∈ (u.step socketAddr myId e).snapshot thread, Q (r.mark socketAddr) := by
  cases e with
  | read reader =>
    intro r hr
    by_cases heq : thread = reader
    · subst heq
      simp only [step, Function.update_self] at hr
      exact h.cache r (mem_listAllRelays_true.mp hr)
    · simp only [step, Function.update_of_ne heq] at hr
      exact h.snapshot thread r hr
  | write writer id state =>
    rw [step]
    split <;> exact h.snapshot thread
  | status now status =>
    rw [step]
    split <;> exact h.snapshot thread
  | initFromBlockchain relays => exact h.snapshot thread
  | clearStateCache => exact h.snapshot thread
  | removeRelay id => exact h.snapshot thread

lemma All.step (h : u.All socketAddr Q) (hnew : ∀ m ∈ newMarks socketAddr myId e, Q m) :
    (u.step socketAddr myId e).All socketAddr Q :=
  ⟨h.cache_step hnew, h.snapshot_step⟩

lemma All.mono {R : (Id × Option SocketAddr) × Bool → Prop} (h : u.All socketAddr Q)
    (hQR : ∀ m, Q m → R m) : u.All socketAddr R :=
  ⟨fun r hr => hQR _ (h.cache r hr), fun thread r hr => hQR _ (h.snapshot thread r hr)⟩

lemma exists_cache_status (h : Takes socketAddr myId now status) :
    ∃ relays, relays.map (RelayInfo.mark socketAddr) = (listed socketAddr status).map (·, true) ∧
      u.step socketAddr myId (.status now status) = { u with cache := replaceRelays relays } := by
  obtain ⟨relays, htaken⟩ := Option.isSome_iff_exists.mp h
  refine ⟨relays, updateCacheFromStatus_eq_some htaken, ?_⟩
  rw [step, htaken]

lemma step_status_of_not_takes (h : ¬ Takes socketAddr myId now status) :
    u.step socketAddr myId (.status now status) = u := by
  rw [step, Option.not_isSome_iff_eq_none.mp h]

lemma discovered_subset_step : u.discovered ⊆ (u.step socketAddr myId e).discovered := by
  cases e with
  | initFromBlockchain relays => exact subset_append_left _ _
  | write thread id state =>
    rw [step]
    split <;> exact List.Subset.refl _
  | status now status =>
    rw [step]
    split <;> exact List.Subset.refl _
  | read thread => exact List.Subset.refl _
  | clearStateCache => exact List.Subset.refl _
  | removeRelay id => exact List.Subset.refl _

/-! ## Root relays that the chain returned -/

def Sane (socketAddr : InetSocketAddress → Option SocketAddr) (u : Updater) : Prop :=
  u.All socketAddr fun m => m.2 = true ∧ m.1 ∈ u.discovered

lemma Sane.fromChain (h : Sane socketAddr u) : FromChain socketAddr u where
  roots r hr _ := (h.cache r hr).2
  lists id includeSelf r hr := by
    have hroot : r ∈ u.cache.filter RelayInfo.isRoot :=
      (mem_filter.mp (mem_sortById.mp hr)).1
    exact (h.cache r (mem_filter.mp hroot).1).2
  lookups id addr hlookup := by
    obtain ⟨r, hfind, haddr⟩ := Option.bind_eq_some_iff.mp hlookup
    have hid : r.id = trimEndMatches id issuerSuffix := by
      have := List.find?_some hfind
      simp only [Bool.and_eq_true, beq_iff_eq] at this
      exact this.1
    have hplace : r.place socketAddr = (trimEndMatches id issuerSuffix, some addr) :=
      Prod.ext hid haddr
    exact hplace ▸ (h.cache r (mem_of_find?_eq_some hfind)).2

lemma newMarks_sane (he : u.ListsDiscovered socketAddr myId e) :
    ∀ m ∈ newMarks socketAddr myId e,
      m.2 = true ∧ m.1 ∈ (u.step socketAddr myId e).discovered := by
  intro m hm
  cases e with
  | initFromBlockchain relays =>
    obtain ⟨r, hr, rfl⟩ := mem_map.mp hm
    exact ⟨rfl, mem_append_right _ (mem_map_of_mem hr)⟩
  | status now status =>
    rw [newMarks] at hm
    split at hm
    · rename_i htaken
      obtain ⟨p, hp, rfl⟩ := mem_map.mp hm
      exact ⟨rfl, discovered_subset_step (he htaken p hp)⟩
    · exact absurd hm not_mem_nil
  | _ => exact absurd hm not_mem_nil

lemma Sane.step (h : Sane socketAddr u) (he : u.ListsDiscovered socketAddr myId e) :
    Sane socketAddr (u.step socketAddr myId e) := by
  have hmono : u.All socketAddr
      fun m => m.2 = true ∧ m.1 ∈ (u.step socketAddr myId e).discovered :=
    All.mono h fun m hm => ⟨hm.1, discovered_subset_step hm.2⟩
  exact hmono.step (newMarks_sane he)

lemma step_fromChain_iff (h : Sane socketAddr u) :
    FromChain socketAddr (u.step socketAddr myId e) ↔ u.ListsDiscovered socketAddr myId e := by
  refine ⟨fun hchain => ?_, fun he => (h.step he).fromChain⟩
  cases e with
  | status now status =>
    intro htakes p hp
    obtain ⟨relays, hmarks, hstep⟩ := exists_cache_status (u := u) htakes
    have hmem : (p, true) ∈ relays.map (RelayInfo.mark socketAddr) := by
      rw [hmarks]
      exact mem_map_of_mem hp
    obtain ⟨r, hr, hmark⟩ := mem_map.mp hmem
    obtain ⟨rfl, hroot⟩ := Prod.mk.inj hmark
    rw [hstep] at hchain
    exact hchain.roots r (mem_sortById.mpr hr) hroot
  | _ => trivial

/-! ## Answers that only update -/

lemma newMarks_root : ∀ m ∈ newMarks socketAddr myId e, m.2 = true := by
  intro m hm
  cases e with
  | initFromBlockchain relays =>
    obtain ⟨r, -, rfl⟩ := mem_map.mp hm
    rfl
  | status now status =>
    rw [newMarks] at hm
    split at hm
    · obtain ⟨p, -, rfl⟩ := mem_map.mp hm
      rfl
    · exact absurd hm not_mem_nil
  | _ => exact absurd hm not_mem_nil

lemma onlyUpdates_refl (relays : List RelayInfo) : OnlyUpdates socketAddr relays relays where
  kept r hr := ⟨r, hr, rfl⟩
  added r hr _ := ⟨r, hr, rfl⟩

lemma onlyUpdates_iff {places : List (Id × Option SocketAddr)} (h : ∀ r ∈ relays, r.isRoot = true)
    (h' : relays'.map (RelayInfo.mark socketAddr) = places.map (·, true)) :
    OnlyUpdates socketAddr relays (replaceRelays relays') ↔
      ∀ p, p ∈ places ↔ p ∈ relays.map (RelayInfo.place socketAddr) := by
  have hmark : ∀ p, p ∈ places ↔ ∃ r ∈ replaceRelays relays', r.mark socketAddr = (p, true) := by
    intro p
    have hmem : (p, true) ∈ relays'.map (RelayInfo.mark socketAddr) ↔ p ∈ places := by
      rw [h']
      simp
    rw [← hmem, mem_map]
    simp only [replaceRelays, mem_sortById]
  constructor
  · intro hupdates p
    rw [hmark]
    constructor
    · rintro ⟨r', hr', hp⟩
      obtain ⟨r, hr, heq⟩ := hupdates.added r' hr' (congrArg Prod.snd hp)
      exact mem_map.mpr ⟨r, hr, congrArg Prod.fst (heq.trans hp)⟩
    · intro hp
      obtain ⟨r, hr, rfl⟩ := mem_map.mp hp
      obtain ⟨r', hr', heq⟩ := hupdates.kept r hr
      exact ⟨r', hr', heq.trans (Prod.ext rfl (h r hr))⟩
  · intro hplaces
    constructor
    · intro r hr
      obtain ⟨r', hr', heq⟩ :=
        (hmark _).mp ((hplaces (r.place socketAddr)).mpr (mem_map_of_mem hr))
      exact ⟨r', hr', heq.trans (Prod.ext rfl (h r hr).symm)⟩
    · intro r' hr' hroot
      have hp : r'.place socketAddr ∈ places := (hmark _).mpr ⟨r', hr', Prod.ext rfl hroot⟩
      obtain ⟨r, hr, heq⟩ := mem_map.mp ((hplaces _).mp hp)
      exact ⟨r, hr, Prod.ext heq ((h r hr).trans hroot.symm)⟩

lemma statusOnlyUpdates_iff (h : u.All socketAddr fun m => m.2 = true) :
    u.StatusOnlyUpdates socketAddr myId e ↔ u.ListsCached socketAddr myId e := by
  cases e with
  | status now status =>
    have hone : u.StatusOnlyUpdates socketAddr myId (.status now status) ↔
        OnlyUpdates socketAddr u.cache (u.step socketAddr myId (.status now status)).cache :=
      ⟨fun hall => hall now status rfl, fun hone _ _ heq => hone⟩
    rw [hone, ListsCached]
    by_cases htakes : Takes socketAddr myId now status
    · obtain ⟨relays, hmarks, hstep⟩ := exists_cache_status (u := u) htakes
      rw [hstep, onlyUpdates_iff h.cache hmarks]
      exact ⟨fun hlists _ => hlists, fun hlists => hlists htakes⟩
    · rw [step_status_of_not_takes htakes]
      exact ⟨fun _ ht => absurd ht htakes, fun _ => onlyUpdates_refl u.cache⟩
  | _ => exact iff_of_true (fun _ _ heq => nomatch heq) trivial

/-! ## Every run -/

/-- **Root relays come from the chain** — and so does what a lookup of one finds — in every state of
a run exactly if every answer that is taken lists only places that the chain returned.  An answer
only updates states, or adds entries that are not root relays, exactly if it lists the places of the
cache. -/
theorem root_relays_from_chain_iff (socketAddr : InetSocketAddress → Option SocketAddr) (myId : Id)
    (es : List Event) :
    (Always (step socketAddr myId) (FromChain socketAddr) {} es ↔
      Along (step socketAddr myId) (ListsDiscovered socketAddr myId) {} es) ∧
    (Along (step socketAddr myId) (StatusOnlyUpdates socketAddr myId) {} es ↔
      Along (step socketAddr myId) (ListsCached socketAddr myId) {} es) := by
  have hnew : ∀ Q, All socketAddr {} Q := fun Q =>
    ⟨fun r hr => absurd hr not_mem_nil, fun _ r hr => absurd hr not_mem_nil⟩
  constructor
  · exact Lib.always_iff_along_within (I := Sane socketAddr) (fun u e h => step_fromChain_iff h)
      (fun u e h he => h.step he) (fun u h => h.fromChain) (hnew _)
  · exact Lib.along_congr (I := fun u => u.All socketAddr fun m => m.2 = true)
      (fun u e h => h.step newMarks_root) (fun u e h => statusOnlyUpdates_iff h) (hnew _) es

def chainRelay : RelayInfo :=
  .rootWith { id := "ROOT", endpoint := some ⟨"192.0.2.1", 9000⟩, amRelay := some true } none none

def redirectingStatus : DdbRelaysStatusResponse :=
  ⟨.available, 0, 2, ["ROOT"], some [⟨"198.51.100.6", 9000⟩], [.available], none⟩

/-- **A lookup is redirected**: the relay that the chain returned answers with another address, and
a lookup of it finds that one. -/
theorem root_lookup_redirected :
    let socketAddr : InetSocketAddress → Option SocketAddr := fun ep => some ep.host
    let u := run (step socketAddr "ME") {}
      (.initFromBlockchain [chainRelay] ::
        probeEvents socketAddr "ME" 0 "ROOT" "2026-01-01T00:00:00Z" (.ok redirectingStatus))
    u.discovered = [("ROOT", some "192.0.2.1")] ∧
      lookupRootId socketAddr u.cache "ROOT" = some "198.51.100.6" := by
  decide

end Updater

end Bingle.Relay
