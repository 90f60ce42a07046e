import Bingle.Dtls.Simultaneous
import Bingle.Lib.Checked
import Bingle.Relay.Selection

/-!
# The corner of a triangle test

`find_relay_excluding` (`bingle_core/src/relay/relay_finder.rs`) leaves out the relays whose cached
address is excluded (`is_excluded_corner`), by their ids, and probes the others.  The first that
answers is read back from the cache, which its answer has just replaced.
-/

namespace Bingle.Relay

open List Option
open Identity (issuerSuffix)
open Lib (Checked trimEndMatches bind_eq_ok_iff exists_mem_of_mapM_eq_ok)
open Lib.Checked (Ensures ensures_bind_iff ensures_expect_iff ensures_mapM_iff ensures_pure_iff)
open Messages (Id SocketAddr InetSocketAddress RelayState DdbRelaysStatusResponse)

def isLoopback : Dtls.IpAddr → Bool
  | .v4 octets => octets >>> 24 == 127
  | .v6 octets => octets == 1

/-- `is_excluded_corner`, with `SocketAddr::ip` of an address that is given by its text. -/
def isExcludedCorner (ip : SocketAddr → Dtls.IpAddr) (candidate : SocketAddr)
    (exclude : List SocketAddr) : Bool :=
  exclude.any fun seen =>
    if isLoopback (ip seen) && isLoopback (ip candidate) then seen == candidate
    else ip seen == ip candidate

namespace Finder

section Exclude

variable (f : Finder) (ip : SocketAddr → Dtls.IpAddr) (myId : Id)

def excludeIds (cache : List RelayInfo) (exclude : List SocketAddr) : Checked (List Id) :=
  if exclude.isEmpty then .ok []
  else do
    let relays ← (listAllRelays cache myId true).mapM fun r => do
      let address ← Checked.expect (r.address f.socketAddr) "RelayInfo must have a valid address"
      return (r.id, address)
    return (relays.filter fun r => isExcludedCorner ip r.2 exclude).map Prod.fst

def asked (probed : List RelayInfo) (received : List ProbeResult) : List ProbeResult :=
  received.filter fun p =>
    match p.2 with
    | .ok _ => (probed[p.1]?.bind (RelayInfo.address f.socketAddr)).isSome
    | .error _ => true

def findRelayExcluding (u : Updater) (exclude : List SocketAddr) (received : List ProbeResult) :
    Checked (Except String RelayInfo) := do
  let ids ← f.excludeIds ip myId u.cache exclude
  let probed := f.probed myId u.cache ids
  return match f.receiveProbes myId probed u (f.asked probed received) with
    | some relay => .ok relay
    | none => .error "no available relay (all candidates failed or were excluded)"

def settled (probed : List RelayInfo) :
    List ProbeResult → Option (RelayInfo × DdbRelaysStatusResponse)
  | [] => none
  | (rank, result) :: rest =>
    match probed[rank]?, result with
    | some candidate, .ok status =>
      if f.settles myId (.ok status) then some (candidate, status) else settled probed rest
    | _, _ => settled probed rest

def saysAt (status : DdbRelaysStatusResponse) (id : Id) : Option (Option SocketAddr) :=
  ((listed f.socketAddr status).find? fun place => place.1 == id).map Prod.snd

end Exclude

/-! ## Reading back from the cache -/

lemma filter_orderedInsert_id (x : Id) (r : RelayInfo) (relays : List RelayInfo) :
    (relays.orderedInsert (fun left right => left.id ≤ right.id) r).filter (·.id == x) =
      (r :: relays).filter (·.id == x) := by
  induction relays with
  | nil => rfl
  | cons r' relays ih =>
    rw [orderedInsert_cons]
    split_ifs with hle
    · rfl
    · -- the two have different ids, so at most one of them is looked for
      have hne : ¬ (r.id = x ∧ r'.id = x) := fun ⟨hr, hr'⟩ => hle (hr.trans hr'.symm).le
      rw [filter_cons, ih, filter_cons, filter_cons, filter_cons]
      by_cases hr : r.id = x
      · have hr' : r'.id ≠ x := fun hr' => hne ⟨hr, hr'⟩
        simp [hr, hr']
      · simp [hr]

lemma find?_sortById (x : Id) (relays : List RelayInfo) :
    (sortById relays).find? (·.id == x) = relays.find? (·.id == x) := by
  have hfilter : ∀ relays : List RelayInfo,
      (sortById relays).filter (·.id == x) = relays.filter (·.id == x) := by
    intro relays
    induction relays with
    | nil => rfl
    | cons r relays ih =>
      have hcons : sortById (r :: relays) =
          (sortById relays).orderedInsert (fun left right => left.id ≤ right.id) r := rfl
      rw [hcons, filter_orderedInsert_id]
      simp only [filter_cons, ih]
  rw [← List.head?_filter, hfilter, List.head?_filter]

section Settled

variable {f : Finder} {ip : SocketAddr → Dtls.IpAddr} {myId : Id} {u : Updater}
  {exclude : List SocketAddr} {probed : List RelayInfo} {received : List ProbeResult}
  {candidate relay : RelayInfo} {status : DdbRelaysStatusResponse}

lemma address_acceptAvailable (hsettles : f.settles myId (.ok status) = true) :
    let relay := acceptAvailable myId (f.afterProbe myId u candidate (.ok status)).cache candidate
    relay.id = candidate.id ∧ relay.address f.socketAddr =
      (f.saysAt status candidate.id).getD (candidate.address f.socketAddr) := by
  obtain ⟨relays, hmarks, hcache⟩ := exists_cache_afterProbe u candidate hsettles
  have hplaces : relays.map (RelayInfo.place f.socketAddr) = listed f.socketAddr status := by
    have hfst := congrArg (List.map Prod.fst) hmarks
    rwa [List.map_map, List.map_map, Function.comp_def, Function.comp_def, List.map_id'] at hfst
  have hsaid : f.saysAt status candidate.id =
      (relays.find? (·.id == candidate.id)).map (RelayInfo.address f.socketAddr) := by
    rw [saysAt, ← hplaces, List.find?_map, Option.map_map]
    rfl
  have hfound : (listAllRelays (sortById relays) myId true).find? (·.id == candidate.id) =
      relays.find? (·.id == candidate.id) := by
    simp only [listAllRelays, Bool.true_or, filter_true, find?_sortById]
  dsimp only
  rw [hcache, acceptAvailable, hfound, hsaid]
  cases hfind : relays.find? (·.id == candidate.id) with
  | none => exact ⟨rfl, rfl⟩
  | some r =>
    have hid : r.id = candidate.id := by simpa using List.find?_some hfind
    exact ⟨hid, rfl⟩

lemma receiveProbes_settled (h : f.receiveProbes myId probed u received = some relay) :
    ∃ candidate status, f.settled myId probed received = some (candidate, status) ∧
      relay.id = candidate.id ∧ relay.address f.socketAddr =
        (f.saysAt status candidate.id).getD (candidate.address f.socketAddr) := by
  induction received generalizing u with
  | nil => cases h
  | cons p received ih =>
    obtain ⟨rank, result⟩ := p
    unfold receiveProbes at h
    unfold settled
    split at h
    · next hrank =>
        rw [hrank]
        exact ih h
    · next candidate hrank =>
        rw [hrank]
        cases result with
        | error e =>
          simp only [settles, Bool.false_eq_true, if_false] at h
          exact ih h
        | ok status =>
          dsimp only at h ⊢
          split_ifs at h ⊢ with hsettles
          · obtain rfl := some.inj h
            exact ⟨candidate, status, rfl, address_acceptAvailable hsettles⟩
          · exact ih h

/-! ## The candidates -/

variable {cache : List RelayInfo} {ids : List Id} {r : RelayInfo}

lemma not_own_of_mem_candidates
    (h : r ∈ candidates myId cache ids) : r.id ≠ trimEndMatches myId issuerSuffix ∧ r.id ∉ ids := by
  have hmem := (destutter_sublist _ _).subset h
  have hkept := (mem_filter.mp (mem_sortById.mp hmem)).2
  simp only [Bool.and_eq_true, bne_iff_ne, ne_eq, Bool.not_eq_true', contains_eq_mem,
    decide_eq_false_iff_not] at hkept
  exact ⟨hkept.1.2, hkept.2⟩

lemma mem_excludeIds (h : f.excludeIds ip myId cache exclude = .ok ids) (hr : r ∈ cache)
    {addr : SocketAddr} (haddr : r.address f.socketAddr = some addr)
    (hex : isExcludedCorner ip addr exclude = true) : r.id ∈ ids := by
  rw [excludeIds] at h
  split_ifs at h with hempty
  · rw [List.isEmpty_iff] at hempty
    subst hempty
    cases hex
  · obtain ⟨relays, hrelays, h⟩ := bind_eq_ok_iff.mp h
    obtain rfl := Except.ok.inj h
    obtain ⟨p, hp, hread⟩ :=
      exists_mem_of_mapM_eq_ok hrelays (Updater.mem_listAllRelays_true.mpr hr)
    obtain ⟨addr', haddr', hread⟩ := bind_eq_ok_iff.mp hread
    obtain rfl := Except.ok.inj hread
    obtain rfl := some.inj (haddr.symm.trans (Checked.expect_eq_ok_iff.mp haddr'))
    exact List.mem_map.mpr ⟨_, mem_filter.mpr ⟨hp, hex⟩, rfl⟩

lemma settled_eq_some (h : f.settled myId probed received = some (candidate, status)) :
    ∃ rank, (rank, .ok status) ∈ received ∧ probed[rank]? = some candidate ∧
      f.settles myId (.ok status) = true := by
  induction received with
  | nil => cases h
  | cons p received ih =>
    have hlater : f.settled myId probed received = some (candidate, status) →
        ∃ rank, (rank, .ok status) ∈ p :: received ∧ probed[rank]? = some candidate ∧
          f.settles myId (.ok status) = true := by
      intro h
      obtain ⟨rank, hmem, hrank, hsettles⟩ := ih h
      exact ⟨rank, mem_cons_of_mem _ hmem, hrank, hsettles⟩
    obtain ⟨rank, result⟩ := p
    unfold settled at h
    split at h
    · next candidate' status' hrank =>
        split_ifs at h with hsettles
        · obtain ⟨rfl, rfl⟩ := Prod.mk.inj (some.inj h)
          exact ⟨rank, mem_cons_self, hrank, hsettles⟩
        · exact hlater h
    · exact hlater h

lemma address_of_settled
    (h : f.settled myId probed (f.asked probed received) = some (candidate, status)) :
    candidate ∈ probed ∧ (candidate.address f.socketAddr).isSome = true ∧
      f.settles myId (.ok status) = true := by
  obtain ⟨rank, hmem, hrank, hsettles⟩ := settled_eq_some h
  have hasked := (mem_filter.mp hmem).2
  simp only [hrank, bind_some] at hasked
  exact ⟨mem_of_getElem? hrank, hasked, hsettles⟩

lemma isSome_of_saysAt (h : f.settles myId (.ok status) = true) {id : Id}
    {place : Option SocketAddr} (hsaid : f.saysAt status id = some place) :
    place.isSome = true := by
  obtain ⟨p, hp, rfl⟩ := map_eq_some_iff.mp hsaid
  have hmem := mem_of_find?_eq_some hp
  obtain ⟨relays, htaken⟩ := isSome_iff_exists.mp (Bool.and_eq_true_iff.mp h).2
  rw [updateCacheFromStatus] at htaken
  rw [listed] at hmem
  cases hendpoints : status.relayEndpoints with
  | none => simp [hendpoints] at htaken
  | some endpoints =>
    simp only [hendpoints] at htaken hmem
    split_ifs at htaken
    obtain ⟨entry, hentry, rfl⟩ := List.mem_map.mp hmem
    have hall := map_of_mapM_eq_some (g := fun _ => true)
      (k := fun entry : (Id × RelayState) × InetSocketAddress => (f.socketAddr entry.2).isSome)
      (fun entry r hr => by
        obtain ⟨addr, haddr, -⟩ := map_eq_some_iff.mp hr
        simp [haddr]) htaken
    have hentries : ∀ b ∈ (relays.map fun _ => true), b = true := by simp
    rw [hall] at hentries
    exact hentries _ (List.mem_map_of_mem hentry)

lemma exists_settled_of_found
    (h : f.findRelayExcluding ip myId u exclude received = .ok (.ok relay)) :
    ∃ ids candidate status, f.excludeIds ip myId u.cache exclude = .ok ids ∧
      f.settled myId (f.probed myId u.cache ids) (f.asked (f.probed myId u.cache ids) received) =
        some (candidate, status) ∧ relay.id = candidate.id ∧ relay.address f.socketAddr =
          (f.saysAt status candidate.id).getD (candidate.address f.socketAddr) := by
  obtain ⟨ids, hids, h⟩ := bind_eq_ok_iff.mp h
  have hfound : f.receiveProbes myId (f.probed myId u.cache ids) u
      (f.asked (f.probed myId u.cache ids) received) = some relay := by
    have h' := Except.ok.inj h
    split at h'
    · next relay' hrelay => rw [hrelay, Except.ok.inj h']
    · cases h'
  obtain ⟨candidate, status, hsettled, hid, haddress⟩ := receiveProbes_settled hfound
  exact ⟨ids, candidate, status, hids, hsettled, hid, haddress⟩

lemma isSome_address_of_found
    (h : f.findRelayExcluding ip myId u exclude received = .ok (.ok relay)) :
    (relay.address f.socketAddr).isSome = true := by
  obtain ⟨ids, candidate, status, -, hsettled, -, haddress⟩ := exists_settled_of_found h
  obtain ⟨-, hcandidate, hsettles⟩ := address_of_settled hsettled
  rw [haddress]
  cases hsaid : f.saysAt status candidate.id with
  | none => exact hcandidate
  | some place => exact isSome_of_saysAt hsettles hsaid

lemma ensures_findRelayExcluding_iff :
    Ensures (f.findRelayExcluding ip myId u exclude received) (fun _ => True) ↔
      (exclude ≠ [] → ∀ r ∈ u.cache, (r.address f.socketAddr).isSome = true) := by
  rw [findRelayExcluding, ensures_bind_iff]
  simp only [ensures_pure_iff]
  rw [excludeIds]
  split_ifs with hempty
  · rw [List.isEmpty_iff] at hempty
    exact iff_of_true ⟨[], rfl, trivial⟩ fun hne => absurd hempty hne
  · rw [List.isEmpty_iff] at hempty
    simp only [ensures_bind_iff, ensures_pure_iff, ensures_mapM_iff, ensures_expect_iff, and_true,
      Updater.mem_listAllRelays_true, ne_eq, hempty, not_false_eq_true, forall_const,
      isSome_iff_exists]

end Settled

/-! ## Other threads -/

section Others

variable {f : Finder} {ip : SocketAddr → Dtls.IpAddr} {myId : Id} {u : Updater}
  {exclude : List SocketAddr} {ids : List Id}

/-- A place of a relay that is not left out by its id is not excluded. -/
def Allows (ip : SocketAddr → Dtls.IpAddr) (exclude : List SocketAddr) (ids : List Id)
    (place : Id × Option SocketAddr) : Prop :=
  place.1 ∉ ids → ∀ addr, place.2 = some addr → isExcludedCorner ip addr exclude = false

/-- What the threads copied from the cache before, and what any thread now takes into it, status or
discovery, has no relay at an excluded address that is not left out by its id. -/
structure OthersKeepAway (f : Finder) (ip : SocketAddr → Dtls.IpAddr) (myId : Id) (u : Updater)
    (exclude : List SocketAddr) (ids : List Id) (es : List Event) : Prop where
  snapshot : ∀ thread, ∀ r ∈ u.snapshot thread, Allows ip exclude ids (r.place f.socketAddr)
  taken : ∀ e ∈ es, ∀ m ∈ Updater.newMarks f.socketAddr myId e, Allows ip exclude ids m.1

lemma OthersKeepAway.run {es : List Event} (h : f.OthersKeepAway ip myId u exclude ids es)
    (hids : f.excludeIds ip myId u.cache exclude = .ok ids) :
    (Lib.run (Updater.step f.socketAddr myId) u es).All f.socketAddr
      fun m => Allows ip exclude ids m.1 := by
  have h0 : u.All f.socketAddr fun m => Allows ip exclude ids m.1 := by
    refine ⟨fun r hr hid addr haddr => ?_, h.snapshot⟩
    exact Bool.eq_false_of_not_eq_true fun hex => hid (mem_excludeIds hids hr haddr hex)
  exact Lib.run_invariant (I := fun u => u.All f.socketAddr fun m => Allows ip exclude ids m.1)
    (fun _ _ hu he => hu.step he) h0 (Lib.along_of_forall_mem h.taken u)

lemma mem_or_eq_acceptAvailable (cache : List RelayInfo) (candidate : RelayInfo) :
    (acceptAvailable myId cache candidate).id = candidate.id ∧
      (acceptAvailable myId cache candidate ∈ cache ∨
        (acceptAvailable myId cache candidate).place f.socketAddr =
          candidate.place f.socketAddr) := by
  rw [acceptAvailable]
  cases hfind : (listAllRelays cache myId true).find? fun r => r.id == candidate.id with
  | none => exact ⟨rfl, Or.inr rfl⟩
  | some r =>
    refine ⟨by simpa using List.find?_some hfind, Or.inl ?_⟩
    exact Updater.mem_listAllRelays_true.mp (mem_of_find?_eq_some hfind)

end Others

/-! ## The relay that is returned -/

section Returned

variable (f : Finder) (ip : SocketAddr → Dtls.IpAddr) (myId : Id)

/-- The answer that ends the selection says of the relay that gave it, if it lists it, that it is at
an address that is not excluded. -/
def KeepsAway (u : Updater) (exclude : List SocketAddr) (received : List ProbeResult) : Prop :=
  ∀ ids candidate status, f.excludeIds ip myId u.cache exclude = .ok ids →
    f.settled myId (f.probed myId u.cache ids) (f.asked (f.probed myId u.cache ids) received) =
      some (candidate, status) →
    ∀ addr, f.saysAt status candidate.id = some (some addr) →
      isExcludedCorner ip addr exclude = false

variable {f ip myId}

lemma kept_away_iff {u : Updater} {exclude : List SocketAddr} {received : List ProbeResult}
    {relay : RelayInfo} (h : f.findRelayExcluding ip myId u exclude received = .ok (.ok relay)) :
    (relay.id ≠ trimEndMatches myId issuerSuffix ∧
      ∃ addr, relay.address f.socketAddr = some addr ∧ isExcludedCorner ip addr exclude = false) ↔
        f.KeepsAway ip myId u exclude received := by
  obtain ⟨ids, candidate, status, hids, hsettled, hid, haddress⟩ := exists_settled_of_found h
  obtain ⟨hprobed, hcandidate, hsettles⟩ := address_of_settled hsettled
  obtain ⟨addr, haddr⟩ := isSome_iff_exists.mp hcandidate
  obtain ⟨hown, hnotIds⟩ := not_own_of_mem_candidates (mem_candidates_of_mem_probed hprobed)
  have hkept : isExcludedCorner ip addr exclude = false := by
    refine Bool.eq_false_of_not_eq_true fun hex => hnotIds ?_
    exact mem_excludeIds hids (mem_of_mem_probed hprobed) haddr hex
  constructor
  · rintro ⟨-, addr', haddr', hex⟩ ids' candidate' status' hids' hsettled' said hsaid
    obtain rfl := Except.ok.inj (hids.symm.trans hids')
    obtain ⟨rfl, rfl⟩ := Prod.mk.inj (some.inj (hsettled.symm.trans hsettled'))
    rw [haddress, hsaid, getD_some] at haddr'
    exact some.inj haddr' ▸ hex
  · intro hkeeps
    refine ⟨hid ▸ hown, ?_⟩
    cases hsaid : f.saysAt status candidate.id with
    | none =>
      rw [hsaid, getD_none, haddr] at haddress
      exact ⟨addr, haddress, hkept⟩
    | some place =>
      obtain ⟨said, rfl⟩ := isSome_iff_exists.mp (isSome_of_saysAt hsettles hsaid)
      rw [hsaid, getD_some] at haddress
      exact ⟨said, haddress, hkeeps ids candidate status hids hsettled said hsaid⟩

variable (f ip myId)

/-- **The corner.**  For every cache, every list of addresses to keep away from and all answers in
any order: the relay that is returned is not the node itself and not at an excluded address, exactly
if its own answer does not say that it is at one.

Where other threads use the cache as well, between the exclusion of ids and the choice of the
candidates (`es`) and from there until the relay is read back (`es'`, with the call's own accesses
anywhere among them), the same holds of any candidate that answers, as long as nothing that they
copied before or take into the cache lists a relay at an excluded address. -/
theorem corner_excluded_iff (u : Updater) (exclude : List SocketAddr) :
    (∀ received relay, f.findRelayExcluding ip myId u exclude received = .ok (.ok relay) →
      ((relay.id ≠ trimEndMatches myId issuerSuffix ∧
        ∃ addr, relay.address f.socketAddr = some addr ∧
          isExcludedCorner ip addr exclude = false) ↔ f.KeepsAway ip myId u exclude received)) ∧
    ∀ ids es es' candidate, f.excludeIds ip myId u.cache exclude = .ok ids →
      f.OthersKeepAway ip myId u exclude ids (es ++ es') →
      candidate ∈ f.probed myId (Lib.run (Updater.step f.socketAddr myId) u es).cache ids →
      let relay := acceptAvailable myId
        (Lib.run (Updater.step f.socketAddr myId) u (es ++ es')).cache candidate
      relay.id ≠ trimEndMatches myId issuerSuffix ∧
        ∀ addr, relay.address f.socketAddr = some addr →
          isExcludedCorner ip addr exclude = false := by
  refine ⟨fun _ _ h => kept_away_iff h, ?_⟩
  intro ids es es' candidate hids hothers hcandidate relay
  have hfirst : f.OthersKeepAway ip myId u exclude ids es :=
    ⟨hothers.snapshot, fun e he => hothers.taken e (mem_append_left es' he)⟩
  obtain ⟨hown, hnot⟩ := not_own_of_mem_candidates (mem_candidates_of_mem_probed hcandidate)
  obtain ⟨hid, hplace⟩ := mem_or_eq_acceptAvailable
    (Lib.run (Updater.step f.socketAddr myId) u (es ++ es')).cache candidate
  have hallowed : Allows ip exclude ids (relay.place f.socketAddr) := by
    rcases hplace with hmem | hsame
    · exact (hothers.run hids).cache relay hmem
    · exact hsame ▸ (hfirst.run hids).cache candidate (mem_of_mem_probed hcandidate)
  exact ⟨hid ▸ hown, fun addr haddr => hallowed (fun h => hnot (hid ▸ h)) addr haddr⟩

end Returned

def oneRoot : Finder where
  socketAddr ep := some ep.host
  discoverRoots := [Updater.chainRelay]
  idBucket _ := 0
  isCoolingDown _ := false
  now := "2026-01-01T00:00:00Z"

def exampleIp (addr : SocketAddr) : Dtls.IpAddr :=
  .v4 (if addr = "192.0.2.1" then 0xC0000201 else 0xC6336406)

def availableAt (host : String) : List ProbeResult :=
  [(0, .ok ⟨.available, 0, 2, ["ROOT"], some [⟨host, 9000⟩], [.available], none⟩)]

def returnedAt (host : String) : RelayInfo :=
  .rootWith { id := "ROOT", endpoint := some ⟨host, 9000⟩, amRelay := some true,
              date := "2026-01-01T00:00:00Z" } (some .available) (some mediumTtlSecs)

theorem corner_kept_away :
    oneRoot.findRelayExcluding exampleIp "ME" (oneRoot.initial "ME") ["198.51.100.6"]
        (availableAt "192.0.2.1") = .ok (.ok (returnedAt "192.0.2.1")) ∧
      (returnedAt "192.0.2.1").id ≠ trimEndMatches "ME" issuerSuffix ∧
        ∃ addr, (returnedAt "192.0.2.1").address oneRoot.socketAddr = some addr ∧
          isExcludedCorner exampleIp addr ["198.51.100.6"] = false := by
  have hfound : oneRoot.findRelayExcluding exampleIp "ME" (oneRoot.initial "ME") ["198.51.100.6"]
      (availableAt "192.0.2.1") = .ok (.ok (returnedAt "192.0.2.1")) := rfl
  refine ⟨hfound, ((corner_excluded_iff _ _ _ _ _).1 _ _ hfound).mpr ?_⟩
  intro ids candidate status hids hsettled addr hsaid
  obtain rfl := Except.ok.inj hids
  obtain ⟨rfl, rfl⟩ := Prod.mk.inj (some.inj hsettled)
  obtain rfl : "192.0.2.1" = addr := some.inj (some.inj hsaid)
  decide

/-- **An excluded corner**: the relay is probed at 192.0.2.1, answers that it is at 198.51.100.6,
which is excluded, and is returned with that address. -/
theorem excluded_corner_returned :
    oneRoot.findRelayExcluding exampleIp "ME" (oneRoot.initial "ME") ["198.51.100.6"]
        (availableAt "198.51.100.6") = .ok (.ok (returnedAt "198.51.100.6")) ∧
      (returnedAt "198.51.100.6").address oneRoot.socketAddr = some "198.51.100.6" ∧
        isExcludedCorner exampleIp "198.51.100.6" ["198.51.100.6"] = true :=
  ⟨rfl, rfl, by decide⟩

end Finder

end Bingle.Relay
