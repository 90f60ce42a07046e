import Bingle.Ddb.Client

/-!
# Numbers and lists that relays send

A node asks a relay for the relays it lists (`get_relays_from`, `bingle_core/src/ddb/client.rs`) and
for a channel to another node (`RelayClient::call`, `bingle_core/src/relay/relay_client.rs`).  Ids
that are no strings are left out before the two lists are compared, and numbers are cut to 16 bits.
-/

namespace Bingle.Ddb

open List Option
open Dtls (IpAddr NetworkEndpoint SocketAddr)
open Lib (Json Codec Checked okOr ensure bind_eq_ok_iff okOr_eq_ok_iff ensure_eq_ok_iff
  mapError_eq_ok_iff)
open Messages (Id)
open Outgoing (BingleError)

def asArray : Json → Option (List Json)
  | .arr elements => some elements
  | _ => none

def newSocketAddr (ip : IpAddr) (port : UInt16) : SocketAddr :=
  match ip with
  | .v4 ip => .v4 ip port
  | .v6 ip => .v6 ip port 0 0

/-! ## The list of relays -/

section Relays

variable {κ : Type} (P : Primitives κ)

def pairEndpoint (entry : Id × Json) : Except BingleError (Option (Id × SocketAddr)) := do
  let host ← okOr (entry.2.get "host" >>= Json.asStr) (.other "endpoint missing host")
  let port ← okOr (entry.2.get "port" >>= Json.asU64) (.other "endpoint missing port")
  return (P.parseIp host).map fun ip => (entry.1, newSocketAddr ip port.toUInt16)

def relaysOfResponse (resp : Json) : Except BingleError (List (Id × SocketAddr)) := do
  ensure (decide (resp.get "app" >>= Json.asStr = some "ddb" ∧
      resp.get "type" >>= Json.asStr = some "relaysStatusResponse"))
    (.other "unexpected response to getRelaysStatus")
  let idsArr ← okOr (resp.get "relayIds" >>= asArray) (.other "missing relayIds")
  let ids := idsArr.filterMap Json.asStr
  match resp.get "relayEndpoints" >>= asArray with
  | some eps =>
    if eps.length = ids.length then
      return (← (ids.zip eps).mapM (pairEndpoint P)).reduceOption
    else return []
  | none => return []

def getRelaysStatus : Json :=
  .obj (Wire.DdbMessage.getRelaysStatus ⟨"ddb", -1, none, none, none⟩).entries

def Client.askRelays (c : Client κ) (relay : Relay.RelayInfo) :
    Checked (Except BingleError Json) := do
  let address ← Checked.expect (relay.address c.finder.socketAddr)
    "RelayInfo must have a valid address"
  return do
    let relayUser ← c.relayUserId relay.id
    ensure c.apiToSend (.other "BingleApi dropped")
    c.sendWithResponse address relayUser getRelaysStatus

def Client.getRelaysFrom (c : Client κ) (relay : Relay.RelayInfo) :
    Checked (Except BingleError (List (Id × SocketAddr))) := do
  let answer ← c.askRelays relay
  return answer >>= relaysOfResponse c.primitives

/-! ## What was sent -/

def exactPair (entry : Json × Json) : Option (Id × SocketAddr) := do
  let id ← entry.1.asStr
  let host ← entry.2.get "host" >>= Json.asStr
  let port ← entry.2.get "port" >>= Codec.u16.dec
  let ip ← P.parseIp host
  return (id, newSocketAddr ip port)

def exactPairs (ids eps : List Json) : List (Id × SocketAddr) :=
  (ids.zip eps).filterMap (exactPair P)

/-- Ids and endpoints are paired by position, and lists of two lengths refused. -/
structure TakenExactly (resp : Json) (out : List (Id × SocketAddr)) : Prop where
  rejected : ∀ ids eps, resp.get "relayIds" >>= asArray = some ids →
    resp.get "relayEndpoints" >>= asArray = some eps → ids.length ≠ eps.length → out = []
  aligned : ∀ ids eps, resp.get "relayIds" >>= asArray = some ids →
    resp.get "relayEndpoints" >>= asArray = some eps → ids.length = eps.length →
      out.Sublist (exactPairs P ids eps)
  complete : ∀ ids eps, resp.get "relayIds" >>= asArray = some ids →
    resp.get "relayEndpoints" >>= asArray = some eps → ids.length = eps.length →
      (∀ v ∈ ids, v.asStr.isSome = true) → out = exactPairs P ids eps

def HostIsAddress (ep : Json) : Prop :=
  ∃ host, ep.get "host" >>= Json.asStr = some host ∧ (P.parseIp host).isSome = true

/-- Where there are as many endpoints as strings among the ids, an endpoint with an address has a
port of 16 bits, and no id was left out. -/
def Straight (resp : Json) : Prop :=
  ∀ ids eps, resp.get "relayIds" >>= asArray = some ids →
    resp.get "relayEndpoints" >>= asArray = some eps →
      eps.length = (ids.filterMap Json.asStr).length → ∀ ep ∈ eps, HostIsAddress P ep →
        ids.length = eps.length ∧ ∃ n : ℕ, n < 65536 ∧ ep.get "port" = some (.int n)

/-! ## What the loop makes of the lists -/

def loosePair (entry : Id × Json) : Option (Id × SocketAddr) := do
  let host ← entry.2.get "host" >>= Json.asStr
  let port ← entry.2.get "port" >>= Json.asU64
  let ip ← P.parseIp host
  return (entry.1, newSocketAddr ip port.toUInt16)

variable {P}

variable {entry : Id × Json} {resp v : Json} {out : List (Id × SocketAddr)} {pair : Id × SocketAddr}

lemma pairEndpoint_eq_ok {o : Option (Id × SocketAddr)} (h : pairEndpoint P entry = .ok o) :
    (∃ port : UInt64, entry.2.get "port" >>= Json.asU64 = some port) ∧ o = loosePair P entry := by
  simp only [pairEndpoint, bind_eq_ok_iff, okOr_eq_ok_iff] at h
  obtain ⟨host, hhost, port, hport, ho⟩ := h
  obtain rfl := Except.ok.inj ho
  refine ⟨⟨port, hport⟩, ?_⟩
  simp only [loosePair, hhost, hport, bind_eq_bind, bind_some, Option.pure_def]
  cases P.parseIp host <;> rfl

lemma mapM_pairEndpoint {entries : List (Id × Json)} {pairs : List (Option (Id × SocketAddr))}
    (h : entries.mapM (pairEndpoint P) = .ok pairs) :
    pairs.reduceOption = entries.filterMap (loosePair P) ∧
      ∀ entry ∈ entries, ∃ port : UInt64, entry.2.get "port" >>= Json.asU64 = some port := by
  induction entries generalizing pairs with
  | nil =>
    obtain rfl := Except.ok.inj h
    exact ⟨rfl, nofun⟩
  | cons entry entries ih =>
    rw [mapM_cons] at h
    obtain ⟨o, ho, h⟩ := bind_eq_ok_iff.mp h
    obtain ⟨os, hos, h⟩ := bind_eq_ok_iff.mp h
    obtain rfl := Except.ok.inj h
    obtain ⟨hport, rfl⟩ := pairEndpoint_eq_ok ho
    obtain ⟨hrest, hports⟩ := ih hos
    refine ⟨?_, forall_mem_cons.mpr ⟨hport, hports⟩⟩
    rw [filterMap_cons, ← hrest]
    cases loosePair P entry <;> simp [List.reduceOption]

lemma relaysOfResponse_eq_ok (h : relaysOfResponse P resp = .ok out) :
    ∃ ids, resp.get "relayIds" >>= asArray = some ids ∧
      ((∃ eps, resp.get "relayEndpoints" >>= asArray = some eps ∧
          eps.length = (ids.filterMap Json.asStr).length ∧
          out = ((ids.filterMap Json.asStr).zip eps).filterMap (loosePair P) ∧
          ∀ entry ∈ (ids.filterMap Json.asStr).zip eps,
            ∃ port : UInt64, entry.2.get "port" >>= Json.asU64 = some port) ∨
        ((∀ eps, resp.get "relayEndpoints" >>= asArray = some eps →
          eps.length ≠ (ids.filterMap Json.asStr).length) ∧ out = [])) := by
  simp only [relaysOfResponse, bind_eq_ok_iff, okOr_eq_ok_iff] at h
  obtain ⟨-, -, ids, hids, h⟩ := h
  refine ⟨ids, hids, ?_⟩
  split at h
  · next eps heps =>
      split_ifs at h with hlen
      · obtain ⟨pairs, hpairs, h⟩ := bind_eq_ok_iff.mp h
        obtain rfl := Except.ok.inj h
        obtain ⟨hout, hports⟩ := mapM_pairEndpoint hpairs
        exact Or.inl ⟨eps, heps, hlen, hout, hports⟩
      · obtain rfl := Except.ok.inj h
        refine Or.inr ⟨fun eps' heps' => ?_, rfl⟩
        obtain rfl := some.inj (heps.symm.trans heps')
        exact hlen
  · next heps =>
      obtain rfl := Except.ok.inj h
      exact Or.inr ⟨fun eps' heps' => absurd (heps.symm.trans heps') nofun, rfl⟩

/-! ## Against what was sent -/

lemma filterMap_eq_filterMap_iff {α β : Type*} {f g : α → Option β} {l : List α}
    (h : ∀ x ∈ l, ∀ y, g x = some y → f x = some y) :
    l.filterMap f = l.filterMap g ↔ ∀ x ∈ l, f x = g x := by
  have hle : ∀ l : List α, (∀ x ∈ l, ∀ y, g x = some y → f x = some y) →
      (l.filterMap g).length ≤ (l.filterMap f).length := by
    intro l hl
    induction l with
    | nil => exact le_rfl
    | cons x l ih =>
      have ih' := ih fun x hx => hl x (mem_cons_of_mem _ hx)
      cases hg : g x with
      | none =>
        rw [filterMap_cons_none hg]
        exact ih'.trans ((sublist_cons_self x l).filterMap f).length_le
      | some y =>
        rw [filterMap_cons_some hg,
          filterMap_cons_some (hl x mem_cons_self y hg)]
        exact Nat.succ_le_succ ih'
  refine ⟨fun heq => ?_, filterMap_congr⟩
  induction l with
  | nil => simp
  | cons x l ih =>
    have hl : ∀ x ∈ l, ∀ y, g x = some y → f x = some y :=
      fun x hx => h x (mem_cons_of_mem _ hx)
    cases hg : g x with
    | some y =>
      have hf := h x mem_cons_self y hg
      rw [filterMap_cons_some hg, filterMap_cons_some hf, List.cons.injEq] at heq
      exact forall_mem_cons.mpr ⟨hf.trans hg.symm, ih hl heq.2⟩
    | none =>
      cases hf : f x with
      | none =>
        rw [filterMap_cons_none hg, filterMap_cons_none hf] at heq
        exact forall_mem_cons.mpr ⟨hf.trans hg.symm, ih hl heq⟩
      | some y =>
        -- there would be one more on the left than on the right
        rw [filterMap_cons_none hg, filterMap_cons_some hf] at heq
        have hlen := congrArg List.length heq
        have := hle l hl
        simp only [length_cons] at hlen
        omega

lemma eq_map_str {ids : List Json} (h : ids.length = (ids.filterMap Json.asStr).length) :
    ids = (ids.filterMap Json.asStr).map Json.str := by
  induction ids with
  | nil => rfl
  | cons v ids ih =>
    cases hv : v.asStr with
    | none =>
      rw [filterMap_cons_none hv, length_cons] at h
      have := length_filterMap_le Json.asStr ids
      omega
    | some s =>
      rw [filterMap_cons_some hv, length_cons, length_cons] at h
      rw [filterMap_cons_some hv, map_cons, ← ih (Nat.succ.inj h), eq_str_of_asStr hv]

lemma exactPairs_map_str (ids : List Id) (eps : List Json) :
    exactPairs P (ids.map Json.str) eps =
      (ids.zip eps).filterMap fun entry => exactPair P (.str entry.1, entry.2) := by
  rw [exactPairs, zip_map_left, filterMap_map]
  rfl

lemma u16_dec_eq_some_iff {port : UInt16} :
    Codec.u16.dec v = some port ↔ v = .int port.toNat :=
  ⟨Codec.eq_int_of_dec_integer, fun h => h ▸ Codec.u16.dec_enc port⟩

lemma asU64_eq_some_iff {n : UInt64} : v.asU64 = some n ↔ v = .int n.toNat :=
  ⟨Codec.eq_int_of_dec_integer, fun h => h ▸ Codec.u64.dec_enc n⟩

lemma asU64_of_lt {n : ℕ} (h : n < 65536) :
    (Json.int n).asU64 = some (UInt64.ofNat n) ∧ (UInt64.ofNat n).toUInt16.toNat = n := by
  have hn : (UInt64.ofNat n).toNat = n := UInt64.toNat_ofNat_of_lt (by norm_num; omega)
  refine ⟨asU64_eq_some_iff.mpr (by rw [hn]), ?_⟩
  rw [UInt64.toNat_toUInt16, hn]
  omega

lemma exactPair_eq_some_iff :
    exactPair P (.str entry.1, entry.2) = some pair ↔
      loosePair P entry = some pair ∧ ∃ n : ℕ, n < 65536 ∧ entry.2.get "port" = some (.int n) := by
  simp only [exactPair, loosePair, bind_eq_bind, bind_eq_some_iff, Option.pure_def,
    some.injEq, u16_dec_eq_some_iff, asU64_eq_some_iff]
  constructor
  · rintro ⟨id, hid, host, hhost, port, ⟨v, hv, rfl⟩, ip, hip, rfl⟩
    obtain rfl : entry.1 = id := some.inj hid
    obtain ⟨hn, hport⟩ := asU64_of_lt port.toNat_lt
    refine ⟨⟨host, hhost, UInt64.ofNat port.toNat, ⟨_, hv, asU64_eq_some_iff.mp hn⟩, ip, hip, ?_⟩,
      port.toNat, port.toNat_lt, hv⟩
    rw [UInt16.toNat_inj.mp hport]
  · rintro ⟨⟨host, hhost, n, ⟨v, hv, rfl⟩, ip, hip, rfl⟩, m, hm, hv'⟩
    have hnm : n.toNat = m := by simpa using some.inj (hv.symm.trans hv')
    have hport : n.toUInt16.toNat = n.toNat := by
      rw [UInt64.toNat_toUInt16]
      omega
    exact ⟨entry.1, rfl, host, hhost, n.toUInt16, ⟨_, hv, by rw [hport]⟩, ip, hip, rfl⟩

lemma hostIsAddress_of_loosePair (h : loosePair P entry = some pair) : HostIsAddress P entry.2 := by
  simp only [loosePair, bind_eq_bind, bind_eq_some_iff] at h
  obtain ⟨host, ⟨v, hv, hstr⟩, port, -, ip, hip, -⟩ := h
  exact ⟨host, by rw [hv]; exact hstr, by rw [hip]; rfl⟩

lemma exists_loosePair (hhost : HostIsAddress P entry.2)
    (hport : ∃ port : UInt64, entry.2.get "port" >>= Json.asU64 = some port) :
    ∃ pair, loosePair P entry = some pair := by
  obtain ⟨host, hhost, hip⟩ := hhost
  obtain ⟨ip, hip⟩ := isSome_iff_exists.mp hip
  obtain ⟨port, hport⟩ := hport
  exact ⟨_, by simp only [loosePair, hhost, hport, hip, bind_eq_bind, bind_some]; rfl⟩

lemma Straight.takenExactly (hs : Straight P resp)
    (h : relaysOfResponse P resp = .ok out) : TakenExactly P resp out := by
  obtain ⟨ids, hids, ⟨eps, heps, hlen, rfl, -⟩ | ⟨hlen, rfl⟩⟩ := relaysOfResponse_eq_ok h
  · have hstraight := hs ids eps hids heps hlen
    have hsame : ids.length = eps.length →
        ((ids.filterMap Json.asStr).zip eps).filterMap (loosePair P) = exactPairs P ids eps := by
      intro heq
      rw [eq_map_str (heq.trans hlen), exactPairs_map_str, ← eq_map_str (heq.trans hlen)]
      refine filterMap_congr fun entry hentry => Option.ext fun pair => ?_
      rw [exactPair_eq_some_iff]
      refine (and_iff_left_of_imp fun hloose => ?_).symm
      exact (hstraight entry.2 (of_mem_zip hentry).2 (hostIsAddress_of_loosePair hloose)).2
    refine ⟨fun ids' eps' hids' heps' hne => ?_, fun ids' eps' hids' heps' heq => ?_,
      fun ids' eps' hids' heps' heq _ => ?_⟩ <;>
    obtain rfl := some.inj (hids.symm.trans hids') <;>
    obtain rfl := some.inj (heps.symm.trans heps')
    · refine filterMap_eq_nil_iff.mpr fun entry hentry => eq_none_iff_forall_ne_some.mpr
        fun pair hloose => ?_
      exact hne (hstraight entry.2 (of_mem_zip hentry).2 (hostIsAddress_of_loosePair hloose)).1
    · rw [hsame heq]
    · exact hsame heq
  · refine ⟨fun _ _ _ _ _ => rfl, fun _ _ _ _ _ => nil_sublist _,
      fun ids' eps' hids' heps' heq hstr => ?_⟩
    obtain rfl := some.inj (hids.symm.trans hids')
    -- no id is left out, so the lists the loop compares are of one length
    have hids := filterMap_length_eq_length.mpr hstr
    exact absurd (heq.symm.trans hids.symm) (hlen eps' heps')

lemma TakenExactly.straight
    (ht : TakenExactly P resp out) (h : relaysOfResponse P resp = .ok out) : Straight P resp := by
  intro ids eps hids heps hlen ep hep hhost
  obtain ⟨ids', hids', ⟨eps', heps', -, rfl, hports⟩ | ⟨hne, -⟩⟩ := relaysOfResponse_eq_ok h
  · obtain rfl := some.inj (hids.symm.trans hids')
    obtain rfl := some.inj (heps.symm.trans heps')
    obtain ⟨id, hentry⟩ : ∃ id, (id, ep) ∈ (ids.filterMap Json.asStr).zip eps := by
      rw [← map_snd_zip hlen.le] at hep
      obtain ⟨entry, hentry, rfl⟩ := List.mem_map.mp hep
      exact ⟨entry.1, hentry⟩
    obtain ⟨pair, hpair⟩ : ∃ pair, loosePair P (id, ep) = some pair :=
      exists_loosePair hhost (hports _ hentry)
    have hmem := mem_filterMap.mpr ⟨(id, ep), hentry, hpair⟩
    have heq : ids.length = eps.length := by
      by_contra hne
      rw [ht.rejected ids eps hids heps hne] at hmem
      cases hmem
    refine ⟨heq, ?_⟩
    have hstr := eq_map_str (heq.trans hlen)
    have hout := ht.complete ids eps hids heps heq
      (filterMap_length_eq_length.mp (heq.trans hlen).symm)
    rw [hstr, exactPairs_map_str, ← hstr] at hout
    have hsame := (filterMap_eq_filterMap_iff fun entry _ pair hexact =>
      (exactPair_eq_some_iff.mp hexact).1).mp hout (id, ep) hentry
    exact (exactPair_eq_some_iff.mp (hsame.symm.trans hpair)).2
  · obtain rfl := some.inj (hids.symm.trans hids')
    exact absurd hlen (hne eps heps)

end Relays

/-! ## Channels -/

structure RelayClient where
  api : Bool
  lookup : Id → Except BingleError NetworkEndpoint
  sendWithResponse : SocketAddr → String → Json → Except BingleError Json

namespace RelayClient

def relayCall (targetId : Id) : Json := .obj (Wire.RelayMessage.call ⟨none, targetId, none⟩).entries

def channelOfResponse (resp : Json) : Option UInt16 :=
  if (resp.get "type" >>= Json.asStr).getD "" = "RelayResponse" then
    (resp.get "channel" >>= Json.asU64).map UInt64.toUInt16
  else none

variable (rc : RelayClient)

def relayAddr (relayNsk : NetworkEndpoint) (relayId : Id) : Except BingleError SocketAddr :=
  match relayNsk.relayAddress with
  | some addr => .ok addr
  | none => do
      let resolved ← (rc.lookup relayId).mapError fun e => .other e.toString
      okOr resolved.inetSocketAddress (.other
        "RelayClient::call: DDB lookup for relay did not return a direct endpoint")

def call (relayNsk : NetworkEndpoint) (targetId : Id) : Except BingleError NetworkEndpoint := do
  let relayId ← okOr relayNsk.relayId (.other "RelayClient::call: relay_nsk has no relay_id")
  let relayAddr ← rc.relayAddr relayNsk relayId
  ensure rc.api (.other "BingleApi dropped")
  let resp ← rc.sendWithResponse relayAddr relayId (relayCall targetId)
  let channel ← okOr (channelOfResponse resp)
    (.other "RelayClient::call: unexpected response (missing channel)")
  return .newRelay relayId (some relayAddr) (some channel)

def Answered (ep : NetworkEndpoint) (targetId : Id) (resp : Json) : Prop :=
  ∃ relayId addr, ep.relayId = some relayId ∧ ep.relayAddress = some addr ∧
    rc.sendWithResponse addr relayId (relayCall targetId) = .ok resp

variable {rc}

lemma call_eq_ok {relayNsk : NetworkEndpoint} {targetId : Id} {ep : NetworkEndpoint}
    (h : rc.call relayNsk targetId = .ok ep) :
    ∃ resp channel, rc.Answered ep targetId resp ∧ channelOfResponse resp = some channel ∧
      ep.relayChannel = some channel := by
  simp only [call, bind_eq_ok_iff, okOr_eq_ok_iff] at h
  obtain ⟨relayId, -, addr, -, -, -, resp, hresp, channel, hchannel, hep⟩ := h
  obtain rfl := Except.ok.inj hep
  exact ⟨resp, channel, ⟨relayId, addr, rfl, rfl, hresp⟩, hchannel, rfl⟩

lemma channel_exact_iff {resp : Json} {channel : UInt16}
    (h : channelOfResponse resp = some channel) :
    resp.get "channel" = some (.int channel.toNat) ↔
      ∃ n : ℕ, n < 65536 ∧ resp.get "channel" = some (.int n) := by
  refine ⟨fun hsent => ⟨channel.toNat, channel.toNat_lt, hsent⟩, ?_⟩
  rintro ⟨n, hn, hsent⟩
  rw [channelOfResponse, ite_none_right_eq_some] at h
  obtain ⟨hu64, hu16⟩ := asU64_of_lt hn
  have hchannel : (UInt64.ofNat n).toUInt16 = channel := by
    simpa [hsent, hu64] using h.2
  rw [hsent, ← hchannel, hu16]

end RelayClient

/-- **Numbers and lists from relays.**  The relays that `get_relays_from` returns are those that
were sent, at their positions and with their ports, exactly if the lists are straight; and the
channel of a call is the number that was sent exactly if that has 16 bits. -/
theorem answers_taken_exactly_iff {κ : Type} (c : Client κ) (rc : RelayClient) :
    (∀ relay resp out, c.askRelays relay = .ok (.ok resp) →
      c.getRelaysFrom relay = .ok (.ok out) →
        (TakenExactly c.primitives resp out ↔ Straight c.primitives resp)) ∧
    ∀ relayNsk targetId ep, rc.call relayNsk targetId = .ok ep →
      ∃ resp channel, rc.Answered ep targetId resp ∧ ep.relayChannel = some channel ∧
        (resp.get "channel" = some (.int channel.toNat) ↔
          ∃ n : ℕ, n < 65536 ∧ resp.get "channel" = some (.int n)) := by
  constructor
  · intro relay resp out hask hget
    have hout : relaysOfResponse c.primitives resp = .ok out := by
      rw [Client.getRelaysFrom, hask] at hget
      exact Except.ok.inj hget
    exact ⟨fun ht => ht.straight hout, fun hs => hs.takenExactly hout⟩
  · intro relayNsk targetId ep hcall
    obtain ⟨resp, channel, hanswered, hchannel, hep⟩ := RelayClient.call_eq_ok hcall
    exact ⟨resp, channel, hanswered, hep, RelayClient.channel_exact_iff hchannel⟩

def statusResponse (ids : List Json) (port : ℕ) : Json :=
  .obj [("app", .str "ddb"), ("type", .str "relaysStatusResponse"), ("relayIds", .arr ids),
    ("relayEndpoints", .arr [.obj [("host", .str "203.0.113.6"), ("port", .int port)]])]

def toldRelays (ids : List Json) (port : ℕ) : Client (List UInt8) :=
  { Client.misled with sendWithResponse := fun _ _ _ => .ok (statusResponse ids port) }

def toldChannel (channel : ℕ) : RelayClient where
  api := true
  lookup _ := .ok (.newDirect (.v4 0xcb007106 9000))
  sendWithResponse _ _ _ :=
    .ok (.obj [("type", .str "RelayResponse"), ("channel", .int channel)])

theorem straight_answers_taken :
    (toldRelays [.str "B"] 9000).getRelaysFrom Relay.Updater.chainRelay =
        .ok (.ok [("B", .v4 0xcb007106 9000)]) ∧
      Straight Client.spelled (statusResponse [.str "B"] 9000) ∧
      TakenExactly Client.spelled (statusResponse [.str "B"] 9000) [("B", .v4 0xcb007106 9000)] ∧
      (toldChannel 16385).call (.newRelay "R" none none) "B" =
        .ok (.newRelay "R" (some (.v4 0xcb007106 9000)) (some 16385)) := by
  have hstraight : Straight Client.spelled (statusResponse [.str "B"] 9000) := by
    intro ids eps hids heps _ ep hep _
    obtain rfl := some.inj hids
    obtain rfl := some.inj heps
    obtain rfl := mem_singleton.mp hep
    exact ⟨rfl, 9000, by decide, rfl⟩
  exact ⟨rfl, hstraight, ((answers_taken_exactly_iff (toldRelays [.str "B"] 9000)
    (toldChannel 16385)).1 Relay.Updater.chainRelay _ _ rfl rfl).mpr hstraight, rfl⟩

/-- **Shifted and wrapped**: the second id gets the endpoint of the first, which is no string, at
the port 1 that is left of 65537; the channel 0 is left of 65536. -/
theorem answers_shifted_and_wrapped :
    (toldRelays [.null, .str "B"] 65537).getRelaysFrom Relay.Updater.chainRelay =
        .ok (.ok [("B", .v4 0xcb007106 1)]) ∧
      ¬ TakenExactly Client.spelled (statusResponse [.null, .str "B"] 65537)
        [("B", .v4 0xcb007106 1)] ∧
      (toldChannel 65536).call (.newRelay "R" none none) "B" =
        .ok (.newRelay "R" (some (.v4 0xcb007106 9000)) (some 0)) := by
  refine ⟨rfl, fun ht => ?_, rfl⟩
  cases ht.rejected [.null, .str "B"] _ rfl rfl (by decide)

end Bingle.Ddb
