import Mathlib
import Bingle.Ddb.Convergence
import Bingle.Dtls.Simultaneous
import Bingle.Lib.Checked
import Bingle.Outgoing.Path
import Bingle.Relay.Selection
import Bingle.Wire.Marshal

/-!
# Looking an id up

The client of the distributed database (`ddb/client.rs`) finds a relay, asks it for the advert of an
id, and makes an endpoint of what it answers.  The advert is checked against the key of the id that
stands in it (`AdvertRecord::verify`), not of the id that was asked for.
-/

namespace Bingle.Ddb

open Option
open Dtls (IpAddr NetworkEndpoint)
open Lib (Json Codec Slot Checked okOr ensure bind_eq_ok_iff okOr_eq_ok_iff ensure_eq_ok_iff
  mapError_eq_ok_iff)
open Messages (Id SocketAddr)
open Outgoing (BingleError)
open Relay (Finder ProbeResult)
open Wire (InetSocketAddress AdvertRecord DdbMessage)

/-! ## Records and their signatures -/

/-- What other crates compute.  The keys that signatures are checked with are of the type `κ`. -/
structure Primitives (κ : Type) where
  addressToByteKey : String → Option (List UInt8)
  verifyingKey : List UInt8 → Option κ
  verifies : κ → List UInt8 → List UInt8 → Bool
  base64Decode : String → Option (List UInt8)
  base32Decode : String → Except String (List UInt8)
  toVec : Json → Option (List UInt8)
  parseIp : String → Option IpAddr
  describe : Json → String

/-- `serde_json::from_value` for an address: an object of its fields, or an array of them in
order. -/
def inetSocketAddressFromValue : Json → Option InetSocketAddress
  | .obj entries => InetSocketAddress.fields.dec fun key => entries.lookup key
  | .arr [host, port] => return ⟨← host.asStr, ← Codec.u16.dec port⟩
  | _ => none

def advertFromFields (get : String → Option Json) : Option AdvertRecord := do
  let id ← get "id" >>= Json.asStr
  let endpoint ← Slot.decOption inetSocketAddressFromValue (get "endpoint")
  let amRelay ← Slot.decOption Json.asBool (get "amRelay")
  let relayId ← Slot.decOption Json.asStr (get "relayId")
  let relaySig ← Slot.decOption Json.asStr (get "relaySig")
  let date ← get "date" >>= Json.asStr
  let sig ← Slot.decOption Json.asStr (get "sig")
  return { id, endpoint, amRelay, relayId, relaySig, date, sig }

def advertKeys : List String := ["id", "endpoint", "amRelay", "relayId", "relaySig", "date", "sig"]

def advertFromValue : Json → Option AdvertRecord
  | .obj entries => advertFromFields fun key => entries.lookup key
  | .arr elements =>
    if elements.length ≤ advertKeys.length then
      advertFromFields fun key => elements[advertKeys.idxOf key]?
    else none
  | _ => none

section Records

variable {κ : Type} (P : Primitives κ)

def Primitives.keyOf (id : Id) : Option κ := P.addressToByteKey id >>= P.verifyingKey

def Primitives.signedData (record : AdvertRecord) : Option (List UInt8) :=
  P.toVec (AdvertRecord.codec.enc { record with sig := none })

def Primitives.verify (record : AdvertRecord) : Bool :=
  let checked : Option Bool := do
    let sig ← record.sig
    let key ← P.keyOf record.id
    let bytes ← P.base64Decode sig
    guard (bytes.length = 64)
    let data ← P.signedData record
    return P.verifies key data bytes
  checked.getD false

def Primitives.SignedBy (id : Id) (record : AdvertRecord) : Prop :=
  ∃ sig, record.sig = some sig ∧ ∃ key, P.keyOf id = some key ∧
    ∃ bytes, P.base64Decode sig = some bytes ∧ bytes.length = 64 ∧
      ∃ data, P.signedData record = some data ∧ P.verifies key data bytes = true

lemma getD_false_iff {o : Option Bool} : o.getD false = true ↔ o = some true := by
  cases o <;> simp

variable {record : AdvertRecord} {ep : NetworkEndpoint} {v endpoint : Json}
  {address : InetSocketAddress}

lemma verify_iff :
    P.verify record = true ↔ P.SignedBy record.id record := by
  simp only [Primitives.verify, Primitives.SignedBy, getD_false_iff, bind_eq_bind,
    bind_eq_some_iff, pure_def, some.injEq, guard_eq_some',
    exists_const]

def Primitives.place (record : AdvertRecord) : Option NetworkEndpoint :=
  match record.relayId with
  | some relayId => some (.newRelay relayId none none)
  | none =>
    match record.endpoint with
    | some endpoint =>
      match P.parseIp endpoint.host with
      | some (.v4 ip) => some (.newDirect (.v4 ip endpoint.port))
      | _ => none
    | none => none

/-! ## What is made of an answer -/

def malformed (detail : String) : BingleError := .send .malformedAdvert detail

def directEndpoint (endpoint : Json) : Except BingleError NetworkEndpoint := do
  let host ← okOr (endpoint.get "host" >>= Json.asStr) (malformed "missing endpoint.host")
  let port ← okOr (endpoint.get "port" >>= Json.asU64) (malformed "missing endpoint.port")
  match P.parseIp host with
  | some (.v4 ip) => .ok (.newDirect (.v4 ip port.toUInt16))
  | some (.v6 _) =>
    .error (malformed ("invalid host '" ++ host ++ "': IPv6 addresses are not supported"))
  | none => .error (malformed ("invalid host '" ++ host ++ "': not an IP address"))

def endpointOfAdvert (advert : Json) : Except BingleError NetworkEndpoint :=
  match advert.get "relayId" with
  | some relayIdValue => do
      let relayId ← okOr relayIdValue.asStr (malformed "relayId is not a string")
      .ok (.newRelay relayId none none)
  | none =>
    match advert.get "endpoint" with
    | some endpoint => directEndpoint P endpoint
    | none => .error (malformed "AdvertRecord contains neither relayId nor endpoint")

def endpointOfResponse (id : Id) (resp : Json) : Except BingleError NetworkEndpoint := do
  ensure (decide (resp.get "app" >>= Json.asStr = some "ddb" ∧
      resp.get "type" >>= Json.asStr = some "queryResponse"))
    (.send .protocolError "unexpected response (expected DdbQueryResponse)")
  ensure ((resp.get "found" >>= Json.asBool).getD false)
    (.send .recipientNotAdvertised ("recipient " ++ id ++ " not found in DDB"))
  let advert ← okOr (resp.get "advert") (malformed "missing advert")
  let record ← okOr (advertFromValue advert)
    (malformed ("Failed to deserialize AdvertRecord: " ++ P.describe advert))
  ensure (P.verify record)
    (malformed ("AdvertRecord signature verification failed for " ++ id))
  endpointOfAdvert P advert

structure Carries (resp advert : Json) : Prop where
  app : resp.get "app" >>= Json.asStr = some "ddb"
  type : resp.get "type" >>= Json.asStr = some "queryResponse"
  found : resp.get "found" >>= Json.asBool = some true
  advert : resp.get "advert" = some advert

variable {P}

lemma endpointOfResponse_eq_ok_iff {id : Id} {resp : Json} :
    endpointOfResponse P id resp = .ok ep ↔
      ∃ advert record, Carries resp advert ∧ advertFromValue advert = some record ∧
        P.verify record = true ∧ endpointOfAdvert P advert = .ok ep := by
  simp only [endpointOfResponse, bind_eq_ok_iff, ensure_eq_ok_iff, okOr_eq_ok_iff,
    decide_eq_true_eq, getD_false_iff]
  constructor
  · rintro ⟨-, ⟨happ, htype⟩, -, hfound, advert, hadvert, record, hrecord, -, hverify, hep⟩
    exact ⟨advert, record, ⟨happ, htype, hfound, hadvert⟩, hrecord, hverify, hep⟩
  · rintro ⟨advert, record, ⟨happ, htype, hfound, hadvert⟩, hrecord, hverify, hep⟩
    exact ⟨(), ⟨happ, htype⟩, (), hfound, advert, hadvert, record, hrecord, (), hverify, hep⟩

/-! ## The endpoint is the record's -/

lemma advertFromFields_eq_some {get : String → Option Json}
    (h : advertFromFields get = some record) :
    Slot.decOption Json.asStr (get "relayId") = some record.relayId ∧
      Slot.decOption inetSocketAddressFromValue (get "endpoint") = some record.endpoint := by
  simp only [advertFromFields, bind_eq_bind, bind_eq_some_iff, pure_def,
    some.injEq] at h
  obtain ⟨id, -, endpoint, hendpoint, amRelay, -, relayId, hrelayId, relaySig, -, date, -, sig, -,
    rfl⟩ := h
  exact ⟨hrelayId, hendpoint⟩

lemma eq_str_of_asStr {s : String} (h : v.asStr = some s) : v = .str s := by
  cases v <;> simp_all [Json.asStr, Codec.string]

lemma toUInt16_of_asU64 {n : UInt64} {port : UInt16} (hn : v.asU64 = some n)
    (hport : Codec.u16.dec v = some port) : n.toUInt16 = port := by
  have hv := Codec.eq_int_of_dec_integer (show Codec.u64.dec v = some n from hn)
  have hv' := Codec.eq_int_of_dec_integer hport
  have hnat : n.toNat = port.toNat := by
    rw [hv, Json.int.injEq] at hv'
    exact Int.natCast_inj.mp hv'
  apply UInt16.toNat_inj.mp
  rw [UInt64.toNat_toUInt16, hnat, Nat.mod_eq_of_lt port.toNat_lt]

lemma address_of_fields {host : String}
    {port : UInt64} (haddress : inetSocketAddressFromValue endpoint = some address)
    (hhost : endpoint.get "host" >>= Json.asStr = some host)
    (hport : endpoint.get "port" >>= Json.asU64 = some port) :
    address = ⟨host, port.toUInt16⟩ := by
  cases endpoint with
  | obj entries =>
    simp only [Json.get_obj, bind_eq_bind, bind_eq_some_iff] at hhost hport
    obtain ⟨hostValue, hhostValue, hhost⟩ := hhost
    obtain ⟨portValue, hportValue, hport⟩ := hport
    simp only [inetSocketAddressFromValue, InetSocketAddress.fields, Lib.Fields.field,
      Lib.Fields.make, Slot.required, hhostValue, hportValue, bind_eq_bind,
      bind_some, bind_eq_some_iff, pure_def, some.injEq] at haddress
    obtain ⟨-, ⟨host', hhost', rfl⟩, port', hport', rfl⟩ := haddress
    have hhosts : host' = host := some.inj (hhost'.symm.trans hhost)
    rw [hhosts, toUInt16_of_asU64 hport hport']
  | _ => cases hhost

lemma place_of_directEndpoint (hrelayId : record.relayId = none)
    (hendpoint : record.endpoint = some address)
    (haddress : inetSocketAddressFromValue endpoint = some address)
    (hep : directEndpoint P endpoint = .ok ep) : P.place record = some ep := by
  simp only [directEndpoint, bind_eq_ok_iff, okOr_eq_ok_iff] at hep
  obtain ⟨host, hhost, port, hport, hep⟩ := hep
  obtain rfl := address_of_fields haddress hhost hport
  simp only [Primitives.place, hrelayId, hendpoint]
  split at hep
  · next ip hip =>
      obtain rfl := Except.ok.inj hep
      rw [hip]
  · cases hep
  · cases hep

lemma place_of_endpointOfAdvert {advert : Json}
    (hrecord : advertFromValue advert = some record) (hep : endpointOfAdvert P advert = .ok ep) :
    P.place record = some ep := by
  cases advert with
  | obj entries =>
    rw [advertFromValue] at hrecord
    obtain ⟨hrelayId, hendpoint⟩ := advertFromFields_eq_some hrecord
    simp only [endpointOfAdvert, Json.get_obj] at hep
    split at hep
    · next relayIdValue hvalue =>
        simp only [bind_eq_ok_iff, okOr_eq_ok_iff] at hep
        obtain ⟨relayId, hstr, hep⟩ := hep
        obtain rfl := Except.ok.inj hep
        obtain rfl := eq_str_of_asStr hstr
        rw [hvalue] at hrelayId
        have hsome : some relayId = record.relayId := some.inj hrelayId
        simp only [Primitives.place, ← hsome]
    · next hnone =>
        rw [hnone] at hrelayId
        have hdirect : none = record.relayId := some.inj hrelayId
        split at hep
        · next endpoint hvalue =>
            rw [hvalue] at hendpoint
            obtain ⟨rfl, -⟩ | ⟨address, haddress, hsome⟩ := Slot.decOption_some hendpoint
            · cases hep
            · exact place_of_directEndpoint hdirect.symm hsome haddress hep
        · cases hep
  -- an array of the fields has neither key, whatever record it holds
  | _ => cases hep

end Records

/-! ## The client -/

/-- The client of the DDB, with what the network answers to it. -/
structure Client (κ : Type) where
  primitives : Primitives κ
  finder : Finder
  getMyId : Option Id
  apiToFind : Bool
  apiToSend : Bool
  probes : List ProbeResult
  sendWithResponse : SocketAddr → String → Json → Except BingleError Json

namespace Client

section Lookup

variable {κ : Type} (c : Client κ) (id : Id)

def findRelay : Except BingleError Relay.RelayInfo := do
  ensure c.apiToFind (.other "BingleApi dropped")
  let myId ← okOr c.getMyId (.other "get_my_id returned None")
  (c.finder.findRelay myId c.probes).mapError .retryable

def relayUserId (relayId : Id) : Except BingleError String :=
  match c.primitives.base32Decode relayId with
  | .ok bytes =>
    if bytes.length = 36 then .ok relayId
    else .error (.other
      ("invalid relay id: base32 decoded length " ++ toString bytes.length ++ " != 36"))
  | .error e => .error (.other ("invalid relay id: " ++ e))

def queryResolve : Json :=
  .obj (DdbMessage.queryResolve ⟨"ddb", id, none, none, none⟩).entries

def ask (relay : Relay.RelayInfo) : Checked (Except BingleError Json) :=
  match c.relayUserId relay.id with
  | .error e => .ok (.error e)
  | .ok relayUser => do
      let address ← Checked.expect (relay.address c.finder.socketAddr)
        "RelayInfo must have a valid address"
      return do
        ensure c.apiToSend (.other "BingleApi dropped")
        (c.sendWithResponse address relayUser (queryResolve id)).mapError fun e =>
          .send .noRelayAvailable ("recipient lookup via relay failed: " ++ e.toString)

/-- `lookup`: ask an available relay for the record of the id and check what it says. -/
def lookup : Checked (Except BingleError NetworkEndpoint) :=
  match c.findRelay with
  | .error e =>
    .ok (.error (.send .noRelayAvailable
      ("no relay available to resolve recipient: " ++ e.toString)))
  | .ok relay => do
      let answer ← c.ask id relay
      return answer >>= endpointOfResponse c.primitives id

def Answered (advert : Json) : Prop :=
  ∃ relay resp, c.findRelay = .ok relay ∧ c.ask id relay = .ok (.ok resp) ∧ Carries resp advert

/-- The endpoint is that of a record which a relay answered, about the id and signed. -/
def Authentic (ep : NetworkEndpoint) : Prop :=
  ∃ advert record, c.Answered id advert ∧ advertFromValue advert = some record ∧
    record.id = id ∧ c.primitives.SignedBy id record ∧ c.primitives.place record = some ep

/-- The query is answered with a record of another id, signed with the key of that one, that an
endpoint can be made of. -/
def Substituted : Prop :=
  ∃ advert record ep, c.Answered id advert ∧ advertFromValue advert = some record ∧
    record.id ≠ id ∧ c.primitives.SignedBy record.id record ∧
    endpointOfAdvert c.primitives advert = .ok ep

variable {c id}

lemma Answered.unique {advert advert' : Json} (h : c.Answered id advert)
    (h' : c.Answered id advert') : advert = advert' := by
  obtain ⟨relay, resp, hrelay, hask, hcarries⟩ := h
  obtain ⟨relay', resp', hrelay', hask', hcarries'⟩ := h'
  obtain rfl := Except.ok.inj (hrelay.symm.trans hrelay')
  obtain rfl := Except.ok.inj (Except.ok.inj (hask.symm.trans hask'))
  exact some.inj (hcarries.advert.symm.trans hcarries'.advert)

lemma lookup_eq_ok_iff {ep : NetworkEndpoint} :
    c.lookup id = .ok (.ok ep) ↔
      ∃ advert record, c.Answered id advert ∧ advertFromValue advert = some record ∧
        c.primitives.SignedBy record.id record ∧ endpointOfAdvert c.primitives advert = .ok ep := by
  unfold lookup
  constructor
  · intro h
    split at h
    · simp at h
    · next relay hrelay =>
        obtain ⟨answer, hask, h⟩ := bind_eq_ok_iff.mp h
        obtain ⟨resp, rfl, hep⟩ := bind_eq_ok_iff.mp (Except.ok.inj h)
        obtain ⟨advert, record, hcarries, hrecord, hverify, hep⟩ :=
          endpointOfResponse_eq_ok_iff.mp hep
        exact ⟨advert, record, ⟨relay, resp, hrelay, hask, hcarries⟩, hrecord,
          (verify_iff _).mp hverify, hep⟩
  · rintro ⟨advert, record, ⟨relay, resp, hrelay, hask, hcarries⟩, hrecord, hsigned, hep⟩
    rw [hrelay]
    refine bind_eq_ok_iff.mpr ⟨.ok resp, hask, congrArg Except.ok ?_⟩
    exact endpointOfResponse_eq_ok_iff.mpr
      ⟨advert, record, hcarries, hrecord, (verify_iff _).mpr hsigned, hep⟩

lemma authentic_of_not_substituted (h : ¬ c.Substituted id) {ep : NetworkEndpoint}
    (hlookup : c.lookup id = .ok (.ok ep)) : c.Authentic id ep := by
  obtain ⟨advert, record, hanswered, hrecord, hsigned, hep⟩ := lookup_eq_ok_iff.mp hlookup
  have hid : record.id = id := by
    by_contra hne
    exact h ⟨advert, record, ep, hanswered, hrecord, hne, hsigned, hep⟩
  exact ⟨advert, record, hanswered, hrecord, hid, hid ▸ hsigned,
    place_of_endpointOfAdvert hrecord hep⟩

end Lookup

/-- **Lookups are authentic unless the record is substituted.**  Whatever the chain returns and the
relays answer, each endpoint that a lookup returns comes from a record of the id that was asked for,
signed with its key, exactly if the query is not answered with a signed record of another id. -/
theorem lookup_authentic_iff {κ : Type} (c : Client κ) (id : Id) :
    (∀ ep, c.lookup id = .ok (.ok ep) → c.Authentic id ep) ↔ ¬ c.Substituted id := by
  constructor
  · rintro h ⟨advert, record, ep, hanswered, hrecord, hne, hsigned, hep⟩
    obtain ⟨advert', record', hanswered', hrecord', hid, -, -⟩ :=
      h ep (lookup_eq_ok_iff.mpr ⟨advert, record, hanswered, hrecord, hsigned, hep⟩)
    obtain rfl := hanswered.unique hanswered'
    obtain rfl := some.inj (hrecord.symm.trans hrecord')
    exact hne hid
  · intro h ep hlookup
    exact authentic_of_not_substituted h hlookup

def spelled : Primitives (List UInt8) where
  addressToByteKey id := some (id.toList.map fun c => c.toNat.toUInt8)
  verifyingKey := some
  verifies key _ bytes := key.isPrefixOf bytes
  base64Decode sig :=
    some (sig.toList.map (fun c => c.toNat.toUInt8) ++ List.replicate (64 - sig.length) 0)
  base32Decode _ := .ok (List.replicate 36 0)
  toVec _ := some []
  parseIp host := if host = "203.0.113.6" then some (.v4 0xcb007106) else none
  describe _ := ""

def malloryRecord : AdvertRecord :=
  ⟨"MALLORY", some ⟨"203.0.113.6", 9000⟩, none, none, none, "2026-01-01T00:00:00Z", some "MALLORY"⟩

def misled : Client (List UInt8) where
  primitives := spelled
  finder :=
    { socketAddr := fun ep => some ep.host, discoverRoots := [Relay.Updater.chainRelay],
      idBucket := fun _ => 0, isCoolingDown := fun _ => false, now := "2026-01-01T00:00:00Z" }
  getMyId := some "ME"
  apiToFind := true
  apiToSend := true
  probes :=
    [(0, .ok ⟨.available, 0, 2, ["ROOT"], some [⟨"192.0.2.1", 9000⟩], [.available], none⟩)]
  sendWithResponse _ _ _ :=
    .ok (.obj (DdbMessage.queryResponse
      ⟨"ddb", true, some malloryRecord, none, none, none, none⟩).entries)

theorem lookup_returns_substitute :
    misled.lookup "ALICE" = .ok (.ok (.newDirect (.v4 0xcb007106 9000))) ∧
      ¬ misled.Authentic "ALICE" (.newDirect (.v4 0xcb007106 9000)) := by
  constructor
  · rfl
  · rintro ⟨advert, record, hanswered, hrecord, hid, -, -⟩
    have hmallory : misled.Answered "ALICE" (AdvertRecord.codec.enc malloryRecord) :=
      ⟨_, _, rfl, rfl, ⟨rfl, rfl, rfl, rfl⟩⟩
    obtain rfl := hmallory.unique hanswered
    have hsame : some malloryRecord = some record := hrecord
    obtain rfl := some.inj hsame
    exact absurd hid (by decide)

end Client

end Bingle.Ddb
