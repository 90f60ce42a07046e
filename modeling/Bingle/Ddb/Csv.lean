import Bingle.Ddb.Client
import Bingle.Lib.SocketText

/-!
# Adverts on chain

A relay with a fixed address writes its advert into the contract, in one line of text
(`serialize_csv` and `deserialize_csv`, `bingle_core/src/ddb/advert_record.rs`): six fields between
commas, nothing quoted, an absent field empty.
-/

namespace Bingle.Ddb

open List Option
open Lib
open Messages (Id)
open Wire (InetSocketAddress AdvertRecord)

/-! ## Addresses -/

def inetSocketAddressToString (ep : InetSocketAddress) : String :=
  ep.host ++ ":" ++ ep.port.toNat.repr

def inetSocketAddressFromStr (s : String) : Option InetSocketAddress :=
  (parseSocketAddrV4 s.toList).map fun addr => ⟨String.ofList addr.1.print, UInt16.ofNat addr.2⟩

def Ipv4Host (host : String) : Prop := ∃ ip : Ipv4, host = String.ofList ip.print

variable {ep : InetSocketAddress}

lemma ipv4Host_of_fromStr {s : String}
    (h : inetSocketAddressFromStr s = some ep) : Ipv4Host ep.host := by
  obtain ⟨addr, -, rfl⟩ := map_eq_some_iff.mp h
  exact ⟨addr.1, rfl⟩

lemma toList_inetSocketAddressToString (ep : InetSocketAddress) :
    (inetSocketAddressToString ep).toList = ep.host.toList ++ ':' :: decimal ep.port.toNat := by
  simp [inetSocketAddressToString, decimal]

lemma fromStr_toString (h : Ipv4Host ep.host) :
    inetSocketAddressFromStr (inetSocketAddressToString ep) = some ep := by
  obtain ⟨ip, hip⟩ := h
  have hparse : parseSocketAddrV4 (ep.host.toList ++ ':' :: decimal ep.port.toNat) =
      some (ip, ep.port.toNat) :=
    parseSocketAddrV4_eq_some_iff.mpr
      ⟨by rw [hip, String.toList_ofList], rfl, ep.port.toNat_lt⟩
  rw [inetSocketAddressFromStr, toList_inetSocketAddressToString, hparse, map_some, ← hip,
    UInt16.ofNat_toNat]

lemma not_mem_toString (h : Ipv4Host ep.host) :
    ',' ∉ (inetSocketAddressToString ep).toList := by
  obtain ⟨ip, hip⟩ := h
  have hhost : ',' ∉ ep.host.toList := by
    rw [hip, String.toList_ofList]
    exact ip.not_mem_print (by decide) (by decide)
  rw [toList_inetSocketAddressToString]
  simp [hhost, not_mem_decimal (c := ',') (by decide)]

/-! ## Lines -/

def relayMark : Option Bool → String
  | some true => "T"
  | _ => "F"

def csvFields (r : AdvertRecord) : List String :=
  [(r.endpoint.map inetSocketAddressToString).getD "", relayMark r.amRelay, r.relayId.getD "",
    r.relaySig.getD "", r.date, r.sig.getD ""]

def serializeCsv (r : AdvertRecord) : String :=
  String.ofList ([','].intercalate ((csvFields r).map String.toList))

def unlessEmpty (s : String) : Option String := if s = "" then none else some s

def relayFlag (s : String) : Option Bool :=
  if s = "T" then some true else if s = "F" then some false else none

def deserializeCsv (id : Id) (csv : String) : Option AdvertRecord :=
  match (csv.toList.splitOn ',').map String.ofList with
  | [endpoint, amRelay, relayId, relaySig, date, sig] =>
    (relayFlag amRelay).map fun amRelay =>
      { id := id
        endpoint := if endpoint = "" then none else inetSocketAddressFromStr endpoint
        amRelay := some amRelay
        relayId := unlessEmpty relayId
        relaySig := unlessEmpty relaySig
        date := date
        sig := unlessEmpty sig }
  | _ => none

def PlainField (s : String) : Prop := s ≠ "" ∧ ',' ∉ s.toList

/-- No field of the record has a comma, and its endpoint is an IPv4 address. -/
structure Writable (r : AdvertRecord) : Prop where
  endpoint : ∀ ep ∈ r.endpoint, Ipv4Host ep.host
  amRelay : r.amRelay.isSome = true
  relayId : ∀ s ∈ r.relayId, PlainField s
  relaySig : ∀ s ∈ r.relaySig, PlainField s
  date : ',' ∉ r.date.toList

section Lines

variable {r : AdvertRecord}

lemma plainField_of_unlessEmpty {s t : String} (hs : ',' ∉ s.toList) (h : t ∈ unlessEmpty s) :
    PlainField t := by
  rw [unlessEmpty, mem_def, ite_none_left_eq_some] at h
  obtain ⟨hne, heq⟩ := h
  obtain rfl := some.inj heq
  exact ⟨hne, hs⟩

lemma writable_of_deserializeCsv {id : Id} {csv : String} (h : deserializeCsv id csv = some r) :
    Writable r := by
  rw [deserializeCsv] at h
  split at h
  · next endpoint amRelay relayId relaySig date sig hparts =>
      have hcomma : ∀ part ∈ [endpoint, amRelay, relayId, relaySig, date, sig],
          ',' ∉ part.toList := by
        rw [← hparts]
        rintro _ hpart
        obtain ⟨part, hsplit, rfl⟩ := List.mem_map.mp hpart
        rw [String.toList_ofList]
        exact not_mem_of_mem_splitOn hsplit
      simp only [forall_mem_cons] at hcomma
      obtain ⟨-, -, hrelayId, hrelaySig, hdate, -⟩ := hcomma
      obtain ⟨b, -, rfl⟩ := map_eq_some_iff.mp h
      refine ⟨fun ep hep => ?_, rfl, fun s hs => plainField_of_unlessEmpty hrelayId hs,
        fun s hs => plainField_of_unlessEmpty hrelaySig hs, hdate⟩
      simp only [mem_def, ite_none_left_eq_some] at hep
      exact ipv4Host_of_fromStr hep.2
  · cases h

lemma unlessEmpty_getD {o : Option String} (h : ∀ s ∈ o, PlainField s) :
    unlessEmpty (o.getD "") = o := by
  cases o with
  | none => rfl
  | some s => exact if_neg (h s rfl).1

lemma not_mem_getD {o : Option String} (h : ∀ s ∈ o, PlainField s) : ',' ∉ (o.getD "").toList := by
  cases o with
  | none => decide
  | some s => exact (h s rfl).2

lemma csvFields_endpoint (h : Writable r) :
    (if (r.endpoint.map inetSocketAddressToString).getD "" = "" then none
      else inetSocketAddressFromStr ((r.endpoint.map inetSocketAddressToString).getD "")) =
        r.endpoint ∧
      ',' ∉ ((r.endpoint.map inetSocketAddressToString).getD "").toList := by
  cases hep : r.endpoint with
  | none => exact ⟨rfl, by simp⟩
  | some ep =>
    have hhost := h.endpoint ep hep
    have hne : inetSocketAddressToString ep ≠ "" := by
      intro heq
      simpa [heq] using toList_inetSocketAddressToString ep
    simp only [map_some, getD_some, if_neg hne]
    exact ⟨fromStr_toString hhost, not_mem_toString hhost⟩

lemma relayFlag_relayMark (b : Bool) : relayFlag (relayMark (some b)) = some b := by
  cases b <;> decide

lemma not_mem_relayMark (amRelay : Option Bool) : ',' ∉ (relayMark amRelay).toList := by
  rcases amRelay with _ | _ | _ <;> decide

lemma deserializeCsv_serializeCsv (h : Writable r) (hsig : ∀ s ∈ r.sig, PlainField s) :
    deserializeCsv r.id (serializeCsv r) = some r := by
  obtain ⟨hep, hepComma⟩ := csvFields_endpoint h
  obtain ⟨b, hb⟩ := isSome_iff_exists.mp h.amRelay
  have hcomma : ∀ part ∈ (csvFields r).map String.toList, ',' ∉ part := by
    simp only [List.forall_mem_map, csvFields, forall_mem_cons]
    exact ⟨hepComma, not_mem_relayMark r.amRelay, not_mem_getD h.relayId, not_mem_getD h.relaySig,
      h.date, not_mem_getD hsig, by simp⟩
  have hparts : ((serializeCsv r).toList.splitOn ',').map String.ofList = csvFields r := by
    rw [serializeCsv, String.toList_ofList,
      splitOn_intercalate ',' hcomma (by simp [csvFields]), List.map_map]
    exact map_id'' (fun s => String.ofList_toList) _
  have hflag : relayFlag (relayMark r.amRelay) = some b := hb ▸ relayFlag_relayMark b
  rw [deserializeCsv, hparts, csvFields]
  simp only [hflag, hep, unlessEmpty_getD h.relayId, unlessEmpty_getD h.relaySig,
    unlessEmpty_getD hsig]
  rw [map_some, ← hb]

end Lines

/-! ## Signed records -/

section Signed

variable {κ : Type} {P : Primitives κ}

/-- What is known of the standard alphabet of base 64: it has no comma, and nothing stands for no
bytes. -/
structure Base64 (P : Primitives κ) : Prop where
  alphabet : ∀ s bytes, P.base64Decode s = some bytes → ',' ∉ s.toList
  empty : P.base64Decode "" = some []

lemma plainField_sig (hP : Base64 P) {r : AdvertRecord} (h : P.verify r = true) :
    ∀ s ∈ r.sig, PlainField s := by
  obtain ⟨sig, hsig, key, -, bytes, hbytes, hlen, -⟩ := (verify_iff P).mp h
  intro s hs
  obtain rfl : sig = s := some.inj (hsig.symm.trans hs)
  refine ⟨?_, hP.alphabet sig bytes hbytes⟩
  rintro rfl
  rw [hP.empty, some.injEq] at hbytes
  rw [← hbytes] at hlen
  cases hlen

/-- **The round trip.**  A record whose signature verifies is read from its own line, and its
signature still verifies, exactly if the record is writable. -/
theorem csv_round_trip_iff (hP : Base64 P) {r : AdvertRecord} (h : P.verify r = true) :
    (∃ r', deserializeCsv r.id (serializeCsv r) = some r' ∧ r' = r ∧ P.verify r' = true) ↔
      Writable r := by
  constructor
  · rintro ⟨r', hr', rfl, -⟩
    exact writable_of_deserializeCsv hr'
  · intro hw
    exact ⟨r, deserializeCsv_serializeCsv hw (plainField_sig hP h), rfl, h⟩

end Signed

def credulous : Primitives Unit where
  addressToByteKey _ := some []
  verifyingKey _ := some ()
  verifies _ _ _ := true
  base64Decode s :=
    if s = "" then some [] else if ',' ∈ s.toList then none else some (List.replicate 64 0)
  base32Decode _ := .ok []
  toVec _ := some []
  parseIp _ := none
  describe _ := ""

lemma base64_credulous : Base64 credulous where
  alphabet := by
    intro s bytes h hc
    simp only [credulous, if_pos hc] at h
    split_ifs at h with hempty
    subst hempty
    cases hc
  empty := rfl

/-- An advert with 64 zero bytes for its signature. -/
def advertOf (amRelay : Option Bool) : AdvertRecord :=
  { id := "a", endpoint := some ⟨"1.2.3.4", 7⟩, amRelay := amRelay, relayId := none,
    relaySig := none, date := "", sig := some (String.ofList (List.replicate 86 'A' ++ ['=', '='])) }

theorem csv_round_trip_of_client :
    credulous.verify (advertOf (some false)) = true ∧ Writable (advertOf (some false)) ∧
      ∃ r', deserializeCsv "a" (serializeCsv (advertOf (some false))) = some r' ∧
        r' = advertOf (some false) ∧ credulous.verify r' = true := by
  have hw : Writable (advertOf (some false)) :=
    ⟨by simpa [advertOf] using ⟨⟨1, 2, 3, 4⟩, by decide⟩, rfl, by simp [advertOf],
      by simp [advertOf], by simp [advertOf]⟩
  have hv : credulous.verify (advertOf (some false)) = true := by rfl
  exact ⟨hv, hw, (csv_round_trip_iff base64_credulous hv).mpr hw⟩

theorem csv_adds_amRelay :
    credulous.verify (advertOf none) = true ∧
      deserializeCsv "a" (serializeCsv (advertOf none)) = some (advertOf (some false)) ∧
      advertOf (some false) ≠ advertOf none := by
  refine ⟨rfl, ?_, fun h => ?_⟩
  · rfl
  · cases congrArg AdvertRecord.amRelay h

end Bingle.Ddb
