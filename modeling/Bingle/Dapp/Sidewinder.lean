import Bingle.Lib.Base64

/-!
# The endpoint record of a Sidewinder node

`SidewinderEndpointRecord` (`bingle_core/src/blockchain/sidewinder_endpoint.rs`): a byte of flags,
then address and port of each stack that the flags name.  In a slice of local state it stands as
Base64.
-/

namespace Bingle.Dapp

open List Option
open Lib Lib.MsgPack

structure SocketAddrV4 where
  ip : List.Vector UInt8 4
  port : UInt16
deriving DecidableEq

structure SocketAddrV6 where
  ip : List.Vector UInt8 16
  port : UInt16
  flowinfo : UInt32
  scopeId : UInt32
deriving DecidableEq

structure SidewinderEndpointRecord where
  v4 : Option SocketAddrV4
  v6 : Option SocketAddrV6
deriving DecidableEq

def flagV4 : UInt8 := 0b01

def flagV6 : UInt8 := 0b10

def endpointBlock {n : ℕ} (ip : List.Vector UInt8 n) (port : UInt16) : List UInt8 :=
  ip.toList ++ be 2 port.toNat

def splitBlock (n : ℕ) (rest : List UInt8) :
    Option ((List.Vector UInt8 n × UInt16) × List UInt8) :=
  (take? (n + 2) rest).map fun (block, tail) =>
    (((Field.block n).dec (block.take n), UInt16.ofNat (ofBe (block.drop n))), tail)

def takeStack (n : ℕ) (flagged : Bool) (rest : List UInt8) :
    Option (Option (List.Vector UInt8 n × UInt16) × List UInt8) :=
  if flagged then (splitBlock n rest).map fun (a, tail) => (some a, tail) else some (none, rest)

namespace SidewinderEndpointRecord

def new (v4 : Option SocketAddrV4) (v6 : Option SocketAddrV6) : Option SidewinderEndpointRecord :=
  if v4.isSome || v6.isSome then some ⟨v4, v6⟩ else none

def flagsOf (v4 v6 : Bool) : UInt8 :=
  (if v4 then flagV4 else 0) ||| (if v6 then flagV6 else 0)

def toBytes (r : SidewinderEndpointRecord) : List UInt8 :=
  flagsOf r.v4.isSome r.v6.isSome ::
    (r.v4.elim [] (fun a => endpointBlock a.ip a.port) ++
      r.v6.elim [] (fun a => endpointBlock a.ip a.port))

def fromBytes : List UInt8 → Option SidewinderEndpointRecord
  | [] => none
  | flags :: rest =>
    if flags &&& ~~~(flagV4 ||| flagV6) ≠ 0 then none
    else
      (takeStack 4 (flags &&& flagV4 ≠ 0) rest).bind fun (v4, rest) =>
        (takeStack 16 (flags &&& flagV6 ≠ 0) rest).bind fun (v6, rest) =>
          if rest ≠ [] then none
          else new (v4.map fun a => ⟨a.1, a.2⟩) (v6.map fun a => ⟨a.1, a.2, 0, 0⟩)

def encode (base64 : Base64Engine) (r : SidewinderEndpointRecord) : String :=
  base64.encode r.toBytes

def decode (base64 : Base64Engine) (value : String) : Option SidewinderEndpointRecord :=
  (base64.decode value).bind fromBytes

/-- A record that bytes can stand for: it names an endpoint, and no flow or scope. -/
structure Plain (r : SidewinderEndpointRecord) : Prop where
  named : r.v4.isSome || r.v6.isSome
  flow : ∀ a ∈ r.v6, a.flowinfo = 0 ∧ a.scopeId = 0

end SidewinderEndpointRecord

open SidewinderEndpointRecord

variable {n : ℕ} {rest tail : List UInt8} {r : SidewinderEndpointRecord}

lemma splitBlock_eq_some_iff {ip : List.Vector UInt8 n} {port : UInt16} :
    splitBlock n rest = some ((ip, port), tail) ↔ rest = endpointBlock ip port ++ tail := by
  constructor
  · intro h
    obtain ⟨⟨block, tail'⟩, htake, heq⟩ := map_eq_some_iff.mp h
    rw [take?] at htake
    split_ifs at htake with hlen
    obtain ⟨rfl, rfl⟩ := Prod.mk.inj (some.inj htake)
    obtain ⟨haddr, rfl⟩ := Prod.mk.inj heq
    obtain ⟨rfl, rfl⟩ := Prod.mk.inj haddr
    have hip := (Field.block n).enc_dec ((rest.take (n + 2)).take n) (by simp; omega)
    have hport := Field.u16.enc_dec ((rest.take (n + 2)).drop n) (by simp; omega)
    have hblock : endpointBlock ((Field.block n).dec ((rest.take (n + 2)).take n))
        (UInt16.ofNat (ofBe ((rest.take (n + 2)).drop n))) = rest.take (n + 2) :=
      (congrArg₂ (· ++ ·) hip hport).trans (take_append_drop n _)
    rw [hblock, take_append_drop]
  · rintro rfl
    have hlen : (endpointBlock ip port).length = n + 2 := by simp [endpointBlock]
    have hip : (Field.block n).dec ip.toList = ip := (Field.block n).dec_enc ip
    have hport : UInt16.ofNat (ofBe (be 2 port.toNat)) = port := Field.u16.dec_enc port
    rw [splitBlock, take?_append hlen, map_some, endpointBlock]
    dsimp only
    rw [take_left' ip.toList_length, drop_left' ip.toList_length, hip, hport]

lemma takeStack_eq_some_iff {flagged : Bool} {o : Option (List.Vector UInt8 n × UInt16)} :
    takeStack n flagged rest = some (o, tail) ↔
      o.isSome = flagged ∧ rest = o.elim [] (fun a => endpointBlock a.1 a.2) ++ tail := by
  cases flagged with
  | false =>
    rw [takeStack, if_neg Bool.false_ne_true, some_inj, Prod.mk.injEq]
    cases o <;> simp
  | true =>
    rw [takeStack, if_pos rfl, map_eq_some_iff]
    cases o with
    | none => simp
    | some a =>
      simp only [Prod.exists, Prod.mk.injEq, some.injEq, isSome_some, true_and,
        elim_some, ← splitBlock_eq_some_iff]
      aesop

lemma eq_flagsOf_iff : ∀ (flags : UInt8) (v4 v6 : Bool), flags = flagsOf v4 v6 ↔
    flags &&& ~~~(flagV4 ||| flagV6) = 0 ∧
      v4 = decide (flags &&& flagV4 ≠ 0) ∧ v6 = decide (flags &&& flagV6 ≠ 0) := by
  decide +kernel

lemma new_eq_some_iff {v4 : Option SocketAddrV4} {v6 : Option SocketAddrV6}
    :
    new v4 v6 = some r ↔ (r.v4.isSome || r.v6.isSome) = true ∧ r = ⟨v4, v6⟩ := by
  rw [new]
  split_ifs with h
  · rw [some_inj]
    exact ⟨by rintro rfl; exact ⟨h, rfl⟩, fun hr => hr.2.symm⟩
  · refine ⟨nofun, ?_⟩
    rintro ⟨hnamed, rfl⟩
    exact (h hnamed).elim

lemma fromBytes_eq_some_iff {bytes : List UInt8} :
    fromBytes bytes = some r ↔ r.Plain ∧ r.toBytes = bytes := by
  constructor
  · intro h
    cases bytes with
    | nil => cases h
    | cons flags rest =>
      rw [fromBytes] at h
      split_ifs at h with hflags
      obtain ⟨⟨v4, rest₁⟩, h4, hbind⟩ := bind_eq_some_iff.mp h
      obtain ⟨⟨v6, rest₂⟩, h6, hnew⟩ := bind_eq_some_iff.mp hbind
      obtain ⟨hv4, rfl⟩ := takeStack_eq_some_iff.mp h4
      obtain ⟨hv6, rfl⟩ := takeStack_eq_some_iff.mp h6
      dsimp only at hnew
      split_ifs at hnew with htail
      obtain ⟨hnamed, rfl⟩ := new_eq_some_iff.mp hnew
      have heq := (eq_flagsOf_iff flags v4.isSome v6.isSome).mpr ⟨not_not.mp hflags, hv4, hv6⟩
      refine ⟨⟨hnamed, ?_⟩, ?_⟩
      · rintro a ha
        obtain ⟨b, -, rfl⟩ := map_eq_some_iff.mp ha
        exact ⟨rfl, rfl⟩
      · rw [not_not.mp htail, heq]
        cases v4 <;> cases v6 <;> simp [toBytes]
  · rintro ⟨⟨hnamed, hflow⟩, rfl⟩
    obtain ⟨v4, v6⟩ := r
    obtain ⟨hflags, h4, h6⟩ := (eq_flagsOf_iff _ v4.isSome v6.isSome).mp rfl
    have hv6 : (v6.map fun a => (⟨a.ip, a.port, 0, 0⟩ : SocketAddrV6)) = v6 := by
      cases v6 with
      | none => rfl
      | some a =>
        obtain ⟨ip, port, flow, scope⟩ := a
        obtain ⟨rfl, rfl⟩ := hflow _ rfl
        rfl
    rw [toBytes, fromBytes, if_neg (not_not.mpr hflags)]
    refine bind_eq_some_iff.mpr ⟨(v4.map fun a => (a.ip, a.port), _),
      takeStack_eq_some_iff.mpr ⟨by rw [← h4, isSome_map], by cases v4 <;> rfl⟩, ?_⟩
    refine bind_eq_some_iff.mpr ⟨(v6.map fun a => (a.ip, a.port), []),
      takeStack_eq_some_iff.mpr ⟨by rw [← h6, isSome_map], by cases v6 <;> simp⟩, ?_⟩
    dsimp only
    rw [if_neg (not_not.mpr rfl), new_eq_some_iff]
    refine ⟨hnamed, ?_⟩
    simp only [Option.map_map, Function.comp_def, hv6, Option.map_id']

lemma exists_plain (h : r.v4.isSome || r.v6.isSome) :
    ∃ r' : SidewinderEndpointRecord, r'.Plain ∧ r'.toBytes = r.toBytes := by
  obtain ⟨v4, v6⟩ := r
  refine ⟨⟨v4, v6.map fun a => ⟨a.ip, a.port, 0, 0⟩⟩, ⟨by simpa using h, ?_⟩, ?_⟩
  · rintro a ha
    obtain ⟨b, -, rfl⟩ := map_eq_some_iff.mp ha
    exact ⟨rfl, rfl⟩
  · cases v6 <;> rfl

lemma decode_eq_some_iff {base64 : Base64Engine} {value : String} :
    decode base64 value = some r ↔ r.Plain ∧ r.encode base64 = value := by
  rw [decode, bind_eq_some_iff]
  constructor
  · rintro ⟨bytes, hbytes, hr⟩
    obtain ⟨hplain, rfl⟩ := fromBytes_eq_some_iff.mp hr
    exact ⟨hplain, (base64.decode_eq_some_iff _ _).mp hbytes⟩
  · rintro ⟨hplain, rfl⟩
    exact ⟨r.toBytes, (base64.decode_eq_some_iff _ _).mpr rfl,
      fromBytes_eq_some_iff.mpr ⟨hplain, rfl⟩⟩

/-- **The codec is exact.**  Bytes are accepted iff they are written for a record that names an
endpoint; reading and writing are inverse between those bytes and the records without flow
information and scope, and between these and their Base64. -/
theorem endpoint_record_codec (base64 : Base64Engine) :
    (∀ bytes, (fromBytes bytes).isSome ↔
      ∃ r : SidewinderEndpointRecord, (r.v4.isSome || r.v6.isSome) ∧ r.toBytes = bytes) ∧
    (∀ bytes r, fromBytes bytes = some r ↔ r.Plain ∧ r.toBytes = bytes) ∧
    ∀ value r, decode base64 value = some r ↔ r.Plain ∧ r.encode base64 = value := by
  refine ⟨fun bytes => ?_, fun _ _ => fromBytes_eq_some_iff, fun _ _ => decode_eq_some_iff⟩
  rw [isSome_iff_exists]
  constructor
  · rintro ⟨r, hr⟩
    obtain ⟨hplain, hbytes⟩ := fromBytes_eq_some_iff.mp hr
    exact ⟨r, hplain.named, hbytes⟩
  · rintro ⟨r, hnamed, rfl⟩
    obtain ⟨r', hplain, hbytes⟩ := exists_plain hnamed
    exact ⟨r', fromBytes_eq_some_iff.mpr ⟨hplain, hbytes⟩⟩

end Bingle.Dapp
