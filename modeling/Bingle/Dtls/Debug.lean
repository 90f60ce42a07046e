import Bingle.Lib.Checked

/-!
# The decoder of the debug log

Before a DTLS datagram reaches its handler, `process_packet` prints it
(`bingle_core/src/dtls/dtls_debug.rs`).  Every `datagram[i]` and `&body[p..q]` of the source is an
`index` or a `slice` here.  Errors and `None` are values.  What `serde_json` and `base64` make of
the records is left out.
-/

namespace Bingle.Dtls

open Lib (Checked)
open Lib.Checked (index slice Ensures ensures_pure ensures_ite ensures_index ensures_slice)

/-! ## Names -/

def contentTypeName (ct : UInt8) : String :=
  match ct.toNat with
  | 20 => "change_cipher_spec"
  | 21 => "alert"
  | 22 => "handshake"
  | 23 => "application_data"
  | 24 => "heartbeat"
  | _ => "unknown"

def handshakeTypeName (ht : UInt8) : String :=
  match ht.toNat with
  | 0 => "hello_request"
  | 1 => "client_hello"
  | 2 => "server_hello"
  | 3 => "hello_verify_request"
  | 11 => "certificate"
  | 12 => "server_key_exchange"
  | 13 => "certificate_request"
  | 14 => "server_hello_done"
  | 15 => "certificate_verify"
  | 16 => "client_key_exchange"
  | 20 => "finished"
  | _ => "unknown"

def extensionTypeName (id : ℕ) : String :=
  match id with
  | 0x0000 => "server_name"
  | 0x0005 => "status_request"
  | 0x000a => "supported_groups"
  | 0x000b => "ec_point_formats"
  | 0x000d => "signature_algorithms"
  | 0x000f => "heartbeat"
  | 0x0010 => "application_layer_protocol_negotiation"
  | 0x0012 => "signed_certificate_timestamp"
  | 0x0015 => "padding"
  | 0x0017 => "extended_master_secret"
  | 0x0023 => "session_ticket"
  | 0x002b => "supported_versions"
  | 0x002d => "psk_key_exchange_modes"
  | 0x0031 => "early_data"
  | 0x0033 => "key_share"
  | 0xFF01 => "renegotiation_info"
  | _ => "unknown"

/-! ## What is printed -/

structure ExtensionJson where
  id : ℕ
  name : String
deriving DecidableEq, Repr

structure HandshakeJson where
  handshakeType : UInt8
  handshakeTypeName : String
  length : ℕ
  messageSeq : ℕ
  fragmentOffset : ℕ
  fragmentLength : ℕ
  clientHello : Option (List ExtensionJson)
  serverHello : Option (List ExtensionJson)
deriving DecidableEq, Repr

structure AlertJson where
  level : UInt8
  description : UInt8
deriving DecidableEq, Repr

structure DtlsRecordJson where
  contentType : UInt8
  contentTypeName : String
  version : UInt8 × UInt8
  epoch : ℕ
  sequenceNumber : ℕ
  length : ℕ
  payload : List UInt8
  handshake : Option HandshakeJson
  alert : Option AlertJson
deriving DecidableEq, Repr

inductive Printed
  | packet (records : List DtlsRecordJson)
  | summary (line : String)
deriving DecidableEq, Repr

/-! ## The decoders -/

def readU16 (l : List UInt8) (i : ℕ) : Checked ℕ := do
  let b0 ← index l i
  let b1 ← index l (i + 1)
  return b0.toNat * 2 ^ 8 + b1.toNat

def readU24 (be3 : List UInt8) : Checked ℕ := do
  let b0 ← index be3 0
  let b1 ← index be3 1
  let b2 ← index be3 2
  return b0.toNat * 2 ^ 16 + b1.toNat * 2 ^ 8 + b2.toNat

def readSeq (datagram : List UInt8) (i : ℕ) : Checked ℕ := do
  let b5 ← index datagram (i + 5)
  let b6 ← index datagram (i + 6)
  let b7 ← index datagram (i + 7)
  let b8 ← index datagram (i + 8)
  let b9 ← index datagram (i + 9)
  let b10 ← index datagram (i + 10)
  return b5.toNat * 2 ^ 40 + b6.toNat * 2 ^ 32 + b7.toNat * 2 ^ 24 + b8.toNat * 2 ^ 16 +
    b9.toNat * 2 ^ 8 + b10.toNat

def parseExtensions (data : List UInt8) : Checked (Option (List ExtensionJson)) :=
  if _h : 4 ≤ data.length then do
    let id ← readU16 data 0
    let len ← readU16 data 2
    if data.length < 4 + len then return none
    match _hrest : slice data (4 + len) data.length with
    | .error e => throw e
    | .ok rest =>
      match ← parseExtensions rest with
      | none => return none
      | some out => return some (⟨id, extensionTypeName id⟩ :: out)
  else return some []
termination_by data.length
decreasing_by
  have := Lib.Checked.length_of_slice _hrest
  omega

def helloExtensions (body : List UInt8) (p : ℕ) : Checked (Option (List ExtensionJson)) := do
  if body.length < p + 2 then return some []
  let extTotal ← readU16 body p
  let p := p + 2
  if body.length < p + extTotal then return none
  parseExtensions (← slice body p (p + extTotal))

def parseClientHelloExtensions (body : List UInt8) : Checked (Option (List ExtensionJson)) := do
  let p := 0
  if body.length < p + 2 then return none
  let p := p + 2 -- version
  if body.length < p + 32 then return none
  let p := p + 32 -- random
  if body.length < p + 1 then return none
  let sidLen ← index body p
  let p := p + 1
  if body.length < p + sidLen.toNat then return none
  let p := p + sidLen.toNat -- session_id
  if body.length < p + 1 then return none
  let cookieLen ← index body p
  let p := p + 1
  if body.length < p + cookieLen.toNat then return none
  let p := p + cookieLen.toNat -- cookie
  if body.length < p + 2 then return none
  let csLen ← readU16 body p
  let p := p + 2
  if body.length < p + csLen then return none
  let p := p + csLen -- cipher suites
  if body.length < p + 1 then return none
  let cmLen ← index body p
  let p := p + 1
  if body.length < p + cmLen.toNat then return none
  let p := p + cmLen.toNat -- compression methods
  helloExtensions body p

def parseServerHelloExtensions (body : List UInt8) : Checked (Option (List ExtensionJson)) := do
  let p := 0
  if body.length < p + 2 then return none
  let p := p + 2 -- version
  if body.length < p + 32 then return none
  let p := p + 32 -- random
  if body.length < p + 1 then return none
  let sidLen ← index body p
  let p := p + 1
  if body.length < p + sidLen.toNat then return none
  let p := p + sidLen.toNat -- session_id
  if body.length < p + 2 then return none
  let p := p + 2 -- cipher_suite
  if body.length < p + 1 then return none
  let p := p + 1 -- compression_method
  helloExtensions body p

def readHello (payload : List UInt8) (htype : UInt8) (hlen hoff : ℕ) :
    Checked (Option (List ExtensionJson) × Option (List ExtensionJson)) := do
  if hoff = 0 ∧ 12 < payload.length then
    let body ← slice payload 12 (min payload.length (12 + hlen))
    if htype = 1 then return (← parseClientHelloExtensions body, none)
    else if htype = 2 then return (none, ← parseServerHelloExtensions body)
    else return (none, none)
  else return (none, none)

def readHandshake (contentType : UInt8) (payload : List UInt8) :
    Checked (Option HandshakeJson) := do
  if contentType = 22 ∧ 12 ≤ payload.length then
    let htype ← index payload 0
    let hlen ← readU24 (← slice payload 1 4)
    let hseq ← readU16 payload 4
    let hoff ← readU24 (← slice payload 6 9)
    let hfragLen ← readU24 (← slice payload 9 12)
    let (clientHello, serverHello) ← readHello payload htype hlen hoff
    return some ⟨htype, handshakeTypeName htype, hlen, hseq, hoff, hfragLen, clientHello,
      serverHello⟩
  else return none

def readAlert (contentType : UInt8) (payload : List UInt8) : Checked (Option AlertJson) := do
  if contentType = 21 ∧ 2 ≤ payload.length then
    let level ← index payload 0
    let description ← index payload 1
    return some ⟨level, description⟩
  else return none

def readRecord (datagram : List UInt8) (i : ℕ) : Checked (Except String DtlsRecordJson) := do
  if datagram.length - i < 13 then return .error "truncated DTLS record header"
  let contentType ← index datagram i
  let major ← index datagram (i + 1)
  let minor ← index datagram (i + 2)
  let epoch ← readU16 datagram (i + 3)
  let seq ← readSeq datagram i
  let length ← readU16 datagram (i + 11)
  if datagram.length - i < 13 + length then return .error "truncated DTLS record payload"
  let payload ← slice datagram (i + 13) (i + (13 + length))
  let handshake ← readHandshake contentType payload
  let alert ← readAlert contentType payload
  return .ok ⟨contentType, contentTypeName contentType, (major, minor), epoch, seq, length, payload,
    handshake, alert⟩

def decode (datagram : List UInt8) (i : ℕ) : Checked (Except String (List DtlsRecordJson)) :=
  if _h : i < datagram.length then do
    match ← readRecord datagram i with
    | .error e => return .error e
    | .ok r =>
      match ← decode datagram (i + (13 + r.length)) with
      | .error e => return .error e
      | .ok records => return .ok (r :: records)
  else return .ok []
termination_by datagram.length - i

def readHandshakeName (datagram : List UInt8) (ct : UInt8) (i : ℕ) : Checked (Option String) := do
  if ct = 22 ∧ 14 ≤ datagram.length - i then
    return some (handshakeTypeName (← index datagram (i + 13)))
  else return none

/-- One turn of the loop at `DEBUG`: the part for the record at `i`, and the record's length.  The
part that an alert pops is the one just pushed. -/
def readPart (datagram : List UInt8) (i : ℕ) : Checked (Except String (String × ℕ)) := do
  if datagram.length - i < 13 then return .error "truncated DTLS record header"
  let ct ← index datagram i
  let name := contentTypeName ct
  let epoch ← readU16 datagram (i + 3)
  let seq ← readSeq datagram i
  let len ← readU16 datagram (i + 11)
  let part := match ← readHandshakeName datagram ct i with
    | some hn => s!"len={len} ct={name} epoch={epoch} seq={seq} hs={hn}"
    | none => s!"len={len} ct={name} epoch={epoch} seq=\"{seq}\""
  if datagram.length - i < 13 + len then return .error "truncated DTLS record payload"
  if ct = 21 ∧ 2 ≤ len then
    let level ← index datagram (i + 13)
    let desc ← index datagram (i + 14)
    return .ok (s!"{part} alert=L{level}/D{desc}", len)
  else return .ok (part, len)

def summarise (datagram : List UInt8) (i : ℕ) : Checked (Except String (List String)) :=
  if _h : i < datagram.length then do
    match ← readPart datagram i with
    | .error e => return .error e
    | .ok (part, len) =>
      match ← summarise datagram (i + (13 + len)) with
      | .error e => return .error e
      | .ok parts => return .ok (part :: parts)
  else return .ok []
termination_by datagram.length - i

inductive Level
  | trace
  | debug
  | belowDebug
deriving DecidableEq, Repr

def dtlsUdpToJsonWithLevel (datagram : List UInt8) (level : Level) :
    Checked (Except String Printed) := do
  match level with
  | .trace => return (← decode datagram 0).map .packet
  | .debug => return (← summarise datagram 0).map fun parts =>
      let size := datagram.length
      let joined := String.intercalate "; " parts
      .summary s!"DTLS {size} bytes [{joined}]"
  | .belowDebug => return .ok (.summary "")

def dtlsUdpToJson (traceEnabled : Bool) (datagram : List UInt8) : Checked (Except String Printed) :=
  dtlsUdpToJsonWithLevel datagram (if traceEnabled then .trace else .debug)

/-! ## No panic -/

section Ensures

variable {l body payload datagram : List UInt8} {i : ℕ}

lemma ensures_readU16 (h : i + 1 < l.length) : Ensures (readU16 l i) fun _ => True := by
  refine (ensures_index (by omega)).bind fun b0 _ => ?_
  refine (ensures_index h).bind fun b1 _ => ?_
  exact ensures_pure trivial

lemma ensures_readU24 (h : l.length = 3) : Ensures (readU24 l) fun _ => True := by
  refine (ensures_index (by omega)).bind fun b0 _ => ?_
  refine (ensures_index (by omega)).bind fun b1 _ => ?_
  refine (ensures_index (by omega)).bind fun b2 _ => ?_
  exact ensures_pure trivial

lemma ensures_readSeq (h : i + 10 < datagram.length) :
    Ensures (readSeq datagram i) fun _ => True := by
  refine (ensures_index (by omega)).bind fun b5 _ => ?_
  refine (ensures_index (by omega)).bind fun b6 _ => ?_
  refine (ensures_index (by omega)).bind fun b7 _ => ?_
  refine (ensures_index (by omega)).bind fun b8 _ => ?_
  refine (ensures_index (by omega)).bind fun b9 _ => ?_
  refine (ensures_index h).bind fun b10 _ => ?_
  exact ensures_pure trivial

lemma ensures_parseExtensions (data : List UInt8) :
    Ensures (parseExtensions data) fun _ => True := by
  induction hn : data.length using Nat.strong_induction_on generalizing data with
  | _ n ih =>
    rw [parseExtensions]
    split_ifs with h4
    · refine (ensures_readU16 (by omega)).bind fun id _ => ?_
      refine (ensures_readU16 (by omega)).bind fun len _ => ?_
      refine ensures_ite (fun _ => ensures_pure trivial) fun hlen => ?_
      obtain ⟨_, hslice, _⟩ := ensures_slice (l := data) (i := 4 + len) (by omega) le_rfl
      split
      next e he => exact absurd (hslice.symm.trans he) (by simp)
      next rest hrest =>
        have hlength := Lib.Checked.length_of_slice hrest
        refine (ih rest.length (by omega) rest rfl).bind fun out _ => ?_
        cases out with
        | none => exact ensures_pure trivial
        | some out => exact ensures_pure trivial
    · exact ensures_pure trivial

lemma ensures_helloExtensions (p : ℕ) : Ensures (helloExtensions body p) fun _ => True := by
  refine ensures_ite (fun _ => ensures_pure trivial) fun h => ?_
  refine (ensures_readU16 (by omega)).bind fun extTotal _ => ?_
  refine ensures_ite (fun _ => ensures_pure trivial) fun hext => ?_
  refine (ensures_slice (by omega) (by omega)).bind fun exts _ => ?_
  exact ensures_parseExtensions exts

lemma ensures_parseClientHelloExtensions (body : List UInt8) :
    Ensures (parseClientHelloExtensions body) fun _ => True := by
  refine ensures_ite (fun _ => ensures_pure trivial) fun hversion => ?_
  refine ensures_ite (fun _ => ensures_pure trivial) fun hrandom => ?_
  refine ensures_ite (fun _ => ensures_pure trivial) fun hsid => ?_
  refine (ensures_index (by omega)).bind fun sidLen _ => ?_
  refine ensures_ite (fun _ => ensures_pure trivial) fun _ => ?_
  refine ensures_ite (fun _ => ensures_pure trivial) fun hcookie => ?_
  refine (ensures_index (by omega)).bind fun cookieLen _ => ?_
  refine ensures_ite (fun _ => ensures_pure trivial) fun _ => ?_
  refine ensures_ite (fun _ => ensures_pure trivial) fun hcs => ?_
  refine (ensures_readU16 (by omega)).bind fun csLen _ => ?_
  refine ensures_ite (fun _ => ensures_pure trivial) fun _ => ?_
  refine ensures_ite (fun _ => ensures_pure trivial) fun hcm => ?_
  refine (ensures_index (by omega)).bind fun cmLen _ => ?_
  refine ensures_ite (fun _ => ensures_pure trivial) fun _ => ?_
  exact ensures_helloExtensions _

lemma ensures_parseServerHelloExtensions (body : List UInt8) :
    Ensures (parseServerHelloExtensions body) fun _ => True := by
  refine ensures_ite (fun _ => ensures_pure trivial) fun hversion => ?_
  refine ensures_ite (fun _ => ensures_pure trivial) fun hrandom => ?_
  refine ensures_ite (fun _ => ensures_pure trivial) fun hsid => ?_
  refine (ensures_index (by omega)).bind fun sidLen _ => ?_
  refine ensures_ite (fun _ => ensures_pure trivial) fun _ => ?_
  refine ensures_ite (fun _ => ensures_pure trivial) fun _ => ?_
  refine ensures_ite (fun _ => ensures_pure trivial) fun _ => ?_
  exact ensures_helloExtensions _

lemma ensures_readHello (htype : UInt8) (hlen hoff : ℕ) :
    Ensures (readHello payload htype hlen hoff) fun _ => True := by
  refine ensures_ite (fun h => ?_) fun _ => ensures_pure trivial
  refine (ensures_slice (by omega) (by omega)).bind fun body _ => ?_
  refine ensures_ite (fun _ => ?_) fun _ => ensures_ite (fun _ => ?_) fun _ => ensures_pure trivial
  · exact (ensures_parseClientHelloExtensions body).bind fun _ _ => ensures_pure trivial
  · exact (ensures_parseServerHelloExtensions body).bind fun _ _ => ensures_pure trivial

lemma ensures_readHandshake (ct : UInt8) (payload : List UInt8) :
    Ensures (readHandshake ct payload) fun _ => True := by
  refine ensures_ite (fun h => ?_) fun _ => ensures_pure trivial
  refine (ensures_index (by omega)).bind fun htype _ => ?_
  refine (ensures_slice (by omega) (by omega)).bind fun s hs => ?_
  refine (ensures_readU24 (by omega)).bind fun hlen _ => ?_
  refine (ensures_readU16 (by omega)).bind fun hseq _ => ?_
  refine (ensures_slice (by omega) (by omega)).bind fun s hs => ?_
  refine (ensures_readU24 (by omega)).bind fun hoff _ => ?_
  refine (ensures_slice (by omega) (by omega)).bind fun s hs => ?_
  refine (ensures_readU24 (by omega)).bind fun hfragLen _ => ?_
  exact (ensures_readHello htype hlen hoff).bind fun _ _ => ensures_pure trivial

lemma ensures_readAlert (ct : UInt8) (payload : List UInt8) :
    Ensures (readAlert ct payload) fun _ => True := by
  refine ensures_ite (fun h => ?_) fun _ => ensures_pure trivial
  refine (ensures_index (by omega)).bind fun level _ => ?_
  exact (ensures_index (by omega)).bind fun description _ => ensures_pure trivial

def recordLength (datagram : List UInt8) (i : ℕ) : Checked (Except String ℕ) := do
  if datagram.length - i < 13 then return .error "truncated DTLS record header"
  let length ← readU16 datagram (i + 11)
  if datagram.length - i < 13 + length then return .error "truncated DTLS record payload"
  return .ok length

lemma ensures_readRecord (datagram : List UInt8) (i : ℕ) :
    Ensures (readRecord datagram i) fun r =>
      recordLength datagram i = .ok (r.map DtlsRecordJson.length) := by
  refine ensures_ite (fun h => ensures_pure (if_pos h)) fun hheader => ?_
  refine (ensures_index (by omega)).bind fun contentType _ => ?_
  refine (ensures_index (by omega)).bind fun major _ => ?_
  refine (ensures_index (by omega)).bind fun minor _ => ?_
  refine (ensures_readU16 (by omega)).bind fun epoch _ => ?_
  refine (ensures_readSeq (by omega)).bind fun seq _ => ?_
  refine (ensures_readU16 (by omega)).self.bind fun length hlength => ?_
  have hframe : recordLength datagram i = _ := if_neg hheader
  rw [hlength] at hframe
  refine ensures_ite (fun h => ensures_pure (hframe.trans (if_pos h))) fun hpayload => ?_
  refine (ensures_slice (by omega) (by omega)).bind fun payload _ => ?_
  refine (ensures_readHandshake contentType payload).bind fun handshake _ => ?_
  exact (ensures_readAlert contentType payload).bind fun alert _ =>
    ensures_pure (hframe.trans (if_neg hpayload))

lemma ensures_readHandshakeName (ct : UInt8) :
    Ensures (readHandshakeName datagram ct i) fun _ => True := by
  refine ensures_ite (fun h => ?_) fun _ => ensures_pure trivial
  exact (ensures_index (by omega)).bind fun _ _ => ensures_pure trivial

lemma ensures_readPart (datagram : List UInt8) (i : ℕ) :
    Ensures (readPart datagram i) fun r => recordLength datagram i = .ok (r.map Prod.snd) := by
  refine ensures_ite (fun h => ensures_pure (if_pos h)) fun hheader => ?_
  refine (ensures_index (by omega)).bind fun ct _ => ?_
  refine (ensures_readU16 (by omega)).bind fun epoch _ => ?_
  refine (ensures_readSeq (by omega)).bind fun seq _ => ?_
  refine (ensures_readU16 (by omega)).self.bind fun len hlen => ?_
  have hframe : recordLength datagram i = _ := if_neg hheader
  rw [hlen] at hframe
  refine (ensures_readHandshakeName ct).bind fun name _ => ?_
  refine ensures_ite (fun h => ensures_pure (hframe.trans (if_pos h))) fun hpayload => ?_
  refine ensures_ite (fun halert => ?_) fun _ => ensures_pure (hframe.trans (if_neg hpayload))
  refine (ensures_index (by omega)).bind fun level _ => ?_
  exact (ensures_index (by omega)).bind fun desc _ => ensures_pure (hframe.trans (if_neg hpayload))

end Ensures

/-- **The two levels walk the datagram alike**: neither panics, and they end with the same error or
with none. -/
lemma decode_summarise (datagram : List UInt8) (i : ℕ) :
    ∃ records parts, decode datagram i = .ok records ∧ summarise datagram i = .ok parts ∧
      records.map (fun _ => ()) = parts.map fun _ => () := by
  induction hn : datagram.length - i using Nat.strong_induction_on generalizing i with
  | _ n ih =>
    rw [decode, summarise]
    split_ifs with hi
    · obtain ⟨record, hrecord, hlength⟩ := ensures_readRecord datagram i
      obtain ⟨part, hpart, hlength'⟩ := ensures_readPart datagram i
      have hsame := Except.ok.inj (hlength.symm.trans hlength')
      rw [hrecord, hpart]
      match record, part, hsame with
      | .error e, .error _, rfl => exact ⟨_, _, rfl, rfl, rfl⟩
      | .ok r, .ok (s, _), rfl =>
        obtain ⟨records, parts, hdecode, hsummarise, hrest⟩ :=
          ih (datagram.length - (i + (13 + r.length))) (by omega) _ rfl
        simp only [bind, Except.bind, hdecode, hsummarise]
        match records, parts, hrest with
        | .error e, .error _, rfl => exact ⟨_, _, rfl, rfl, rfl⟩
        | .ok _, .ok _, _ => exact ⟨_, _, rfl, rfl, rfl⟩
    · exact ⟨_, _, rfl, rfl, rfl⟩

/-- **Printing a datagram does not panic**, whatever its bytes and whatever the log level. -/
theorem dtlsUdpToJson_ensures (traceEnabled : Bool) (datagram : List UInt8) :
    Ensures (dtlsUdpToJson traceEnabled datagram) fun _ => True := by
  obtain ⟨records, parts, hdecode, hsummarise, -⟩ := decode_summarise datagram 0
  cases traceEnabled with
  | true =>
    exact Ensures.bind (P := fun _ => True) ⟨_, hdecode, trivial⟩ fun _ _ => ensures_pure trivial
  | false =>
    exact Ensures.bind (P := fun _ => True) ⟨_, hsummarise, trivial⟩ fun _ _ =>
      ensures_pure trivial

/-- **Inspection is robust.**  At every level a datagram is printed or refused, without a read out
of range, and the detailed and the brief level accept the same datagrams. -/
theorem debug_levels_accept_same (datagram : List UInt8) :
    (∀ level, ∃ out, dtlsUdpToJsonWithLevel datagram level = .ok out) ∧
      ∃ detailed brief, dtlsUdpToJsonWithLevel datagram .trace = .ok detailed ∧
        dtlsUdpToJsonWithLevel datagram .debug = .ok brief ∧ detailed.isOk = brief.isOk := by
  obtain ⟨records, parts, hdecode, hsummarise, hsame⟩ := decode_summarise datagram 0
  have htrace : dtlsUdpToJsonWithLevel datagram .trace = .ok (records.map .packet) := by
    rw [dtlsUdpToJsonWithLevel, hdecode]
    rfl
  have hdebug : ∃ brief, dtlsUdpToJsonWithLevel datagram .debug = .ok brief ∧
      brief.isOk = parts.isOk := by
    rw [dtlsUdpToJsonWithLevel, hsummarise]
    refine ⟨_, rfl, ?_⟩
    cases parts <;> rfl
  obtain ⟨brief, hbrief, hok⟩ := hdebug
  refine ⟨fun level => ?_, _, brief, htrace, hbrief, hok.symm ▸ ?_⟩
  · cases level with
    | trace => exact ⟨_, htrace⟩
    | debug => exact ⟨brief, hbrief⟩
    | belowDebug => exact ⟨_, rfl⟩
  · cases records <;> cases parts <;> first | rfl | cases hsame

end Bingle.Dtls
