import Bingle.Lib.Framing

/-!
# Sealed envelopes

What is posted to a Mailbox (`bingle_core/src/crypto/sealed_envelope.rs`): a version, a cipher
suite, an encapsulated key and a ciphertext, which holds the sender, the time, an id, a signature
and the text.  The two layouts are frames of `Bingle.Lib.Framing`.
-/

namespace Bingle.Crypto

abbrev Bytes := List UInt8

/-- An account's identity: an Ed25519 public key.  Other keys of 32 bytes are given by theirs
too. -/
abbrev Key := List.Vector UInt8 32

abbrev MessageId := List.Vector UInt8 16

abbrev Signature := List.Vector UInt8 64

abbrev SigningKey := Key

def utf8 (s : String) : Bytes := s.toUTF8.data.toList

/-! ## What the crates do -/

/-- The functions of `ed25519_dalek` and `hpke`.  Sealing draws an ephemeral key, so it takes some
randomness. -/
structure Crates (SignatureError HpkeError : Type) where
  verifyingKey : SigningKey → Key
  sign : SigningKey → Bytes → Signature
  /-- `VerifyingKey::from_bytes`, which refuses what is not a point of the curve -/
  verifyingKeyFromBytes : Key → Except SignatureError Key
  verify : Key → Bytes → Signature → Bool
  toMontgomery : Key → Key
  toScalarBytes : SigningKey → Key
  publicKeyFromBytes : Key → Except HpkeError Key
  privateKeyFromBytes : Key → Except HpkeError Key
  encappedKeyFromBytes : Key → Except HpkeError Key
  singleShotSeal (random : Bytes) (pkRecip : Key) (info plaintext aad : Bytes) :
    Except HpkeError (Key × Bytes)
  singleShotOpen (skRecip encappedKey : Key) (info ciphertext aad : Bytes) : Except HpkeError Bytes

variable {SignatureError HpkeError : Type} (crates : Crates SignatureError HpkeError)

/-! ## Keys -/

def clampScalarBytes (bytes : Key) : Key :=
  let bytes := bytes.set 0 (bytes.get 0 &&& 248)
  let bytes := bytes.set 31 (bytes.get 31 &&& 127)
  bytes.set 31 (bytes.get 31 ||| 64)

def ed25519PubToX25519 (pubBytes : Key) : Except SignatureError Key := do
  let verifyingKey ← crates.verifyingKeyFromBytes pubBytes
  return crates.toMontgomery verifyingKey

def ed25519SecretToX25519 (signingKey : SigningKey) : Key :=
  clampScalarBytes (crates.toScalarBytes signingKey)

/-! ## Sealing and unsealing bytes -/

inductive SealError (HpkeError : Type)
  | invalidRecipientPublic (e : HpkeError)
  | hpke (e : HpkeError)
deriving DecidableEq, Repr

inductive UnsealError (HpkeError : Type)
  | invalidRecipientPrivate (e : HpkeError)
  | invalidEncappedKey (e : HpkeError)
  | hpke (e : HpkeError)
deriving DecidableEq, Repr

def hpkeInfo : Bytes := []

def hpkeSeal (random : Bytes) (recipientPub : Key) (aad plaintext : Bytes) :
    Except (SealError HpkeError) (Key × Bytes) := do
  let pkRecip ← (crates.publicKeyFromBytes recipientPub).mapError .invalidRecipientPublic
  (crates.singleShotSeal random pkRecip hpkeInfo plaintext aad).mapError .hpke

def hpkeUnseal (recipientPriv enc : Key) (aad ciphertext : Bytes) :
    Except (UnsealError HpkeError) Bytes := do
  let skRecip ← (crates.privateKeyFromBytes recipientPriv).mapError .invalidRecipientPrivate
  let encappedKey ← (crates.encappedKeyFromBytes enc).mapError .invalidEncappedKey
  (crates.singleShotOpen skRecip encappedKey hpkeInfo ciphertext aad).mapError .hpke

/-! ### Steps that may fail -/

section Steps

variable {ε ε' α β : Type}

@[simp] lemma ok_bind (a : α) (k : α → Except ε β) : (Except.ok a >>= k) = k a := rfl

@[simp] lemma mapError_ok (f : ε → ε') (a : α) : (Except.ok a).mapError f = .ok a := rfl

lemma eq_ok_of_mapError {f : ε → ε'} {x : Except ε α} {a : α} (h : x.mapError f = .ok a) :
    x = .ok a := by
  cases x with
  | error e => cases h
  | ok b => exact congrArg Except.ok (Except.ok.inj h)

end Steps

/-- **What HPKE and Ed25519 are for.**  Signatures verify under the public key, which is a point,
and what is sealed to the X25519 key made of it is opened with the secret one. -/
structure Crates.Correct : Prop where
  point : ∀ k, crates.verifyingKeyFromBytes (crates.verifyingKey k) = .ok (crates.verifyingKey k)
  verify : ∀ k message,
    crates.verify (crates.verifyingKey k) message (crates.sign k message) = true
  hpke : ∀ k, ∃ pk sk,
    crates.publicKeyFromBytes (crates.toMontgomery (crates.verifyingKey k)) = .ok pk ∧
    crates.privateKeyFromBytes (ed25519SecretToX25519 crates k) = .ok sk ∧
    ∀ random info plaintext aad enc ciphertext,
      crates.singleShotSeal random pk info plaintext aad = .ok (enc, ciphertext) →
      ∃ encapped, crates.encappedKeyFromBytes enc = .ok encapped ∧
        crates.singleShotOpen sk encapped info ciphertext aad = .ok plaintext

lemma hpkeUnseal_of_hpkeSeal {crates : Crates SignatureError HpkeError} (h : crates.Correct)
    (k : SigningKey) {random aad plaintext ciphertext : Bytes} {enc : Key}
    (hseal : hpkeSeal crates random (crates.toMontgomery (crates.verifyingKey k)) aad plaintext =
      .ok (enc, ciphertext)) :
    hpkeUnseal crates (ed25519SecretToX25519 crates k) enc aad ciphertext = .ok plaintext := by
  obtain ⟨pk, sk, hpk, hsk, hopen⟩ := h.hpke k
  simp only [hpkeSeal, hpk, mapError_ok, ok_bind] at hseal
  obtain ⟨encapped, hencapped, hplain⟩ :=
    hopen random hpkeInfo plaintext aad enc ciphertext (eq_ok_of_mapError hseal)
  simp [hpkeUnseal, hsk, hencapped, hplain]

/-! ## The envelope -/

def envelopeVersion : UInt8 := 1

def suiteHpke : UInt16 := 0x0001

def idLen : ℕ := 32

def messageIdLen : ℕ := 16

def signatureLen : ℕ := 64

def sentTimeLen : ℕ := 8

def encLen : ℕ := 32

def innerHeaderLen : ℕ := idLen + sentTimeLen + messageIdLen + signatureLen

def envelopeHeaderLen : ℕ := 1 + 2 + encLen

def suiteName (suiteId : UInt16) : Option String :=
  if suiteId = suiteHpke then
    some "HPKE[DHKEM(X25519, HKDF-SHA256), HKDF-SHA256, ChaCha20-Poly1305]"
  else none

def i64ToBeBytes (n : Int64) : Bytes := Lib.Field.i64.enc n

def i64FromBeBytes (bytes : Bytes) : Int64 := Lib.Field.i64.dec bytes

def u16ToBeBytes (n : UInt16) : Bytes := Lib.Field.u16.enc n

def u16FromBeBytes (bytes : Bytes) : UInt16 := Lib.Field.u16.dec bytes

def slice (bytes : Bytes) (i j : ℕ) : Bytes := (bytes.drop i).take (j - i)

def copyFromSlice (n : ℕ) (bytes : Bytes) : List.Vector UInt8 n := (Lib.Field.block n).dec bytes

/-- The bytes that both ends sign and verify. -/
def canonicalSignedMessage (senderId recipientId : Key) (sentTime : Int64) (text : String) : Bytes :=
  senderId.toList ++ recipientId.toList ++ i64ToBeBytes sentTime ++ utf8 text

/-- What is sealed: the text, who sent it and when, and their signature. -/
structure InnerPayload where
  senderId : Key
  sentTime : Int64
  messageId : MessageId
  signature : Signature
  text : String
deriving DecidableEq

/-- What the Mailbox holds; the sender is not readable in it. -/
structure SealedEnvelope where
  version : UInt8
  suiteId : UInt16
  enc : Key
  ciphertext : Bytes
deriving DecidableEq

structure OpenedMessage where
  senderId : Key
  sentTime : Int64
  messageId : MessageId
  text : String
  signature : Signature
  suiteId : UInt16
deriving DecidableEq

inductive EnvelopeParseError
  | envelopeTooShort
  | innerTooShort
  | invalidText
deriving DecidableEq, Repr

inductive EnvelopeSealError (SignatureError HpkeError : Type)
  | keyConvert (e : SignatureError)
  | hpke (e : SealError HpkeError)
deriving DecidableEq, Repr

inductive EnvelopeOpenError (SignatureError HpkeError : Type)
  | parse (e : EnvelopeParseError)
  | unknownVersion (version : UInt8)
  | unknownSuite (suiteId : UInt16)
  | unseal (e : UnsealError HpkeError)
  | badSenderKey (e : SignatureError)
  | badSignature
deriving DecidableEq, Repr

def associatedData (version : UInt8) (suiteId : UInt16) : Bytes := version :: u16ToBeBytes suiteId

namespace InnerPayload

def newSigned (senderKey : SigningKey) (recipientId : Key) (sentTime : Int64)
    (messageId : MessageId) (text : String) : InnerPayload :=
  let senderId := crates.verifyingKey senderKey
  let message := canonicalSignedMessage senderId recipientId sentTime text
  { senderId, sentTime, messageId, signature := crates.sign senderKey message, text }

def toBytes (p : InnerPayload) : Bytes :=
  p.senderId.toList ++ i64ToBeBytes p.sentTime ++ p.messageId.toList ++ p.signature.toList ++
    utf8 p.text

def fromBytes (bytes : Bytes) : Except EnvelopeParseError InnerPayload :=
  if bytes.length < innerHeaderLen then .error .innerTooShort
  else
    let idStart := idLen + sentTimeLen
    let sigStart := idStart + messageIdLen
    match String.fromUTF8? ⟨(bytes.drop innerHeaderLen).toArray⟩ with
    | none => .error .invalidText
    | some text =>
      .ok
        { senderId := copyFromSlice 32 (slice bytes 0 idLen)
          sentTime := i64FromBeBytes (slice bytes idLen (idLen + sentTimeLen))
          messageId := copyFromSlice 16 (slice bytes idStart (idStart + messageIdLen))
          signature := copyFromSlice 64 (slice bytes sigStart (sigStart + signatureLen))
          text }

def verify (p : InnerPayload) (recipientId : Key) :
    Except (EnvelopeOpenError SignatureError HpkeError) Unit := do
  let senderKey ← (crates.verifyingKeyFromBytes p.senderId).mapError .badSenderKey
  let message := canonicalSignedMessage p.senderId recipientId p.sentTime p.text
  if crates.verify senderKey message p.signature then return () else throw .badSignature

end InnerPayload

def SealedEnvelope.seal (random : Bytes) (recipientPub : Key) (inner : InnerPayload) :
    Except (EnvelopeSealError SignatureError HpkeError) SealedEnvelope := do
  let recipientX ← (ed25519PubToX25519 crates recipientPub).mapError .keyConvert
  let aad := associatedData envelopeVersion suiteHpke
  let (enc, ciphertext) ← (hpkeSeal crates random recipientX aad inner.toBytes).mapError .hpke
  return { version := envelopeVersion, suiteId := suiteHpke, enc, ciphertext }

def SealedEnvelope.unseal (e : SealedEnvelope) (recipientKey : SigningKey) :
    Except (EnvelopeOpenError SignatureError HpkeError) InnerPayload := do
  if e.version ≠ envelopeVersion then throw (.unknownVersion e.version)
  if (suiteName e.suiteId).isNone then throw (.unknownSuite e.suiteId)
  let recipientX := ed25519SecretToX25519 crates recipientKey
  let aad := associatedData e.version e.suiteId
  let innerBytes ← (hpkeUnseal crates recipientX e.enc aad e.ciphertext).mapError .unseal
  (InnerPayload.fromBytes innerBytes).mapError .parse

def SealedEnvelope.toBytes (e : SealedEnvelope) : Bytes :=
  [e.version] ++ u16ToBeBytes e.suiteId ++ e.enc.toList ++ e.ciphertext

def SealedEnvelope.fromBytes (bytes : Bytes) : Except EnvelopeParseError SealedEnvelope :=
  if bytes.length < envelopeHeaderLen then .error .envelopeTooShort
  else
    .ok
      { version := bytes.getD 0 0
        suiteId := u16FromBeBytes [bytes.getD 1 0, bytes.getD 2 0]
        enc := copyFromSlice 32 (slice bytes 3 (3 + encLen))
        ciphertext := bytes.drop envelopeHeaderLen }

/-- `sealed_envelope::seal`, with the random bytes it draws: the id of the message, and those of
HPKE. -/
def Envelope.seal (messageId : MessageId) (random : Bytes) (recipientPub : Key)
    (senderKey : SigningKey) (sentTime : Int64) (text : String) :
    Except (EnvelopeSealError SignatureError HpkeError) Bytes := do
  let inner := InnerPayload.newSigned crates senderKey recipientPub sentTime messageId text
  let envelope ← SealedEnvelope.seal crates random recipientPub inner
  return envelope.toBytes

def Envelope.unseal (recipientKey : SigningKey) (bytes : Bytes) :
    Except (EnvelopeOpenError SignatureError HpkeError) OpenedMessage := do
  let envelope ← (SealedEnvelope.fromBytes bytes).mapError .parse
  let inner ← envelope.unseal crates recipientKey
  inner.verify crates (crates.verifyingKey recipientKey)
  return {
    senderId := inner.senderId
    sentTime := inner.sentTime
    messageId := inner.messageId
    text := inner.text
    signature := inner.signature
    suiteId := envelope.suiteId }

/-! ## The layouts are exact -/

section Layouts

open Lib (Field Frame)

def signedFrame : Frame (Key × Key × Int64 × String) :=
  (Field.block 32).before ((Field.block 32).before (Field.i64.before Frame.text))

lemma canonicalSignedMessage_eq (senderId recipientId : Key) (sentTime : Int64) (text : String) :
    canonicalSignedMessage senderId recipientId sentTime text =
      signedFrame.enc (senderId, recipientId, sentTime, text) := by
  simp only [canonicalSignedMessage, List.append_assoc]
  rfl

lemma canonicalSignedMessage_injective :
    Function.Injective fun m : Key × Key × Int64 × String =>
      canonicalSignedMessage m.1 m.2.1 m.2.2.1 m.2.2.2 := by
  intro m m' h
  simp only [canonicalSignedMessage_eq] at h
  exact signedFrame.enc_injective h

namespace InnerPayload

def fields : Key × Int64 × MessageId × Signature × String ≃ InnerPayload where
  toFun f := ⟨f.1, f.2.1, f.2.2.1, f.2.2.2.1, f.2.2.2.2⟩
  invFun p := (p.senderId, p.sentTime, p.messageId, p.signature, p.text)
  left_inv _ := rfl
  right_inv _ := rfl

def frame : Frame InnerPayload :=
  ((Field.block 32).before (Field.i64.before ((Field.block 16).before
    ((Field.block 64).before Frame.text)))).map fields

lemma toBytes_eq (p : InnerPayload) : p.toBytes = frame.enc p := by
  simp only [toBytes, List.append_assoc]
  rfl

lemma length_toBytes (p : InnerPayload) : innerHeaderLen ≤ p.toBytes.length := by
  have htime : (i64ToBeBytes p.sentTime).length = 8 := Field.i64.length_enc p.sentTime
  simp only [toBytes, List.length_append, List.Vector.toList_length, htime]
  exact Nat.le_add_right 120 _

lemma frame_dec {bytes : Bytes} (h : innerHeaderLen ≤ bytes.length) :
    frame.dec bytes = (fromBytes bytes).toOption := by
  have hlen : 120 ≤ bytes.length := h
  rw [frame, Frame.map_dec, Field.before_dec _ _ (le_trans (by decide) hlen),
    Field.before_dec _ _ (by simp; omega), Field.before_dec _ _ (by simp; omega),
    Field.before_dec _ _ (by simp; omega), fromBytes, if_neg (not_lt.mpr h)]
  simp only [List.drop_drop, Field.width_block, Field.width_i64, Option.map_map]
  change Option.map _ (String.fromUTF8? ⟨(bytes.drop innerHeaderLen).toArray⟩) = _
  cases String.fromUTF8? ⟨(bytes.drop innerHeaderLen).toArray⟩ with
  | none => rfl
  | some text => rfl

/-- **A payload is read from exactly the string that is written for it.** -/
theorem fromBytes_eq_ok_iff (bytes : Bytes) (p : InnerPayload) :
    fromBytes bytes = .ok p ↔ p.toBytes = bytes := by
  rw [toBytes_eq]
  refine frame.read_eq_ok_iff (fun a => a.toBytes_eq ▸ a.length_toBytes) ?_
    (fun _ h => frame_dec h) bytes p
  intro bytes h a heq
  rw [fromBytes, if_pos h] at heq
  cases heq

end InnerPayload

namespace SealedEnvelope

def fields : UInt8 × UInt16 × Key × Bytes ≃ SealedEnvelope where
  toFun f := ⟨f.1, f.2.1, f.2.2.1, f.2.2.2⟩
  invFun e := (e.version, e.suiteId, e.enc, e.ciphertext)
  left_inv _ := rfl
  right_inv _ := rfl

def frame : Frame SealedEnvelope :=
  (Field.u8.before (Field.u16.before ((Field.block 32).before Frame.rest))).map fields

lemma toBytes_eq (e : SealedEnvelope) : e.toBytes = frame.enc e := by
  have hversion : [e.version] = Field.u8.enc e.version := by
    simp [Field.u8, Field.number, Lib.MsgPack.be]
  simp only [toBytes, List.append_assoc, hversion]
  rfl

lemma length_toBytes (e : SealedEnvelope) : envelopeHeaderLen ≤ e.toBytes.length := by
  have hsuite : (u16ToBeBytes e.suiteId).length = 2 := Field.u16.length_enc e.suiteId
  simp only [toBytes, List.length_append, List.length_singleton, List.Vector.toList_length, hsuite]
  exact Nat.le_add_right 35 _

lemma frame_dec {bytes : Bytes} (h : envelopeHeaderLen ≤ bytes.length) :
    frame.dec bytes = (fromBytes bytes).toOption := by
  have hlen : 35 ≤ bytes.length := h
  have hversion : Field.u8.dec (bytes.take 1) = bytes.getD 0 0 := by
    obtain _ | ⟨b, bytes⟩ := bytes
    · simp at hlen
    · simp [Field.u8, Field.number, Lib.MsgPack.ofBe]
  have hsuite : (bytes.drop 1).take 2 = [bytes.getD 1 0, bytes.getD 2 0] := by
    obtain _ | ⟨_, _ | ⟨_, _ | ⟨_, bytes⟩⟩⟩ := bytes
    · simp at hlen
    · simp at hlen
    · simp at hlen
    · rfl
  rw [frame, Frame.map_dec, Field.before_dec _ _ (le_trans (by decide) hlen),
    Field.before_dec _ _ (by simp; omega), Field.before_dec _ _ (by simp; omega), fromBytes,
    if_neg (not_lt.mpr h)]
  simp only [List.drop_drop, Field.width_block, Field.width_u8, Field.width_u16, Option.map_map,
    hversion, hsuite]
  rfl

/-- **An envelope is read from exactly the string that is written for it.** -/
theorem fromBytes_eq_ok_iff (bytes : Bytes) (e : SealedEnvelope) :
    fromBytes bytes = .ok e ↔ e.toBytes = bytes := by
  rw [toBytes_eq]
  refine frame.read_eq_ok_iff (fun a => a.toBytes_eq ▸ a.length_toBytes) ?_
    (fun _ h => frame_dec h) bytes e
  intro bytes h a heq
  rw [fromBytes, if_pos h] at heq
  cases heq

end SealedEnvelope

end Layouts

/-! ## The round trip -/

section RoundTrip

variable {crates : Crates SignatureError HpkeError} (h : crates.Correct) (recipient : SigningKey)
include h

lemma SealedEnvelope.seal_eq (random : Bytes) (inner : InnerPayload) :
    SealedEnvelope.seal crates random (crates.verifyingKey recipient) inner =
      match hpkeSeal crates random (crates.toMontgomery (crates.verifyingKey recipient))
          (associatedData envelopeVersion suiteHpke) inner.toBytes with
      | .error e => .error (.hpke e)
      | .ok (enc, ciphertext) => .ok ⟨envelopeVersion, suiteHpke, enc, ciphertext⟩ := by
  have hkey : ed25519PubToX25519 crates (crates.verifyingKey recipient) =
      .ok (crates.toMontgomery (crates.verifyingKey recipient)) := by
    rw [ed25519PubToX25519, h.point]
    rfl
  simp only [SealedEnvelope.seal, hkey, mapError_ok, ok_bind]
  cases hpkeSeal crates random (crates.toMontgomery (crates.verifyingKey recipient))
    (associatedData envelopeVersion suiteHpke) inner.toBytes with
  | error e => rfl
  | ok sealed => rfl

lemma InnerPayload.verify_newSigned (sender : SigningKey) (recipientId : Key) (sentTime : Int64)
    (messageId : MessageId) (text : String) :
    (InnerPayload.newSigned crates sender recipientId sentTime messageId text).verify crates
      recipientId = .ok () := by
  rw [InnerPayload.verify, InnerPayload.newSigned, h.point]
  change (if crates.verify _ _ _ then _ else _) = _
  rw [h.verify, if_pos rfl]
  rfl

lemma unseal_seal (sender : SigningKey) (messageId : MessageId) (random : Bytes) (sentTime : Int64)
    (text : String) :
    match Envelope.seal crates messageId random (crates.verifyingKey recipient) sender sentTime text
      with
    | .ok bytes => Envelope.unseal crates recipient bytes =
        .ok ⟨crates.verifyingKey sender, sentTime, messageId, text,
          crates.sign sender (canonicalSignedMessage (crates.verifyingKey sender)
            (crates.verifyingKey recipient) sentTime text), suiteHpke⟩
    | .error e => ∃ e', e = .hpke e' := by
  set inner := InnerPayload.newSigned crates sender (crates.verifyingKey recipient) sentTime
    messageId text with hinner
  rw [Envelope.seal, ← hinner, SealedEnvelope.seal_eq h]
  cases hsealed : hpkeSeal crates random (crates.toMontgomery (crates.verifyingKey recipient))
      (associatedData envelopeVersion suiteHpke) inner.toBytes with
  | error e => exact ⟨e, rfl⟩
  | ok sealed =>
    obtain ⟨enc, ciphertext⟩ := sealed
    have hopen := hpkeUnseal_of_hpkeSeal h recipient hsealed
    have hinnerBytes := (InnerPayload.fromBytes_eq_ok_iff inner.toBytes inner).mpr rfl
    have hunseal : SealedEnvelope.unseal crates ⟨envelopeVersion, suiteHpke, enc, ciphertext⟩
        recipient = .ok inner := by
      simp [SealedEnvelope.unseal, hopen, hinnerBytes, suiteName]
    have hbytes := (SealedEnvelope.fromBytes_eq_ok_iff _
      ⟨envelopeVersion, suiteHpke, enc, ciphertext⟩).mpr rfl
    have hverify := InnerPayload.verify_newSigned h sender (crates.verifyingKey recipient) sentTime
      messageId text
    change Envelope.unseal crates recipient (SealedEnvelope.toBytes _) = _
    simp only [Envelope.unseal, hbytes, mapError_ok, ok_bind, hunseal]
    rw [hverify]
    rfl

end RoundTrip

/-- **Sealed envelopes.**  With HPKE and Ed25519 as they should be, what anybody seals for a
recipient is unsealed with that sender, time and text.  Each of the two layouts is read from exactly
the strings that are written in it, and no two messages share what is signed for them. -/
theorem envelope_round_trip_and_unambiguity (h : crates.Correct) :
    (∀ (recipient sender : SigningKey) (messageId : MessageId) (random : Bytes) (sentTime : Int64)
        (text : String),
      match Envelope.seal crates messageId random (crates.verifyingKey recipient) sender sentTime text
        with
      | .ok bytes => Envelope.unseal crates recipient bytes =
          .ok ⟨crates.verifyingKey sender, sentTime, messageId, text,
            crates.sign sender (canonicalSignedMessage (crates.verifyingKey sender)
              (crates.verifyingKey recipient) sentTime text), suiteHpke⟩
      | .error e => ∃ e', e = .hpke e') ∧
    (∀ bytes p, InnerPayload.fromBytes bytes = .ok p ↔ p.toBytes = bytes) ∧
    (∀ bytes e, SealedEnvelope.fromBytes bytes = .ok e ↔ e.toBytes = bytes) ∧
    Function.Injective InnerPayload.toBytes ∧ Function.Injective SealedEnvelope.toBytes ∧
    Function.Injective fun m : Key × Key × Int64 × String =>
      canonicalSignedMessage m.1 m.2.1 m.2.2.1 m.2.2.2 := by
  refine ⟨unseal_seal h, InnerPayload.fromBytes_eq_ok_iff, SealedEnvelope.fromBytes_eq_ok_iff, ?_, ?_,
    canonicalSignedMessage_injective⟩
  · intro p p' hp
    rw [InnerPayload.toBytes_eq, InnerPayload.toBytes_eq] at hp
    exact InnerPayload.frame.enc_injective hp
  · intro e e' he
    rw [SealedEnvelope.toBytes_eq, SealedEnvelope.toBytes_eq] at he
    exact SealedEnvelope.frame.enc_injective he

def transparent : Crates Unit Unit where
  verifyingKey k := k
  sign k message := copyFromSlice 64 (k.toList ++ message)
  verifyingKeyFromBytes := .ok
  verify k message signature := signature = copyFromSlice 64 (k.toList ++ message)
  toMontgomery := clampScalarBytes
  toScalarBytes k := k
  publicKeyFromBytes := .ok
  privateKeyFromBytes := .ok
  encappedKeyFromBytes := .ok
  singleShotSeal _ pk info plaintext aad := .ok (pk, info ++ aad ++ plaintext)
  singleShotOpen sk enc info ciphertext aad :=
    if enc = sk ∧ info ++ aad <+: ciphertext then .ok (ciphertext.drop (info ++ aad).length)
    else .error ()

lemma transparent_correct : transparent.Correct where
  point _ := rfl
  verify _ _ := decide_eq_true rfl
  hpke k := by
    refine ⟨clampScalarBytes k, clampScalarBytes k, rfl, rfl, ?_⟩
    intro random info plaintext aad enc ciphertext hseal
    obtain ⟨rfl, rfl⟩ := Prod.mk.inj (Except.ok.inj hseal)
    refine ⟨_, rfl, ?_⟩
    change (if _ then _ else _) = _
    rw [if_pos ⟨rfl, List.prefix_append _ _⟩, List.drop_left]

theorem transparent_round_trip :
    let alice : SigningKey := List.Vector.replicate 32 1
    let bob : SigningKey := List.Vector.replicate 32 2
    ∃ bytes signature,
      Envelope.seal transparent (List.Vector.replicate 16 7) [] bob alice (-1) "hello" = .ok bytes ∧
      Envelope.unseal transparent bob bytes =
        .ok ⟨alice, -1, List.Vector.replicate 16 7, "hello", signature, suiteHpke⟩ :=
  ⟨_, _, rfl, (envelope_round_trip_and_unambiguity transparent transparent_correct).1
    (List.Vector.replicate 32 2) (List.Vector.replicate 32 1) (List.Vector.replicate 16 7) [] (-1)
    "hello"⟩

end Bingle.Crypto
