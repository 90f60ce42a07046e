import Bingle.Crypto.SealedEnvelope
import Bingle.Handle.Lookup
import Bingle.Lib.Base64
import Bingle.Wire.Marshal

/-!
# What is signed on the two routes

A queued text goes to each recipient over a live session, signed by `sign_text_message`
(`bingle_core/src/crypto/live_signature.rs`), or else to the recipient's Mailbox, signed inside the
sealed envelope (`forward_message_to_mailbox`).  The key of the recipient is looked up twice:
through the cache of handles, and on the chain.
-/

namespace Bingle.Outgoing

open Crypto Lib Wire
open Handle (Node)
open Reader (ScannedAccount)

section Routes

variable {SignatureError HpkeError : Type} (crates : Crates SignatureError HpkeError)
  (base64 : Base64Engine) (it : Iteration) (isAlphanumeric : Char → Bool)
  (addressToByteKey : String → Option Key)

def signTextMessage (message : Json) (signingKey : SigningKey) (recipientId : Key)
    (nowMs : Int64) : Option (Bytes × Json) :=
  match fromJsonValue it message, message with
  | .plainText plain, .obj fields =>
    let sentTime := ((message.get "sent_time").bind Codec.i64.dec).getD nowMs
    let signed :=
      canonicalSignedMessage (crates.verifyingKey signingKey) recipientId sentTime plain.text
    let signature := base64.encode (crates.sign signingKey signed).toList
    some (signed, .obj (("sent_time", Codec.i64.enc sentTime) :: ("signature", .str signature) ::
      fields))
  | _, _ => none

def isAccountId (label : String) : Bool :=
  label.utf8ByteSize == 58 && label.toList.all fun c => c.isUpper || '2' ≤ c && c ≤ '7'

/-- The account that a label is delivered to: `handle_lookup` through the cache.  The chat client
sends to an account id as it is. -/
def liveAddress (chat : Bool) (expiry : ℕ) (w : Node) (label : String) : Option String :=
  if chat && isAccountId label then some label
  else
    match (w.cache.getIdByHandle label expiry w.now).2 with
    | some userId => some userId
    | none => Reader.handleLookup isAlphanumeric w.chain label

def queued (text : String) (timestamp : Int64) : Json :=
  .obj [("text", .str text), ("sent_time", Codec.i64.enc timestamp)]

def liveRoute (signingKey : SigningKey) (chat : Bool) (expiry : ℕ) (w : Node)
    (label text : String) (timestamp nowMs : Int64) : Option (Bytes × Json) :=
  ((liveAddress isAlphanumeric chat expiry w label).bind addressToByteKey).bind fun recipientId =>
    signTextMessage crates base64 it (queued text timestamp) signingKey recipientId nowMs

def mailboxRoute (privateKey : SigningKey) (chain : List ScannedAccount) (label text : String)
    (timestamp : Int64) (messageId : MessageId) : Option (Bytes × InnerPayload) :=
  ((Reader.handleLookup isAlphanumeric chain label).bind addressToByteKey).map fun recipientPub =>
    (canonicalSignedMessage (crates.verifyingKey privateKey) recipientPub timestamp text,
      InnerPayload.newSigned crates privateKey recipientPub timestamp messageId text)

lemma fromJsonValue_queued (text : String) (timestamp : Int64) :
    fromJsonValue it (queued text timestamp) =
      .plainText ⟨text, none, none, none, some timestamp, none⟩ :=
  fromJsonValue_toJsonValue it (m := .plainText ⟨text, none, none, none, some timestamp, none⟩)
    ⟨rfl, rfl⟩

lemma signTextMessage_queued (text : String) (timestamp nowMs : Int64) (signingKey : SigningKey)
    (recipientId : Key) :
    signTextMessage crates base64 it (queued text timestamp) signingKey recipientId nowMs =
      let signed :=
        canonicalSignedMessage (crates.verifyingKey signingKey) recipientId timestamp text
      some (signed, .obj [("sent_time", Codec.i64.enc timestamp),
        ("signature", .str (base64.encode (crates.sign signingKey signed).toList)),
        ("text", .str text), ("sent_time", Codec.i64.enc timestamp)]) := by
  have htime : ((queued text timestamp).get "sent_time").bind Codec.i64.dec = some timestamp :=
    Codec.i64.dec_enc timestamp
  rw [signTextMessage.eq_def, fromJsonValue_queued, queued]
  dsimp only
  rw [← queued, htime]
  rfl

variable {crates base64 it isAlphanumeric addressToByteKey}

/-- **The two routes.**  Both signatures cover canonical bytes of the queued text and timestamp, and
the same ones exactly if the key that the node runs with and the key of the local keypair have one
public key, and the account of the live session has the key of the account that the chain, later
perhaps, resolves the label to. -/
theorem routes_sign_same_iff {signingKey privateKey : SigningKey} {chat : Bool} {expiry : ℕ}
    {w : Node} {chain : List ScannedAccount} {label text : String} {timestamp nowMs : Int64}
    {messageId : MessageId} {signed signed' : Bytes} {message : Json} {inner : InnerPayload}
    (hlive : liveRoute crates base64 it isAlphanumeric addressToByteKey signingKey chat expiry w
      label text timestamp nowMs = some (signed, message))
    (hmailbox : mailboxRoute crates isAlphanumeric addressToByteKey privateKey chain label text
      timestamp messageId = some (signed', inner)) :
    message.get "signature" =
        some (.str (base64.encode (crates.sign signingKey signed).toList)) ∧
      inner.signature = crates.sign privateKey signed' ∧
      (signed = signed' ↔ crates.verifyingKey signingKey = crates.verifyingKey privateKey ∧
        (liveAddress isAlphanumeric chat expiry w label).bind addressToByteKey =
          (Reader.handleLookup isAlphanumeric chain label).bind addressToByteKey) := by
  obtain ⟨recipientId, hrecipient, hsign⟩ := Option.bind_eq_some_iff.mp hlive
  obtain ⟨recipientPub, hpub, hseal⟩ := Option.map_eq_some_iff.mp hmailbox
  rw [signTextMessage_queued] at hsign
  obtain ⟨rfl, rfl⟩ := Prod.mk.inj (Option.some.inj hsign)
  obtain ⟨rfl, rfl⟩ := Prod.mk.inj hseal
  refine ⟨rfl, rfl, ?_⟩
  rw [hrecipient, hpub, Option.some_inj]
  constructor
  · intro hsame
    have hfields := @canonicalSignedMessage_injective (_, _, _, _) (_, _, _, _) hsame
    simp only [Prod.mk.injEq] at hfields
    exact ⟨hfields.1, hfields.2.1⟩
  · rintro ⟨hsender, rfl⟩
    rw [hsender]

def keyOfHolder (address : String) : Option Key :=
  some (List.Vector.replicate 32 (if address = "ALICE" then 1 else 2))

def senderKey : SigningKey := List.Vector.replicate 32 9

def nodeAfter (events : List Handle.Event) : Node :=
  run (Node.step Char.isAlphanum 600) (Node.init Node.twoHolders) events

def liveToAlice (events : List Handle.Event) : Option (Bytes × Json) :=
  liveRoute transparent .standard sorted Char.isAlphanum keyOfHolder senderKey false 600
    (nodeAfter events) "alice" "hello" 5 7

def mailboxToAlice (events : List Handle.Event) : Option (Bytes × InnerPayload) :=
  mailboxRoute transparent Char.isAlphanum keyOfHolder senderKey (nodeAfter events).chain "alice"
    "hello" 5 (List.Vector.replicate 16 7)

theorem routes_sign_same_for_alice :
    ∃ signed message inner, liveToAlice Node.honestRun = some (signed, message) ∧
      mailboxToAlice Node.honestRun = some (signed, inner) := by
  have hsome : (liveToAlice Node.honestRun).isSome ∧ (mailboxToAlice Node.honestRun).isSome := by
    decide +kernel
  obtain ⟨⟨signed, message⟩, hlive⟩ := Option.isSome_iff_exists.mp hsome.1
  obtain ⟨⟨signed', inner⟩, hmailbox⟩ := Option.isSome_iff_exists.mp hsome.2
  have hsame : signed = signed' :=
    (routes_sign_same_iff hlive hmailbox).2.2.mpr ⟨rfl, by decide +kernel⟩
  exact ⟨signed, message, inner, hlive, hsame ▸ hmailbox⟩

/-- **Signed for two keys**: another account that holds `alice` has been looked up, and the live
session is signed for its key. -/
theorem routes_sign_for_two_keys :
    (liveToAlice Node.hijackRun).isSome ∧ (mailboxToAlice Node.hijackRun).isSome ∧
      (liveToAlice Node.hijackRun).map Prod.fst ≠ (mailboxToAlice Node.hijackRun).map Prod.fst := by
  decide +kernel

end Routes

end Bingle.Outgoing
