import Bingle.Identity.Certificate

/-!
# Which key a peer's identity rests on

The DTLS layer (`bingle_core/src/dtls/dtls_openssl.rs`) asks the certificate handler about a peer's
chain, and the subject it returns becomes the id of the peer: an account address, which encodes an
Ed25519 public key.  Nobody asks whose key the CA certificate has.
-/

namespace Bingle.Identity

open List Option
open Lib (trimEndMatches)

/-! ## The DTLS layer -/

section Dtls

variable {Pem Secret Key Signature : Type} (o : OpenSsl Pem Secret Key Signature)

def verifyWithHandler (depth : ℕ) (chain : List (X509 Key Signature)) : Bool :=
  if depth ≠ 0 then true
  else
    -- the last certificate of the chain is taken for the issuing CA
    let peerCaPem := if 2 ≤ chain.length then chain.getLast?.bind o.toPem else none
    match peerCaPem, chain.head?.bind o.toPem with
    | some caPem, some certPem => (handler o certPem caPem).isOk
    | _, _ => false

def verifyConnector (depth : ℕ) (chain : List (X509 Key Signature)) : Bool :=
  verifyWithHandler o depth chain

def verifyAcceptor (depth : ℕ) (chain : List (X509 Key Signature)) : Bool :=
  verifyWithHandler o depth chain

def peerIssuer (cert : Option (X509 Key Signature)) (chain : List (X509 Key Signature)) :
    Option String :=
  match cert.bind o.toPem, chain.getLast?.bind o.toPem with
  | some certPem, some caPem =>
    match handler o certPem caPem with
    | .ok cn => if cn ≠ "" then some (trimEndMatches cn issuerSuffix) else none
    | .error _ => none
  | _, _ => none

inductive Side
  | accept
  | connect
deriving DecidableEq, Repr

def passes (side : Side) (presented : List (X509 Key Signature)) : Prop :=
  presented ≠ [] ∧ ∀ depth < presented.length,
    match side with
    | .accept => verifyAcceptor o depth presented
    | .connect => verifyConnector o depth presented

/-- The id of a peer with this chain: step 3 of `run_accept_stream`, and the end of the outbound
handshake.  The chain that OpenSSL reports to a server does not have the leaf in it. -/
def attributed (side : Side) (presented : List (X509 Key Signature)) : Option String :=
  match side with
  | .accept => peerIssuer o presented.head? presented.tail
  | .connect => peerIssuer o presented.head? presented

end Dtls

/-! ## Peers -/

/-- A peer, by the secret keys it has and the chain it presents, leaf first. -/
structure Peer (Secret Key Signature : Type) where
  keys : List Secret
  chain : List (X509 Key Signature)

section Bound

variable {Pem Secret Key Signature : Type} (o : OpenSsl Pem Secret Key Signature)

def Peer.Signs (p : Peer Secret Key Signature) : Prop :=
  ∀ c ∈ p.chain, ∃ sk ∈ p.keys, c.signature = o.sign sk c.body

def Peer.Possesses (p : Peer Secret Key Signature) : Prop :=
  ∀ c ∈ p.chain.head?, ∃ sk ∈ p.keys, c.body.publicKey = .ok (o.publicKey sk)

/-- A chain that is verified under the address has the key in its CA certificate. -/
def KeyBound (address : String) (k : Key) : Prop :=
  ∀ certPem caPem, handler o certPem caPem = .ok (address ++ issuerSuffix) →
    ∀ ca, o.fromPem caPem = .ok ca → ca.body.publicKey = .ok k

/-- A peer that passes under the address possesses a secret of the key. -/
def PeerBound (address : String) (k : Key) : Prop :=
  ∀ (p : Peer Secret Key Signature) (side : Side), p.Signs o → p.Possesses o →
    passes o side p.chain → attributed o side p.chain = some address →
      ∃ sk ∈ p.keys, o.publicKey sk = k

def OnlyKey (k : Key) : Prop :=
  ∀ sk, o.keyId (o.publicKey sk) = .ed25519 → o.publicKey sk = k

end Bound

section Exact

variable {Pem Secret Key Signature : Type} {o : OpenSsl Pem Secret Key Signature}
  {address : String} {k : Key}

lemma peerIssuer_eq_some {cert : Option (X509 Key Signature)} {chain : List (X509 Key Signature)}
    (hdoc : o.Documented) (h : peerIssuer o cert chain = some address) :
    ∃ ee ∈ cert, ∃ ca ∈ chain, ∃ now k cn, Accepted o now ee ca k cn := by
  unfold peerIssuer at h
  split at h
  · rename_i certPem caPem hcert hchain
    obtain ⟨ee, hee, heePem⟩ := bind_eq_some_iff.mp hcert
    obtain ⟨ca, hca, hcaPem⟩ := bind_eq_some_iff.mp hchain
    split at h
    · rename_i cn hok
      obtain ⟨ee', ca', now, k, hee', hca', -, hacc⟩ := handler_eq_ok_iff.mp hok
      rw [hdoc.fromPem ee _ heePem] at hee'
      rw [hdoc.fromPem ca _ hcaPem] at hca'
      obtain rfl := Except.ok.inj hee'
      obtain rfl := Except.ok.inj hca'
      exact ⟨ee, hee, ca, mem_of_getLast? hca, now, k, cn, hacc⟩
    · exact absurd h (by simp)
  · exact absurd h (by simp)

variable {now : ℤ} {sk : Secret}

lemma Accepted.exists_secret {cert ca : X509 Key Signature} {k : Key} {cn : String}
    (hdoc : o.Documented) (h : Accepted o now cert ca k cn) :
    ∃ sk, o.publicKey sk = k ∧ ca.signature = o.sign sk ca.body :=
  (hdoc.verify _ _ _).mp h.selfSigned

lemma handler_generatePki (hdoc : o.Documented) (hnow : o.now = .ok now)
    (haddr : o.addressToByteKey address = some k) (hid : o.keyId (o.publicKey sk) = .ed25519) :
    ∃ certPem caPem,
      o.toPem (generatePki o sk address sk sk now).client = some certPem ∧
      o.toPem (generatePki o sk address sk sk now).ca = some caPem ∧
      handler o certPem caPem = .ok (address ++ issuerSuffix) := by
  obtain ⟨-, hlen, hchars⟩ := hdoc.address address k haddr
  obtain ⟨certPem, hcert⟩ := hdoc.toPem (generatePki o sk address sk sk now).client
  obtain ⟨caPem, hca⟩ := hdoc.toPem (generatePki o sk address sk sk now).ca
  refine ⟨certPem, caPem, hcert, hca, handler_eq_ok_iff.mpr ?_⟩
  exact ⟨_, _, now, _, hdoc.fromPem _ _ hcert, hdoc.fromPem _ _ hca, hnow,
    generatePki_accepted hdoc hid (by omega) hchars sk sk now⟩

def impostor (o : OpenSsl Pem Secret Key Signature) (sk : Secret) (address : String) (now : ℤ) :
    Peer Secret Key Signature :=
  ⟨[sk], [(generatePki o sk address sk sk now).client, (generatePki o sk address sk sk now).ca]⟩

lemma impostor_attributed (hdoc : o.Documented) (hnow : o.now = .ok now)
    (haddr : o.addressToByteKey address = some k)
    (hid : o.keyId (o.publicKey sk) = .ed25519) (side : Side) :
    (impostor o sk address now).Signs o ∧ (impostor o sk address now).Possesses o ∧
      passes o side (impostor o sk address now).chain ∧
      attributed o side (impostor o sk address now).chain = some address := by
  obtain ⟨certPem, caPem, hcert, hca, hok⟩ := handler_generatePki hdoc hnow haddr hid
  have hcallback : ∀ depth, verifyWithHandler o depth (impostor o sk address now).chain := by
    intro depth
    unfold verifyWithHandler
    split_ifs with hdepth hlen
    · rfl
    · simp [impostor, hcert, hca, hok, Except.isOk, Except.toBool]
    · exact absurd (by simp [impostor]) hlen
  have hissuer : ∀ chain : List (X509 Key Signature),
      chain.getLast? = some (generatePki o sk address sk sk now).ca →
      peerIssuer o (some (generatePki o sk address sk sk now).client) chain = some address := by
    intro chain hlast
    have htrim : trimEndMatches (address ++ issuerSuffix) issuerSuffix = address :=
      trimEndMatches_issuerSuffix (hdoc.address address k haddr).2.2
    have hne : address ++ issuerSuffix ≠ "" := by simp [issuerSuffix]
    simp [peerIssuer, hlast, hcert, hca, hok, hne, htrim]
  refine ⟨?_, ?_, ⟨by simp [impostor], fun depth _ => ?_⟩, ?_⟩
  · intro c hc
    simp only [impostor, mem_cons, not_mem_nil, or_false] at hc
    rcases hc with rfl | rfl
    · exact ⟨sk, mem_singleton_self sk, rfl⟩
    · exact ⟨sk, mem_singleton_self sk, rfl⟩
  · intro c hc
    obtain rfl := some.inj hc
    exact ⟨sk, mem_singleton_self sk, rfl⟩
  · cases side with
    | accept => exact hcallback depth
    | connect => exact hcallback depth
  · cases side with
    | accept => exact hissuer _ rfl
    | connect => exact hissuer _ rfl

/-- **Identity rests on no key.**  The id of an account address is bound to the address's key, in
the certificates that are accepted or in the peers that are attributed it, exactly if there is no
other Ed25519 key. -/
theorem bound_iff_only_key (o : OpenSsl Pem Secret Key Signature) (hdoc : o.Documented) {now : ℤ}
    (hnow : o.now = .ok now) {address : String} {k : Key}
    (haddr : o.addressToByteKey address = some k) :
    (KeyBound o address k ↔ OnlyKey o k) ∧ (PeerBound o address k ↔ OnlyKey o k) := by
  refine ⟨⟨fun h sk hid => ?_, fun h certPem caPem hok ca hca => ?_⟩,
    fun h sk hid => ?_, fun h p side hsigns _ _ hattr => ?_⟩
  · -- any other key makes a pair that is accepted
    obtain ⟨certPem, caPem, -, hcaPem, hok⟩ := handler_generatePki hdoc hnow haddr hid
    exact Except.ok.inj (h certPem caPem hok _ (hdoc.fromPem _ _ hcaPem))
  · obtain ⟨cert, ca', now', k', -, hca', -, hacc⟩ := handler_eq_ok_iff.mp hok
    obtain rfl := Except.ok.inj (hca.symm.trans hca')
    obtain ⟨sk, rfl, -⟩ := hacc.exists_secret hdoc
    rw [hacc.caKey, h sk hacc.ed25519]
  · obtain ⟨hsigns, hposs, hpass, hattr⟩ := impostor_attributed hdoc hnow haddr hid .accept
    obtain ⟨sk', hsk', hk⟩ := h _ .accept hsigns hposs hpass hattr
    rw [mem_singleton.mp hsk'] at hk
    exact hk
  · -- the last certificate was signed with one of the peer's keys, and that is an Ed25519 key
    have hchain : ∃ ca ∈ p.chain, ∃ now k cn ee, Accepted o now ee ca k cn := by
      cases side with
      | accept =>
        obtain ⟨ee, -, ca, hca, now, k, cn, hacc⟩ := peerIssuer_eq_some hdoc hattr
        exact ⟨ca, mem_of_mem_tail hca, now, k, cn, ee, hacc⟩
      | connect =>
        obtain ⟨ee, -, ca, hca, now, k, cn, hacc⟩ := peerIssuer_eq_some hdoc hattr
        exact ⟨ca, hca, now, k, cn, ee, hacc⟩
    obtain ⟨ca, hca, now', k', cn, ee, hacc⟩ := hchain
    obtain ⟨sk, hsk, hsig⟩ := hsigns ca hca
    obtain ⟨sk', rfl, hsig'⟩ := hacc.exists_secret hdoc
    have hsame := hdoc.signer sk sk' ca.body (hsig.symm.trans hsig')
    exact ⟨sk, hsk, h sk (hsame ▸ hacc.ed25519)⟩

/-- **A node's certificates are good for 365 days.**  Both end-entity certificates that an account
makes are accepted by every peer's handler, for the account's address and no other name, from the
moment they are made until 365 days later, and at no other time. -/
theorem certificates_accepted_iff_in_date (o : OpenSsl Pem Secret Key Signature)
    (hdoc : o.Documented) {address : String} {k : Key} (haddr : o.addressToByteKey address = some k)
    {sk : Secret} (hid : o.keyId (o.publicKey sk) = .ed25519) (serverKey clientKey : Secret)
    (made : ℤ) {now : ℤ} (hnow : o.now = .ok now) {cert : X509 Key Signature}
    (hcert : cert ∈ [(generatePki o sk address serverKey clientKey made).server,
      (generatePki o sk address serverKey clientKey made).client]) {certPem caPem : Pem}
    (hpem : o.toPem cert = some certPem)
    (hca : o.toPem (generatePki o sk address serverKey clientKey made).ca = some caPem)
    (name : String) :
    handler o certPem caPem = .ok name ↔
      name = address ++ issuerSuffix ∧ made ≤ now ∧ now ≤ made + 365 * 86400 := by
  obtain ⟨-, hlen, hchars⟩ := hdoc.address address k haddr
  have hmade : Accepted o made cert (generatePki o sk address serverKey clientKey made).ca
      (o.publicKey sk) (address ++ issuerSuffix) := by
    rcases mem_pair.mp hcert with rfl | rfl
    · exact generatePki_accepted hdoc hid (by omega) hchars clientKey serverKey made
    · exact generatePki_accepted hdoc hid (by omega) hchars serverKey clientKey made
  have hdates : cert.body.notBefore = made ∧ cert.body.notAfter = made + 365 * 86400 := by
    rcases mem_pair.mp hcert with rfl | rfl <;> simp [generatePki, makeEndEntity, daysFrom]
  have hin : made ≤ now ∧ now ≤ made + 365 * 86400 →
      handler o certPem caPem = .ok (address ++ issuerSuffix) := by
    rintro ⟨hfrom, huntil⟩
    refine handler_eq_ok_iff.mpr ⟨cert, _, now, _, hdoc.fromPem _ _ hpem, hdoc.fromPem _ _ hca,
      hnow, { hmade with caValid := ?_, certValid := ?_ }⟩
    · simp only [generatePki, makeCa, daysFrom]
      omega
    · rw [hdates.1, hdates.2]
      exact ⟨hfrom, huntil⟩
  constructor
  · intro hname
    obtain ⟨cert', ca, now', k', hcert', -, hnow', hacc⟩ := handler_eq_ok_iff.mp hname
    obtain rfl := Except.ok.inj ((hdoc.fromPem _ _ hpem).symm.trans hcert')
    obtain rfl := Except.ok.inj (hnow.symm.trans hnow')
    have hvalid := hacc.certValid
    rw [hdates.1, hdates.2] at hvalid
    exact ⟨Except.ok.inj (hname.symm.trans (hin hvalid)), hvalid⟩
  · rintro ⟨rfl, hvalid⟩
    exact hin hvalid

end Exact

/-! ## With the signer's name for a signature -/

def aliceAddress : String := String.ofList (List.replicate 58 'A')

lemma aliceAddress_length : aliceAddress.length = 58 := by
  unfold aliceAddress
  simp only [String.length_ofList, length_replicate]

lemma aliceAddress_isBase32 {c : Char} (hc : c ∈ aliceAddress.toList) : OpenSsl.isBase32 c := by
  unfold aliceAddress at hc
  rw [String.toList_ofList] at hc
  rw [eq_of_mem_replicate hc]
  decide

section Named

variable {Holder : Type} (alice : Holder)

def keyInAddress (address : String) : Option Holder :=
  if address = aliceAddress then some alice else none

lemma keyInAddress_eq_some {address : String} {k : Holder}
    (h : keyInAddress alice address = some k) : address = aliceAddress := by
  unfold keyInAddress at h
  split_ifs at h with ha
  exact ha

variable [DecidableEq Holder]

def named : OpenSsl (X509 Holder Holder) Holder Holder Holder where
  fromPem c := .ok c
  toPem c := some c
  toText c := some (if c.body.isCa then "CA:TRUE" else "CA:FALSE")
  keyId _ := .ed25519
  publicKey sk := sk
  sign sk _ := sk
  verify k _ s := some (k = s)
  now := .ok 0
  showTime _ := ""
  showKeyId _ := ""
  addressToByteKey := keyInAddress alice

lemma named_alice : (named alice).addressToByteKey aliceAddress = some alice := by
  simp only [named, keyInAddress, if_true]

lemma named_documented : (named alice).Documented where
  toPem c := ⟨c, rfl⟩
  fromPem c pem h := by
    obtain rfl := some.inj h
    rfl
  verify k b s := by
    simp only [named, some.injEq, decide_eq_true_eq, exists_eq_left]
    exact eq_comm
  signer sk sk' b h := h
  textCa c h := ⟨"CA:TRUE", by simp [named, h], by decide⟩
  textPlain c text h _ htext := by
    obtain rfl : "CA:FALSE" = text := by simpa [named, h] using htext
    decide
  address a k h := by
    rw [keyInAddress_eq_some alice h]
    exact ⟨rfl, aliceAddress_length, fun c hc => aliceAddress_isBase32 hc⟩

end Named

theorem alice_accepted_when_made :
    handler (named 0) (generatePki (named 0) 0 aliceAddress 1 2 0).client
        (generatePki (named 0) 0 aliceAddress 1 2 0).ca = .ok (aliceAddress ++ issuerSuffix) :=
  (certificates_accepted_iff_in_date (named 0) (named_documented 0) (named_alice 0) rfl 1 2 0 rfl
    (by simp) rfl rfl _).mpr ⟨rfl, by decide⟩

theorem unbound_among_keys :
    ¬ KeyBound (named 0) aliceAddress 0 ∧ ¬ PeerBound (named 0) aliceAddress 0 := by
  have honly : ¬ OnlyKey (named 0) 0 := fun h => absurd (h 1 rfl) Nat.one_ne_zero
  have h := bound_iff_only_key (named 0) (named_documented 0) rfl (named_alice 0)
  exact ⟨fun hkey => honly (h.1.mp hkey), fun hpeer => honly (h.2.mp hpeer)⟩

/-- The holder of a second key makes certificates with the address in them: they are accepted, and
the holder is attributed the address. -/
theorem attributed_without_key :
    ¬ KeyBound (named true) aliceAddress true ∧ ¬ PeerBound (named true) aliceAddress true := by
  have hdoc := named_documented true
  have hid : (named true).keyId ((named true).publicKey false) = .ed25519 := rfl
  constructor
  · intro h
    obtain ⟨certPem, caPem, -, hca, hok⟩ := handler_generatePki hdoc rfl (named_alice true) hid
    have hkey := h certPem caPem hok _ (hdoc.fromPem _ _ hca)
    exact absurd (Except.ok.inj hkey) (by decide)
  · intro h
    obtain ⟨hsigns, hposs, hpass, hattr⟩ :=
      impostor_attributed hdoc rfl (named_alice true) hid .accept
    obtain ⟨sk, hsk, hk⟩ := h _ .accept hsigns hposs hpass hattr
    rw [mem_singleton.mp hsk] at hk
    exact absurd hk (by decide)

end Bingle.Identity
