import Bingle.Lib.Checked
import Bingle.Lib.Text

/-!
# Peer certificates

A CA certificate that is meant to be signed with the Ed25519 key of the account, and an end-entity
certificate signed by that CA whose subject is the account's address.  `peer_certificate_handler`
(`bingle_core/src/protocol/cert_verify.rs`) checks such a pair and returns the subject;
`generate_pki_from_ops` (`bingle_core/src/api/pki.rs`) makes one.
-/

namespace Bingle.Identity

open Lib (bind_eq_ok_iff contains endsWith mapError_eq_ok_iff trimEndMatches)

def issuerSuffix : String := "."

def virtualCa : String := "virtual.bingle.home.arpa"

/-! ## Certificates -/

inductive Nid
  | commonName
  | organizationName
deriving DecidableEq, Repr

structure Name where
  entries : List (Nid × Option String)
deriving DecidableEq, Repr

def Name.first (name : Name) (nid : Nid) : Option String :=
  (name.entries.find? fun e => e.1 = nid).bind Prod.snd

inductive KeyId
  | ed25519
  | other (id : ℕ)
deriving DecidableEq, Repr

/-- The part of a certificate that is signed.  Times are in seconds. -/
structure Body (Key : Type) where
  subject : Name
  issuer : Name
  notBefore : ℤ
  notAfter : ℤ
  publicKey : Except String Key
  isCa : Bool

structure X509 (Key Signature : Type) where
  body : Body Key
  signature : Signature

structure OpenSsl (Pem Secret Key Signature : Type) where
  fromPem : Pem → Except String (X509 Key Signature)
  toPem : X509 Key Signature → Option Pem
  toText : X509 Key Signature → Option String
  keyId : Key → KeyId
  publicKey : Secret → Key
  sign : Secret → Body Key → Signature
  verify : Key → Body Key → Signature → Option Bool
  now : Except String ℤ
  showTime : ℤ → String
  showKeyId : KeyId → String
  addressToByteKey : String → Option Key

namespace OpenSsl

variable {Pem Secret Key Signature : Type}

def isBase32 (c : Char) : Bool := 'A' ≤ c ∧ c ≤ 'Z' ∨ '2' ≤ c ∧ c ≤ '7'

def showsCa (text : String) : Bool := contains text "CA:TRUE" || contains text "CA:ALWAYS"

/-- What is documented.  Signatures are ideal: one verifies under a key exactly if it was made with
the secret of that key. -/
structure Documented (o : OpenSsl Pem Secret Key Signature) : Prop where
  toPem : ∀ c, ∃ pem, o.toPem c = some pem
  fromPem : ∀ c pem, o.toPem c = some pem → o.fromPem pem = .ok c
  verify : ∀ k b s, o.verify k b s = some true ↔ ∃ sk, o.publicKey sk = k ∧ s = o.sign sk b
  signer : ∀ sk sk' b, o.sign sk b = o.sign sk' b → o.publicKey sk = o.publicKey sk'
  textCa : ∀ c : X509 Key Signature, c.body.isCa → ∃ text, o.toText c = some text ∧ showsCa text
  textPlain : ∀ (c : X509 Key Signature) (text : String), c.body.isCa = false →
    (∀ e ∈ c.body.subject.entries ++ c.body.issuer.entries, ∀ v ∈ e.2, showsCa v = false) →
    o.toText c = some text → showsCa text = false
  address : ∀ a k, o.addressToByteKey a = some k →
    o.keyId k = .ed25519 ∧ a.length = 58 ∧ ∀ c ∈ a.toList, isBase32 c

end OpenSsl

/-! ## The handler -/

def require (p : Prop) [Decidable p] (msg : String) : Except String Unit :=
  if p then .ok () else .error msg

def orFail {α : Type} (x : Option α) (msg : String) : Except String α :=
  match x with
  | some a => .ok a
  | none => .error msg

section Handler

variable {Pem Secret Key Signature : Type} (o : OpenSsl Pem Secret Key Signature)

def isCertCa (c : X509 Key Signature) : Bool := (o.toText c).any OpenSsl.showsCa

def verifies (c : X509 Key Signature) (k : Key) : Bool :=
  (o.verify k c.body c.signature).getD false

def handler (certPem caPem : Pem) : Except String String := do
  let cert ← (o.fromPem certPem).mapError ("invalid peer certificate PEM: " ++ ·)
  let ca ← (o.fromPem caPem).mapError ("invalid CA certificate PEM: " ++ ·)
  let caCn ← orFail (ca.body.subject.first .commonName) "CA certificate missing CN"
  let now ← o.now.mapError ("failed to get current time for expiration check: " ++ ·)
  require (ca.body.notBefore ≤ now)
    ("CA certificate not yet valid (not_before=" ++ o.showTime ca.body.notBefore ++ ")")
  require (now ≤ ca.body.notAfter)
    ("CA certificate expired (not_after=" ++ o.showTime ca.body.notAfter ++ ")")
  require (cert.body.notBefore ≤ now)
    ("peer certificate not yet valid (not_before=" ++ o.showTime cert.body.notBefore ++ ")")
  require (now ≤ cert.body.notAfter)
    ("peer certificate expired (not_after=" ++ o.showTime cert.body.notAfter ++ ")")
  require (caCn = virtualCa)
    ("unexpected CA CN: '" ++ caCn ++ "' (expected '" ++ virtualCa ++ "')")
  let caPub ← ca.body.publicKey.mapError ("extract CA public key failed: " ++ ·)
  require (o.keyId caPub = .ed25519)
    ("CA public key is not Ed25519 (found " ++ o.showKeyId (o.keyId caPub) ++ ")")
  require (verifies o ca caPub) "CA self-signature verification failed"
  require (isCertCa o ca) "CA certificate basic constraints: CA is false"
  require (isCertCa o cert = false) "end-entity certificate basic constraints: CA is true"
  let eeIssuerCn ← orFail (cert.body.issuer.first .commonName)
    "end-entity certificate missing issuer CN"
  require (eeIssuerCn = virtualCa)
    ("end-entity issuer CN does not equal virtual CA: ee='" ++ eeIssuerCn ++ "', expected='" ++
      virtualCa ++ "'")
  require (verifies o cert caPub) "end-entity certificate signature verification failed"
  let eeSubjCn ← orFail (cert.body.subject.first .commonName)
    "end-entity certificate missing subject CN"
  require (endsWith eeSubjCn issuerSuffix)
    ("end-entity CN missing issuer suffix: " ++ eeSubjCn)
  let expectedAddr := trimEndMatches eeSubjCn issuerSuffix
  -- a CA without an organisation is tolerated
  match ca.body.subject.first .organizationName with
  | some caOrg =>
    require (caOrg = expectedAddr)
      ("CA O (org) does not match EE subject CN without suffix: ca.O='" ++ caOrg ++
        "' expected='" ++ expectedAddr ++ "'")
  | none => pure ()
  return eeSubjCn

structure Accepted (now : ℤ) (cert ca : X509 Key Signature) (k : Key) (cn : String) : Prop where
  caCn : ca.body.subject.first .commonName = some virtualCa
  caValid : ca.body.notBefore ≤ now ∧ now ≤ ca.body.notAfter
  certValid : cert.body.notBefore ≤ now ∧ now ≤ cert.body.notAfter
  caKey : ca.body.publicKey = .ok k
  ed25519 : o.keyId k = .ed25519
  selfSigned : o.verify k ca.body ca.signature = some true
  caIsCa : isCertCa o ca
  certIsNot : isCertCa o cert = false
  issuerCn : cert.body.issuer.first .commonName = some virtualCa
  signed : o.verify k cert.body cert.signature = some true
  subjectCn : cert.body.subject.first .commonName = some cn
  suffix : endsWith cn issuerSuffix
  organization : ∀ org, ca.body.subject.first .organizationName = some org →
    org = trimEndMatches cn issuerSuffix

end Handler

section Accept

variable {Pem Secret Key Signature : Type} {o : OpenSsl Pem Secret Key Signature}

variable {msg cn : String}

lemma require_eq_ok_iff {p : Prop} [Decidable p] {u : Unit} :
    require p msg = .ok u ↔ p := by
  unfold require
  split_ifs with h <;> simp [h]

lemma orFail_eq_ok_iff {α : Type} {x : Option α} {a : α} :
    orFail x msg = .ok a ↔ x = some a := by
  cases x <;> simp [orFail]

lemma verifies_iff {c : X509 Key Signature} {k : Key} :
    verifies o c k ↔ o.verify k c.body c.signature = some true := by
  unfold verifies
  rcases o.verify k c.body c.signature with _ | _ | _ <;> simp

lemma checkOrg_eq_ok_iff {org : Option String} {addr s : String} {msg : String → String} :
    (do
      match org with
        | some caOrg => require (caOrg = addr) (msg caOrg)
        | none => pure ()
      return cn : Except String String) = .ok s ↔ (∀ caOrg, org = some caOrg → caOrg = addr) ∧
        cn = s := by
  cases org with
  | none => simp [pure, Except.pure]
  | some caOrg => simp [bind_eq_ok_iff, require_eq_ok_iff, pure, Except.pure]

theorem handler_eq_ok_iff {certPem caPem : Pem} :
    handler o certPem caPem = .ok cn ↔ ∃ cert ca now k, o.fromPem certPem = .ok cert ∧
      o.fromPem caPem = .ok ca ∧ o.now = .ok now ∧ Accepted o now cert ca k cn := by
  unfold handler
  simp only [bind_eq_ok_iff, mapError_eq_ok_iff, orFail_eq_ok_iff, require_eq_ok_iff,
    checkOrg_eq_ok_iff, verifies_iff]
  constructor
  · rintro ⟨cert, hcert, ca, hca, caCn, hcn, now, hnow, -, h1, -, h2, -, h3, -, h4, -, rfl, k, hk,
      -, hid, -, hself, -, hisca, -, hnot, eeCn, hee, -, rfl, -, hsig, subj, hsubj, -, hsuf, horg,
      rfl⟩
    exact ⟨cert, ca, now, k, hcert, hca, hnow, hcn, ⟨h1, h2⟩, ⟨h3, h4⟩, hk, hid, hself, hisca, hnot,
      hee, hsig, hsubj, hsuf, horg⟩
  · rintro ⟨cert, ca, now, k, hcert, hca, hnow, h⟩
    exact ⟨cert, hcert, ca, hca, _, h.caCn, now, hnow, (), h.caValid.1, (), h.caValid.2, (),
      h.certValid.1, (), h.certValid.2, (), rfl, k, h.caKey, (), h.ed25519, (), h.selfSigned, (),
      h.caIsCa, (), h.certIsNot, _, h.issuerCn, (), rfl, (), h.signed, _, h.subjectCn, (), h.suffix,
      h.organization, rfl⟩

end Accept

/-! ## The generator -/

section Generate

variable {Pem Secret Key Signature : Type} (o : OpenSsl Pem Secret Key Signature)

def daysFrom (now days : ℤ) : ℤ := now + days * 86400

def caName (address : String) : Name :=
  ⟨[(.commonName, some virtualCa), (.organizationName, some address)]⟩

def makeCa (sk : Secret) (address : String) (now : ℤ) : X509 Key Signature :=
  let body : Body Key :=
    { subject := caName address
      issuer := caName address
      notBefore := daysFrom now 0
      notAfter := daysFrom now 3650
      publicKey := .ok (o.publicKey sk)
      isCa := true }
  ⟨body, o.sign sk body⟩

def makeEndEntity (issuerName : Name) (caKey : Secret) (cn : String) (leaf : Secret) (now : ℤ) :
    X509 Key Signature :=
  let body : Body Key :=
    { subject := ⟨[(.commonName, some cn)]⟩
      issuer := issuerName
      notBefore := daysFrom now 0
      notAfter := daysFrom now 365
      publicKey := .ok (o.publicKey leaf)
      isCa := false }
  ⟨body, o.sign caKey body⟩

structure Pki (Key Signature : Type) where
  ca : X509 Key Signature
  server : X509 Key Signature
  client : X509 Key Signature

/-- `generate_pki_from_ops`.  The secret key and the address are two fields of the account; the
server's and the client's keys are generated. -/
def generatePki (sk : Secret) (address : String) (serverKey clientKey : Secret) (now : ℤ) :
    Pki Key Signature :=
  let cn := (if 64 < address.length then String.ofList (address.toList.take 64) else address) ++
    issuerSuffix
  { ca := makeCa o sk address now
    server := makeEndEntity o (caName address) sk cn serverKey now
    client := makeEndEntity o (caName address) sk cn clientKey now }

end Generate

section Generated

variable {Pem Secret Key Signature : Type} {o : OpenSsl Pem Secret Key Signature} {address : String}

lemma showsCa_eq_false {text : String} (h : ':' ∉ text.toList) : OpenSsl.showsCa text = false := by
  have hno : ∀ word : String, ':' ∈ word.toList → contains text word = false := fun word hw =>
    Bool.eq_false_iff.mpr fun hc => h (Lib.mem_of_contains hc hw)
  unfold OpenSsl.showsCa
  rw [hno _ (by decide), hno _ (by decide), Bool.or_false]

lemma colon_not_mem (h : ∀ c ∈ address.toList, OpenSsl.isBase32 c) : ':' ∉ address.toList :=
  fun hc => absurd (h _ hc) (by decide)

lemma trimEndMatches_issuerSuffix (h : ∀ c ∈ address.toList, OpenSsl.isBase32 c) :
    trimEndMatches (address ++ issuerSuffix) issuerSuffix = address := by
  have hdot : issuerSuffix = String.singleton '.' := by decide
  rw [hdot]
  exact Lib.trimEndMatches_append fun hc => absurd (h _ hc) (by decide)

/-- **The handler accepts what the generator makes**, whichever Ed25519 key it is given with the
address. -/
theorem generatePki_accepted (hdoc : o.Documented) {sk : Secret}
    (hid : o.keyId (o.publicKey sk) = .ed25519) (hlen : address.length ≤ 64)
    (hchars : ∀ c ∈ address.toList, OpenSsl.isBase32 c) (serverKey clientKey : Secret) (now : ℤ) :
    Accepted o now (generatePki o sk address serverKey clientKey now).client
      (generatePki o sk address serverKey clientKey now).ca (o.publicKey sk)
      (address ++ issuerSuffix) := by
  have hcn : (if 64 < address.length then String.ofList (address.toList.take 64) else address) =
      address := if_neg (by omega)
  have htrim := trimEndMatches_issuerSuffix hchars
  have hca : isCertCa o (generatePki o sk address serverKey clientKey now).ca := by
    obtain ⟨text, htext, hshows⟩ := hdoc.textCa (generatePki o sk address serverKey clientKey now).ca
      rfl
    simp [isCertCa, htext, hshows]
  have hee : isCertCa o (generatePki o sk address serverKey clientKey now).client = false := by
    unfold isCertCa
    cases htext : o.toText (generatePki o sk address serverKey clientKey now).client with
    | none => rfl
    | some text =>
      refine hdoc.textPlain _ text rfl ?_ htext
      have hplain : ∀ v ∈ [address ++ issuerSuffix, virtualCa, address],
          OpenSsl.showsCa v = false := by
        intro v hv
        have hcolon := colon_not_mem hchars
        simp only [List.mem_cons, List.not_mem_nil, or_false] at hv
        rcases hv with rfl | rfl | rfl
        · exact showsCa_eq_false (by simpa [issuerSuffix] using hcolon)
        · decide
        · exact showsCa_eq_false hcolon
      simp only [generatePki, makeEndEntity, hcn, caName]
      simpa using hplain
  refine ⟨rfl, ⟨?_, ?_⟩, ⟨?_, ?_⟩, rfl, hid, ?_, hca, hee, rfl, ?_, ?_, ?_, ?_⟩
  · simp [generatePki, makeCa, daysFrom]
  · simp [generatePki, makeCa, daysFrom]
  · simp [generatePki, makeEndEntity, daysFrom]
  · simp [generatePki, makeEndEntity, daysFrom]
  · exact (hdoc.verify _ _ _).mpr ⟨sk, rfl, rfl⟩
  · exact (hdoc.verify _ _ _).mpr ⟨sk, rfl, rfl⟩
  · simp [generatePki, makeEndEntity, Name.first, hcn]
  · exact Lib.endsWith_append address issuerSuffix
  · intro org horg
    rw [htrim]
    simpa [generatePki, makeCa, caName, Name.first] using horg.symm

end Generated

end Bingle.Identity
