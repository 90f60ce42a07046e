import Bingle.Lib.MsgPack

/-!
# Checking and signing registration groups

The client checks each of its own transactions of a group against a template, and signs the bytes it
was given or refuses the group (`bingle_core/src/blockchain/registration_group.rs`).  Base64, the
MessagePack reader, SHA-512/256 and Ed25519 come from crates, `Crates`; how `serde` reads a struct
from a MessagePack value is here.
-/

namespace Bingle.Registration

open Lib.MsgPack (Value pack)

abbrev Bytes := List UInt8

def utf8 (s : String) : Bytes := s.toUTF8.data.toList

def ofUtf8 (b : Bytes) : Option String := String.fromUTF8? ⟨b.toArray⟩

lemma ofUtf8_eq_some_iff {b : Bytes} {s : String} : ofUtf8 b = some s ↔ b = utf8 s := by
  rw [ofUtf8, utf8, String.fromUTF8?]
  constructor
  · intro h
    split at h
    · rw [← Option.some.inj h]
      rfl
    · exact absurd h (by simp)
  · rintro rfl
    exact dif_pos s.isValidUTF8

structure Crates (Key : Type) where
  base64Decode : String → Option Bytes
  base64Encode : Bytes → String
  /-- `rmp_serde`: the value at the start of the bytes -/
  unpack : Bytes → Option Value
  sha512256 : Bytes → Bytes
  verifyingKey : Key → Bytes
  sign : Key → Bytes → Bytes

/-- The MessagePack reader reads the shortest encoding of a value as that value, or not at all: it
refuses what is nested too deep. -/
def Crates.ReadsShortest {Key : Type} (crates : Crates Key) : Prop :=
  ∀ v w : Value, v.Fits → crates.unpack (pack v) = some w → w = v

/-! ## Constants -/

def registrationSignIndexes : List ℕ := [1, 3, 4, 5]

def recoverySignIndexes : List ℕ := [0, 1, 2, 3, 5, 6, 7]

def recoveryOldKeyIndexes : List ℕ := [0, 1, 2]

def recoveryFunderIndex : ℕ := 4

def maxClientFee : ℕ := 1000

def registerMethod : String := "register(string)void"

def onCompleteOptIn : ℕ := 1

def onCompleteClearState : ℕ := 3

structure GroupIds where
  bingleAppId : UInt64
  bingleAssetId : UInt64
deriving DecidableEq, Repr

inductive GroupError
  | groupSize (expected : String) (actual : ℕ)
  | signIndexes (expected actual : List ℕ)
  | decode (index : ℕ)
  | template (index : ℕ) (expected reason : String)
  | group (index : ℕ)
deriving DecidableEq, Repr

/-! ## Reading structs -/

def fieldOf (names : List String) : Value → Option (Option String)
  | .uint n => some names[n]?
  | .str s | .bin s => some (names.find? fun name => utf8 name = s)
  | _ => none

/-- The values that the entries of a map have for the fields.  A field given twice is an error, and
an unknown one where `deny_unknown_fields` is set. -/
def readEntries (names : List String) (denyUnknownFields : Bool) :
    List (Value × Value) → Option (String → Option Value)
  | [] => some fun _ => none
  | (k, v) :: rest => do
      let slots ← readEntries names denyUnknownFields rest
      match ← fieldOf names k with
      | some name => if (slots name).isSome then none else some (Function.update slots name (some v))
      | none => if denyUnknownFields then none else some slots

def readStruct (names : List String) (denyUnknownFields : Bool) :
    Value → Option (String → Option Value)
  | .map entries => readEntries names denyUnknownFields entries
  | .arr elements =>
    if elements.length < names.length then none
    else some fun name => (names.zip elements).lookup name
  | _ => none

def asUint : Value → Option ℕ
  | .uint n => if n < 2 ^ 64 then some n else none
  | _ => none

def asString : Value → Option String
  | .str s | .bin s => ofUtf8 s
  | _ => none

def asByte : Value → Option UInt8
  | .uint n => if n < 256 then some (UInt8.ofNat n) else none
  | _ => none

def asBytes : Value → Option Bytes
  | .bin b | .str b => some b
  | .arr l => l.mapM asByte
  | _ => none

def asList {α : Type} (f : Value → Option α) : Value → Option (List α)
  | .arr l => l.mapM f
  | _ => none

def optional {α : Type} (f : Value → Option α) : Option Value → Option (Option α)
  | none | some .nil => some none
  | some v => (f v).map some

/-- `RawTransaction`.  `fv`, `lv`, `gen` and `gh` are read and not kept. -/
structure RawTransaction where
  txnType : String
  snd : Bytes
  fee : Option ℕ
  grp : Option Bytes
  lx : Option Bytes
  note : Option Bytes
  rekey : Option Bytes
  rcv : Option Bytes
  amt : Option ℕ
  close : Option Bytes
  xaid : Option ℕ
  aamt : Option ℕ
  arcv : Option Bytes
  aclose : Option Bytes
  asnd : Option Bytes
  apid : Option ℕ
  apan : Option ℕ
  apaa : Option (List Bytes)
  apat : Option (List Bytes)
  apfa : Option (List ℕ)
  apas : Option (List ℕ)
deriving DecidableEq, Repr

def fieldNames : List String :=
  ["type", "snd", "fee", "fv", "lv", "gen", "gh", "grp", "lx", "note", "rekey", "rcv", "amt", "close",
    "xaid", "aamt", "arcv", "aclose", "asnd", "apid", "apan", "apaa", "apat", "apfa", "apas"]

def RawTransaction.ofSlots (slot : String → Option Value) : Option RawTransaction := do
  let txnType ← slot "type" >>= asString
  let snd ← slot "snd" >>= asBytes
  let fee ← optional asUint (slot "fee")
  let _ ← optional asUint (slot "fv")
  let _ ← slot "lv" >>= asUint
  let _ ← optional asString (slot "gen")
  let _ ← slot "gh" >>= asBytes
  let grp ← optional asBytes (slot "grp")
  let lx ← optional asBytes (slot "lx")
  let note ← optional asBytes (slot "note")
  let rekey ← optional asBytes (slot "rekey")
  let rcv ← optional asBytes (slot "rcv")
  let amt ← optional asUint (slot "amt")
  let close ← optional asBytes (slot "close")
  let xaid ← optional asUint (slot "xaid")
  let aamt ← optional asUint (slot "aamt")
  let arcv ← optional asBytes (slot "arcv")
  let aclose ← optional asBytes (slot "aclose")
  let asnd ← optional asBytes (slot "asnd")
  let apid ← optional asUint (slot "apid")
  let apan ← optional asUint (slot "apan")
  let apaa ← optional (asList asBytes) (slot "apaa")
  let apat ← optional (asList asBytes) (slot "apat")
  let apfa ← optional (asList asUint) (slot "apfa")
  let apas ← optional (asList asUint) (slot "apas")
  return { txnType, snd, fee, grp, lx, note, rekey, rcv, amt, close, xaid, aamt, arcv, aclose, asnd,
           apid, apan, apaa, apat, apfa, apas }

def RawTransaction.ofValue (v : Value) : Option RawTransaction :=
  readStruct fieldNames true v >>= ofSlots

def groupOnly (v : Value) : Option (Option Bytes) :=
  readStruct ["grp"] false v >>= fun slot => optional asBytes (slot "grp")

/-! ## Checks -/

def require (p : Prop) [Decidable p] (e : GroupError) : Except GroupError Unit :=
  if p then .ok () else .error e

def debug : Option ℕ → String
  | none => "None"
  | some n => s!"Some({n})"

def checkSize (transactions : List String) (allowed : List ℕ) : Except GroupError Unit :=
  require (transactions.length ∈ allowed)
    (.groupSize (" or ".intercalate (allowed.map toString)) transactions.length)

def checkSignIndexes (signIndexes expected : List ℕ) : Except GroupError Unit :=
  require (signIndexes = expected) (.signIndexes expected signIndexes)

def onlyFields (index : ℕ) (what : String) (fields : List (String × Bool)) : Except GroupError Unit :=
  match fields.find? Prod.snd with
  | some (name, _) => .error (.template index what s!"it has a {name} field")
  | none => .ok ()

def noAppFields (index : ℕ) (what : String) (txn : RawTransaction) : Except GroupError Unit :=
  onlyFields index what
    [("apid", txn.apid.isSome), ("apan", txn.apan.isSome), ("apaa", txn.apaa.isSome),
      ("apat", txn.apat.isSome), ("apfa", txn.apfa.isSome), ("apas", txn.apas.isSome)]

def checkAssetTransfer (index : ℕ) (txn : RawTransaction) (ids : GroupIds) (receiver : Bytes)
    (amount : ℕ) (closeTo : Option Bytes) : Except GroupError Unit := do
  let what := "Bingle$ transfer"
  require (txn.txnType = "axfer") (.template index what s!"its type is {txn.txnType}")
  onlyFields index what
    [("rcv", txn.rcv.isSome), ("amt", txn.amt.isSome), ("close", txn.close.isSome),
      ("asnd", txn.asnd.isSome)]
  noAppFields index what txn
  require (txn.xaid = some ids.bingleAssetId.toNat)
    (.template index what s!"the asset is {debug txn.xaid}")
  require (txn.arcv = some receiver) (.template index what "the receiver is unexpected")
  require (txn.aamt.getD 0 = amount)
    (.template index what s!"the amount is {txn.aamt.getD 0}, not {amount}")
  require (txn.aclose = closeTo) (.template index what "the close-to address is unexpected")

def checkAssetOptIn (index : ℕ) (txn : RawTransaction) (ids : GroupIds) : Except GroupError Unit :=
  checkAssetTransfer index txn ids txn.snd 0 none

def checkPaymentClose (index : ℕ) (txn : RawTransaction) (receiver : Bytes) :
    Except GroupError Unit := do
  let what := "account close"
  require (txn.txnType = "pay") (.template index what s!"its type is {txn.txnType}")
  onlyFields index what
    [("xaid", txn.xaid.isSome), ("aamt", txn.aamt.isSome), ("arcv", txn.arcv.isSome),
      ("aclose", txn.aclose.isSome), ("asnd", txn.asnd.isSome)]
  noAppFields index what txn
  require (txn.rcv = some receiver) (.template index what "the receiver is not the new address")
  require (txn.amt.getD 0 = 0) (.template index what "the amount is not 0")
  require (txn.close = some receiver) (.template index what "it doesn't close to the new address")

section Crates

variable {Key : Type} (crates : Crates Key)

def appAddress (appId : UInt64) : Bytes :=
  crates.sha512256 (utf8 "appID" ++ Lib.MsgPack.be 8 appId.toNat)

def registerArgs (handle : String) : List Bytes :=
  let bytes := utf8 handle
  [(crates.sha512256 (utf8 registerMethod)).take 4,
    Lib.MsgPack.be 2 (min bytes.length 65535) ++ bytes]

def checkAppCall (index : ℕ) (txn : RawTransaction) (ids : GroupIds) (onComplete : Option ℕ)
    (registerHandle : Option String) : Except GroupError Unit := do
  let what :=
    if onComplete = some onCompleteOptIn then "Bingle DApp opt-in"
    else if onComplete = some onCompleteClearState then "Bingle DApp ClearState"
    else "Bingle DApp register(handle)"
  require (txn.txnType = "appl") (.template index what s!"its type is {txn.txnType}")
  onlyFields index what
    [("rcv", txn.rcv.isSome), ("amt", txn.amt.isSome), ("close", txn.close.isSome),
      ("xaid", txn.xaid.isSome), ("aamt", txn.aamt.isSome), ("arcv", txn.arcv.isSome),
      ("aclose", txn.aclose.isSome), ("asnd", txn.asnd.isSome), ("apat", txn.apat.isSome),
      ("apfa", txn.apfa.isSome)]
  require (txn.apid = some ids.bingleAppId.toNat)
    (.template index what s!"the app is {debug txn.apid}")
  require (txn.apan = onComplete) (.template index what s!"its on-complete is {debug txn.apan}")
  match registerHandle with
  | none => onlyFields index what [("apaa", txn.apaa.isSome), ("apas", txn.apas.isSome)]
  | some handle => do
      require (txn.apaa = some (registerArgs crates handle))
        (.template index what "the arguments are not register with this handle")
      require (txn.apas = some [ids.bingleAssetId.toNat])
        (.template index what "the foreign assets are not Bingle$ alone")

def decodeGroupFrom (index : ℕ) (groupId : Option Bytes) : List String →
    Except GroupError (List Bytes)
  | [] => .ok []
  | encoded :: rest =>
    match crates.base64Decode encoded with
    | none => .error (.decode index)
    | some bytes =>
      match crates.unpack bytes >>= groupOnly with
      | none => .error (.decode index)
      | some none => .error (.group index)
      | some (some grp) => do
          require (groupId.all (· = grp)) (.group index)
          let group ← decodeGroupFrom (index + 1) (some grp) rest
          return bytes :: group

def decodeGroup (transactions : List String) : Except GroupError (List Bytes) :=
  decodeGroupFrom crates 0 none transactions

def decode (index : ℕ) (bytes : Bytes) : Except GroupError RawTransaction :=
  match crates.unpack bytes >>= RawTransaction.ofValue with
  | none => .error (.decode index)
  | some txn => .ok txn

def checkClientBasics (group : List Bytes) (index : ℕ) (sender : Bytes) :
    Except GroupError RawTransaction := do
  let txn ← decode crates index (group.getD index [])
  let what := "client transaction"
  require (txn.snd = sender) (.template index what "the sender is not this account")
  require (txn.fee.getD 0 ≤ maxClientFee)
    (.template index what s!"the fee {txn.fee.getD 0} is more than {maxClientFee}")
  require (txn.rekey = none) (.template index what "it rekeys the account")
  require (txn.note = none) (.template index what "it has a note")
  require (txn.lx = none) (.template index what "it has a lease")
  return txn

/-! ## Signing -/

abbrev SignM (Key : Type) := ExceptT GroupError (StateM (List (Key × Bytes)))

def sign (key : Key) (bytes : Bytes) : SignM Key String := do
  let message := utf8 "TX" ++ bytes
  modify fun log => log ++ [(key, message)]
  let signature := crates.sign key message
  return crates.base64Encode
    ([0x82] ++ [0xa3] ++ utf8 "sig" ++ [0xc4, 64] ++ signature ++ [0xa3] ++ utf8 "txn" ++ bytes)

def checkRegistrationGroup (transactions : List String) (signIndexes : List ℕ) (ids : GroupIds)
    (handle : String) (key : Key) : Except GroupError (List Bytes) := do
  checkSize transactions [7, 8]
  checkSignIndexes signIndexes registrationSignIndexes
  let group ← decodeGroup crates transactions
  let address := crates.verifyingKey key
  let optIn ← checkClientBasics crates group 1 address
  checkAssetOptIn 1 optIn ids
  let appOptIn ← checkClientBasics crates group 3 address
  checkAppCall crates 3 appOptIn ids (some onCompleteOptIn) none
  let payment ← checkClientBasics crates group 4 address
  checkAssetTransfer 4 payment ids (appAddress crates ids.bingleAppId) 1 none
  let register ← checkClientBasics crates group 5 address
  checkAppCall crates 5 register ids none (some handle)
  return group

def signRegistrationGroup (transactions : List String) (signIndexes : List ℕ) (ids : GroupIds)
    (handle : String) (key : Key) : SignM Key (List String) := do
  let group ← checkRegistrationGroup crates transactions signIndexes ids handle key
  registrationSignIndexes.mapM fun index => sign crates key (group.getD index [])

def checkRecoveryGroup (transactions : List String) (signIndexes : List ℕ) (ids : GroupIds)
    (handle : String) (oldKey newKey : Key) : Except GroupError (List Bytes) := do
  checkSize transactions [9, 10]
  checkSignIndexes signIndexes recoverySignIndexes
  let group ← decodeGroup crates transactions
  let old := crates.verifyingKey oldKey
  let new := crates.verifyingKey newKey
  require (old ≠ new)
    (.template recoveryFunderIndex "recovery group" "the old and new keys are the same")
  let funderTxn ← decode crates recoveryFunderIndex (group.getD recoveryFunderIndex [])
  let funder := funderTxn.snd
  require (funder ≠ old ∧ funder ≠ new)
    (.template recoveryFunderIndex "funder transfer"
      "the funder is one of the client's own addresses")
  checkAssetTransfer recoveryFunderIndex funderTxn ids new 1 none
  let clearState ← checkClientBasics crates group 0 old
  checkAppCall crates 0 clearState ids (some onCompleteClearState) none
  let closeOut ← checkClientBasics crates group 1 old
  checkAssetTransfer 1 closeOut ids funder 0 (some funder)
  let close ← checkClientBasics crates group 2 old
  checkPaymentClose 2 close new
  let optIn ← checkClientBasics crates group 3 new
  checkAssetOptIn 3 optIn ids
  let appOptIn ← checkClientBasics crates group 5 new
  checkAppCall crates 5 appOptIn ids (some onCompleteOptIn) none
  let payment ← checkClientBasics crates group 6 new
  checkAssetTransfer 6 payment ids (appAddress crates ids.bingleAppId) 1 none
  let register ← checkClientBasics crates group 7 new
  checkAppCall crates 7 register ids none (some handle)
  return group

def signRecoveryGroup (transactions : List String) (signIndexes : List ℕ) (ids : GroupIds)
    (handle : String) (oldKey newKey : Key) : SignM Key (List String) := do
  let group ← checkRecoveryGroup crates transactions signIndexes ids handle oldKey newKey
  recoverySignIndexes.mapM fun index =>
    sign crates (if index ∈ recoveryOldKeyIndexes then oldKey else newKey) (group.getD index [])

end Crates

end Bingle.Registration
