import Bingle.Lib.Base64
import Bingle.Registration.Template

/-!
# Signing stays within the template

The client signs the bytes it was given, and the network checks its signature against the canonical
encoding of a transaction.  So what matters is the transaction that has those bytes as its encoding.
-/

namespace Bingle.Registration

open List Option
open Lib (bind_eq_ok_iff)
open Lib.MsgPack (Value pack)

/-! ## The log -/

section Signing

variable {Key : Type} (crates : Crates Key)

def signedTxn (signature bytes : Bytes) : Bytes :=
  [0x82] ++ [0xa3] ++ utf8 "sig" ++ [0xc4, 64] ++ signature ++ [0xa3] ++ utf8 "txn" ++ bytes

def SignM.exec {α : Type} (x : SignM Key α) (log : List (Key × Bytes)) :
    Except GroupError α × List (Key × Bytes) :=
  x.run.run log

variable {log log' : List (Key × Bytes)}

lemma exec_bind_ok {α β : Type} {x : SignM Key α} {f : α → SignM Key β} {a : α}
    (h : x.exec log = (.ok a, log')) :
    (x >>= f).exec log = (f a).exec log' := by
  rw [SignM.exec] at h
  simp only [SignM.exec, ExceptT.run_bind, StateT.run_bind, h]
  rfl

lemma exec_bind_error {α β : Type} {x : SignM Key α} {f : α → SignM Key β} {e : GroupError}
    (h : x.exec log = (.error e, log')) :
    (x >>= f).exec log = (.error e, log') := by
  rw [SignM.exec] at h
  simp only [SignM.exec, ExceptT.run_bind, StateT.run_bind, h]
  rfl

lemma exec_sign (key : Key) (bytes : Bytes) (log : List (Key × Bytes)) :
    (sign crates key bytes).exec log =
      (.ok (crates.base64Encode (signedTxn (crates.sign key (utf8 "TX" ++ bytes)) bytes)),
        log ++ [(key, utf8 "TX" ++ bytes)]) :=
  rfl

lemma exec_mapM_sign (keyOf : ℕ → Key) (group : List Bytes) (indexes : List ℕ)
    (log : List (Key × Bytes)) :
    (indexes.mapM fun i => sign crates (keyOf i) (group.getD i [])).exec log =
      (.ok (indexes.map fun i =>
          crates.base64Encode (signedTxn (crates.sign (keyOf i) (utf8 "TX" ++ group.getD i []))
            (group.getD i []))),
        log ++ indexes.map fun i => (keyOf i, utf8 "TX" ++ group.getD i [])) := by
  induction indexes generalizing log with
  | nil =>
    rw [map_nil, map_nil, append_nil]
    rfl
  | cons i indexes ih =>
    rw [mapM_cons, exec_bind_ok (exec_sign crates _ _ log), exec_bind_ok (ih _)]
    simp only [map_cons, append_assoc, singleton_append]
    rfl

lemma exec_check_sign (check : Except GroupError (List Bytes)) (keyOf : ℕ → Key) (indexes : List ℕ) :
    (do let group ← (check : SignM Key (List Bytes))
        indexes.mapM fun i => sign crates (keyOf i) (group.getD i []) : SignM Key _).exec [] =
      match check with
      | .error e => (.error e, [])
      | .ok group =>
        (.ok (indexes.map fun i =>
          crates.base64Encode (signedTxn (crates.sign (keyOf i) (utf8 "TX" ++ group.getD i []))
            (group.getD i []))),
          indexes.map fun i => (keyOf i, utf8 "TX" ++ group.getD i [])) := by
  cases check with
  | error e => exact exec_bind_error rfl
  | ok group => exact (exec_bind_ok rfl).trans (exec_mapM_sign crates keyOf group indexes [])

lemma exec_eq_ok_iff {check : Except GroupError (List Bytes)} {keyOf : ℕ → Key} {indexes : List ℕ} :
    (∃ signed log,
      (do let group ← (check : SignM Key (List Bytes))
          indexes.mapM fun i => sign crates (keyOf i) (group.getD i []) : SignM Key _).exec [] =
        (.ok signed, log)) ↔
      ∃ group, check = .ok group := by
  simp only [exec_check_sign]
  cases check with
  | error e => simp
  | ok group => simp

end Signing

/-! ## Groups -/

section Groups

variable {Key : Type} {crates : Crates Key} {ids : GroupIds} {handle : String}
  {transactions : List String} {group : List Bytes} {groupId : Option Bytes}

variable {index : ℕ} {signIndexes : List ℕ}

lemma decodeGroupFrom_cons {encoded : String}
    (h : decodeGroupFrom crates index groupId (encoded :: transactions) = .ok group) :
    ∃ bytes grp rest, crates.base64Decode encoded = some bytes ∧
      crates.unpack bytes >>= groupOnly = some (some grp) ∧ groupId.all (· = grp) ∧
      decodeGroupFrom crates (index + 1) (some grp) transactions = .ok rest ∧
      group = bytes :: rest := by
  rw [decodeGroupFrom] at h
  cases hbytes : crates.base64Decode encoded with
  | none =>
    rw [hbytes] at h
    cases h
  | some bytes =>
    simp only [hbytes] at h
    split at h
    · cases h
    · cases h
    · rename_i grp hgrp
      rw [require_bind_eq_ok_iff, bind_eq_ok_iff] at h
      obtain ⟨hid, rest, hrest, heq⟩ := h
      exact ⟨bytes, grp, rest, rfl, hgrp, hid, hrest, (Except.ok.inj heq).symm⟩

lemma given_of_decodeGroupFrom (h : decodeGroupFrom crates index groupId transactions = .ok group) :
    transactions.mapM crates.base64Decode = some group ∧ group.length = transactions.length := by
  induction transactions generalizing index groupId group with
  | nil =>
    cases h
    exact ⟨rfl, rfl⟩
  | cons encoded transactions ih =>
    obtain ⟨bytes, grp, rest, hbytes, -, -, hrest, rfl⟩ := decodeGroupFrom_cons h
    simp [hbytes, ih hrest]

lemma decodeGroupFrom_encode {ts : List Txn} {grp : Bytes}
    (hbase64 : ∀ t ∈ ts, crates.base64Decode (crates.base64Encode t.encode) = some t.encode)
    (hgrp : ∀ t ∈ ts, crates.unpack t.encode >>= groupOnly = some (some grp)) (index : ℕ)
    (hid : groupId.all (· = grp)) :
    decodeGroupFrom crates index groupId (ts.map fun t => crates.base64Encode t.encode) =
      .ok (ts.map Txn.encode) := by
  induction ts generalizing index groupId with
  | nil => rfl
  | cons t ts ih =>
    rw [forall_mem_cons] at hbase64 hgrp
    simp only [map_cons, decodeGroupFrom, hbase64.1, hgrp.1]
    have hrest := ih hbase64.2 hgrp.2 (index + 1) (show (some grp).all (· = grp) by simp)
    rw [require, if_pos hid]
    simp only [hrest]
    rfl

lemma given_of_decodeGroup (indexes : List ℕ) {sizes : List ℕ}
    (h : decodeGroup crates transactions = .ok group ∧ transactions.length ∈ sizes)
    (hsizes : ∀ n ∈ sizes, ∀ i ∈ indexes, i < n) :
    transactions.mapM crates.base64Decode = some group ∧ ∀ i ∈ indexes, i < group.length := by
  obtain ⟨hgiven, hlength⟩ := given_of_decodeGroupFrom h.1
  refine ⟨hgiven, ?_⟩
  rw [hlength]
  exact hsizes _ h.2

def SignsWithin (group : List Bytes) (index : ℕ) (template : String → Option Value) : Prop :=
  ∀ t : Txn, group.getD index [] = t.encode → Matches template t ∧ t.uint "fee" ≤ maxClientFee

section SignsWithin

variable (hreads : crates.ReadsShortest) {index : ℕ} {sender : Bytes} {raw : RawTransaction}
  (hbasics : checkClientBasics crates group index sender = .ok raw) {u : Unit}

include hreads hbasics

lemma signsWithin_of_check {template : String → Option Value}
    (h : ∀ t, ReadAs t raw → IsClientTransaction raw sender → Matches template t) :
    SignsWithin group index template := by
  intro t ht
  obtain ⟨hdecode, hclient⟩ := isClientTransaction_of_check hbasics
  rw [ht] at hdecode
  have hread := readAs_of_decode hreads hdecode
  refine ⟨h t hread hclient, ?_⟩
  rw [Txn.uint_eq_getD hread.fee]
  exact hclient.fee

lemma signsWithin_transfer {receiver : Bytes} {amount : ℕ} {closeTo : Option Bytes}
    (h : checkAssetTransfer index raw ids receiver amount closeTo = .ok u) :
    SignsWithin group index (assetTransfer ids sender receiver amount closeTo) :=
  signsWithin_of_check hreads hbasics fun _ hread hclient =>
    matches_assetTransfer hread hclient (isAssetTransfer_of_check h)

lemma signsWithin_optIn (h : checkAssetOptIn index raw ids = .ok u) :
    SignsWithin group index (assetTransfer ids sender sender 0 none) := by
  rw [checkAssetOptIn, (isClientTransaction_of_check hbasics).2.snd] at h
  exact signsWithin_transfer hreads hbasics h

lemma signsWithin_close {receiver : Bytes} (h : checkPaymentClose index raw receiver = .ok u) :
    SignsWithin group index (paymentClose sender receiver) :=
  signsWithin_of_check hreads hbasics fun _ hread hclient =>
    matches_paymentClose hread hclient (isPaymentClose_of_check h)

lemma signsWithin_call {onComplete : Option ℕ} {registerHandle : Option String}
    (h : checkAppCall crates index raw ids onComplete registerHandle = .ok u) :
    SignsWithin group index (appCall crates ids sender onComplete registerHandle) :=
  signsWithin_of_check hreads hbasics fun _ hread hclient =>
    matches_appCall hread hclient (isAppCall_of_check h)

end SignsWithin

structure WithinRegistration (crates : Crates Key) (ids : GroupIds) (handle : String)
    (address : Bytes) (group : List Bytes) : Prop where
  optIn : SignsWithin group 1 (assetTransfer ids address address 0 none)
  appOptIn : SignsWithin group 3 (appCall crates ids address (some onCompleteOptIn) none)
  payment : SignsWithin group 4
    (assetTransfer ids address (appAddress crates ids.bingleAppId) 1 none)
  register : SignsWithin group 5 (appCall crates ids address none (some handle))

structure WithinRecovery (crates : Crates Key) (ids : GroupIds) (handle : String)
    (old new funder : Bytes) (group : List Bytes) : Prop where
  clearState : SignsWithin group 0 (appCall crates ids old (some onCompleteClearState) none)
  closeOut : SignsWithin group 1 (assetTransfer ids old funder 0 (some funder))
  close : SignsWithin group 2 (paymentClose old new)
  optIn : SignsWithin group 3 (assetTransfer ids new new 0 none)
  appOptIn : SignsWithin group 5 (appCall crates ids new (some onCompleteOptIn) none)
  payment : SignsWithin group 6 (assetTransfer ids new (appAddress crates ids.bingleAppId) 1 none)
  register : SignsWithin group 7 (appCall crates ids new none (some handle))

section Totals

variable {address old new funder : Bytes} {t : ℕ → Txn}

lemma WithinRegistration.fees (h : WithinRegistration crates ids handle address group)
    (ht : ∀ i ∈ registrationSignIndexes, group.getD i [] = (t i).encode) :
    (registrationSignIndexes.map fun i => (t i).uint "fee").sum ≤ 4 * maxClientFee := by
  have h1 := (h.optIn (t 1) (ht 1 (by decide))).2
  have h3 := (h.appOptIn (t 3) (ht 3 (by decide))).2
  have h4 := (h.payment (t 4) (ht 4 (by decide))).2
  have h5 := (h.register (t 5) (ht 5 (by decide))).2
  simp only [registrationSignIndexes, map_cons, map_nil, sum_cons, sum_nil]
  omega

lemma WithinRegistration.moves (h : WithinRegistration crates ids handle address group)
    (ht : ∀ i ∈ registrationSignIndexes, group.getD i [] = (t i).encode) :
    registrationSignIndexes.flatMap (fun i => (t i).moves) =
      [.asset ids.bingleAssetId.toNat address address 0,
        .asset ids.bingleAssetId.toNat address (appAddress crates ids.bingleAppId) 1] := by
  have h1 := moves_of_assetTransfer (h.optIn (t 1) (ht 1 (by decide))).1
  have h3 := moves_of_appCall (h.appOptIn (t 3) (ht 3 (by decide))).1
  have h4 := moves_of_assetTransfer (h.payment (t 4) (ht 4 (by decide))).1
  have h5 := moves_of_appCall (h.register (t 5) (ht 5 (by decide))).1
  simp [registrationSignIndexes, h1, h3, h4, h5]

lemma WithinRecovery.moves (h : WithinRecovery crates ids handle old new funder group)
    (ht : ∀ i ∈ recoverySignIndexes, group.getD i [] = (t i).encode) :
    recoverySignIndexes.flatMap (fun i => (t i).moves) =
      [.asset ids.bingleAssetId.toNat old funder 0, .assetRest ids.bingleAssetId.toNat old funder,
        .algo old new 0, .algoRest old new,
        .asset ids.bingleAssetId.toNat new new 0,
        .asset ids.bingleAssetId.toNat new (appAddress crates ids.bingleAppId) 1] := by
  have h0 := moves_of_appCall (h.clearState (t 0) (ht 0 (by decide))).1
  have h1 := moves_of_assetTransfer (h.closeOut (t 1) (ht 1 (by decide))).1
  have h2 := moves_of_paymentClose (h.close (t 2) (ht 2 (by decide))).1
  have h3 := moves_of_assetTransfer (h.optIn (t 3) (ht 3 (by decide))).1
  have h5 := moves_of_appCall (h.appOptIn (t 5) (ht 5 (by decide))).1
  have h6 := moves_of_assetTransfer (h.payment (t 6) (ht 6 (by decide))).1
  have h7 := moves_of_appCall (h.register (t 7) (ht 7 (by decide))).1
  simp [recoverySignIndexes, h0, h1, h2, h3, h5, h6, h7]

end Totals

lemma withinRegistration_of_check (hreads : crates.ReadsShortest) {key : Key}
    (h : checkRegistrationGroup crates transactions signIndexes ids handle key = .ok group) :
    (decodeGroup crates transactions = .ok group ∧ transactions.length ∈ [7, 8]) ∧
      WithinRegistration crates ids handle (crates.verifyingKey key) group := by
  simp only [checkRegistrationGroup, bind_eq_ok_iff] at h
  obtain ⟨_, hsize, _, -, group', hgroup, optIn, hoptIn, _, hoptIn', appOptIn, happOptIn, _,
    happOptIn', payment, hpayment, _, hpayment', register, hregister, _, hregister', heq⟩ := h
  cases heq
  refine ⟨⟨hgroup, require_eq_ok_iff.mp hsize⟩, ?_⟩
  exact {
    optIn := signsWithin_optIn hreads hoptIn hoptIn'
    appOptIn := signsWithin_call hreads happOptIn happOptIn'
    payment := signsWithin_transfer hreads hpayment hpayment'
    register := signsWithin_call hreads hregister hregister' }

structure IsFunder (ids : GroupIds) (old new funder : Bytes) (group : List Bytes) : Prop where
  ne_old : funder ≠ old
  ne_new : funder ≠ new
  gives : ∀ t : Txn, group.getD recoveryFunderIndex [] = t.encode →
    t.bin "snd" = funder ∧ .asset ids.bingleAssetId.toNat funder new 1 ∈ t.moves

lemma asset_mem_moves {t : Txn} {raw : RawTransaction} {receiver : Bytes} {amount : ℕ}
    {closeTo : Option Bytes} (hread : ReadAs t raw)
    (h : IsAssetTransfer raw ids receiver amount closeTo) :
    .asset ids.bingleAssetId.toNat raw.snd receiver amount ∈ t.moves := by
  have htype := hread.txnType
  have hasnd := hread.asnd
  have hxaid := hread.xaid
  have harcv := hread.arcv
  rw [h.txnType] at htype
  rw [h.asnd] at hasnd
  rw [h.xaid] at hxaid
  rw [h.arcv] at harcv
  have haamt := (Txn.uint_eq_getD hread.aamt).trans h.aamt
  rw [moves_of_transfer htype hread.snd hasnd hxaid harcv haamt]
  exact mem_cons_self

lemma withinRecovery_of_check (hreads : crates.ReadsShortest) {oldKey newKey : Key}
    (h : checkRecoveryGroup crates transactions signIndexes ids handle oldKey newKey = .ok group) :
    (decodeGroup crates transactions = .ok group ∧ transactions.length ∈ [9, 10]) ∧
    ∃ funder,
      IsFunder ids (crates.verifyingKey oldKey) (crates.verifyingKey newKey) funder group ∧
      WithinRecovery crates ids handle (crates.verifyingKey oldKey) (crates.verifyingKey newKey)
        funder group := by
  simp only [checkRecoveryGroup, bind_eq_ok_iff] at h
  obtain ⟨_, hsize, _, -, group', hgroup, _, -, funderTxn, hfunder, _, hne, _, hfunder', clearState,
    hclearState, _, hclearState', closeOut, hcloseOut, _, hcloseOut', close, hclose, _, hclose',
    optIn, hoptIn, _, hoptIn', appOptIn, happOptIn, _, happOptIn', payment, hpayment, _, hpayment',
    register, hregister, _, hregister', heq⟩ := h
  cases heq
  have hne := require_eq_ok_iff.mp hne
  refine ⟨⟨hgroup, require_eq_ok_iff.mp hsize⟩, funderTxn.snd, ⟨hne.1, hne.2, ?_⟩, ?_⟩
  · intro t ht
    rw [ht] at hfunder
    have hread := readAs_of_decode hreads hfunder
    refine ⟨?_, asset_mem_moves hread (isAssetTransfer_of_check hfunder')⟩
    rw [Txn.bin, hread.snd]
  · exact {
      clearState := signsWithin_call hreads hclearState hclearState'
      closeOut := signsWithin_transfer hreads hcloseOut hcloseOut'
      close := signsWithin_close hreads hclose hclose'
      optIn := signsWithin_optIn hreads hoptIn hoptIn'
      appOptIn := signsWithin_call hreads happOptIn happOptIn'
      payment := signsWithin_transfer hreads hpayment hpayment'
      register := signsWithin_call hreads hregister hregister' }

/-! ## Signed groups -/

structure SignsGiven (crates : Crates Key) (transactions : List String) (keyOf : ℕ → Key)
    (indexes : List ℕ) (group : List Bytes) (signed : List String) (log : List (Key × Bytes)) :
    Prop where
  given : transactions.mapM crates.base64Decode = some group
  inside : ∀ i ∈ indexes, i < group.length
  log_eq : log = indexes.map fun i => (keyOf i, utf8 "TX" ++ group.getD i [])
  signed_eq : signed = indexes.map fun i =>
    crates.base64Encode (signedTxn (crates.sign (keyOf i) (utf8 "TX" ++ group.getD i []))
      (group.getD i []))

/-- **The client signs within the template.**  Either nothing is signed, or the given bytes are
signed and the transactions that they encode stay within the template. -/
theorem signed_groups_within_template (hreads : crates.ReadsShortest) :
    (∀ (transactions : List String) (signIndexes : List ℕ) (ids : GroupIds) (handle : String)
        (key : Key),
      match (signRegistrationGroup crates transactions signIndexes ids handle key).exec [] with
      | (.error _, log) => log = []
      | (.ok signed, log) => ∃ group,
          SignsGiven crates transactions (fun _ => key) registrationSignIndexes group signed log ∧
          WithinRegistration crates ids handle (crates.verifyingKey key) group ∧
          ∀ t : ℕ → Txn, (∀ i ∈ registrationSignIndexes, group.getD i [] = (t i).encode) →
            (registrationSignIndexes.map fun i => (t i).uint "fee").sum ≤ 4 * maxClientFee ∧
            registrationSignIndexes.flatMap (fun i => (t i).moves) =
              [.asset ids.bingleAssetId.toNat (crates.verifyingKey key) (crates.verifyingKey key) 0,
                .asset ids.bingleAssetId.toNat (crates.verifyingKey key)
                  (appAddress crates ids.bingleAppId) 1]) ∧
    (∀ (transactions : List String) (signIndexes : List ℕ) (ids : GroupIds) (handle : String)
        (oldKey newKey : Key),
      match (signRecoveryGroup crates transactions signIndexes ids handle oldKey newKey).exec [] with
      | (.error _, log) => log = []
      | (.ok signed, log) => ∃ group funder,
          let old := crates.verifyingKey oldKey
          let new := crates.verifyingKey newKey
          SignsGiven crates transactions
            (fun i => if i ∈ recoveryOldKeyIndexes then oldKey else newKey) recoverySignIndexes group
            signed log ∧
          IsFunder ids old new funder group ∧
          WithinRecovery crates ids handle old new funder group ∧
          ∀ t : ℕ → Txn, (∀ i ∈ recoverySignIndexes, group.getD i [] = (t i).encode) →
            recoverySignIndexes.flatMap (fun i => (t i).moves) =
              [.asset ids.bingleAssetId.toNat old funder 0,
                .assetRest ids.bingleAssetId.toNat old funder,
                .algo old new 0, .algoRest old new,
                .asset ids.bingleAssetId.toNat new new 0,
                .asset ids.bingleAssetId.toNat new (appAddress crates ids.bingleAppId) 1]) := by
  constructor
  · intro transactions signIndexes ids handle key
    rw [signRegistrationGroup, exec_check_sign]
    cases hcheck : checkRegistrationGroup crates transactions signIndexes ids handle key with
    | error e => rfl
    | ok group =>
      obtain ⟨hdecode, hwithin⟩ := withinRegistration_of_check hreads hcheck
      obtain ⟨hgiven, hinside⟩ :=
        given_of_decodeGroup registrationSignIndexes hdecode (by decide)
      exact ⟨group, ⟨hgiven, hinside, rfl, rfl⟩, hwithin,
        fun t ht => ⟨hwithin.fees ht, hwithin.moves ht⟩⟩
  · intro transactions signIndexes ids handle oldKey newKey
    rw [signRecoveryGroup, exec_check_sign]
    cases hcheck : checkRecoveryGroup crates transactions signIndexes ids handle oldKey newKey with
    | error e => rfl
    | ok group =>
      obtain ⟨hdecode, funder, hfunder, hwithin⟩ := withinRecovery_of_check hreads hcheck
      obtain ⟨hgiven, hinside⟩ := given_of_decodeGroup recoverySignIndexes hdecode (by decide)
      exact ⟨group, funder, ⟨hgiven, hinside, rfl, rfl⟩, hfunder, hwithin,
        fun t ht => hwithin.moves ht⟩

end Groups

/-! ## A registration -/

namespace Alice

open Lib (Base64Engine)
open Lib.MsgPack (be)

def ids : GroupIds := { bingleAppId := 1001, bingleAssetId := 1002 }

def address : Bytes := be 32 0x03a107bff3ce10be1d70dd18e74bc09967e4d6309ba50d5f1ddc8664125531b8

def funder : Bytes := List.replicate 32 7

def dapp : Bytes := be 32 0x72a43709d7a9981bc3b37f700e56d3cdb295a5fb731085bcec398f48d0a4d436

def method : Bytes := be 32 0xbd6099e595910174e139a0b421bf57ee621935071a6e943008c434845a166e03

def groupId : Bytes := be 32 0x99be51bfbcdac732eba05f48b116ece5469c6ecd2485639d40d9d501b1462d83

def common : List (String × Value) :=
  [("fee", .uint 1000), ("fv", .uint 1), ("gen", .str (utf8 "bingle")),
    ("gh", .bin (List.replicate 32 9)), ("grp", .bin groupId), ("lv", .uint 1001)]

def transferFields (amount : List (String × Value)) (sender receiver : Bytes) :
    List (String × Value) :=
  amount ++ ("arcv", .bin receiver) :: common ++
    [("snd", .bin sender), ("type", .str (utf8 "axfer")), ("xaid", .uint 1002)]

def callFields (call : List (String × Value)) (sender : Bytes) : List (String × Value) :=
  call ++ common ++ [("snd", .bin sender), ("type", .str (utf8 "appl"))]

def paymentFields (amount : ℕ) : List (String × Value) :=
  ("amt", .uint amount) :: common ++
    [("rcv", .bin address), ("snd", .bin funder), ("type", .str (utf8 "pay"))]

def funding : Txn := .ofFields (paymentFields 1) (by decide +kernel)

def optIn : Txn := .ofFields (transferFields [] address address) (by decide +kernel)

def gift : Txn := .ofFields (transferFields [("aamt", .uint 1)] funder address) (by decide +kernel)

def appOptIn : Txn :=
  .ofFields (callFields [("apan", .uint 1), ("apid", .uint 1001)] address) (by decide +kernel)

def payment : Txn := .ofFields (transferFields [("aamt", .uint 1)] address dapp) (by decide +kernel)

def register : Txn :=
  .ofFields
    (callFields
      [("apaa", .arr [.bin (method.take 4), .bin (be 2 5 ++ utf8 "alice")]),
        ("apas", .arr [.uint 1002]), ("apid", .uint 1001)] address)
    (by decide +kernel)

def claim : Txn := .ofFields (callFields [("apid", .uint 1003)] funder) (by decide +kernel)

def group : List Txn := [funding, optIn, gift, appOptIn, payment, register, claim]

def crates (sha512256 : Bytes → Bytes) : Crates Unit where
  base64Decode := Base64Engine.standard.decode
  base64Encode := Base64Engine.standard.encode
  unpack := Lib.MsgPack.unpack
  sha512256 := sha512256
  verifyingKey _ := address
  sign _ message :=
    if message = utf8 "TX" ++ optIn.encode then
      be 32 0xb958f87215b90ff58bc2a9dc2b4a9116582ca8c8386c16d35a39378dc3cc6330 ++
        be 32 0xc11b5c7c8f54637477b7d7584a3aba8a73fc89d7bb5afd09df67c5a3fcd20c08
    else if message = utf8 "TX" ++ appOptIn.encode then
      be 32 0x389e323ee3e8dedacc7bab0664e2aba322e7f17984ea21183152c0a2157dea8d ++
        be 32 0xce0a239340161461a133b7f3197c815894eeb35237e41054a64f9abf1a3f6200
    else if message = utf8 "TX" ++ payment.encode then
      be 32 0xb9de74c2d5428f01d6b5e2675c2509b690aa6ab7c39338804143d104f32472a3 ++
        be 32 0x5bebc53a72b0c6121d0ef8681965f9723c0344b8d79e0fdd7c547ab5efbb370b
    else
      be 32 0xf7f15a57ed9a832d78b57b8b54e4444eed4f9564674ed3a4ef85407a4a992eb8 ++
        be 32 0xf03b778571642e6029452d59366e62c277a2daa9f2b8567d3d1cbe3057f8150c

lemma crates_readsShortest (sha512256 : Bytes → Bytes) : (crates sha512256).ReadsShortest := by
  intro v w hfits h
  exact some.inj (h.symm.trans (Lib.MsgPack.unpack_pack hfits))

def transactions (ts : List Txn) : List String :=
  ts.map fun t => Base64Engine.standard.encode t.encode

lemma decodeGroup_transactions (sha512256 : Bytes → Bytes) {ts : List Txn}
    (hgrp : ∀ t ∈ ts, Lib.MsgPack.unpack t.encode >>= groupOnly = some (some groupId)) :
    decodeGroup (crates sha512256) (transactions ts) = .ok (ts.map Txn.encode) := by
  have hbase64 : ∀ t ∈ ts, (crates sha512256).base64Decode
      ((crates sha512256).base64Encode t.encode) = some t.encode :=
    fun t _ => (Base64Engine.standard.decode_eq_some_iff _ _).mpr rfl
  exact decodeGroupFrom_encode hbase64 hgrp 0 rfl

def digest (b : Bytes) : Bytes := if b = utf8 registerMethod then method else dapp

lemma decodeGroup_group (sha512256 : Bytes → Bytes) :
    decodeGroup (crates sha512256) (transactions group) = .ok (group.map Txn.encode) :=
  decodeGroup_transactions sha512256 (by decide +kernel)

lemma checkRegistrationGroup_group :
    checkRegistrationGroup (crates digest) (transactions group) registrationSignIndexes ids "alice"
      () = .ok (group.map Txn.encode) := by
  rw [checkRegistrationGroup, decodeGroup_group]
  decide +kernel

def signedTxns : ℕ → Txn
  | 1 => optIn
  | 3 => appOptIn
  | 4 => payment
  | _ => register

lemma encode_signedTxns :
    ∀ i ∈ registrationSignIndexes, (group.map Txn.encode).getD i [] = (signedTxns i).encode := by
  decide +kernel

theorem alice_signs_within_template :
    (crates digest).ReadsShortest ∧ ∃ signed log,
      (signRegistrationGroup (crates digest) (transactions group) registrationSignIndexes ids "alice"
        ()).exec [] = (.ok signed, log) ∧
      SignsGiven (crates digest) (transactions group) (fun _ => ()) registrationSignIndexes
        (group.map Txn.encode) signed log ∧
      WithinRegistration (crates digest) ids "alice" address (group.map Txn.encode) ∧
      registrationSignIndexes.flatMap (fun i => (signedTxns i).moves) =
        [.asset 1002 address address 0, .asset 1002 address dapp 1] := by
  obtain ⟨hregistration, -⟩ := signed_groups_within_template (crates_readsShortest digest)
  have hdecode := given_of_decodeGroupFrom (decodeGroup_group digest)
  have hcheck := checkRegistrationGroup_group
  have hdapp : appAddress (crates digest) ids.bingleAppId = dapp := by decide +kernel
  -- the texts are not to be evaluated
  obtain ⟨given, heq⟩ : ∃ given, given = transactions group := ⟨_, rfl⟩
  rw [← heq] at hdecode hcheck ⊢
  have h := hregistration given registrationSignIndexes ids "alice" ()
  rw [signRegistrationGroup, exec_check_sign, hcheck, hdapp] at h
  rw [signRegistrationGroup, exec_check_sign, hcheck]
  obtain ⟨bytes, hgiven, hwithin, htotals⟩ := h
  obtain rfl : group.map Txn.encode = bytes :=
    some.inj (hdecode.1.symm.trans hgiven.given)
  exact ⟨crates_readsShortest digest, _, _, rfl, hgiven, hwithin,
    (htotals signedTxns encode_signedTxns).2⟩

end Alice

end Bingle.Registration
