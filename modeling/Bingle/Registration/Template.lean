import Bingle.Lib.Checked
import Bingle.Registration.Canonical

/-!
# The templates of the client's transactions

What the checks of a transaction leave to the service that built it.
-/

namespace Bingle.Registration

open List Option
open Lib (bind_eq_ok_iff)
open Lib.MsgPack (Value pack)

/-! ## What the checks say -/

section Checks

variable {index : ℕ} {what : String}

variable {p : Prop} {e : GroupError} {u : Unit} {fields : List (String × Bool)}
  {txn : RawTransaction} {ids : GroupIds} {receiver : Bytes}

lemma require_eq_ok_iff [Decidable p] :
    require p e = .ok u ↔ p := by
  rw [require]
  split_ifs with hp
  · exact iff_of_true rfl hp
  · exact iff_of_false (fun h => nomatch h) hp

lemma require_bind_eq_ok_iff {β : Type} [Decidable p] {f : Unit → Except GroupError β} {b : β} :
    (require p e >>= f) = .ok b ↔ p ∧ f () = .ok b := by
  rw [bind_eq_ok_iff]
  constructor
  · rintro ⟨u, hp, h⟩
    exact ⟨require_eq_ok_iff.mp hp, h⟩
  · rintro ⟨hp, h⟩
    exact ⟨(), require_eq_ok_iff.mpr hp, h⟩

lemma onlyFields_eq_ok_iff :
    onlyFields index what fields = .ok u ↔ ∀ f ∈ fields, f.2 = false := by
  rw [onlyFields]
  cases hfind : fields.find? Prod.snd with
  | none =>
    refine iff_of_true rfl fun f hf => ?_
    simpa using List.find?_eq_none.mp hfind f hf
  | some f =>
    refine iff_of_false (fun h => nomatch h) fun h => ?_
    have hpresent := List.find?_some hfind
    rw [h f (mem_of_find?_eq_some hfind)] at hpresent
    exact Bool.false_ne_true hpresent

lemma onlyFields_bind_eq_ok_iff {β : Type} {f : Unit → Except GroupError β} {b : β} :
    (onlyFields index what fields >>= f) = .ok b ↔ (∀ f ∈ fields, f.2 = false) ∧ f () = .ok b := by
  rw [bind_eq_ok_iff]
  constructor
  · rintro ⟨u, hp, h⟩
    exact ⟨onlyFields_eq_ok_iff.mp hp, h⟩
  · rintro ⟨hp, h⟩
    exact ⟨(), onlyFields_eq_ok_iff.mpr hp, h⟩

structure IsAssetTransfer (txn : RawTransaction) (ids : GroupIds) (receiver : Bytes) (amount : ℕ)
    (closeTo : Option Bytes) : Prop where
  txnType : txn.txnType = "axfer"
  rcv : txn.rcv = none
  amt : txn.amt = none
  close : txn.close = none
  asnd : txn.asnd = none
  apid : txn.apid = none
  apan : txn.apan = none
  apaa : txn.apaa = none
  apat : txn.apat = none
  apfa : txn.apfa = none
  apas : txn.apas = none
  xaid : txn.xaid = some ids.bingleAssetId.toNat
  arcv : txn.arcv = some receiver
  aamt : txn.aamt.getD 0 = amount
  aclose : txn.aclose = closeTo

lemma isAssetTransfer_of_check {amount : ℕ} {closeTo : Option Bytes}
    (h : checkAssetTransfer index txn ids receiver amount closeTo = .ok u) :
    IsAssetTransfer txn ids receiver amount closeTo := by
  simp only [checkAssetTransfer, noAppFields, require_bind_eq_ok_iff, onlyFields_bind_eq_ok_iff,
    require_eq_ok_iff, forall_mem_cons, isSome_eq_false_iff, isNone_iff_eq_none]
    at h
  obtain ⟨htype, ⟨hrcv, hamt, hclose, hasnd, -⟩, ⟨hapid, hapan, hapaa, hapat, hapfa, hapas, -⟩, hxaid,
    harcv, haamt, haclose⟩ := h
  exact ⟨htype, hrcv, hamt, hclose, hasnd, hapid, hapan, hapaa, hapat, hapfa, hapas, hxaid, harcv,
    haamt, haclose⟩

structure IsPaymentClose (txn : RawTransaction) (receiver : Bytes) : Prop where
  txnType : txn.txnType = "pay"
  xaid : txn.xaid = none
  aamt : txn.aamt = none
  arcv : txn.arcv = none
  aclose : txn.aclose = none
  asnd : txn.asnd = none
  apid : txn.apid = none
  apan : txn.apan = none
  apaa : txn.apaa = none
  apat : txn.apat = none
  apfa : txn.apfa = none
  apas : txn.apas = none
  rcv : txn.rcv = some receiver
  amt : txn.amt.getD 0 = 0
  close : txn.close = some receiver

lemma isPaymentClose_of_check
    (h : checkPaymentClose index txn receiver = .ok u) : IsPaymentClose txn receiver := by
  simp only [checkPaymentClose, noAppFields, require_bind_eq_ok_iff, onlyFields_bind_eq_ok_iff,
    require_eq_ok_iff, forall_mem_cons, isSome_eq_false_iff, isNone_iff_eq_none]
    at h
  obtain ⟨htype, ⟨hxaid, haamt, harcv, haclose, hasnd, -⟩,
    ⟨hapid, hapan, hapaa, hapat, hapfa, hapas, -⟩, hrcv, hamt, hclose⟩ := h
  exact ⟨htype, hxaid, haamt, harcv, haclose, hasnd, hapid, hapan, hapaa, hapat, hapfa, hapas, hrcv,
    hamt, hclose⟩

structure IsAppCall {Key : Type} (crates : Crates Key) (txn : RawTransaction) (ids : GroupIds)
    (onComplete : Option ℕ) (registerHandle : Option String) : Prop where
  txnType : txn.txnType = "appl"
  rcv : txn.rcv = none
  amt : txn.amt = none
  close : txn.close = none
  xaid : txn.xaid = none
  aamt : txn.aamt = none
  arcv : txn.arcv = none
  aclose : txn.aclose = none
  asnd : txn.asnd = none
  apat : txn.apat = none
  apfa : txn.apfa = none
  apid : txn.apid = some ids.bingleAppId.toNat
  apan : txn.apan = onComplete
  apaa : txn.apaa = registerHandle.map (registerArgs crates)
  apas : txn.apas = registerHandle.map fun _ => [ids.bingleAssetId.toNat]

lemma isAppCall_of_check {Key : Type} {crates : Crates Key}
    {onComplete : Option ℕ} {registerHandle : Option String}
    (h : checkAppCall crates index txn ids onComplete registerHandle = .ok u) :
    IsAppCall crates txn ids onComplete registerHandle := by
  simp only [checkAppCall, require_bind_eq_ok_iff, onlyFields_bind_eq_ok_iff, forall_mem_cons,
    isSome_eq_false_iff, isNone_iff_eq_none] at h
  obtain ⟨htype, ⟨hrcv, hamt, hclose, hxaid, haamt, harcv, haclose, hasnd, hapat, hapfa, -⟩, hapid,
    hapan, hrest⟩ := h
  have hargs : txn.apaa = registerHandle.map (registerArgs crates) ∧
      txn.apas = registerHandle.map fun _ => [ids.bingleAssetId.toNat] := by
    cases registerHandle with
    | none =>
      simp only [onlyFields_eq_ok_iff, forall_mem_cons, isSome_eq_false_iff,
        isNone_iff_eq_none] at hrest
      exact ⟨hrest.1, hrest.2.1⟩
    | some handle =>
      simp only [require_bind_eq_ok_iff, require_eq_ok_iff] at hrest
      exact hrest
  exact ⟨htype, hrcv, hamt, hclose, hxaid, haamt, harcv, haclose, hasnd, hapat, hapfa, hapid, hapan,
    hargs.1, hargs.2⟩

structure IsClientTransaction (txn : RawTransaction) (sender : Bytes) : Prop where
  snd : txn.snd = sender
  fee : txn.fee.getD 0 ≤ maxClientFee
  rekey : txn.rekey = none
  note : txn.note = none
  lx : txn.lx = none

lemma isClientTransaction_of_check {Key : Type} {crates : Crates Key} {group : List Bytes}
    {sender : Bytes} (h : checkClientBasics crates group index sender = .ok txn) :
    decode crates index (group.getD index []) = .ok txn ∧ IsClientTransaction txn sender := by
  rw [checkClientBasics, bind_eq_ok_iff] at h
  obtain ⟨txn', hdecode, h⟩ := h
  simp only [require_bind_eq_ok_iff] at h
  obtain ⟨hsnd, hfee, hrekey, hnote, hlx, heq⟩ := h
  cases heq
  exact ⟨hdecode, hsnd, hfee, hrekey, hnote, hlx⟩

end Checks

/-! ## Templates -/

def openFields : List String := ["fee", "fv", "lv", "gen", "gh", "grp"]

def Matches (template : String → Option Value) (t : Txn) : Prop :=
  ∀ name, name ∉ openFields → t.get name = template name

def assetTransfer (ids : GroupIds) (sender receiver : Bytes) (amount : ℕ) (closeTo : Option Bytes) :
    String → Option Value
  | "type" => some (.str (utf8 "axfer"))
  | "snd" => some (.bin sender)
  | "xaid" => some (.uint ids.bingleAssetId.toNat)
  | "arcv" => some (.bin receiver)
  | "aamt" => if amount = 0 then none else some (.uint amount)
  | "aclose" => closeTo.map .bin
  | _ => none

def paymentClose (sender receiver : Bytes) : String → Option Value
  | "type" => some (.str (utf8 "pay"))
  | "snd" => some (.bin sender)
  | "rcv" => some (.bin receiver)
  | "close" => some (.bin receiver)
  | _ => none

def appCall {Key : Type} (crates : Crates Key) (ids : GroupIds) (sender : Bytes)
    (onComplete : Option ℕ) (registerHandle : Option String) : String → Option Value
  | "type" => some (.str (utf8 "appl"))
  | "snd" => some (.bin sender)
  | "apid" => some (.uint ids.bingleAppId.toNat)
  | "apan" => onComplete.map .uint
  | "apaa" => registerHandle.map fun handle => .arr ((registerArgs crates handle).map .bin)
  | "apas" => registerHandle.map fun _ => .arr [.uint ids.bingleAssetId.toNat]
  | _ => none

def checkedFields : List String :=
  ["type", "snd", "lx", "note", "rekey", "rcv", "amt", "close", "xaid", "aamt", "arcv", "aclose",
    "asnd", "apid", "apan", "apaa", "apat", "apfa", "apas"]

variable {name : String} {t : Txn} {o : Option ℕ}

lemma mem_checkedFields (hknown : name ∈ fieldNames) (hopen : name ∉ openFields) :
    name ∈ checkedFields := by
  revert name
  decide

lemma matches_of_checked {raw : RawTransaction} (hread : ReadAs t raw)
    {template : String → Option Value} (htemplate : ∀ name, name ∉ fieldNames → template name = none)
    (h : ∀ name ∈ checkedFields, t.get name = template name) : Matches template t := by
  intro name hopen
  by_cases hknown : name ∈ fieldNames
  · exact h name (mem_checkedFields hknown hopen)
  · rw [htemplate name hknown]
    cases hget : t.get name with
    | none => rfl
    | some v => exact absurd (hread.known _ (t.mem_of_get hget)) hknown

lemma Txn.uint_eq_getD (hget : t.get name = o.map .uint) :
    t.uint name = o.getD 0 := by
  rw [Txn.uint, hget]
  cases o <;> rfl

lemma Txn.get_eq_of_getD {n : ℕ} (hget : t.get name = o.map .uint) (h : o.getD 0 = n) :
    t.get name = if n = 0 then none else some (.uint n) := by
  cases o with
  | none =>
    subst h
    exact hget
  | some m =>
    have hm : m = n := h
    subst hm
    have hne : m ≠ 0 := by
      rintro rfl
      exact Bool.noConfusion (t.nonzero _ (t.mem_of_get hget))
    rw [if_neg hne]
    exact hget

section Matches

variable {t : Txn} {raw : RawTransaction} {sender : Bytes}

variable {ids : GroupIds} {receiver : Bytes}

lemma matches_assetTransfer {amount : ℕ} {closeTo : Option Bytes}
    (hread : ReadAs t raw) (hclient : IsClientTransaction raw sender)
    (h : IsAssetTransfer raw ids receiver amount closeTo) :
    Matches (assetTransfer ids sender receiver amount closeTo) t := by
  refine matches_of_checked hread ?_ ?_
  · intro name hname
    rw [assetTransfer]
    all_goals
      rintro rfl
      exact hname (by decide)
  · have hamount := t.get_eq_of_getD hread.aamt h.aamt
    simp [checkedFields, assetTransfer, hread.txnType, h.txnType, hread.snd, hclient.snd, hread.lx,
      hclient.lx, hread.note, hclient.note, hread.rekey, hclient.rekey, hread.rcv, h.rcv, hread.amt,
      h.amt, hread.close, h.close, hread.xaid, h.xaid, hamount, hread.arcv, h.arcv, hread.aclose,
      h.aclose, hread.asnd, h.asnd, hread.apid, h.apid, hread.apan, h.apan, hread.apaa, h.apaa,
      hread.apat, h.apat, hread.apfa, h.apfa, hread.apas, h.apas]

lemma matches_paymentClose (hread : ReadAs t raw)
    (hclient : IsClientTransaction raw sender) (h : IsPaymentClose raw receiver) :
    Matches (paymentClose sender receiver) t := by
  refine matches_of_checked hread ?_ ?_
  · intro name hname
    rw [paymentClose]
    all_goals
      rintro rfl
      exact hname (by decide)
  · have hamount := t.get_eq_of_getD hread.amt h.amt
    simp [checkedFields, paymentClose, hread.txnType, h.txnType, hread.snd, hclient.snd, hread.lx,
      hclient.lx, hread.note, hclient.note, hread.rekey, hclient.rekey, hread.rcv, h.rcv, hamount,
      hread.close, h.close, hread.xaid, h.xaid, hread.aamt, h.aamt, hread.arcv, h.arcv, hread.aclose,
      h.aclose, hread.asnd, h.asnd, hread.apid, h.apid, hread.apan, h.apan, hread.apaa, h.apaa,
      hread.apat, h.apat, hread.apfa, h.apfa, hread.apas, h.apas]

lemma matches_appCall {Key : Type} {crates : Crates Key} {onComplete : Option ℕ}
    {registerHandle : Option String} (hread : ReadAs t raw)
    (hclient : IsClientTransaction raw sender)
    (h : IsAppCall crates raw ids onComplete registerHandle) :
    Matches (appCall crates ids sender onComplete registerHandle) t := by
  refine matches_of_checked hread ?_ ?_
  · intro name hname
    rw [appCall]
    all_goals
      rintro rfl
      exact hname (by decide)
  · simp [checkedFields, appCall, hread.txnType, h.txnType, hread.snd, hclient.snd, hread.lx,
      hclient.lx, hread.note, hclient.note, hread.rekey, hclient.rekey, hread.rcv, h.rcv, hread.amt,
      h.amt, hread.close, h.close, hread.xaid, h.xaid, hread.aamt, h.aamt, hread.arcv, h.arcv,
      hread.aclose, h.aclose, hread.asnd, h.asnd, hread.apid, h.apid, hread.apan, h.apan, hread.apaa,
      h.apaa, hread.apat, h.apat, hread.apfa, h.apfa, hread.apas, h.apas, Function.comp_def]

end Matches

/-! ## What a transaction moves -/

inductive Move
  | algo (sender receiver : Bytes) (amount : ℕ)
  | algoRest (sender receiver : Bytes)
  | asset (id : ℕ) (holder receiver : Bytes) (amount : ℕ)
  | assetRest (id : ℕ) (holder receiver : Bytes)
  | authority (sender receiver : Bytes)
deriving DecidableEq, Repr

def Txn.moveTo (t : Txn) (name : String) (move : Bytes → Move) : List Move :=
  match t.get name with
  | some (.bin receiver) => [move receiver]
  | _ => []

/-- What a transaction moves, by the rules of the network.  A transfer of another account's asset
has that account in `asnd`. -/
def Txn.moves (t : Txn) : List Move :=
  let sender := t.bin "snd"
  let holder := if (t.get "asnd").isSome then t.bin "asnd" else sender
  let transfer :=
    match t.get "type" with
    | some (.str type) =>
      if type = utf8 "pay" then
        .algo sender (t.bin "rcv") (t.uint "amt") :: t.moveTo "close" (.algoRest sender)
      else if type = utf8 "axfer" then
        .asset (t.uint "xaid") holder (t.bin "arcv") (t.uint "aamt") ::
          t.moveTo "aclose" (.assetRest (t.uint "xaid") sender)
      else []
    | _ => []
  transfer ++ t.moveTo "rekey" (.authority sender)

section Moves

variable {t : Txn} {ids : GroupIds} {sender receiver : Bytes}

lemma moves_of_transfer {assetId amount : ℕ} (htype : t.get "type" = some (.str (utf8 "axfer")))
    (hsnd : t.get "snd" = some (.bin sender)) (hasnd : t.get "asnd" = none)
    (hxaid : t.get "xaid" = some (.uint assetId)) (harcv : t.get "arcv" = some (.bin receiver))
    (haamt : t.uint "aamt" = amount) :
    t.moves = .asset assetId sender receiver amount ::
      (t.moveTo "aclose" (.assetRest assetId sender) ++ t.moveTo "rekey" (.authority sender)) := by
  have hasset : t.uint "xaid" = assetId := by rw [Txn.uint, hxaid]
  have hpay : utf8 "axfer" ≠ utf8 "pay" := by decide
  simp [Txn.moves, Txn.bin, htype, hsnd, hasnd, harcv, haamt, hasset, hpay]

lemma moves_of_assetTransfer {amount : ℕ} {closeTo : Option Bytes}
    (h : Matches (assetTransfer ids sender receiver amount closeTo) t) :
    t.moves = .asset ids.bingleAssetId.toNat sender receiver amount ::
      closeTo.toList.map (.assetRest ids.bingleAssetId.toNat sender) := by
  have hget (name : String) (hopen : name ∉ openFields := by decide) := h name hopen
  have hamount : t.uint "aamt" = amount := by
    rw [Txn.uint, hget "aamt"]
    by_cases h0 : amount = 0 <;> simp [assetTransfer, h0]
  rw [moves_of_transfer (hget "type") (hget "snd") (hget "asnd") (hget "xaid") (hget "arcv") hamount]
  cases closeTo <;> simp [Txn.moveTo, hget "aclose", hget "rekey", assetTransfer]

lemma moves_of_paymentClose (h : Matches (paymentClose sender receiver) t) :
    t.moves = [.algo sender receiver 0, .algoRest sender receiver] := by
  have hget (name : String) (hopen : name ∉ openFields := by decide) := h name hopen
  simp [Txn.moves, Txn.moveTo, Txn.bin, Txn.uint, hget "type", hget "snd", hget "rcv", hget "amt",
    hget "close", hget "rekey", paymentClose]

lemma moves_of_appCall {Key : Type} {crates : Crates Key} {onComplete : Option ℕ}
    {registerHandle : Option String}
    (h : Matches (appCall crates ids sender onComplete registerHandle) t) : t.moves = [] := by
  have hget (name : String) (hopen : name ∉ openFields := by decide) := h name hopen
  have hpay : utf8 "appl" ≠ utf8 "pay" := by decide
  have haxfer : utf8 "appl" ≠ utf8 "axfer" := by decide
  simp [Txn.moves, Txn.moveTo, hget "type", hget "rekey", appCall, hpay, haxfer]

end Moves

end Bingle.Registration
