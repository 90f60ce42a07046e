import Bingle.Frpt.Transport

/-!
# One direction of a link

A block's only name on the wire is its transaction id: `Numbered` says that ids name calls, as long
as there are at most `2 ^ 16` of them.  `Link` follows a block from its call through the packets,
the dispatches and the table of received ids to the handler and back.  `up` is what is on its way
from the sender, `down` the acknowledgements; packets may be delivered late, often or never.
-/

namespace Bingle.Frpt

open List Option

namespace Party

variable {κ : Type*}

def Posted (p : Party κ) (n : ℕ) (txId : UInt16) (block : Bytes) : Prop :=
  ∃ s, p.sends[n]? = some s ∧ s.ackKey.txId = txId ∧ s.block = block

structure Numbered (p : Party κ) : Prop where
  bound : p.sends.length ≤ 2 ^ 16
  next : p.nextTxId = UInt16.ofNat p.sends.length
  txId : ∀ n s, p.sends[n]? = some s → s.ackKey.txId = UInt16.ofNat n
  pending : ∀ key n, p.pendingAcks key = some n → ∃ s, p.sends[n]? = some s ∧ s.ackKey = key

variable {m n : ℕ} {b : Bytes} {p' : Party κ} {e : SendStep} {s' : Sending κ} {o : Origin}

lemma Numbered.posted_inj {p : Party κ} (h : p.Numbered) {txId : UInt16} {c : Bytes}
    (hm : p.Posted m txId b) (hn : p.Posted n txId c) : m = n ∧ b = c := by
  obtain ⟨s, hs, hstx, rfl⟩ := hm
  obtain ⟨r, hr, hrtx, rfl⟩ := hn
  have hmlt := (List.getElem?_eq_some_iff.mp hs).1
  have hnlt := (List.getElem?_eq_some_iff.mp hr).1
  have hbound := h.bound
  have hsize : UInt16.size = 2 ^ 16 := rfl
  have heq : (UInt16.ofNat m).toNat = (UInt16.ofNat n).toNat := by
    rw [← h.txId m s hs, ← h.txId n r hr, hstx, hrtx]
  rw [UInt16.toNat_ofNat_of_lt' (by omega), UInt16.toNat_ofNat_of_lt' (by omega)] at heq
  subst heq
  rw [hs] at hr
  exact ⟨rfl, by rw [some.inj hr]⟩

/-! ## The sending side -/

structure Continues (p p' : Party κ) : Prop where
  nextTxId : p'.nextTxId = p.nextTxId
  length : p'.sends.length = p.sends.length
  pending : ∀ key n, p'.pendingAcks key = some n → p.pendingAcks key = some n
  sends : ∀ (n : ℕ) (s' : Sending κ), p'.sends[n]? = some s' →
    ∃ s, p.sends[n]? = some s ∧ s'.ackKey = s.ackKey ∧ s'.block = s.block

namespace Continues

variable {p p' : Party κ}

lemma refl (p : Party κ) : Continues p p :=
  ⟨rfl, rfl, fun _ _ h => h, fun _ s' h => ⟨s', h, rfl, rfl⟩⟩

lemma exists_of_getElem? (h : Continues p p') {n : ℕ} {s : Sending κ} (hs : p.sends[n]? = some s) :
    ∃ s', p'.sends[n]? = some s' ∧ s'.ackKey = s.ackKey ∧ s'.block = s.block := by
  have hlt : n < p'.sends.length := h.length ▸ (List.getElem?_eq_some_iff.mp hs).1
  have hs' := List.getElem?_eq_getElem hlt
  obtain ⟨r, hr, hkey, hblock⟩ := h.sends n _ hs'
  rw [hs] at hr
  obtain rfl := some.inj hr
  exact ⟨_, hs', hkey, hblock⟩

lemma posted (h : Continues p p') {n : ℕ} {txId : UInt16} {b : Bytes} (hp : p.Posted n txId b) :
    p'.Posted n txId b := by
  obtain ⟨s, hs, htx, hb⟩ := hp
  obtain ⟨s', hs', hkey, hblock⟩ := h.exists_of_getElem? hs
  exact ⟨s', hs', hkey ▸ htx, hblock.trans hb⟩

lemma numbered (h : Continues p p') (hp : p.Numbered) : p'.Numbered := by
  refine ⟨h.length ▸ hp.bound, by rw [h.nextTxId, h.length, hp.next], ?_, ?_⟩
  · intro n s' hs'
    obtain ⟨s, hs, hkey, -⟩ := h.sends n s' hs'
    rw [hkey]
    exact hp.txId n s hs
  · intro key n hn
    obtain ⟨s, hs, rfl⟩ := hp.pending key n (h.pending key n hn)
    obtain ⟨s', hs', hkey, -⟩ := h.exists_of_getElem? hs
    exact ⟨s', hs', hkey⟩

end Continues

structure SameInbound (p p' : Party κ) : Prop where
  handleMessage : p'.handleMessage = p.handleMessage
  endpointSessions : p'.endpointSessions = p.endpointSessions
  received : p'.receivedSingleBlocks = p.receivedSingleBlocks
  dispatching : p'.dispatching = p.dispatching
  handed : p'.handed = p.handed

lemma SameInbound.refl (p : Party κ) : SameInbound p p := ⟨rfl, rfl, rfl, rfl, rfl⟩

structure SameOutbound (p p' : Party κ) : Prop where
  nextTxId : p'.nextTxId = p.nextTxId
  pendingAcks : p'.pendingAcks = p.pendingAcks
  sends : p'.sends = p.sends

lemma SameOutbound.numbered {p : Party κ} (h : SameOutbound p p') (hp : p.Numbered) :
    p'.Numbered := by
  refine Continues.numbered ⟨h.nextTxId, by rw [h.sends], fun _ _ hn => h.pendingAcks ▸ hn, ?_⟩ hp
  exact fun n s' hs' => ⟨s', h.sends ▸ hs', rfl, rfl⟩

structure Went (n m : ℕ) (e : SendStep) (s s' : Sending κ) : Prop where
  ackKey : s'.ackKey = s.ackKey
  block : s'.block = s.block
  acked : s'.acked = s.acked
  ok : s'.result = some (.ok ()) →
    s.result = some (.ok ()) ∨ m = n ∧ e = .returnOk ∧ s.acked = true

lemma Went.refl (n m : ℕ) (e : SendStep) (s : Sending κ) : Went n m e s s := ⟨rfl, rfl, rfl, Or.inl⟩

variable [DecidableEq κ]

lemma sendStep_cases (p : Party κ) (n : ℕ) (e : SendStep) :
    p.sendStep n e = p ∨ ∃ s x, p.sends[n]? = some s ∧
      (p.sendStep n e = p.setSend n x ∨
        p.sendStep n e = (p.clearPendingAck s.ackKey).setSend n x) ∧ Went n n e s x := by
  cases hs : p.sends[n]? with
  | none =>
    left
    simp only [sendStep, hs]
  | some s =>
    by_cases hres : s.result.isSome = true
    · left
      simp only [sendStep, hs, hres, if_true]
    cases e with
    | transmit =>
      simp only [sendStep, hs, hres, Bool.false_eq_true, if_false]
      split_ifs
      · exact Or.inr ⟨s, _, rfl, Or.inl rfl, rfl, rfl, rfl, Or.inl⟩
      · exact Or.inl rfl
    | sendFails err =>
      simp only [sendStep, hs, hres, Bool.false_eq_true, if_false]
      split_ifs
      · exact Or.inr ⟨s, _, rfl, Or.inr rfl, rfl, rfl, rfl, fun hok => absurd hok (by simp)⟩
      · exact Or.inl rfl
    | timeout =>
      simp only [sendStep, hs, hres, Bool.false_eq_true, if_false]
      split_ifs
      · exact Or.inl rfl
      · exact Or.inr ⟨s, _, rfl, Or.inl rfl, rfl, rfl, rfl, Or.inl⟩
    | returnOk =>
      simp only [sendStep, hs, hres, Bool.false_eq_true, if_false]
      split_ifs with hc
      · exact Or.inl rfl
      · push Not at hc
        exact Or.inr ⟨s, _, rfl, Or.inl rfl, rfl, rfl, rfl, fun _ => Or.inr ⟨rfl, rfl, hc.2.1⟩⟩
    | giveUp =>
      simp only [sendStep, hs, hres, Bool.false_eq_true, if_false]
      split_ifs
      · exact Or.inl rfl
      · exact Or.inr ⟨s, _, rfl, Or.inr rfl, rfl, rfl, rfl, fun hok => absurd hok (by simp)⟩

lemma sendStep_went {p : Party κ}
    (h : (p.sendStep n e).sends[m]? = some s') : ∃ r, p.sends[m]? = some r ∧ Went n m e r s' := by
  have hset : ∀ {s x : Sending κ}, p.sends[n]? = some s → Went n n e s x →
      (p.sends.set n x)[m]? = some s' → ∃ r, p.sends[m]? = some r ∧ Went n m e r s' := by
    intro s x hs hx hx'
    rw [List.getElem?_set] at hx'
    split_ifs at hx' with hmn hlt
    · subst hmn
      obtain rfl := some.inj hx'
      exact ⟨s, hs, hx⟩
    · exact ⟨s', hx', Went.refl n m e s'⟩
  rcases sendStep_cases p n e with heq | ⟨s, x, hs, heq | heq, hx⟩
  · exact ⟨s', heq ▸ h, Went.refl n m e s'⟩
  · rw [heq] at h
    exact hset hs hx h
  · rw [heq] at h
    exact hset hs hx h

lemma sendStep_continues (p : Party κ) (n : ℕ) (e : SendStep) : Continues p (p.sendStep n e) := by
  have hsends : ∀ (m : ℕ) (s' : Sending κ), (p.sendStep n e).sends[m]? = some s' →
      ∃ s, p.sends[m]? = some s ∧ s'.ackKey = s.ackKey ∧ s'.block = s.block := by
    intro m s' hs'
    obtain ⟨s, hs, hwent⟩ := sendStep_went hs'
    exact ⟨s, hs, hwent.ackKey, hwent.block⟩
  rcases sendStep_cases p n e with heq | ⟨s, x, -, heq | heq, -⟩
  · exact heq.symm ▸ Continues.refl p
  · rw [heq] at hsends ⊢
    exact ⟨rfl, length_set, fun _ _ h => h, hsends⟩
  · rw [heq] at hsends ⊢
    refine ⟨rfl, length_set, fun key m h => ?_, hsends⟩
    simp only [setSend, clearPendingAck, Function.update_apply] at h
    split_ifs at h
    exact h

omit [DecidableEq κ] in
lemma transmission_eq_some {p : Party κ}
    (h : p.transmission n e = some b) : ∃ s, p.sends[n]? = some s ∧ b = s.packet := by
  cases e with
  | transmit =>
    obtain ⟨s, hs, hb⟩ := bind_eq_some_iff.mp h
    split_ifs at hb
    exact ⟨s, hs, (some.inj hb).symm⟩
  | _ => exact absurd h (by simp [transmission])

lemma sendStep_sameInbound (p : Party κ) (n : ℕ) (e : SendStep) :
    SameInbound p (p.sendStep n e) := by
  rcases sendStep_cases p n e with heq | ⟨s, x, -, heq | heq, -⟩ <;> rw [heq] <;>
    exact ⟨rfl, rfl, rfl, rfl, rfl⟩

lemma completePendingAck_getElem? {p : Party κ} {key : TxKey κ}
    (h : (p.completePendingAck key).sends[m]? = some s') :
    ∃ s, p.sends[m]? = some s ∧ s'.ackKey = s.ackKey ∧ s'.block = s.block ∧
      s'.result = s.result ∧ (s'.acked = true → s.acked = true ∨ p.pendingAcks key = some m) := by
  unfold completePendingAck at h
  cases hn : p.pendingAcks key with
  | none =>
    simp only [hn] at h
    exact ⟨s', h, rfl, rfl, rfl, Or.inl⟩
  | some n =>
    simp only [hn, List.getElem?_modify] at h
    obtain ⟨s, hs, rfl⟩ := map_eq_some_iff.mp h
    refine ⟨s, hs, ?_⟩
    split_ifs with hnm
    · exact ⟨rfl, rfl, rfl, fun _ => Or.inr (hnm ▸ rfl)⟩
    · exact ⟨rfl, rfl, rfl, Or.inl⟩

lemma completePendingAck_continues (p : Party κ) (key : TxKey κ) :
    Continues p (p.completePendingAck key) := by
  have hsends : ∀ (m : ℕ) (s' : Sending κ), (p.completePendingAck key).sends[m]? = some s' →
      ∃ s, p.sends[m]? = some s ∧ s'.ackKey = s.ackKey ∧ s'.block = s.block := by
    intro m s' hs'
    obtain ⟨s, hs, hkey, hblock, -⟩ := completePendingAck_getElem? hs'
    exact ⟨s, hs, hkey, hblock⟩
  unfold completePendingAck at hsends ⊢
  cases hn : p.pendingAcks key with
  | none => exact Continues.refl p
  | some n =>
    simp only [hn] at hsends
    refine ⟨rfl, length_modify .., fun key' m h => ?_, hsends⟩
    simp only [clearPendingAck, Function.update_apply] at h
    split_ifs at h
    exact h

lemma completePendingAck_sameInbound (p : Party κ) (key : TxKey κ) :
    SameInbound p (p.completePendingAck key) := by
  unfold completePendingAck
  cases p.pendingAcks key <;> exact ⟨rfl, rfl, rfl, rfl, rfl⟩

lemma handleNewDtlsSession_continues (p : Party κ) (k : κ) :
    Continues p (p.handleNewDtlsSession k) := by
  refine ⟨rfl, rfl, fun key n h => ?_, fun n s h => ⟨s, h, rfl, rfl⟩⟩
  simp only [handleNewDtlsSession] at h
  split_ifs at h
  exact h

section StartSend

variable {p p' : Party κ} {k : κ} {b : Bytes}

lemma startSend_eq_ok (h : p.startSend k b = .ok p') :
    ∃ key : TxKey κ, key.txId = p.nextTxId ∧ p' = { p with
      nextTxId := p.nextTxId + 1
      pendingAcks := Function.update p.pendingAcks key (some p.sends.length)
      sends := p.sends ++ [{ block := b, ackKey := key }] } := by
  unfold startSend at h
  split_ifs at h
  exact ⟨⟨k, p.endpointSessions k, p.nextTxId⟩, rfl, (Except.ok.inj h).symm⟩

lemma startSend_sameInbound (h : p.startSend k b = .ok p') : SameInbound p p' := by
  obtain ⟨key, -, rfl⟩ := startSend_eq_ok h
  exact ⟨rfl, rfl, rfl, rfl, rfl⟩

lemma startSend_posted (h : p.startSend k b = .ok p') {n : ℕ} {txId : UInt16} {c : Bytes}
    (hp : p.Posted n txId c) : p'.Posted n txId c := by
  obtain ⟨key, -, rfl⟩ := startSend_eq_ok h
  obtain ⟨s, hs, htx, hb⟩ := hp
  exact ⟨s, List.getElem?_append_left (List.getElem?_eq_some_iff.mp hs).1 ▸ hs, htx, hb⟩

lemma startSend_getElem? (h : p.startSend k b = .ok p') {n : ℕ} {s : Sending κ}
    (hs : p'.sends[n]? = some s) :
    p.sends[n]? = some s ∨
      n = p.sends.length ∧ s.ackKey.txId = p.nextTxId ∧ s.acked = false ∧ s.result = none := by
  obtain ⟨key, hkey, rfl⟩ := startSend_eq_ok h
  simp only [List.getElem?_append] at hs
  split_ifs at hs with hlt
  · exact Or.inl hs
  · obtain ⟨hn, rfl⟩ := List.getElem?_eq_some_iff.mp hs
    simp only [length_cons, length_nil] at hn
    refine Or.inr ⟨by omega, ?_⟩
    rw [getElem_singleton]
    exact ⟨hkey, rfl, rfl⟩

lemma Numbered.startSend (hp : p.Numbered) (h : p.startSend k b = .ok p')
    (hlt : p.sends.length < 2 ^ 16) : p'.Numbered := by
  have htx : ∀ (n : ℕ) (s : Sending κ), p'.sends[n]? = some s →
      s.ackKey.txId = UInt16.ofNat n := by
    intro n s hs
    rcases startSend_getElem? h hs with hs | ⟨rfl, htx, -⟩
    · exact hp.txId n s hs
    · rw [htx, hp.next]
  obtain ⟨key, hkey, rfl⟩ := startSend_eq_ok h
  refine ⟨by simpa using hlt, by simp [hp.next], htx, fun key' n hn => ?_⟩
  simp only [Function.update_apply] at hn
  split_ifs at hn with hkey'
  · obtain rfl := some.inj hn
    exact ⟨_, List.getElem?_concat_length, hkey'.symm⟩
  · obtain ⟨s, hs, hskey⟩ := hp.pending key' n hn
    exact ⟨s, List.getElem?_append_left (List.getElem?_eq_some_iff.mp hs).1 ▸ hs, hskey⟩

end StartSend

/-! ## The receiving side -/

def InHand (p : Party κ) (o : Origin) (b : Bytes) : Prop :=
  (some o, b) ∈ p.handed ∨ ∃ d ∈ p.dispatching, d.origin = some o ∧ d.payload = b

def Passed (p : Party κ) (o : Origin) (b : Bytes) : Prop :=
  (some o, b) ∈ p.handed ∨ ∃ d ∈ p.dispatching, d.recorded = true ∧ d.origin = some o ∧ d.payload = b

structure Grows (p p' : Party κ) : Prop where
  handleMessage : p'.handleMessage = p.handleMessage
  handed : ∀ x ∈ p.handed, x ∈ p'.handed

omit [DecidableEq κ] in
lemma Grows.of_handed {p : Party κ} (hhandler : p'.handleMessage = p.handleMessage)
    (hhanded : p'.handed = p.handed) : Grows p p' := ⟨hhandler, fun _ hx => hhanded ▸ hx⟩

variable (p : Party κ)

lemma receive_grows (k : κ) (d : Datagram) (ackSent : Bool) :
    Grows p (p.receive k d ackSent).1 := by
  unfold receive
  split
  · split_ifs
    · exact ⟨rfl, fun x hx => mem_append_left _ hx⟩
    · exact Grows.of_handed rfl rfl
  · exact Grows.of_handed rfl rfl
  · rename_i txId _
    have hsame := completePendingAck_sameInbound p ⟨k, p.endpointSessions k, txId⟩
    exact Grows.of_handed hsame.handleMessage hsame.handed
  · split_ifs <;> exact Grows.of_handed rfl rfl

variable (d : Dispatch κ)

lemma record_grows : Grows p (p.record d) := by
  unfold record
  split_ifs <;> exact Grows.of_handed rfl rfl

lemma deliver_grows : Grows p (p.deliver d) := by
  unfold deliver
  split_ifs
  · exact ⟨rfl, fun x hx => mem_append_left _ hx⟩
  · exact Grows.of_handed rfl rfl
  · exact Grows.of_handed rfl rfl

lemma record_sameOutbound : SameOutbound p (p.record d) := by
  unfold record
  split_ifs <;> exact ⟨rfl, rfl, rfl⟩

lemma deliver_sameOutbound : SameOutbound p (p.deliver d) := by
  unfold deliver
  split_ifs <;> exact ⟨rfl, rfl, rfl⟩

omit [DecidableEq κ] in
lemma Passed.inHand {p : Party κ} (h : p.Passed o b) : p.InHand o b := by
  rcases h with h | ⟨d, hd, -, ho, hb⟩
  · exact Or.inl h
  · exact Or.inr ⟨d, hd, ho, hb⟩

omit [DecidableEq κ] in
lemma InHand.move {p : Party κ} (h : p.InHand o b) (hhanded : ∀ x ∈ p.handed, x ∈ p'.handed)
    (hdispatching : ∀ d ∈ p.dispatching, ∀ o, d.origin = some o → p'.InHand o d.payload) :
    p'.InHand o b := by
  rcases h with h | ⟨d, hd, ho, rfl⟩
  · exact Or.inl (hhanded _ h)
  · exact hdispatching d hd o ho

omit [DecidableEq κ] in
lemma Passed.move {p : Party κ} (h : p.Passed o b) (hhanded : ∀ x ∈ p.handed, x ∈ p'.handed)
    (hdispatching : ∀ d ∈ p.dispatching, d.recorded = true → ∀ o, d.origin = some o →
      p'.Passed o d.payload) : p'.Passed o b := by
  rcases h with h | ⟨d, hd, hrec, ho, rfl⟩
  · exact Or.inl (hhanded _ h)
  · exact hdispatching d hd hrec o ho

lemma eq_or_mem_erase {ds : List (Dispatch κ)} {d d' : Dispatch κ} (h : d' ∈ ds) :
    d' = d ∨ d' ∈ ds.erase d := by
  by_cases hne : d' = d
  · exact Or.inl hne
  · exact Or.inr ((mem_erase_of_ne hne).mpr h)

end Party

/-- **One direction of a link**, from process `q` with party `S` to the party `R` that knows it
under the key `k`. -/
structure Link {κ : Type*} (k : κ) (q : ℕ) (S R : Party κ) (up down : Set Datagram) : Prop where
  handler : R.handleMessage = true
  data : ∀ d ∈ up, ∃ n txId b, d.origin = some ⟨q, n⟩ ∧ S.Posted n txId b ∧
    d.bytes = buildDataSinglePacket txId b
  dispatching : ∀ d ∈ R.dispatching, ∃ n, d.origin = some ⟨q, n⟩ ∧ d.key.endpoint = k ∧
    S.Posted n d.key.txId d.payload
  /-- an id that can still be looked up belongs to a call whose block has gone to the handler -/
  received : ∀ key ∈ R.receivedSingleBlocks, key.endpoint = k →
    (key.generation = R.endpointSessions k ∨
      ∃ d ∈ R.dispatching, d.key.generation = key.generation) →
    ∃ n b, S.Posted n key.txId b ∧ R.Passed ⟨q, n⟩ b
  acks : ∀ d ∈ down, ∃ n txId b, S.Posted n txId b ∧ d.bytes = ackCompletePacket txId ∧
    R.InHand ⟨q, n⟩ b
  acked : ∀ (n : ℕ) (s : Sending κ), S.sends[n]? = some s → s.acked = true →
    R.InHand ⟨q, n⟩ s.block
  ok : ∀ (n : ℕ) (s : Sending κ), S.sends[n]? = some s → s.result = some (.ok ()) →
    (some ⟨q, n⟩, s.block) ∈ R.handed

namespace Link

variable {κ : Type*} {k : κ} {q : ℕ} {S S' R R' : Party κ} {up up' down down' : Set Datagram}

lemma sender (h : Link k q S R up down)
    (hposted : ∀ {n txId b}, S.Posted n txId b → S'.Posted n txId b)
    (hup : ∀ d ∈ up', d ∈ up ∨ ∃ n txId b, d.origin = some ⟨q, n⟩ ∧ S'.Posted n txId b ∧
      d.bytes = buildDataSinglePacket txId b)
    (hacked : ∀ (n : ℕ) (s : Sending κ), S'.sends[n]? = some s → s.acked = true →
      R.InHand ⟨q, n⟩ s.block)
    (hok : ∀ (n : ℕ) (s : Sending κ), S'.sends[n]? = some s → s.result = some (.ok ()) →
      (some ⟨q, n⟩, s.block) ∈ R.handed) : Link k q S' R up' down where
  handler := h.handler
  data := fun d hd => by
    rcases hup d hd with hd | hd
    · obtain ⟨n, txId, b, ho, hp, hb⟩ := h.data d hd
      exact ⟨n, txId, b, ho, hposted hp, hb⟩
    · exact hd
  dispatching := fun d hd => by
    obtain ⟨n, ho, hk, hp⟩ := h.dispatching d hd
    exact ⟨n, ho, hk, hposted hp⟩
  received := fun key hkey hk hgen => by
    obtain ⟨n, b, hp, hpassed⟩ := h.received key hkey hk hgen
    exact ⟨n, b, hposted hp, hpassed⟩
  acks := fun d hd => by
    obtain ⟨n, txId, b, hp, hb, hin⟩ := h.acks d hd
    exact ⟨n, txId, b, hposted hp, hb, hin⟩
  acked := hacked
  ok := hok

lemma congr (h : Link k q S R up down) (hS : S'.sends = S.sends) (hR : Party.SameInbound R R')
    (hup : up' ⊆ up) (hdown : down' ⊆ down) : Link k q S' R' up' down' := by
  have hposted : ∀ {n txId b}, S.Posted n txId b → S'.Posted n txId b := by
    rintro n txId b ⟨s, hs, hrest⟩
    exact ⟨s, hS ▸ hs, hrest⟩
  have hin : ∀ {o b}, R.InHand o b → R'.InHand o b := by
    intro o b hin
    unfold Party.InHand
    rw [hR.handed, hR.dispatching]
    exact hin
  refine ⟨hR.handleMessage.trans h.handler, ?_, ?_, ?_, ?_, ?_, ?_⟩
  · intro d hd
    obtain ⟨n, txId, b, ho, hp, hb⟩ := h.data d (hup hd)
    exact ⟨n, txId, b, ho, hposted hp, hb⟩
  · rw [hR.dispatching]
    intro d hd
    obtain ⟨n, ho, hk, hp⟩ := h.dispatching d hd
    exact ⟨n, ho, hk, hposted hp⟩
  · rw [hR.received, hR.endpointSessions, hR.dispatching]
    intro key hkey hk hgen
    obtain ⟨n, b, hp, hpassed⟩ := h.received key hkey hk hgen
    refine ⟨n, b, hposted hp, ?_⟩
    unfold Party.Passed
    rw [hR.handed, hR.dispatching]
    exact hpassed
  · intro d hd
    obtain ⟨n, txId, b, hp, hb, hin'⟩ := h.acks d (hdown hd)
    exact ⟨n, txId, b, hposted hp, hb, hin hin'⟩
  · rw [hS]
    exact fun n s hs hacked => hin (h.acked n s hs hacked)
  · rw [hS, hR.handed]
    exact h.ok

section Sending

variable [DecidableEq κ]

lemma startSend (h : Link k q S R up down) {k' : κ} {b : Bytes} (hS : S.startSend k' b = .ok S') :
    Link k q S' R up down := by
  refine h.sender (Party.startSend_posted hS) (fun d hd => Or.inl hd) ?_ ?_
  · intro n s hs hacked
    rcases Party.startSend_getElem? hS hs with hs | ⟨-, -, hfalse, -⟩
    · exact h.acked n s hs hacked
    · exact absurd hacked (by simp [hfalse])
  · intro n s hs hok
    rcases Party.startSend_getElem? hS hs with hs | ⟨-, -, -, hnone⟩
    · exact h.ok n s hs hok
    · exact absurd hok (by simp [hnone])

lemma sendStep (h : Link k q S R up down) (n : ℕ) (e : Party.SendStep)
    (hok : e = .returnOk → ∀ s ∈ S.sends[n]?, ∀ d ∈ R.dispatching,
      d.key.txId ≠ s.ackKey.txId)
    (hup : ∀ d ∈ up', d ∈ up ∨ ∃ s, S.sends[n]? = some s ∧ d = ⟨s.packet, some ⟨q, n⟩⟩) :
    Link k q (S.sendStep n e) R up' down := by
  have hcont := Party.sendStep_continues S n e
  refine h.sender hcont.posted (fun d hd => ?_) ?_ ?_
  · rcases hup d hd with hd | ⟨s, hs, rfl⟩
    · exact Or.inl hd
    · exact Or.inr ⟨n, _, _, rfl, hcont.posted ⟨s, hs, rfl, rfl⟩, rfl⟩
  · intro m s' hs' hacked
    obtain ⟨s, hs, hwent⟩ := Party.sendStep_went hs'
    rw [hwent.block]
    exact h.acked m s hs (hwent.acked ▸ hacked)
  · intro m s' hs' hres
    obtain ⟨s, hs, hwent⟩ := Party.sendStep_went hs'
    rw [hwent.block]
    rcases hwent.ok hres with hres | ⟨rfl, he, hacked⟩
    · exact h.ok m s hs hres
    · rcases h.acked m s hs hacked with hin | ⟨d, hd, ho, hb⟩
      · exact hin
      · obtain ⟨n', ho', -, s₀, hs₀, htx, -⟩ := h.dispatching d hd
        rw [ho] at ho'
        obtain rfl : m = n' := by simpa using ho'
        rw [hs] at hs₀
        obtain rfl := some.inj hs₀
        exact absurd htx.symm (hok he s hs d hd)

lemma completePendingAck (h : Link k q S R up down) (hnum : S.Numbered) {d : Datagram}
    (hd : d ∈ down) {txId : UInt16} (hparse : parsePacket d.bytes = some (.ackComplete txId))
    {k' : κ} {g : ℕ} : Link k q (S.completePendingAck ⟨k', g, txId⟩) R up down := by
  have hcont := Party.completePendingAck_continues S ⟨k', g, txId⟩
  refine h.sender hcont.posted (fun d hd => Or.inl hd) ?_ ?_
  · intro m s' hs' hacked
    obtain ⟨s, hs, -, hblock, -, hflag⟩ := Party.completePendingAck_getElem? hs'
    rw [hblock]
    rcases hflag hacked with hacked | hpend
    · exact h.acked m s hs hacked
    · -- the call that waits is the one the acknowledgement is for
      obtain ⟨n, txId', b, hp, hb, hin⟩ := h.acks d hd
      rw [hb, parsePacket_ackCompletePacket] at hparse
      obtain rfl : txId' = txId := by simpa using hparse
      obtain ⟨s₀, hs₀, hkey⟩ := hnum.pending _ m hpend
      rw [hs] at hs₀
      obtain rfl := some.inj hs₀
      obtain ⟨rfl, rfl⟩ := hnum.posted_inj hp ⟨s, hs, by rw [hkey], rfl⟩
      exact hin
  · intro m s' hs' hres
    obtain ⟨s, hs, -, hblock, hresult, -⟩ := Party.completePendingAck_getElem? hs'
    rw [hblock]
    exact h.ok m s hs (hresult ▸ hres)

end Sending

lemma receiver (h : Link k q S R up down) (hhandler : R'.handleMessage = R.handleMessage)
    (hhanded : ∀ x ∈ R.handed, x ∈ R'.handed)
    (hin : ∀ {n b}, R.InHand ⟨q, n⟩ b → R'.InHand ⟨q, n⟩ b)
    (hdispatching : ∀ d ∈ R'.dispatching, ∃ n, d.origin = some ⟨q, n⟩ ∧ d.key.endpoint = k ∧
      S.Posted n d.key.txId d.payload)
    (hreceived : ∀ key ∈ R'.receivedSingleBlocks, key.endpoint = k →
      (key.generation = R'.endpointSessions k ∨
        ∃ d ∈ R'.dispatching, d.key.generation = key.generation) →
      ∃ n b, S.Posted n key.txId b ∧ R'.Passed ⟨q, n⟩ b)
    (hdown : ∀ d ∈ down', d ∈ down ∨ ∃ n txId b, S.Posted n txId b ∧
      d.bytes = ackCompletePacket txId ∧ R'.InHand ⟨q, n⟩ b) : Link k q S R' up down' where
  handler := hhandler.trans h.handler
  data := h.data
  dispatching := hdispatching
  received := hreceived
  acks := fun d hd => by
    rcases hdown d hd with hd | hd
    · obtain ⟨n, txId, b, hp, hb, hin'⟩ := h.acks d hd
      exact ⟨n, txId, b, hp, hb, hin hin'⟩
    · exact hd
  acked := fun n s hs hacked => hin (h.acked n s hs hacked)
  ok := fun n s hs hok => hhanded _ (h.ok n s hs hok)

section Receiving

variable [DecidableEq κ]

lemma receive (h : Link k q S R up down) {d : Datagram} (hd : d ∈ up)
    (hdown : ∀ a ∈ down', a ∈ down ∨ (R.receive k d true).2 = some a) :
    Link k q S (R.receive k d true).1 up down' := by
  obtain ⟨n, txId, b, ho, hp, hb⟩ := h.data d hd
  have hreceive : R.receive k d true = ({ R with dispatching :=
      ⟨⟨k, R.endpointSessions k, txId⟩, b, false, d.origin⟩ :: R.dispatching },
      some { bytes := ackCompletePacket txId }) := by
    simp [Party.receive, hb]
  rw [hreceive] at hdown ⊢
  refine h.receiver rfl (fun x hx => hx) ?_ ?_ ?_ ?_
  · exact fun hin => hin.move (fun x hx => hx) fun d' hd' o ho' =>
      Or.inr ⟨d', mem_cons_of_mem _ hd', ho', rfl⟩
  · intro d' hd'
    rcases mem_cons.mp hd' with rfl | hd'
    · exact ⟨n, ho, rfl, hp⟩
    · exact h.dispatching d' hd'
  · intro key hkey hk hgen
    have hgen' : key.generation = R.endpointSessions k ∨
        ∃ d ∈ R.dispatching, d.key.generation = key.generation := by
      rcases hgen with hgen | ⟨d', hd', hgen⟩
      · exact Or.inl hgen
      · rcases mem_cons.mp hd' with rfl | hd'
        · exact Or.inl hgen.symm
        · exact Or.inr ⟨d', hd', hgen⟩
    obtain ⟨m, c, hpm, hpassed⟩ := h.received key hkey hk hgen'
    exact ⟨m, c, hpm, hpassed.move (fun x hx => hx) fun d' hd' hrec o ho' =>
      Or.inr ⟨d', mem_cons_of_mem _ hd', hrec, ho', rfl⟩⟩
  · intro a ha
    rcases hdown a ha with ha | ha
    · exact Or.inl ha
    · obtain rfl := some.inj ha
      exact Or.inr ⟨n, txId, b, hp, rfl, Or.inr ⟨_, mem_cons_self .., ho, rfl⟩⟩

/-- A dispatch enters its id in the table, or finds it there and ends.  In the second case the
block has already gone to the handler: the id in the table is that of the same call. -/
lemma record (h : Link k q S R up down) (hnum : S.Numbered) (d : Dispatch κ) :
    Link k q S (R.record d) up down := by
  unfold Party.record
  split_ifs with hd hknown
  · -- a known id
    obtain ⟨hmem, hrec⟩ := hd
    obtain ⟨n, ho, hk, hp⟩ := h.dispatching d hmem
    obtain ⟨n', b', hp', hpassed⟩ := h.received d.key hknown hk (Or.inr ⟨d, hmem, rfl⟩)
    obtain ⟨rfl, rfl⟩ := hnum.posted_inj hp hp'
    have hkeep : ∀ {o c}, R.Passed o c →
        ({ R with dispatching := R.dispatching.erase d } : Party κ).Passed o c := by
      refine fun hin => hin.move (fun x hx => hx) fun d' hd' hrec' o ho' => ?_
      rcases Party.eq_or_mem_erase (d := d) hd' with rfl | hd'
      · simp [hrec] at hrec'
      · exact Or.inr ⟨d', hd', hrec', ho', rfl⟩
    refine h.receiver rfl (fun x hx => hx) ?_ ?_ ?_ fun a ha => Or.inl ha
    · refine fun hin => hin.move (fun x hx => hx) fun d' hd' o ho' => ?_
      rcases Party.eq_or_mem_erase (d := d) hd' with rfl | hd'
      · rw [ho] at ho'
        exact some.inj ho' ▸ (hkeep hpassed).inHand
      · exact Or.inr ⟨d', hd', ho', rfl⟩
    · exact fun d' hd' => h.dispatching d' (mem_of_mem_erase hd')
    · intro key hkey hk' hgen
      obtain ⟨m, c, hpm, hpassed'⟩ := h.received key hkey hk' (hgen.imp_right
        fun ⟨d', hd', hg⟩ => ⟨d', mem_of_mem_erase hd', hg⟩)
      exact ⟨m, c, hpm, hkeep hpassed'⟩
  · -- a new one
    obtain ⟨hmem, hrec⟩ := hd
    obtain ⟨n, ho, hk, hp⟩ := h.dispatching d hmem
    refine h.receiver rfl (fun x hx => hx) ?_ ?_ ?_ fun a ha => Or.inl ha
    · refine fun hin => hin.move (fun x hx => hx) fun d' hd' o ho' => ?_
      rcases Party.eq_or_mem_erase (d := d) hd' with rfl | hd'
      · exact Or.inr ⟨_, mem_cons_self .., ho', rfl⟩
      · exact Or.inr ⟨d', mem_cons_of_mem _ hd', ho', rfl⟩
    · intro d' hd'
      rcases mem_cons.mp hd' with rfl | hd'
      · exact ⟨n, ho, hk, hp⟩
      · exact h.dispatching d' (mem_of_mem_erase hd')
    · intro key hkey hk' hgen
      rcases Finset.mem_insert.mp hkey with rfl | hkey
      · exact ⟨n, d.payload, hp, Or.inr ⟨_, mem_cons_self .., rfl, ho, rfl⟩⟩
      · have hgen' : key.generation = R.endpointSessions k ∨
            ∃ d ∈ R.dispatching, d.key.generation = key.generation := by
          rcases hgen with hgen | ⟨d', hd', hgen⟩
          · exact Or.inl hgen
          · rcases mem_cons.mp hd' with rfl | hd'
            · exact Or.inr ⟨d, hmem, hgen⟩
            · exact Or.inr ⟨d', mem_of_mem_erase hd', hgen⟩
        obtain ⟨m, c, hpm, hpassed⟩ := h.received key hkey hk' hgen'
        refine ⟨m, c, hpm, hpassed.move (fun x hx => hx) fun d' hd' hrec' o ho' => ?_⟩
        rcases Party.eq_or_mem_erase (d := d) hd' with rfl | hd'
        · simp [hrec] at hrec'
        · exact Or.inr ⟨d', mem_cons_of_mem _ hd', hrec', ho', rfl⟩
  · exact h

lemma deliver (h : Link k q S R up down) (d : Dispatch κ) : Link k q S (R.deliver d) up down := by
  unfold Party.deliver
  split_ifs with hd hhandler
  · obtain ⟨hmem, hrec⟩ := hd
    obtain ⟨n, ho, -⟩ := h.dispatching d hmem
    have hhanded : ∀ x ∈ R.handed, x ∈ R.handed ++ [(d.origin, d.payload)] :=
      fun x hx => mem_append_left _ hx
    have hself : (d.origin, d.payload) ∈ R.handed ++ [(d.origin, d.payload)] := by simp
    refine h.receiver rfl hhanded ?_ ?_ ?_ fun a ha => Or.inl ha
    · refine fun hin => hin.move hhanded fun d' hd' o ho' => ?_
      rcases Party.eq_or_mem_erase (d := d) hd' with rfl | hd'
      · exact Or.inl (ho' ▸ hself)
      · exact Or.inr ⟨d', hd', ho', rfl⟩
    · exact fun d' hd' => h.dispatching d' (mem_of_mem_erase hd')
    · intro key hkey hk' hgen
      obtain ⟨m, c, hpm, hpassed⟩ := h.received key hkey hk' (hgen.imp_right
        fun ⟨d', hd', hg⟩ => ⟨d', mem_of_mem_erase hd', hg⟩)
      refine ⟨m, c, hpm, hpassed.move hhanded fun d' hd' hrec' o ho' => ?_⟩
      rcases Party.eq_or_mem_erase (d := d) hd' with rfl | hd'
      · exact Or.inl (ho' ▸ hself)
      · exact Or.inr ⟨d', hd', hrec', ho', rfl⟩
  · exact absurd h.handler hhandler
  · exact h

lemma newSession (h : Link k q S R up down) : Link k q S (R.handleNewDtlsSession k) up down := by
  refine h.receiver rfl (fun x hx => hx) (fun hin => hin) h.dispatching ?_ fun a ha => Or.inl ha
  intro key hkey hk
  exact absurd hk (Finset.mem_filter.mp hkey).2

end Receiving

end Link

end Bingle.Frpt
