import Bingle.Dtls.Peers
import Bingle.Frpt.Link
import Bingle.Lib.Run

/-!
# A sender that restarts

A sender's process starts again on the same endpoint: its transaction ids start from 0, and it
completes a new handshake.  The receiver's table of received ids is emptied by one branch of the
DTLS accept path only.  `Host` couples `Dtls.Endpoint` and the transport on the receiver; on the
sender's side there is one party for each process.
-/

namespace Bingle.Frpt

open List Option
open Function (update_of_ne update_self)
open Lib (run Along)
open Dtls (SessionId)

structure Host where
  endpoint : Dtls.Endpoint := {}
  receiver : Party Unit
  sender : ℕ → Party Unit
  process : ℕ := 0
  partner : SessionId → Option ℕ := fun _ => none
  latest : Option ℕ := none
  up : List (SessionId × Datagram) := []
  down : List (SessionId × Datagram) := []

namespace Host

inductive Event
  | dtls (e : Dtls.Event)
  | restart (mtu : ℕ) (retryDelays : List ℕ)
  | send (block : Bytes)
  /-- the thread of call `n`; what it transmits goes over session `s` -/
  | thread (n : ℕ) (e : Party.SendStep) (s : SessionId)
  | senderSession
  | dispatch (s : SessionId) (d : Datagram) (ackSent : Bool)
  | record (d : Dispatch Unit)
  | deliver (d : Dispatch Unit)
  | ack (s : SessionId) (d : Datagram)

abbrev current (w : Host) : Party Unit := w.sender w.process

def act (w : Host) (p : Party Unit) (out : List (SessionId × Datagram)) : Host :=
  { w with sender := Function.update w.sender w.process p, up := out ++ w.up }

def actReceiver (w : Host) (p : Party Unit) (out : List (SessionId × Datagram)) : Host :=
  { w with receiver := p, down := out ++ w.down }

def hook (endpoint : Dtls.Endpoint) : Dtls.Event → Bool
  | .packet isClientHello designated =>
    (Dtls.handleDtlsAcceptPacket endpoint.entry isClientHello designated endpoint.started
      endpoint.started).newSession
  | _ => false

def completed (endpoint : Dtls.Endpoint) : Dtls.Event → Option SessionId
  | .handshakeCompletes s _ _ =>
    if (endpoint.session s).map Dtls.Session.phase = some .handshaking then some s else none
  | _ => none

def connect (w : Host) (s : SessionId) : Host :=
  { w with
    partner := Function.update w.partner s (some w.process)
    latest := some w.process }

def reads (endpoint : Dtls.Endpoint) (s : SessionId) : Bool :=
  (endpoint.session s).map Dtls.Session.phase = some .reading ∧
    ∃ ps ∈ endpoint.entry, ps.issuer ≠ ""

def writes (endpoint : Dtls.Endpoint) : Option SessionId :=
  match endpoint.entry.bind Dtls.PeerState.writer with
  | some (.stream s) => some s
  | _ => none

def step (w : Host) : Event → Host
  | .dtls e =>
    let receiver := if hook w.endpoint e then w.receiver.handleNewDtlsSession () else w.receiver
    let w' := { w with endpoint := w.endpoint.step e, receiver }
    match completed w.endpoint e with
    | some s => w'.connect s
    | none => w'
  | .restart mtu retryDelays =>
    { w with
      process := w.process + 1
      sender := Function.update w.sender (w.process + 1) { mtu, retryDelays } }
  | .send block =>
    match w.current.startSend () block with
    | .ok p => w.act p []
    | .error _ => w
  | .thread n e s =>
    match w.current.transmission n e with
    | none => w.act (w.current.sendStep n e) []
    | some bytes =>
      if w.partner s = some w.process then
        w.act (w.current.sendStep n e) [(s, ⟨bytes, some ⟨w.process, n⟩⟩)]
      else w
  | .senderSession => w.act (w.current.handleNewDtlsSession ()) []
  | .dispatch s d ackSent =>
    if (s, d) ∈ w.up ∧ reads w.endpoint s then
      let outlet := if ackSent then writes w.endpoint else none
      let r := w.receiver.receive () d outlet.isSome
      w.actReceiver r.1 (outlet.toList.flatMap fun s' => r.2.toList.map fun a => (s', a))
    else w
  | .record d => w.actReceiver (w.receiver.record d) []
  | .deliver d => w.actReceiver (w.receiver.deliver d) []
  | .ack s d =>
    if (s, d) ∈ w.down ∧ w.partner s = some w.process then
      w.act (w.current.receive () d true).1 []
    else w

def init (mtu : ℕ) (retryDelays : List ℕ) : Host where
  receiver := { mtu, retryDelays, handleMessage := true }
  sender := fun _ => { mtu, retryDelays }

/-! ## The condition -/

/-- The condition on a step.

* A process makes at most `2 ^ 16` calls.
* When it completes its first handshake, the receiver's table has no id under the generation the
  endpoint has, and no dispatch is under way.
* A packet is dispatched only if its session is with the process that completed a handshake last,
  and is the one the entry writes to.
* A call that returns `Ok` finds no dispatch of its id under way. -/
def Clean (w : Host) : Event → Prop
  | .send _ => w.current.sends.length < 2 ^ 16
  | .dtls e => completed w.endpoint e ≠ none → w.latest ≠ some w.process →
      w.receiver.dispatching = [] ∧ ∀ key ∈ w.receiver.receivedSingleBlocks,
        key.generation ≠ w.receiver.endpointSessions ()
  | .dispatch s _ _ => w.partner s = w.latest ∧ writes w.endpoint = some s
  | .thread n .returnOk _ => ∀ s ∈ w.current.sends[n]?, ∀ d ∈ w.receiver.dispatching,
      d.key.txId ≠ s.ackKey.txId
  | _ => True

instance (w : Host) : ∀ e, Decidable (w.Clean e)
  | .send _ => inferInstanceAs (Decidable (_ < _))
  | .dtls _ => inferInstanceAs (Decidable (_ ≠ _ → _ ≠ _ → _ ∧ ∀ _ ∈ _, _ ≠ _))
  | .dispatch _ _ _ => inferInstanceAs (Decidable (_ ∧ _))
  | .thread _ .returnOk _ => inferInstanceAs (Decidable (∀ _ ∈ _, ∀ _ ∈ _, _ ≠ _))
  | .thread _ .transmit _ | .thread _ (.sendFails _) _ | .thread _ .timeout _
  | .thread _ .giveUp _ | .restart _ _ | .senderSession | .record _ | .deliver _ | .ack _ _ =>
    isTrue trivial

/-! ## The invariant -/

def upSet (w : Host) : Set Datagram := {d | ∃ s, (s, d) ∈ w.up ∧ w.partner s = some w.process}

def downSet (w : Host) : Set Datagram := {d | ∃ s, (s, d) ∈ w.down ∧ w.partner s = some w.process}

structure Sessions (w : Host) : Prop where
  fresh : w.endpoint.Fresh
  settled : ∀ s, w.partner s ≠ none → w.endpoint.Settled s
  partner_le : ∀ s q, w.partner s = some q → q ≤ w.process
  latest_le : ∀ q, w.latest = some q → q ≤ w.process
  connected : ∀ s, w.partner s = some w.process → w.latest = some w.process
  up : ∀ x ∈ w.up, w.partner x.1 ≠ none
  down : ∀ x ∈ w.down, w.partner x.1 ≠ none

/-- What has happened to the calls.  Before its first handshake the current process has heard of no
acknowledgement; from then on it is linked to the receiver. -/
structure Calls (w : Host) : Prop where
  handler : w.receiver.handleMessage = true
  numbered : w.current.Numbered
  unborn : ∀ q, w.process < q → (w.sender q).sends = []
  past : ∀ q < w.process, ∀ (n : ℕ) (s : Sending Unit), (w.sender q).sends[n]? = some s →
    s.result = some (.ok ()) → (some ⟨q, n⟩, s.block) ∈ w.receiver.handed
  link : w.latest = some w.process →
    Link () w.process w.current w.receiver w.upSet w.downSet
  silent : w.latest ≠ some w.process → ∀ (n : ℕ) (s : Sending Unit), w.current.sends[n]? = some s →
    s.acked = false ∧ s.result ≠ some (.ok ())

@[simp] lemma act_current (w : Host) (p : Party Unit) (out : List (SessionId × Datagram)) :
    (w.act p out).current = p := update_self ..

@[simp] lemma act_upSet_nil (w : Host) (p : Party Unit) : (w.act p []).upSet = w.upSet := rfl

@[simp] lemma actReceiver_downSet_nil (w : Host) (p : Party Unit) :
    (w.actReceiver p []).downSet = w.downSet := rfl

section Sound

variable {w : Host} {p : Party Unit} {out : List (SessionId × Datagram)}

lemma Sessions.act (h : w.Sessions) (hout : ∀ x ∈ out, w.partner x.1 ≠ none) :
    (w.act p out).Sessions := by
  refine ⟨h.fresh, h.settled, h.partner_le, h.latest_le, h.connected, fun x hx => ?_, h.down⟩
  rcases mem_append.mp hx with hx | hx
  · exact hout x hx
  · exact h.up x hx

lemma Sessions.actReceiver (h : w.Sessions) (hout : ∀ x ∈ out, w.partner x.1 ≠ none) :
    (w.actReceiver p out).Sessions := by
  refine ⟨h.fresh, h.settled, h.partner_le, h.latest_le, h.connected, h.up, fun x hx => ?_⟩
  rcases mem_append.mp hx with hx | hx
  · exact hout x hx
  · exact h.down x hx

lemma Calls.act (h : w.Calls) (hnum : p.Numbered) (hlink : w.latest = some w.process →
      Link () w.process p w.receiver (w.act p out).upSet w.downSet)
    (hsilent : w.latest ≠ some w.process → ∀ (n : ℕ) (s : Sending Unit), p.sends[n]? = some s →
      s.acked = false ∧ s.result ≠ some (.ok ())) : (w.act p out).Calls where
  handler := h.handler
  numbered := by rwa [act_current]
  unborn := fun q hq => by
    have hne : q ≠ w.process := Nat.ne_of_gt hq
    simp only [Host.act, update_of_ne hne]
    exact h.unborn q hq
  past := fun q hq n s hs hok => by
    have hne : q ≠ w.process := Nat.ne_of_lt hq
    simp only [Host.act, update_of_ne hne] at hs
    exact h.past q hq n s hs hok
  link := fun hl => by
    rw [act_current]
    exact hlink hl
  silent := fun hl => by
    rw [act_current]
    exact hsilent hl

lemma Calls.actReceiver (h : w.Calls) (hgrows : Party.Grows w.receiver p)
    (hlink : w.latest = some w.process →
      Link () w.process w.current p w.upSet (w.actReceiver p out).downSet) :
    (w.actReceiver p out).Calls where
  handler := hgrows.handleMessage.trans h.handler
  numbered := h.numbered
  unborn := h.unborn
  past := fun q hq n s hs hok => hgrows.handed _ (h.past q hq n s hs hok)
  link := hlink
  silent := h.silent

lemma Sessions.dtls (h : w.Sessions) (e : Dtls.Event) :
    ({ w with endpoint := w.endpoint.step e, receiver := p } : Host).Sessions :=
  ⟨h.fresh.step e, fun s hs => (h.settled s hs).step h.fresh e, h.partner_le, h.latest_le,
    h.connected, h.up, h.down⟩

variable {s : SessionId} {endpoint : Dtls.Endpoint} {e : Dtls.Event}

lemma Sessions.connect (h : w.Sessions) (hs : w.partner s = none)
    (hsettled : w.endpoint.Settled s) : (w.connect s).Sessions where
  fresh := h.fresh
  settled := fun r hr => by
    by_cases hrs : r = s
    · exact hrs ▸ hsettled
    · simp only [Host.connect, update_of_ne hrs] at hr
      exact h.settled r hr
  partner_le := fun r q hr => by
    by_cases hrs : r = s
    · subst hrs
      simp only [Host.connect, update_self, some.injEq] at hr
      exact hr.ge
    · simp only [Host.connect, update_of_ne hrs] at hr
      exact h.partner_le r q hr
  latest_le := fun q hq => (some.inj hq).ge
  connected := fun _ _ => rfl
  up := fun x hx => by
    have hne : x.1 ≠ s := fun heq => h.up x hx (heq ▸ hs)
    simp only [Host.connect, update_of_ne hne]
    exact h.up x hx
  down := fun x hx => by
    have hne : x.1 ≠ s := fun heq => h.down x hx (heq ▸ hs)
    simp only [Host.connect, update_of_ne hne]
    exact h.down x hx

lemma connect_sets (h : w.Sessions) (hs : w.partner s = none) :
    (w.connect s).upSet = w.upSet ∧ (w.connect s).downSet = w.downSet := by
  have hup : ∀ r d, (r, d) ∈ w.up → r ≠ s := fun r d hx heq => h.up _ hx (heq ▸ hs)
  have hdown : ∀ r d, (r, d) ∈ w.down → r ≠ s := fun r d hx heq => h.down _ hx (heq ▸ hs)
  constructor
  · ext d
    constructor
    · rintro ⟨r, hr, hp⟩
      simp only [Host.connect, update_of_ne (hup r d hr)] at hp
      exact ⟨r, hr, hp⟩
    · rintro ⟨r, hr, hp⟩
      refine ⟨r, hr, ?_⟩
      simpa only [Host.connect, update_of_ne (hup r d hr)] using hp
  · ext d
    constructor
    · rintro ⟨r, hr, hp⟩
      simp only [Host.connect, update_of_ne (hdown r d hr)] at hp
      exact ⟨r, hr, hp⟩
    · rintro ⟨r, hr, hp⟩
      refine ⟨r, hr, ?_⟩
      simpa only [Host.connect, update_of_ne (hdown r d hr)] using hp

lemma Calls.connect (h : w.Calls) (hsess : w.Sessions) (hs : w.partner s = none)
    (hclean : w.latest ≠ some w.process → w.receiver.dispatching = [] ∧
      ∀ key ∈ w.receiver.receivedSingleBlocks, key.generation ≠ w.receiver.endpointSessions ()) :
    (w.connect s).Calls where
  handler := h.handler
  numbered := h.numbered
  unborn := h.unborn
  past := h.past
  link := fun _ => by
    obtain ⟨hup, hdown⟩ := connect_sets hsess hs
    rw [hup, hdown]
    by_cases hl : w.latest = some w.process
    · exact h.link hl
    · obtain ⟨hidle, htable⟩ := hclean hl
      have hno : ∀ r, w.partner r ≠ some w.process := fun r hr => hl (hsess.connected r hr)
      refine ⟨h.handler, ?_, ?_, ?_, ?_, ?_, ?_⟩
      · rintro d ⟨r, -, hr⟩
        exact absurd hr (hno r)
      · intro d hd
        have hd' : d ∈ w.receiver.dispatching := hd
        rw [hidle] at hd'
        exact absurd hd' (by simp)
      · rintro key hkey - (hgen | ⟨d, hd, -⟩)
        · exact absurd hgen (htable key hkey)
        · have hd' : d ∈ w.receiver.dispatching := hd
          rw [hidle] at hd'
          exact absurd hd' (by simp)
      · rintro d ⟨r, -, hr⟩
        exact absurd hr (hno r)
      · intro n c hc hacked
        exact absurd hacked (by simp [(h.silent hl n c hc).1])
      · intro n c hc hok
        exact absurd hok (h.silent hl n c hc).2
  silent := fun hl => absurd rfl hl

lemma completed_eq_some (h : completed endpoint e = some s) :
    ¬ endpoint.Settled s ∧ (endpoint.step e).Settled s := by
  cases e with
  | handshakeCompletes r cipher v =>
    simp only [completed] at h
    split_ifs at h with hphase
    obtain rfl := some.inj h
    obtain ⟨se, hse, hyoung⟩ := map_eq_some_iff.mp hphase
    refine ⟨?_, ?_⟩
    · rintro ⟨se', hse', hne⟩
      rw [hse] at hse'
      exact hne (some.inj hse' ▸ hyoung)
    · simp only [Dtls.Endpoint.step, hse, hyoung, if_true]
      exact ⟨_, update_self .., by simp⟩
  | _ => exact absurd h (by simp [completed])

lemma hook_of_completed (h : completed endpoint e = some s) : hook endpoint e = false := by
  cases e with
  | handshakeCompletes r cipher v => rfl
  | _ => exact absurd h (by simp [completed])

/-! ## The steps -/

def Sound (w : Host) : Prop := w.Sessions ∧ w.Calls

lemma Sound.dtls (h : w.Sound) (e : Dtls.Event) (hclean : w.Clean (.dtls e)) :
    (w.step (.dtls e)).Sound := by
  obtain ⟨hsess, hcalls⟩ := h
  have hsess' := hsess.dtls (p := if hook w.endpoint e then w.receiver.handleNewDtlsSession ()
    else w.receiver) e
  have hcalls' : ({ w with endpoint := w.endpoint.step e, receiver := if hook w.endpoint e then
      w.receiver.handleNewDtlsSession () else w.receiver } : Host).Calls := by
    refine ⟨?_, hcalls.numbered, hcalls.unborn, ?_, fun hl => ?_, hcalls.silent⟩
    · split_ifs <;> exact hcalls.handler
    · intro q hq n s hs hok
      have hin := hcalls.past q hq n s hs hok
      split_ifs <;> exact hin
    · split_ifs
      · exact (hcalls.link hl).newSession
      · exact hcalls.link hl
  simp only [step]
  split
  · rename_i s hs
    obtain ⟨hyoung, hsettled⟩ := completed_eq_some hs
    have hnone : w.partner s = none := by
      by_contra hne
      exact hyoung (hsess.settled s hne)
    refine ⟨hsess'.connect hnone hsettled, hcalls'.connect hsess' hnone fun hl => ?_⟩
    simpa only [hook_of_completed hs, Bool.false_eq_true, if_false] using
      hclean (by simp [hs]) hl
  · exact ⟨hsess', hcalls'⟩

lemma Sound.restart (h : w.Sound) (mtu : ℕ) (retryDelays : List ℕ) :
    (w.step (.restart mtu retryDelays)).Sound := by
  obtain ⟨hsess, hcalls⟩ := h
  have hpartner : ∀ s, w.partner s ≠ some (w.process + 1) := by
    intro s hs
    exact absurd (hsess.partner_le s _ hs) (by omega)
  have hlatest : w.latest ≠ some (w.process + 1) := by
    intro hl
    exact absurd (hsess.latest_le _ hl) (by omega)
  have hcurrent : (w.step (.restart mtu retryDelays)).current = { mtu, retryDelays } :=
    update_self ..
  refine ⟨⟨hsess.fresh, hsess.settled, ?_, ?_, ?_, hsess.up, hsess.down⟩, hcalls.handler, ?_, ?_, ?_,
    fun hl => absurd hl hlatest, ?_⟩
  · exact fun s q hs => Nat.le_succ_of_le (hsess.partner_le s q hs)
  · exact fun q hq => Nat.le_succ_of_le (hsess.latest_le q hq)
  · exact fun s hs => absurd hs (hpartner s)
  · rw [hcurrent]
    exact ⟨by simp, rfl, by simp, by simp⟩
  · intro q hq
    have hlt : w.process + 1 < q := hq
    simp only [step, update_of_ne hlt.ne']
    exact hcalls.unborn q (by omega)
  · intro q hq n s hs hok
    have hle : q < w.process + 1 := hq
    simp only [step, update_of_ne hle.ne] at hs
    rcases Nat.lt_succ_iff_lt_or_eq.mp hle with hlt | rfl
    · exact hcalls.past q hlt n s hs hok
    · -- the process that has just ended
      by_cases hl : w.latest = some w.process
      · exact (hcalls.link hl).ok n s hs hok
      · exact absurd hok (hcalls.silent hl n s hs).2
  · intro _ n s hs
    rw [hcurrent] at hs
    exact absurd hs (by simp)

lemma Sound.send (h : w.Sound) (block : Bytes) (hclean : w.Clean (.send block)) :
    (w.step (.send block)).Sound := by
  obtain ⟨hsess, hcalls⟩ := h
  simp only [step]
  split
  · rename_i p hp
    refine ⟨hsess.act (by simp), hcalls.act (hcalls.numbered.startSend hp hclean)
      (fun hl => (hcalls.link hl).startSend hp) ?_⟩
    intro hl n s hs
    rcases Party.startSend_getElem? hp hs with hs | ⟨-, -, hfalse, hnone⟩
    · exact hcalls.silent hl n s hs
    · exact ⟨hfalse, by simp [hnone]⟩
  · exact ⟨hsess, hcalls⟩

lemma Sound.thread (h : w.Sound) (n : ℕ) (e : Party.SendStep) (s : SessionId)
    (hclean : w.Clean (.thread n e s)) : (w.step (.thread n e s)).Sound := by
  obtain ⟨hsess, hcalls⟩ := h
  have hnum := (Party.sendStep_continues w.current n e).numbered hcalls.numbered
  have hsilent : w.latest ≠ some w.process → ∀ (m : ℕ) (c : Sending Unit),
      (w.current.sendStep n e).sends[m]? = some c → c.acked = false ∧ c.result ≠ some (.ok ()) := by
    intro hl m c hc
    obtain ⟨r, hr, hwent⟩ := Party.sendStep_went hc
    obtain ⟨hfalse, hne⟩ := hcalls.silent hl m r hr
    refine ⟨hwent.acked.trans hfalse, fun hok => ?_⟩
    rcases hwent.ok hok with hok | ⟨-, -, hacked⟩
    · exact hne hok
    · simp [hfalse] at hacked
  have hlink : ∀ {up : Set Datagram}, (∀ d ∈ up, d ∈ w.upSet ∨
      ∃ c, w.current.sends[n]? = some c ∧ d = ⟨c.packet, some ⟨w.process, n⟩⟩) →
      w.latest = some w.process →
      Link () w.process (w.current.sendStep n e) w.receiver up w.downSet := by
    intro up hup hl
    refine (hcalls.link hl).sendStep n e ?_ hup
    rintro rfl
    exact hclean
  simp only [step]
  cases hbytes : w.current.transmission n e with
  | none =>
    exact ⟨hsess.act (by simp), hcalls.act hnum (hlink fun d hd => Or.inl hd) hsilent⟩
  | some bytes =>
    dsimp only
    split_ifs with hpartner
    · refine ⟨hsess.act (by simp [hpartner]), hcalls.act hnum (hlink ?_) hsilent⟩
      rintro d ⟨r, hr, hrp⟩
      rcases mem_append.mp hr with hr | hr
      · obtain ⟨c, hc, rfl⟩ := Party.transmission_eq_some hbytes
        obtain ⟨-, rfl⟩ := Prod.mk.inj (mem_singleton.mp hr)
        exact Or.inr ⟨c, hc, rfl⟩
      · exact Or.inl ⟨r, hr, hrp⟩
    · exact ⟨hsess, hcalls⟩

lemma Sound.senderSession (h : w.Sound) : (w.step .senderSession).Sound := by
  obtain ⟨hsess, hcalls⟩ := h
  have hcont := Party.handleNewDtlsSession_continues w.current ()
  refine ⟨hsess.act (by simp), hcalls.act (hcont.numbered hcalls.numbered) (fun hl => ?_)
    fun hl => hcalls.silent hl⟩
  exact (hcalls.link hl).congr rfl (.refl _) subset_rfl subset_rfl

lemma Sound.dispatch (h : w.Sound) (s : SessionId) (d : Datagram) (ackSent : Bool)
    (hclean : w.Clean (.dispatch s d ackSent)) : (w.step (.dispatch s d ackSent)).Sound := by
  obtain ⟨hsess, hcalls⟩ := h
  obtain ⟨hpartner, hwrites⟩ := hclean
  simp only [step]
  split_ifs with hd hack
  · -- acknowledged
    have hsome := hsess.up _ hd.1
    simp only [hwrites, isSome_some]
    refine ⟨hsess.actReceiver ?_, hcalls.actReceiver (Party.receive_grows ..) fun hl => ?_⟩
    · intro x hx
      obtain ⟨r, hr, hx⟩ := mem_flatMap.mp hx
      obtain ⟨a, -, rfl⟩ := List.mem_map.mp hx
      obtain rfl : r = s := by simpa using hr
      exact hsome
    · refine (hcalls.link hl).receive ⟨s, hd.1, hpartner.trans hl⟩ ?_
      rintro a ⟨r, hr, hrp⟩
      rcases mem_append.mp hr with hr | hr
      · obtain ⟨r', hr', hx⟩ := mem_flatMap.mp hr
        obtain ⟨a', ha', heq⟩ := List.mem_map.mp hx
        obtain ⟨-, rfl⟩ := Prod.mk.inj heq
        exact Or.inr (mem_toList.mp ha')
      · exact Or.inl ⟨r, hr, hrp⟩
  · -- DTLS does not take the acknowledgement
    refine ⟨hsess.actReceiver (by simp), hcalls.actReceiver (Party.receive_grows ..) fun hl => ?_⟩
    obtain ⟨n, txId, b, -, -, hb⟩ := (hcalls.link hl).data d ⟨s, hd.1, hpartner.trans hl⟩
    have hr : w.receiver.receive () d false = (w.receiver, none) := by
      simp [Party.receive, hb]
    simp only [isSome_none, hr]
    exact hcalls.link hl
  · exact ⟨hsess, hcalls⟩

lemma Sound.ack (h : w.Sound) (s : SessionId) (d : Datagram) : (w.step (.ack s d)).Sound := by
  obtain ⟨hsess, hcalls⟩ := h
  simp only [step]
  split_ifs with hd
  · have hl := hsess.connected s hd.2
    have hdown : d ∈ w.downSet := ⟨s, hd⟩
    obtain ⟨n, txId, b, -, hb, -⟩ := (hcalls.link hl).acks d hdown
    have hparse : parsePacket d.bytes = some (.ackComplete txId) := by
      rw [hb, parsePacket_ackCompletePacket]
    have hr : (w.current.receive () d true).1 =
        w.current.completePendingAck ⟨(), w.current.endpointSessions (), txId⟩ := by
      simp only [Party.receive, hparse]
    rw [hr]
    have hcont := Party.completePendingAck_continues w.current
      ⟨(), w.current.endpointSessions (), txId⟩
    exact ⟨hsess.act (by simp), hcalls.act (hcont.numbered hcalls.numbered)
      (fun _ => (hcalls.link hl).completePendingAck hcalls.numbered hdown hparse)
      fun hne => absurd hl hne⟩
  · exact ⟨hsess, hcalls⟩

lemma Sound.step (h : w.Sound) (e : Event) (hclean : w.Clean e) : (w.step e).Sound := by
  cases e with
  | dtls e => exact h.dtls e hclean
  | restart mtu retryDelays => exact h.restart mtu retryDelays
  | send block => exact h.send block hclean
  | thread n e s => exact h.thread n e s hclean
  | senderSession => exact h.senderSession
  | dispatch s d ackSent => exact h.dispatch s d ackSent hclean
  | record d =>
    exact ⟨h.1.actReceiver (by simp), h.2.actReceiver (Party.record_grows ..)
      fun hl => (h.2.link hl).record h.2.numbered d⟩
  | deliver d =>
    exact ⟨h.1.actReceiver (by simp), h.2.actReceiver (Party.deliver_grows ..)
      fun hl => (h.2.link hl).deliver d⟩
  | ack s d => exact h.ack s d

end Sound

/-- **What returns `Ok` has been handed on, across restarts** of the sender, with exactly its block,
whatever the receiver's DTLS does in between, as long as all steps are clean. -/
theorem ok_send_handed_on_across_restarts (mtu : ℕ) (retryDelays : List ℕ) (es : List Event)
    (hclean : Along step Clean (init mtu retryDelays) es) (q n : ℕ) (s : Sending Unit)
    (hs : ((run step (init mtu retryDelays) es).sender q).sends[n]? = some s)
    (hok : s.result = some (.ok ())) :
    (some ⟨q, n⟩, s.block) ∈ (run step (init mtu retryDelays) es).receiver.handed := by
  have h0 : (init mtu retryDelays).Sound := by
    refine ⟨⟨fun _ _ => rfl, ?_, ?_, ?_, ?_, ?_, ?_⟩, rfl, ⟨?_, rfl, ?_, ?_⟩, ?_, ?_, ?_, ?_⟩ <;>
      simp [init]
  obtain ⟨-, hcalls⟩ := Lib.run_invariant (fun _ e h hp => h.step e hp) h0 hclean
  rcases lt_trichotomy q (run step (init mtu retryDelays) es).process with hlt | rfl | hgt
  · exact hcalls.past q hlt n s hs hok
  · by_cases hl : (run step (init mtu retryDelays) es).latest =
        some (run step (init mtu retryDelays) es).process
    · exact (hcalls.link hl).ok n s hs hok
    · exact absurd hok (hcalls.silent hl n s hs).2
  · rw [hcalls.unborn q hgt] at hs
    exact absurd hs (by simp)

def acceptRun (s : SessionId) : List Event :=
  [.dtls (.packet true false), .dtls .attachWorker,
    .dtls (.handshakeCompletes s "TLS_AES_256_GCM_SHA384" (.validated "ALICE")),
    .dtls (.recordIssuer s), .dtls (.installWriter s)]

def sendRun (q : ℕ) (s : SessionId) (g : ℕ) (b : Bytes) : List Event :=
  [.send b, .thread 0 .transmit s, .dispatch s ⟨buildDataSinglePacket 0 b, some ⟨q, 0⟩⟩ true,
    .record ⟨⟨(), g, 0⟩, b, false, some ⟨q, 0⟩⟩, .deliver ⟨⟨(), g, 0⟩, b, true, some ⟨q, 0⟩⟩,
    .ack s ⟨ackCompletePacket 0, none⟩, .thread 0 .returnOk s]

def restartRun : List Event :=
  acceptRun 0 ++ sendRun 0 0 0 [7] ++ [.restart 1500 [2, 4, 8]] ++ acceptRun 1 ++ sendRun 1 1 1 [8]

theorem restart_on_established_entry :
    (some ⟨1, 0⟩, [8]) ∈ (run step (init 1500 [2, 4, 8]) restartRun).receiver.handed :=
  ok_send_handed_on_across_restarts 1500 [2, 4, 8] restartRun (by decide +kernel) 1 0
    ⟨[8], ⟨(), 0, 0⟩, false, 0, true, some (.ok ())⟩ (by decide +kernel) rfl

/-- The receiver has cleaned up the old entry when the sender is back: its transport knows the id 0,
and the block is acknowledged and lost. -/
theorem block_lost_after_cleanup :
    ¬ ∀ (mtu : ℕ) (retryDelays : List ℕ) (es : List Event) (q n : ℕ) (s : Sending Unit),
      ((run step (init mtu retryDelays) es).sender q).sends[n]? = some s →
      s.result = some (.ok ()) →
      (some ⟨q, n⟩, s.block) ∈ (run step (init mtu retryDelays) es).receiver.handed := by
  intro h
  have hlost := h 1500 [2, 4, 8] (acceptRun 0 ++ sendRun 0 0 0 [7] ++
    [.dtls (.readEnds 0), .restart 1500 [2, 4, 8]] ++ acceptRun 1 ++ sendRun 1 1 0 [8]) 1 0
    ⟨[8], ⟨(), 0, 0⟩, false, 0, true, some (.ok ())⟩ (by decide +kernel) rfl
  exact absurd hlost (by decide +kernel)

end Host

end Bingle.Frpt
