import Bingle.Lib.Run
import Bingle.Turn.Isolation

/-!
# The context of a message

A message's handler runs on a thread of its own and reads the address it came from and the tag of
the request back from two fields of the router, which the receive path of every message overwrites
(`install_dtls_handler`, `bingle_core/src/engine/mod.rs`): `enter` ends with `set_last_from`, `note`
is `set_last_response_tag` and the start of the thread, `handle` is that thread.
-/

namespace Bingle.Messages

open Ddb (Backend)

/-! ## Which handlers use the context -/

def actsOnLastFrom : Message → Bool
  | .relay (.call ..) | .relay (.listen _) | .relay .keepAlive | .relay (.relayCalled _) => true
  | _ => false

def repliesWithLastTag (env : Env) (r : Router) : Message → Bool
  | .relay (.call ..) | .relay (.listen _) | .ping (.ping ..) => true
  | .relay (.check _) => !env.sender
  | .ddb (.getRelaysStatus ..) => !r.amRelay
  | _ => false

def Node.withContext (n : Node) (lastFrom : Option SocketAddr) (tag : Option String) : Node :=
  { n with router := { n.router with lastFrom := lastFrom, lastResponseTag := tag } }

def withRouter (r : Router) (p : Node × List Effect) : Node × List Effect :=
  ({ p.1 with router := r }, p.2)

section Dispatch

variable {env : Env} {src : FromStruct} {n : Node}

lemma dispatch_router (msg : Message) : (dispatchMessage env src msg n).1.router = n.router := by
  cases msg with
  | relay m =>
    cases m <;> simp only [dispatchMessage, onRelayCall, onRelayListen, onRelayKeepAlive,
      onRelayCalled, onRelayCheck_fst] <;> repeat' split
    all_goals rfl
  | ddb m =>
    cases m <;> simp only [dispatchMessage, onDdbUpsertResolve_eq, onDdbSignoff_eq,
      onDdbDumpResolve, onDdbGetRelaysStatus_fst, onDdbInitResolve_fst, onDdbQueryResolve_fst,
      onDdbSignon_fst] <;> try split
    all_goals rfl
  | ping m => cases m <;> simp only [dispatchMessage, onPingPing_fst, onPingResponse_fst]
  | reportFail m =>
    cases m <;> simp only [dispatchMessage, onReportFail, onRelayReportFailed,
      onReportFailedRipple] <;> repeat' split
    all_goals rfl
  | _ => rfl

lemma withRouter_dispatch (msg : Message) :
    withRouter n.router (dispatchMessage env src msg n) = dispatchMessage env src msg n := by
  have h : (dispatchMessage env src msg n).1.router = n.router := dispatch_router msg
  rw [withRouter, ← h]

lemma upsertAccepts_withContext (lastFrom : Option SocketAddr) (tag : Option String)
    (up : DdbUpsertResolve) :
    UpsertAccepts env src (n.withContext lastFrom tag) up ↔ UpsertAccepts env src n up := Iff.rfl

lemma signoffAccepts_withContext (lastFrom : Option SocketAddr) (tag : Option String)
    (m : DdbSignoff) :
    SignoffAccepts env src (n.withContext lastFrom tag) m ↔ SignoffAccepts env src n m := Iff.rfl

/-- **What a handler does depends on the context only where it uses it.** -/
theorem dispatch_own (msg : Message) {lastFrom : Option SocketAddr} {tag : Option String}
    (hfrom : actsOnLastFrom msg = true → n.router.lastFrom = lastFrom)
    (htag : repliesWithLastTag env n.router msg = true → n.router.lastResponseTag = tag) :
    dispatchMessage env src msg n =
      withRouter n.router (dispatchMessage env src msg (n.withContext lastFrom tag)) := by
  obtain ⟨⟨f, t, amRelay⟩, b, turnRelay, turnClient, peerDdbRecords⟩ := n
  cases msg with
  | relay m =>
    cases m with
    | call calledId tag =>
      obtain rfl : f = _ := hfrom rfl
      obtain rfl : t = _ := htag rfl
      exact (withRouter_dispatch _).symm
    | listen tag =>
      obtain rfl : f = _ := hfrom rfl
      obtain rfl : t = _ := htag rfl
      exact (withRouter_dispatch _).symm
    | keepAlive =>
      obtain rfl : f = _ := hfrom rfl
      cases amRelay <;> cases f <;> rfl
    | relayCalled channel =>
      obtain rfl : f = _ := hfrom rfl
      cases f with
      | none => rfl
      | some relayAddr => cases h : env.lastPublicAddr <;> cases amRelay <;>
          simp only [dispatchMessage, onRelayCalled, Node.withContext, h] <;> rfl
    | check tag =>
      cases h : env.sender with
      | false =>
        obtain rfl : t = _ := htag (by simp [repliesWithLastTag, h])
        simp only [dispatchMessage, onRelayCheck, Node.withContext, h]
        rfl
      | true =>
        simp only [dispatchMessage, onRelayCheck, Node.withContext, h]
        rfl
    | _ => rfl
  | ddb m =>
    cases m with
    | getRelaysStatus epochId tag =>
      cases amRelay with
      | false =>
        obtain rfl : t = _ := htag rfl
        rfl
      | true =>
        simp only [dispatchMessage, onDdbGetRelaysStatus, Node.withContext, Bool.not_true,
          Bool.false_eq_true, if_false]
        split_ifs <;> rfl
    | upsertResolve up =>
      simp only [dispatchMessage, onDdbUpsertResolve_eq, upsertAccepts_withContext]
      split_ifs <;> rfl
    | signoff m =>
      simp only [dispatchMessage, onDdbSignoff_eq, signoffAccepts_withContext]
      split_ifs <;> rfl
    | signon m =>
      cases amRelay with
      | false => rfl
      | true =>
        simp only [dispatchMessage, onDdbSignon, Node.withContext, Bool.not_true,
          Bool.false_eq_true, if_false]
        split_ifs <;> rfl
    | initResolve tag =>
      cases amRelay with
      | false => rfl
      | true =>
        simp only [dispatchMessage, onDdbInitResolve, Node.withContext, Bool.not_true,
          Bool.false_eq_true, if_false]
        split_ifs <;> rfl
    | queryResolve id tag => cases amRelay <;> rfl
    | _ => rfl
  | ping m =>
    cases m with
    | ping tag text =>
      obtain rfl : t = _ := htag rfl
      simp only [dispatchMessage, onPingPing, Node.withContext]
      split <;> rfl
    | response id tag text =>
      simp only [dispatchMessage, onPingResponse]
      split_ifs <;> rfl
  | reportFail m =>
    cases amRelay with
    | false => cases m <;> rfl
    | true =>
      cases m with
      | relayReportFailed report =>
        simp only [dispatchMessage, onReportFail, onRelayReportFailed, Node.withContext,
          Bool.not_true, Bool.false_eq_true, if_false]
        split_ifs <;> rfl
      | reportFailedRipple report =>
        simp only [dispatchMessage, onReportFail, onReportFailedRipple, Node.withContext,
          Bool.not_true, Bool.false_eq_true, if_false]
        split_ifs <;> rfl
      | _ => rfl
  | _ => rfl

end Dispatch

/-! ## Messages under way -/

structure Body where
  tag : Option String := none
  responseTag : Option String := none
  msg : Message
deriving DecidableEq

/-- A message as it arrives; no body where the data is not JSON. -/
structure Inbound where
  src : FromStruct
  body : Option Body
deriving DecidableEq

def FromStruct.address (src : FromStruct) : Option SocketAddr :=
  src.networkSourceKey.inetSocketAddress

/-- A node that receives, with the messages under way in it and, newest first, those that have
written the router's fields. -/
structure Receiver where
  node : Node
  entered : List Inbound := []
  spawned : List (FromStruct × Body) := []
  /-- the senders of the messages that have written the address -/
  entries : List FromStruct := []
  /-- the messages that have written the tag -/
  noted : List Body := []

namespace Receiver

inductive Event
  /-- the receive path up to `set_last_from`, and what `handle_lookup_by_id` answers -/
  | enter (m : Inbound) (handle : Option String)
  | note (m : Inbound)
  | handle (src : FromStruct) (b : Body) (env : Env)

def step (amRelay : Bool) (s : Receiver) : Event → Receiver
  -- a sender without a handle is refused, with the tag of its own message
  | .enter _ none => s
  | .enter m (some _) =>
    { s with
      node := { s.node with
        router := { s.node.router with amRelay := amRelay, lastFrom := m.src.address } }
      entered := m :: s.entered
      entries := m.src :: s.entries }
  | .note m =>
    if m ∈ s.entered then
      match m.body with
      | none => { s with entered := s.entered.erase m }
      | some b =>
        { s with
          node := { s.node with router := { s.node.router with lastResponseTag := b.tag } }
          entered := s.entered.erase m
          -- a response goes to the thread that waits for it
          spawned := if b.responseTag.isSome then s.spawned else (m.src, b) :: s.spawned
          noted := b :: s.noted }
    else s
  | .handle src b env =>
    if (src, b) ∈ s.spawned then
      { s with
        node := (dispatchMessage env src b.msg s.node).1
        spawned := s.spawned.erase (src, b) }
    else s

def start (b : Backend) : Receiver where
  node := { router := {}, backend := b, turnRelay := .new, turnClient := .new }

/-- The handler of the message would find the message's own address and tag, where it uses them. -/
def Own (s : Receiver) : Event → Prop
  | .handle src b env => (src, b) ∈ s.spawned →
      (actsOnLastFrom b.msg = true → s.node.router.lastFrom = src.address) ∧
        (repliesWithLastTag env s.node.router b.msg = true → s.node.router.lastResponseTag = b.tag)
  | _ => True

/-- The last message to enter came from the same address, and the last one noted had the same tag,
where the handler uses them. -/
def Undisturbed (s : Receiver) : Event → Prop
  | .handle src b env => (src, b) ∈ s.spawned →
      (actsOnLastFrom b.msg = true → ∃ src' ∈ s.entries.head?, src'.address = src.address) ∧
        (repliesWithLastTag env s.node.router b.msg = true → ∃ b' ∈ s.noted.head?, b'.tag = b.tag)
  | _ => True

instance (s : Receiver) : ∀ e, Decidable (s.Undisturbed e)
  | .enter _ _ => isTrue trivial
  | .note _ => isTrue trivial
  | .handle src b env => inferInstanceAs (Decidable ((src, b) ∈ s.spawned →
      (actsOnLastFrom b.msg = true → ∃ src' ∈ s.entries.head?, src'.address = src.address) ∧
        (repliesWithLastTag env s.node.router b.msg = true → ∃ b' ∈ s.noted.head?, b'.tag = b.tag)))

/-! ## What the router holds -/

structure Tracks (s : Receiver) : Prop where
  lastFrom : s.node.router.lastFrom = s.entries.head?.bind FromStruct.address
  lastTag : s.node.router.lastResponseTag = s.noted.head?.bind Body.tag
  entered : ∀ m ∈ s.entered, m.src ∈ s.entries
  spawned : ∀ p ∈ s.spawned, p.1 ∈ s.entries ∧ p.2 ∈ s.noted

lemma tracks_start (b : Backend) : (start b).Tracks :=
  ⟨rfl, rfl, by simp [start], by simp [start]⟩

variable {s : Receiver} {env : Env} {src : FromStruct} {n : Node} {t : Turn.RelayHandler}
  {addr : SocketAddr}

lemma Tracks.step (h : s.Tracks) (amRelay : Bool) (e : Event) :
    (step amRelay s e).Tracks := by
  cases e with
  | enter m handle =>
    cases handle with
    | none => exact h
    | some handle =>
      refine ⟨rfl, h.lastTag, ?_, ?_⟩
      · intro m' hm'
        rcases List.mem_cons.mp hm' with rfl | hm'
        · exact List.mem_cons_self
        · exact List.mem_cons_of_mem _ (h.entered m' hm')
      · intro p hp
        exact ⟨List.mem_cons_of_mem _ (h.spawned p hp).1, (h.spawned p hp).2⟩
  | note m =>
    simp only [Receiver.step]
    split_ifs with hm
    · cases m.body with
      | none => exact ⟨h.lastFrom, h.lastTag, fun m' hm' => h.entered m' (List.mem_of_mem_erase hm'),
          h.spawned⟩
      | some b =>
        refine ⟨h.lastFrom, rfl, fun m' hm' => h.entered m' (List.mem_of_mem_erase hm'), ?_⟩
        intro p hp
        have hp' : p = (m.src, b) ∨ p ∈ s.spawned := by
          simp only at hp
          split_ifs at hp
          · exact Or.inr hp
          · exact List.mem_cons.mp hp
        rcases hp' with rfl | hp'
        · exact ⟨h.entered m hm, List.mem_cons_self⟩
        · exact ⟨(h.spawned p hp').1, List.mem_cons_of_mem _ (h.spawned p hp').2⟩
    · exact h
  | handle src b env =>
    simp only [Receiver.step]
    split_ifs with hp
    · exact ⟨by simp only [dispatch_router]; exact h.lastFrom,
        by simp only [dispatch_router]; exact h.lastTag, h.entered,
        fun p hp' => h.spawned p (List.mem_of_mem_erase hp')⟩
    · exact h

lemma Tracks.own_iff (h : s.Tracks) (e : Event) : s.Own e ↔ s.Undisturbed e := by
  cases e with
  | enter m handle => rfl
  | note m => rfl
  | handle src b env =>
    refine imp_congr_right fun hp => ?_
    obtain ⟨hsrc, hb⟩ := h.spawned _ hp
    rw [h.lastFrom, h.lastTag]
    -- a message under way has written, so there is a last one
    refine and_congr (imp_congr_right fun _ => ?_) (imp_congr_right fun _ => ?_)
    · cases hl : s.entries with
      | nil => simp [hl] at hsrc
      | cons src' entries => simp
    · cases hl : s.noted with
      | nil => simp [hl] at hb
      | cons b' noted => simp

/-! ## Where an id is registered -/

/-- An address is listed for a client only if it came with one of its own messages. -/
def Registered (s : Receiver) : Prop :=
  ∀ id addr, s.node.turnRelay.allowedIdToAddr id = some addr →
    ∃ src ∈ s.entries, src.senderId = id ∧ src.address = some addr

lemma Registered.turned (h : s.Registered)
    (ht : Turned env src n t) (hn : n.turnRelay = s.node.turnRelay)
    (hfrom : n.router.lastFrom = src.address) (hsrc : src ∈ s.entries) {id : Id}
    (hid : t.allowedIdToAddr id = some addr) :
    ∃ src ∈ s.entries, src.senderId = id ∧ src.address = some addr := by
  rw [Registered, ← hn] at h
  cases ht with
  | same => exact h id addr hid
  | listen source hsource =>
    rcases n.turnRelay.allow_allowedIdToAddr hid with hold | ⟨rfl, rfl⟩
    · exact h id addr hold
    · exact ⟨src, hsrc, rfl, hfrom.symm.trans hsource⟩
  | call calledId source dest hsource hdest =>
    rcases n.turnRelay.handleCall_allowedIdToAddr hid with hold | ⟨rfl, rfl⟩ | ⟨rfl, rfl⟩
    · exact h id addr hold
    · exact ⟨src, hsrc, rfl, hfrom.symm.trans hsource⟩
    · exact h _ _ hdest

lemma Registered.step (h : s.Registered) (ht : s.Tracks) (amRelay : Bool) {e : Event}
    (hown : s.Own e) : (step amRelay s e).Registered := by
  cases e with
  | enter m handle =>
    cases handle with
    | none => exact h
    | some handle =>
      intro id addr hid
      obtain ⟨src, hsrc, hsrc'⟩ := h id addr hid
      exact ⟨src, List.mem_cons_of_mem _ hsrc, hsrc'⟩
  | note m =>
    simp only [Receiver.step]
    split_ifs with hm
    · cases m.body <;> exact h
    · exact h
  | handle src b env =>
    simp only [Receiver.step]
    split_ifs with hp
    · intro id addr hid
      have hdispatch : dispatchMessage env src b.msg s.node = withRouter s.node.router _ :=
        dispatch_own b.msg (hown hp).1 fun _ => rfl
      rw [hdispatch] at hid
      have hturned : Turned env src
          (s.node.withContext src.address s.node.router.lastResponseTag) _ := dispatch_turned b.msg
      exact h.turned hturned rfl rfl (ht.spawned _ hp).1 hid
    · exact h

/-! ## Whom a relay sends to -/

def KnowsOnlySenders (s : Receiver) : Prop :=
  ∀ addr, s.node.turnRelay.Names addr → ∃ src ∈ s.entries, src.address = some addr

lemma names_of_turned (ht : Turned env src n t) (h : t.Names addr) :
    n.turnRelay.Names addr ∨ n.router.lastFrom = some addr := by
  cases ht with
  | same => exact Or.inl h
  | listen source hfrom =>
    rcases Turn.RelayHandler.names_of_allow h with h | rfl
    · exact Or.inl h
    · exact Or.inr hfrom
  | call calledId source dest hfrom hdest =>
    rcases Turn.RelayHandler.names_of_handleCall h with h | rfl | rfl
    · exact Or.inl h
    · exact Or.inr hfrom
    · exact Or.inl (Or.inr (Or.inl ⟨calledId, hdest⟩))

lemma KnowsOnlySenders.step (h : s.KnowsOnlySenders) (ht : s.Tracks)
    (amRelay : Bool) (e : Event) : (step amRelay s e).KnowsOnlySenders := by
  cases e with
  | enter m handle =>
    cases handle with
    | none => exact h
    | some handle =>
      intro addr haddr
      obtain ⟨src, hsrc, hsrc'⟩ := h addr haddr
      exact ⟨src, List.mem_cons_of_mem _ hsrc, hsrc'⟩
  | note m =>
    simp only [Receiver.step]
    split_ifs
    · cases m.body <;> exact h
    · exact h
  | handle src b env =>
    simp only [Receiver.step]
    split_ifs
    · intro addr haddr
      rcases names_of_turned (dispatch_turned b.msg) haddr with haddr | hfrom
      · exact h addr haddr
      · -- whichever message the router's address is of, it has entered
        obtain ⟨src', hhead, ha⟩ := Option.bind_eq_some_iff.mp (ht.lastFrom.symm.trans hfrom)
        exact ⟨src', List.mem_of_mem_head? hhead, ha⟩
    · exact h

/-! ## The context of every message -/

variable (amRelay : Bool) (b : Backend) (es : List Event)

/-- **The context of every message.**  Each handler acts on the address and replies with the tag of
its own message *exactly when* each runs while the last message to have entered came from that
address and the last one noted had that tag.  In that case an id is registered only under an address
that a message of that id came from. -/
theorem own_context_iff :
    (Lib.Along (step amRelay) Own (start b) es ↔
        Lib.Along (step amRelay) Undisturbed (start b) es) ∧
      (Lib.Along (step amRelay) Undisturbed (start b) es →
        (Lib.run (step amRelay) (start b) es).Registered) := by
  have hiff : Lib.Along (step amRelay) Own (start b) es ↔
      Lib.Along (step amRelay) Undisturbed (start b) es :=
    Lib.along_congr (fun _ e h => h.step amRelay e) (fun _ e h => h.own_iff e) (tracks_start b) es
  refine ⟨hiff, fun hundisturbed => ?_⟩
  have hstep : ∀ s e, Registered s ∧ Tracks s → Own s e →
      Registered (step amRelay s e) ∧ Tracks (step amRelay s e) :=
    fun s e h hown => ⟨h.1.step h.2 amRelay hown, h.2.step amRelay e⟩
  have hstart : Registered (start b) := by
    intro id addr hid
    simp [start, Turn.RelayHandler.new] at hid
  exact (Lib.run_invariant hstep ⟨hstart, tracks_start b⟩ (hiff.mpr hundisturbed)).1

/-- **A relay sends to those only who have written to it.**  However receive path and handlers
interleave, it passes a packet on to no address but one that a peer, known by its handle, has sent
it a message from. -/
theorem forwards_only_to_senders {lastPublicAddr : Option SocketAddr} {sender dest : SocketAddr}
    {packet p : List UInt8} (h : (Lib.run (step amRelay) (start b) es).node.turnRelay.relayTurn
      lastPublicAddr sender packet = some (.write dest p)) :
    ∃ src ∈ (Lib.run (step amRelay) (start b) es).entries, src.address = some dest := by
  have hstep : ∀ s e, KnowsOnlySenders s ∧ Tracks s → True →
      KnowsOnlySenders (step amRelay s e) ∧ Tracks (step amRelay s e) :=
    fun s e h _ => ⟨h.1.step h.2 amRelay e, h.2.step amRelay e⟩
  have hstart : KnowsOnlySenders (start b) := by
    intro addr haddr
    simp [start, Turn.RelayHandler.new, Turn.RelayHandler.Names] at haddr
  exact (Lib.run_invariant hstep ⟨hstart, tracks_start b⟩
    (Lib.along_of_forall_mem (fun _ _ => trivial) _)).1 dest (Turn.RelayHandler.names_of_write h)

def bobListens : Body := { tag := some "bob-1", msg := .relay (.listen (some "bob-1")) }

def malloryPings : Body :=
  { tag := some "mallory-1", msg := .ping (.ping (some "mallory-1") none) }

def bob : FromStruct := ⟨"BOB.", .newDirect "192.0.2.20:2000"⟩

def mallory : FromStruct := ⟨"MALLORY.", .newDirect "203.0.113.6:9000"⟩

def inTurn : List Event :=
  [.enter ⟨bob, some bobListens⟩ (some "bob"), .note ⟨bob, some bobListens⟩,
    .handle bob bobListens {}, .enter ⟨mallory, some malloryPings⟩ (some "mallory"),
    .note ⟨mallory, some malloryPings⟩, .handle mallory malloryPings {}]

def overtaken : List Event :=
  [.enter ⟨bob, some bobListens⟩ (some "bob"), .note ⟨bob, some bobListens⟩,
    .enter ⟨mallory, some malloryPings⟩ (some "mallory"),
    .note ⟨mallory, some malloryPings⟩, .handle bob bobListens {}]

theorem bob_sent_to_after_listening :
    (Lib.run (step true) (start (.empty none none)) inTurn).node.turnRelay.relayTurn
        (some "192.0.2.1:5000") "192.0.2.20:2000" Turn.RelayHandler.onFirstChannel =
      some (.write "192.0.2.20:2000" Turn.RelayHandler.onFirstChannel) ∧
    ∃ src ∈ (Lib.run (step true) (start (.empty none none)) inTurn).entries,
      src.address = some "192.0.2.20:2000" := by
  refine ⟨?h, forwards_only_to_senders true (.empty none none) inTurn ?h⟩
  decide +kernel

theorem inTurn_own :
    Lib.Along (step true) Own (start (.empty none none)) inTurn ∧
      (Lib.run (step true) (start (.empty none none)) inTurn).node.turnRelay.allowedIdToAddr "BOB" =
        some "192.0.2.20:2000" :=
  ⟨(own_context_iff true (.empty none none) inTurn).1.mpr (by decide), by decide⟩

/-- **A stranger takes an id's place**: the handler of the first message finds the address and the
tag of the second. -/
theorem overtaken_registered_elsewhere :
    (Lib.run (step true) (start (.empty none none)) overtaken).node.turnRelay.allowedIdToAddr "BOB" =
        some "203.0.113.6:9000" ∧
      (dispatchMessage {} bob bobListens.msg
        (Lib.run (step true) (start (.empty none none)) overtaken.dropLast).node).2 =
        [.respond (.message (.relay (.listenResponse (some "mallory-1"))))] := by
  decide

end Receiver

end Bingle.Messages
