import Bingle.Ddb.Backend
import Bingle.Turn.Handler
import Bingle.Identity.Certificate

/-!
# Handling one message

`Router::dispatch_message` (`bingle_core/src/messages/router.rs`) and the handlers it calls
(`bingle_core/src/messages/handlers.rs`): what a message changes, and what is sent because of it, in
order.  Handlers that touch neither the database nor the TURN tables hand their message on
(`triangle`, `mutex`, `deliver`) or only print it (`unimplemented`).
-/

namespace Bingle.Messages

open Ddb (Backend)
open Outgoing (NetworkEndpoint)

inductive RelayGate
  | allowed
  | rejected
deriving DecidableEq, Repr

structure Env where
  now : ℕ := 0
  sender : Bool := true
  onMessage : Bool := true
  /-- `get_my_id`, and the issuer of `ripple_message` without its suffix -/
  myId : Option Id := none
  relayState : RelayState := .available
  lastPublicAddr : Option SocketAddr := none
  handleLookupById : Id → Option String := fun _ => none
  verify : AdvertRecord → Bool := fun _ => true
  relayPermission : Id → Option Bool := fun _ => none
  listAllRelays : List (Id × SocketAddr) := []
  askStatus : Id → SocketAddr → Except String Message := fun _ _ => .error "no answer"
  inetSocketAddress : SocketAddr → InetSocketAddress := fun addr => ⟨addr, 0⟩
  /-- `SocketAddr::try_from`, which takes IPv4 addresses only -/
  socketAddr : InetSocketAddress → Option SocketAddr := fun ep => some ep.host
  seed : ℕ := 0

def Env.checkRelayAllowed (env : Env) (id : Id) : RelayGate :=
  match env.relayPermission id with
  | some true => .allowed
  | some false | none => .rejected

def envAt (base : Env) (id : Id) (now : ℕ) : Env := { base with myId := some id, now := now }

structure Router where
  lastFrom : Option SocketAddr := none
  lastResponseTag : Option String := none
  amRelay : Bool := false
deriving DecidableEq, Repr

structure Node where
  router : Router
  backend : Backend
  turnRelay : Turn.RelayHandler
  turnClient : Turn.ClientHandler
  peerDdbRecords : Option ℕ := none

/-- `FromStruct`: who sent the message, by the issuer of the session it came over, and from
where. -/
structure FromStruct where
  id : String
  networkSourceKey : NetworkEndpoint
deriving DecidableEq, Repr

def FromStruct.senderId (src : FromStruct) : Id :=
  Lib.trimEndMatches src.id Identity.issuerSuffix

/-- What a handler does besides changing its node. -/
inductive Effect
  | respond (r : Reply)
  | send (dest : NetworkEndpoint) (id : Id) (m : Message)
  | rippleLater (m : Message) (originator : Id)
  | deliver (senderId handle : String) (m : Message)
  | clearRelayCache
  | removeRelay (id : Id)
  | signonComplete
  | mutex (fromId : String) (m : Mutex.Msg)
  | triangle (src : FromStruct) (m : RelayMessage)
  | unimplemented (m : Message)
deriving DecidableEq

/-! ## Application messages and pings -/

/-- `handle_init`: how many records there are, and then each of them. -/
def handleInit (b : Backend) (now : ℕ) (nsk : NetworkEndpoint) (userId : Id)
    (responseTag : Option String) : List Effect :=
  .send nsk userId (.ddb (.initResponse (b.snapshot now).length responseTag)) ::
    (b.snapshot now).map fun record => .send nsk userId (.ddb (.dumpResolve record))

section Handlers

variable (env : Env) (src : FromStruct)

def deliverToApp (m : Message) : List Effect :=
  match env.handleLookupById src.senderId with
  | some handle => [.deliver src.senderId handle m]
  | none => []

def onPlainText (text : String) (n : Node) : Node × List Effect :=
  (n, if env.onMessage then deliverToApp env src (.plainText text) else [])

def onUnknown (raw : String) (n : Node) : Node × List Effect :=
  (n, if env.onMessage then deliverToApp env src (.unknown raw) else [])

def onPingPing (text : Option String) (n : Node) : Node × List Effect :=
  match env.sender, env.myId with
  | true, some myId =>
    (n, [.send src.networkSourceKey src.senderId
      (.ping (.response myId n.router.lastResponseTag (some ("ACK: " ++ text.getD ""))))])
  | _, _ => (n, [])

def onPingResponse (m : PingMessage) (responseTag : Option String) (n : Node) :
    Node × List Effect :=
  if responseTag.isNone && env.onMessage then (n, deliverToApp env src (.ping m))
  else (n, [.unimplemented (.ping m)])

/-! ## Relay messages -/

def onRelayCall (calledId : Id) (n : Node) : Node × List Effect :=
  if !n.router.amRelay then (n, []) else
  match n.router.lastFrom with
  | none => (n, [])
  | some source =>
    let calledIdRaw := Lib.trimEndMatches calledId Identity.issuerSuffix
    match n.turnRelay.allowedIdToAddr calledIdRaw with
    | none => (n, [])
    | some dest =>
      match n.turnRelay.handleCall env.seed src.senderId calledIdRaw source dest with
      | (turn, none) => ({ n with turnRelay := turn }, [])
      | (turn, some ch) =>
        ({ n with turnRelay := turn },
          (if env.sender then
            [.send (.newDirect dest) calledIdRaw (.relay (.relayCalled ch))] else [])
          ++ [.respond (.message
            (.relay (.relayResponse (some ch) n.router.lastResponseTag)))])

def onRelayListen (n : Node) : Node × List Effect :=
  if !n.router.amRelay then (n, []) else
  match n.router.lastFrom with
  | none => (n, [])
  | some source =>
    ({ n with turnRelay := n.turnRelay.handleListen src.senderId source },
      [.respond (.message (.relay (.listenResponse n.router.lastResponseTag)))])

def onRelayKeepAlive (n : Node) : Node × List Effect :=
  if !n.router.amRelay then (n, []) else
  match n.router.lastFrom with
  | none => (n, [])
  | some source => ({ n with turnRelay := n.turnRelay.handleListen src.senderId source }, [])

/-- `on_relay_called`.  A relay has no client table: there the handler thread panics. -/
def onRelayCalled (channel : ℕ) (n : Node) : Node × List Effect :=
  match n.router.lastFrom, env.lastPublicAddr with
  | some relayAddr, some myPub =>
    if n.router.amRelay then (n, [])
    else ({ n with turnClient := n.turnClient.handleCalled relayAddr myPub channel }, [])
  | _, _ => (n, [])

def onRelayCheck (tag : Option String) (n : Node) : Node × List Effect :=
  if !env.sender then
    (n, [.respond (.fail none n.router.lastResponseTag "no sender available")])
  else (n, [.send src.networkSourceKey src.senderId (.relay (.checkResponse env.relayState tag))])

/-! ## Database messages -/

def rippleTargets (b : Backend) (originator : Id) : List (Id × SocketAddr) :=
  match env.myId with
  | none => []
  | some myId =>
    match b.makeEpochInfo env.now with
    | (relayIds, some endpoints) =>
      (relayIds.zip endpoints).filterMap fun (id, endpoint) =>
        if id = myId ∨ id = originator then none
        else (env.socketAddr endpoint).map fun addr => (id, addr)
    | (relayIds, none) =>
      relayIds.filterMap fun id =>
        if id = myId ∨ id = originator then none
        else (((b.lookup env.now id).bind AdvertRecord.endpoint).bind env.socketAddr).map
          fun addr => (id, addr)

def rippleMessage (m : Message) (originator : Id) (b : Backend) : List Effect :=
  (rippleTargets env b originator).map fun target => .send (.newDirect target.2) target.1 m

def onDdbGetRelaysStatus (epochId : ℤ) (tag : Option String) (n : Node) : Node × List Effect :=
  if !n.router.amRelay then
    (n, [.respond (.fail (some "ddb") n.router.lastResponseTag "not a relay")])
  else if env.relayState ≠ .available then
    (n, [.respond (.fail (some "ddb") tag "relay not available")])
  else
    let (relayIds, relayEndpoints) := n.backend.makeEpochInfo env.now
    (n, [.respond (.message (.ddb (.relaysStatusResponse
      { responderState := env.relayState, epochId := epochId, treeOrder := 2, relayIds := relayIds,
        relayEndpoints := relayEndpoints,
        relayStates := List.replicate relayIds.length env.relayState, responseTag := tag })))])

def onDdbInitResolve (tag : Option String) (n : Node) : Node × List Effect :=
  if !n.router.amRelay then (n, []) else
  if !env.sender then (n, []) else
  (n, handleInit n.backend env.now src.networkSourceKey src.senderId tag)

def onDdbUpsertResolve (up : DdbUpsertResolve) (n : Node) : Node × List Effect :=
  if !n.router.amRelay then (n, [])
  else if up.record.id ≠ up.startId then (n, [])
  else if !up.rippled ∧ up.record.id ≠ src.senderId then (n, [])
  else if up.tag.isNone then (n, [])
  else if !env.verify up.record then (n, [])
  else if up.record.isRelay ∧ env.checkRelayAllowed up.record.id = .rejected then (n, [])
  else
    let b := n.backend.upsert env.now up.record
    ({ n with backend := b },
      if up.rippled then []
      else rippleMessage env (.ddb (.upsertResolve { up with rippled := true })) up.startId b
        ++ [.respond (.message (.ddb (.updateResponse up.tag)))])

def signoffRefused (record : AdvertRecord) : Bool :=
  record.id ≠ src.senderId ||
    match record.endpoint with
    | some regEp => src.networkSourceKey.inetSocketAddress.map env.inetSocketAddress ≠ some regEp
    | none => false

def onDdbSignoff (m : DdbSignoff) (n : Node) : Node × List Effect :=
  if !n.router.amRelay then (n, [])
  else if !m.rippled ∧ m.startId ≠ src.senderId then (n, [])
  else if !m.rippled ∧ (n.backend.lookup env.now m.startId).any (signoffRefused env src) then
    (n, [])
  else
    let b := n.backend.delete m.startId
    ({ n with backend := b },
      .clearRelayCache ::
        if m.rippled then []
        else rippleMessage env (.ddb (.signoff { m with rippled := true })) m.startId b)

def onDdbQueryResolve (id : Id) (tag : Option String) (n : Node) : Node × List Effect :=
  if !n.router.amRelay then (n, []) else
  let advert := n.backend.lookup env.now id
  (n, [.respond (.message (.ddb (.queryResponse advert.isSome advert tag)))])

def ddbUpsertRecord (record : AdvertRecord) (b : Backend) : Backend :=
  if !env.verify record then b
  else if record.isRelay ∧ env.checkRelayAllowed record.id = .rejected then b
  else b.upsert env.now record

/-- The second half of `on_ddb_dump_resolve`: sign on when as many records are held as the peer has
announced. -/
def signonIfComplete (n : Node) : List Effect :=
  if n.peerDdbRecords = some (n.backend.len env.now) then
    match env.myId with
    | some myId =>
      [.send src.networkSourceKey src.senderId
        (.ddb (.signon { startId := myId, rippled := some false }))]
    | none => []
  else []

def onDdbDumpResolve (record : AdvertRecord) (n : Node) : Node × List Effect :=
  let n' := { n with backend := ddbUpsertRecord env record n.backend }
  (n', signonIfComplete env src n')

def onDdbSignon (m : DdbSignon) (n : Node) : Node × List Effect :=
  if !n.router.amRelay then (n, [])
  else if m.rippled ≠ some true ∧ m.startId ≠ src.senderId then (n, [])
  else
    (n, .respond (.message (.ddb (.signonResponse m.tag))) ::
      if m.rippled ≠ some true then
        [.rippleLater (.ddb (.signon { m with rippled := some true })) m.startId] else [])

/-! ## Failure reports -/

def markRelayAsFailed (relayId : Id) (n : Node) : Node × List Effect :=
  ({ n with backend := n.backend.delete relayId }, [.removeRelay relayId])

/-- Whether `on_relay_report_failed` takes the report for true: the relay is not listed, does not
answer, or answers with anything but that it is available. -/
def reportConfirmed (failedRelayId : Id) : Bool :=
  match env.listAllRelays.find? fun r => r.1 = failedRelayId with
  | none => true
  | some (_, relayAddr) =>
    match env.askStatus failedRelayId relayAddr with
    | .ok (.ddb (.relaysStatusResponse status)) => status.responderState ≠ .available
    | _ => true

def onRelayReportFailed (report : FailReport) (n : Node) : Node × List Effect :=
  if reportConfirmed env report.failedRelayId then
    let (n', effects) := markRelayAsFailed report.failedRelayId n
    (n', effects ++ rippleMessage env (.reportFail (.reportFailedRipple report))
      report.failedRelayId n'.backend)
  else (n, [])

def onReportFailedRipple (report : FailReport) (n : Node) : Node × List Effect :=
  if env.listAllRelays.any fun r => r.1 = src.senderId then
    markRelayAsFailed report.failedRelayId n
  else (n, [])

def onReportFail (m : ReportFailMessage) (n : Node) : Node × List Effect :=
  if !n.router.amRelay then (n, []) else
  match m with
  | .relayReportFailed report => onRelayReportFailed env report n
  | .reportFailedRipple report => onReportFailedRipple env src report n
  | m => (n, [.unimplemented (.reportFail m)])

/-! ## The router -/

def dispatchMessage (msg : Message) (n : Node) : Node × List Effect :=
  match msg with
  | .plainText text => onPlainText env src text n
  | .relay (.call calledId _) => onRelayCall env src calledId n
  | .relay (.listen _) => onRelayListen src n
  | .relay (.check tag) => onRelayCheck env src tag n
  | .relay .keepAlive => onRelayKeepAlive src n
  | .relay (.relayCalled channel) => onRelayCalled env channel n
  | .relay (.triangleTest1 ep excluded tag) => (n, [.triangle src (.triangleTest1 ep excluded tag)])
  | .relay (.triangleTest2 id ep) => (n, [.triangle src (.triangleTest2 id ep)])
  | .relay .triangleTest3 => (n, [.triangle src .triangleTest3])
  | .relay (.triangleTest1Response no tag) => (n, [.triangle src (.triangleTest1Response no tag)])
  | .relay m => (n, [.unimplemented (.relay m)])
  | .ddb (.upsertResolve m) => onDdbUpsertResolve env src m n
  | .ddb (.queryResolve id tag) => onDdbQueryResolve env id tag n
  | .ddb (.initResolve tag) => onDdbInitResolve env src tag n
  | .ddb (.dumpResolve record) => onDdbDumpResolve env src record n
  | .ddb (.getRelaysStatus epochId tag) => onDdbGetRelaysStatus env epochId tag n
  | .ddb (.signon m) => onDdbSignon src m n
  | .ddb (.signonResponse _) => (n, [.signonComplete])
  | .ddb (.signoff m) => onDdbSignoff env src m n
  | .ddb m => (n, [.unimplemented (.ddb m)])
  | .ping (.ping _ text) => onPingPing env src text n
  | .ping (.response id tag text) => onPingResponse env src (.response id tag text) tag n
  | .mutex m => (n, [.mutex src.id m])
  | .reportFail m => onReportFail env src m n
  | .unknown raw => onUnknown env src raw n

/-! ## What the database handlers ask -/

variable (n : Node)

def UpsertAccepts (up : DdbUpsertResolve) : Prop :=
  n.router.amRelay = true ∧ up.record.id = up.startId ∧
    (up.rippled = true ∨ up.record.id = src.senderId) ∧ up.tag.isSome = true ∧
    env.verify up.record = true ∧
    ¬ (up.record.isRelay = true ∧ env.checkRelayAllowed up.record.id = .rejected)

instance (up : DdbUpsertResolve) : Decidable (UpsertAccepts env src n up) :=
  inferInstanceAs (Decidable (_ ∧ _))

def SignoffAccepts (m : DdbSignoff) : Prop :=
  n.router.amRelay = true ∧ (m.rippled = true ∨ m.startId = src.senderId ∧
    (n.backend.lookup env.now m.startId).any (signoffRefused env src) = false)

instance (m : DdbSignoff) : Decidable (SignoffAccepts env src n m) :=
  inferInstanceAs (Decidable (_ ∧ _))

variable {env src n} in
lemma onDdbUpsertResolve_eq (up : DdbUpsertResolve) :
    onDdbUpsertResolve env src up n =
      if UpsertAccepts env src n up then
        ({ n with backend := n.backend.upsert env.now up.record },
          if up.rippled then []
          else rippleMessage env (.ddb (.upsertResolve { up with rippled := true })) up.startId
              (n.backend.upsert env.now up.record)
            ++ [.respond (.message (.ddb (.updateResponse up.tag)))])
      else (n, []) := by
  rw [onDdbUpsertResolve]
  by_cases h : UpsertAccepts env src n up
  · obtain ⟨hrelay, hid, hown, htag, hv, hgate⟩ := id h
    have hown' : ¬ (!up.rippled ∧ up.record.id ≠ src.senderId) := by
      rintro ⟨hr, hne⟩
      exact hown.elim (fun h => by simp [h] at hr) hne
    have htag' : ¬ up.tag.isNone = true := by
      rw [Option.isNone_iff_eq_none]
      exact Option.isSome_iff_ne_none.mp htag
    rw [if_pos h, if_neg (by simp [hrelay]), if_neg (not_not.mpr hid), if_neg hown', if_neg htag',
      if_neg (by simp [hv]), if_neg hgate]
  · rw [if_neg h]
    split_ifs with hrelay hid hown htag hv hgate
    all_goals first
      | rfl
      | exact absurd ⟨by simpa using hrelay, not_not.mp hid,
          by simpa [or_iff_not_imp_left] using hown,
          Option.isSome_iff_ne_none.mpr (by simpa using htag), by simpa using hv, hgate⟩ h

variable {env src n} in
lemma onDdbSignoff_eq (m : DdbSignoff) :
    onDdbSignoff env src m n =
      if SignoffAccepts env src n m then
        ({ n with backend := n.backend.delete m.startId },
          .clearRelayCache ::
            if m.rippled then []
            else rippleMessage env (.ddb (.signoff { m with rippled := true })) m.startId
              (n.backend.delete m.startId))
      else (n, []) := by
  rw [onDdbSignoff]
  by_cases h : SignoffAccepts env src n m
  · obtain ⟨hrelay, hown⟩ := id h
    rw [if_pos h, if_neg (by simp [hrelay])]
    rcases hown with hr | ⟨hid, hrefused⟩
    · simp [hr]
    · rw [if_neg (by simp [hid]), if_neg (by simp [hrefused])]
  · rw [if_neg h]
    split_ifs with hrelay hown hrefused hr
    · rfl
    · rfl
    · rfl
    · exact absurd ⟨by simpa using hrelay, Or.inl hr⟩ h
    · have hr' : (!m.rippled) = true := by simpa using hr
      have hid : m.startId = src.senderId := not_not.mp fun hid => hown ⟨hr', hid⟩
      exact absurd ⟨by simpa using hrelay, Or.inr ⟨hid, Bool.eq_false_of_not_eq_true
        fun ha => hrefused ⟨hr', ha⟩⟩⟩ h

/-! ## What the handlers leave alone -/

@[simp] lemma onPingPing_fst (text : Option String) : (onPingPing env src text n).1 = n := by
  rw [onPingPing]
  split <;> rfl

@[simp] lemma onPingResponse_fst (m : PingMessage) (responseTag : Option String) :
    (onPingResponse env src m responseTag n).1 = n := by
  rw [onPingResponse]
  split <;> rfl

@[simp] lemma onRelayCheck_fst (tag : Option String) : (onRelayCheck env src tag n).1 = n := by
  rw [onRelayCheck]
  split <;> rfl

@[simp] lemma onDdbGetRelaysStatus_fst (epochId : ℤ) (tag : Option String) :
    (onDdbGetRelaysStatus env epochId tag n).1 = n := by
  rw [onDdbGetRelaysStatus]
  repeat' split
  all_goals rfl

@[simp] lemma onDdbInitResolve_fst (tag : Option String) :
    (onDdbInitResolve env src tag n).1 = n := by
  rw [onDdbInitResolve]
  repeat' split
  all_goals rfl

@[simp] lemma onDdbQueryResolve_fst (id : Id) (tag : Option String) :
    (onDdbQueryResolve env id tag n).1 = n := by
  rw [onDdbQueryResolve]
  split <;> rfl

@[simp] lemma onDdbSignon_fst (m : DdbSignon) : (onDdbSignon src m n).1 = n := by
  rw [onDdbSignon]
  repeat' split
  all_goals rfl

@[simp] lemma onRelayCall_backend (calledId : Id) :
    (onRelayCall env src calledId n).1.backend = n.backend := by
  simp only [onRelayCall]
  repeat' split
  all_goals rfl

@[simp] lemma onRelayListen_backend : (onRelayListen src n).1.backend = n.backend := by
  rw [onRelayListen]
  repeat' split
  all_goals rfl

@[simp] lemma onRelayKeepAlive_backend : (onRelayKeepAlive src n).1.backend = n.backend := by
  rw [onRelayKeepAlive]
  repeat' split
  all_goals rfl

@[simp] lemma onRelayCalled_backend (channel : ℕ) :
    (onRelayCalled env channel n).1.backend = n.backend := by
  rw [onRelayCalled]
  repeat' split
  all_goals rfl

/-! ## What the relay handlers do to the TURN tables -/

/-- What a message can do to the TURN tables: nothing, register its sender under the address the
router has, or call another node from there. -/
inductive Turned : Turn.RelayHandler → Prop
  | same : Turned n.turnRelay
  | listen (source : SocketAddr) (hfrom : n.router.lastFrom = some source) :
      Turned (n.turnRelay.step (.listen src.senderId source))
  | call (calledId : Id) (source dest : SocketAddr) (hfrom : n.router.lastFrom = some source)
      (hdest : n.turnRelay.allowedIdToAddr calledId = some dest) :
      Turned (n.turnRelay.step (.call env.seed src.senderId calledId source dest))

variable {env src n}

lemma onRelayCall_turned (calledId : Id) :
    Turned env src n (onRelayCall env src calledId n).1.turnRelay := by
  simp only [onRelayCall]
  split
  · exact .same
  cases hfrom : n.router.lastFrom with
  | none => exact .same
  | some source =>
    simp only
    split
    · exact .same
    · next dest hdest =>
        have h : Turned env src n _ := .call _ source dest hfrom hdest
        split <;> simpa only [Turn.RelayHandler.step, *] using h

lemma onRelayListen_turned : Turned env src n (onRelayListen src n).1.turnRelay := by
  rw [onRelayListen]
  split
  · exact .same
  cases hfrom : n.router.lastFrom with
  | none => exact .same
  | some source => exact .listen source hfrom

lemma onRelayKeepAlive_turned : Turned env src n (onRelayKeepAlive src n).1.turnRelay := by
  rw [onRelayKeepAlive]
  split
  · exact .same
  cases hfrom : n.router.lastFrom with
  | none => exact .same
  | some source => exact .listen source hfrom

lemma onReportFail_turnRelay (m : ReportFailMessage) :
    (onReportFail env src m n).1.turnRelay = n.turnRelay := by
  cases m <;> simp only [onReportFail, onRelayReportFailed, onReportFailedRipple] <;>
    repeat' split
  all_goals rfl

/-- **What a message can do to the TURN tables**, over every message the router takes. -/
theorem dispatch_turned (msg : Message) :
    Turned env src n (dispatchMessage env src msg n).1.turnRelay := by
  cases msg with
  | relay m =>
    cases m with
    | call calledId tag => exact onRelayCall_turned calledId
    | listen tag => exact onRelayListen_turned
    | keepAlive => exact onRelayKeepAlive_turned
    | relayCalled channel =>
      simp only [dispatchMessage, onRelayCalled]
      repeat' split
      all_goals exact .same
    | _ =>
      simp only [dispatchMessage, onRelayCheck_fst]
      exact .same
  | ddb m =>
    cases m with
    | upsertResolve m =>
      simp only [dispatchMessage, onDdbUpsertResolve_eq]
      split <;> exact .same
    | signoff m =>
      simp only [dispatchMessage, onDdbSignoff_eq]
      split <;> exact .same
    | _ =>
      simp only [dispatchMessage, onDdbGetRelaysStatus_fst, onDdbInitResolve_fst,
        onDdbQueryResolve_fst, onDdbSignon_fst]
      exact .same
  | ping m =>
    cases m <;> simp only [dispatchMessage, onPingPing_fst, onPingResponse_fst] <;> exact .same
  | reportFail m =>
    simp only [dispatchMessage, onReportFail_turnRelay]
    exact .same
  | _ => exact .same

end Handlers

end Bingle.Messages
