import Bingle.Lib.SocketText
import Bingle.Messages.Handlers
import Bingle.Mutex.Lamport
import Bingle.Relay.Corner

/-!
# Handlers that panic

What a message comes to on the thread that handles it, with the places where the handlers
(`bingle_core/src/messages/handlers.rs`) and what they call unwrap something, and with the addition
to the clock of the distributed mutex in a debug build.  `on_triangle_test1` goes on in a thread of
its own, which is part of handling the message here.  Other threads that handlers start, and locks
that a panic has poisoned, are left out.
-/

namespace Bingle.Messages

open List Option
open Lib (Checked Ipv4 decimal parseSocketAddrV4 parseSocketAddrV4_eq_some_iff)
open Lib.Checked (Ensures expect ensures_bind_iff ensures_bind_pure_iff ensures_congr
  ensures_expect_iff ensures_mapM_iff ensures_pure ensures_pure_iff)
open Relay (Finder ProbeResult Updater)

/-! ## Addresses -/

def trySocketAddr (ep : InetSocketAddress) : Option SocketAddr :=
  (parseSocketAddrV4 (ep.host.toList ++ ':' :: decimal ep.port)).map fun addr =>
    String.ofList (addr.1.print ++ ':' :: decimal addr.2)

def InetSocketAddress.IsIpv4 (ep : InetSocketAddress) : Prop :=
  (∃ ip : Ipv4, ep.host = String.ofList ip.print) ∧ ep.port < 65536

lemma isSome_trySocketAddr_iff (ep : InetSocketAddress) :
    (trySocketAddr ep).isSome = true ↔ ep.IsIpv4 := by
  rw [trySocketAddr, isSome_map, isSome_iff_exists]
  constructor
  · rintro ⟨⟨ip, port⟩, h⟩
    obtain ⟨hhost, -, hport⟩ := parseSocketAddrV4_eq_some_iff.mp h
    exact ⟨⟨ip, by rw [← hhost, String.ofList_toList]⟩, hport⟩
  · rintro ⟨⟨ip, hhost⟩, hport⟩
    refine ⟨(ip, ep.port), parseSocketAddrV4_eq_some_iff.mpr ⟨?_, rfl, hport⟩⟩
    rw [hhost, String.toList_ofList]

def IsLocated (r : Relay.RelayInfo) : Prop := ∃ ep, r.advertRecord.endpoint = some ep ∧ ep.IsIpv4

lemma isSome_address_iff (r : Relay.RelayInfo) :
    (r.address trySocketAddr).isSome = true ↔ IsLocated r := by
  rw [Relay.RelayInfo.address, IsLocated]
  cases r.advertRecord.endpoint with
  | none => simp
  | some ep => simp [isSome_trySocketAddr_iff]

/-! ## What is unwrapped -/

structure Fixtures where
  turnHandlerRelay : Bool
  turnHandlerClient : Bool
  relays : List Relay.RelayInfo := []
  /-- the clock of the distributed mutex, in a node that takes part in it -/
  lamport : Option ℤ := none
  overflowChecks : Bool := false
  appId : Option ℕ := none
  finder : Finder
  updater : Updater := {}
  received : List ProbeResult := []
  ip : SocketAddr → Dtls.IpAddr

def expectThere (there : Bool) (message : String) : Checked Unit :=
  expect (if there then some () else none) message

lemma ensures_expectThere_iff {there : Bool} {message : String} {P : Unit → Prop} :
    Ensures (expectThere there message) P ↔ there = true ∧ P () := by
  rw [expectThere, ensures_expect_iff]
  cases there with
  | false => simp
  | true => exact ⟨fun ⟨_, _, h⟩ => ⟨rfl, h⟩, fun ⟨_, h⟩ => ⟨(), rfl, h⟩⟩

def succI64 (checks : Bool) (a : ℤ) : Checked ℤ := do
  expectThere (!checks || decide (a + 1 ≤ Mutex.i64Max)) "attempt to add with overflow"
  return Mutex.i64Add a 1

/-! ## Handling a message -/

section Dispatch

variable (fx : Fixtures) (env : Env) (src : FromStruct)

def withTurnRelay (message : String) (n : Node) (handled : Node × List Effect) :
    Checked (Node × List Effect) := do
  if n.router.amRelay && n.router.lastFrom.isSome then
    expectThere fx.turnHandlerRelay message
  return handled

def sendTriangleTest1Response (responseTag : Option String) (noCornerNode : Bool) : List Effect :=
  if src.senderId = "" then []
  else [.send src.networkSourceKey src.senderId
    (.relay (.triangleTest1Response noCornerNode responseTag))]

def triangleTest1Thread (checking : InetSocketAddress) (exclusions : List SocketAddr)
    (tag : Option String) : Checked (List Effect) := do
  let _ ← expect fx.appId
    "on_triangle_test1: app_id is required (options.api or BINGLE_APP_ID)"
  match env.myId with
  | none => return []
  | some myId =>
    let finder := { fx.finder with socketAddr := env.socketAddr }
    match ← finder.findRelayExcluding fx.ip myId fx.updater exclusions fx.received with
    | .error _ => return sendTriangleTest1Response src tag true
    | .ok relay => do
        let address ← expect (relay.address env.socketAddr) "RelayInfo must have a valid address"
        return .send (.newDirect address) relay.id (.relay (.triangleTest2 myId checking)) ::
          sendTriangleTest1Response src tag false

def onTriangleTest1 (checking : InetSocketAddress) (doNotUse : List InetSocketAddress)
    (tag : Option String) : Checked (List Effect) := do
  let exclusions ← doNotUse.mapM fun ie => expect (env.socketAddr ie) "valid doNotUseEndpoints"
  triangleTest1Thread fx env src checking exclusions tag

def onTriangleTest2 (checkingId : Id) (checking : InetSocketAddress) : Checked (List Effect) := do
  let endpoint ← expect (env.socketAddr checking) "valid checkingEndpoint"
  return [.send (.newDirect endpoint) (Lib.trimEndMatches checkingId Identity.issuerSuffix)
    (.relay .triangleTest3)]

def onRelayCalledChecked (channel : ℕ) (n : Node) : Checked (Node × List Effect) :=
  match n.router.lastFrom, env.lastPublicAddr with
  | some relayAddr, some myPub => do
      expectThere fx.turnHandlerClient
        "In turn_client_handle_called must have turn_handler_client"
      return ({ n with turnClient := n.turnClient.handleCalled relayAddr myPub channel }, [])
  | _, _ => return (n, [])

def reportedRelay (failedRelayId : Id) : Checked (List (Id × SocketAddr)) :=
  match fx.relays.find? fun r => r.id = failedRelayId with
  | none => return []
  | some r => do
      let address ← expect (r.address env.socketAddr) "RelayInfo must have a valid address"
      return [(failedRelayId, address)]

def onRelayReportFailedChecked (report : FailReport) (n : Node) :
    Checked (Node × List Effect) := do
  let found ← reportedRelay fx env report.failedRelayId
  return onRelayReportFailed { env with listAllRelays := found } report n

def moveClock (timestamp : ℤ) : Checked Unit :=
  match fx.lamport with
  | none => return ()
  | some lamport => do
      let _ ← succI64 fx.overflowChecks (max lamport timestamp)
      return ()

def dispatch (msg : Message) (n : Node) : Checked (Node × List Effect) :=
  match msg with
  | .relay (.call calledId _) =>
    withTurnRelay fx "In turn_relay_lookup_addr_by_id must have turn_handler_relay" n
      (onRelayCall env src calledId n)
  | .relay (.listen _) =>
    withTurnRelay fx "In turn_relay_handle_listen must have turn_handler_relay" n
      (onRelayListen src n)
  | .relay .keepAlive =>
    withTurnRelay fx "In turn_relay_handle_listen must have turn_handler_relay" n
      (onRelayKeepAlive src n)
  | .relay (.relayCalled channel) => onRelayCalledChecked fx env channel n
  | .relay (.triangleTest1 checking doNotUse tag) => do
      let effects ← onTriangleTest1 fx env src checking doNotUse tag
      return (n, effects)
  | .relay (.triangleTest2 checkingId checking) => do
      let effects ← onTriangleTest2 env checkingId checking
      return (n, effects)
  | .mutex (.request timestamp knownIds) => do
      moveClock fx timestamp
      return dispatchMessage env src (.mutex (.request timestamp knownIds)) n
  | .reportFail (.relayReportFailed report) =>
    if n.router.amRelay then onRelayReportFailedChecked fx env report n
    else return (n, [])
  | msg => return dispatchMessage env src msg n

/-! ## What each handler asks -/

variable {fx env src} {n : Node}

lemma ensures_withTurnRelay_iff {message : String} {handled : Node × List Effect} :
    Ensures (withTurnRelay fx message n handled) (fun _ => True) ↔
      (n.router.amRelay = true → n.router.lastFrom.isSome = true → fx.turnHandlerRelay = true) := by
  rw [withTurnRelay]
  split_ifs with h
  · rw [Bool.and_eq_true] at h
    rw [ensures_bind_iff, ensures_expectThere_iff, ensures_pure_iff, and_true]
    exact ⟨fun hthere _ _ => hthere, fun hthere => hthere h.1 h.2⟩
  · rw [Bool.and_eq_true] at h
    exact iff_of_true (ensures_pure trivial) fun hrelay hfrom => absurd ⟨hrelay, hfrom⟩ h

lemma ensures_onRelayCalledChecked_iff {channel : ℕ} :
    Ensures (onRelayCalledChecked fx env channel n) (fun _ => True) ↔
      (n.router.lastFrom.isSome = true → env.lastPublicAddr.isSome = true →
        fx.turnHandlerClient = true) := by
  rw [onRelayCalledChecked.eq_def]
  cases n.router.lastFrom with
  | none => exact iff_of_true (ensures_pure trivial) nofun
  | some relayAddr =>
    cases env.lastPublicAddr with
    | none => exact iff_of_true (ensures_pure trivial) nofun
    | some myPub =>
      rw [ensures_bind_iff, ensures_expectThere_iff, ensures_pure_iff, and_true]
      exact ⟨fun hthere _ _ => hthere, fun hthere => hthere rfl rfl⟩

variable {checking : InetSocketAddress} {tag : Option String}

lemma ensures_onTriangleTest2_iff (henv : env.socketAddr = trySocketAddr) {checkingId : Id}
    :
    Ensures (onTriangleTest2 env checkingId checking) (fun _ => True) ↔ checking.IsIpv4 := by
  rw [← isSome_trySocketAddr_iff, isSome_iff_exists, onTriangleTest2, ensures_bind_iff,
    ensures_expect_iff, henv]
  simp only [ensures_pure_iff, and_true]

lemma ensures_triangleTest1Thread_iff (henv : env.socketAddr = trySocketAddr)
    {exclusions : List SocketAddr} :
    Ensures (triangleTest1Thread fx env src checking exclusions tag) (fun _ => True) ↔
      fx.appId.isSome = true ∧
        (env.myId.isSome = true → exclusions ≠ [] → ∀ r ∈ fx.updater.cache, IsLocated r) := by
  rw [triangleTest1Thread, ensures_bind_iff, ensures_expect_iff, exists_and_right,
    ← isSome_iff_exists]
  refine and_congr_right fun _ => ?_
  cases env.myId with
  | none => exact iff_of_true (ensures_pure trivial) nofun
  | some myId =>
    rw [ensures_bind_iff, ensures_congr (Q := fun _ => True),
      Finder.ensures_findRelayExcluding_iff]
    · simp only [henv, isSome_address_iff, isSome_some, forall_const]
    · rintro (message | relay) hfound
      · exact iff_of_true (ensures_pure trivial) trivial
      · obtain ⟨address, haddress⟩ :=
          isSome_iff_exists.mp (Finder.isSome_address_of_found hfound)
        refine iff_of_true ?_ trivial
        exact ensures_bind_pure_iff.mpr (ensures_expect_iff.mpr ⟨address, haddress, trivial⟩)

lemma ensures_onTriangleTest1_iff (henv : env.socketAddr = trySocketAddr)
    {doNotUse : List InetSocketAddress} :
    Ensures (onTriangleTest1 fx env src checking doNotUse tag) (fun _ => True) ↔
      (∀ ep ∈ doNotUse, ep.IsIpv4) ∧ fx.appId.isSome = true ∧
        (env.myId.isSome = true → doNotUse ≠ [] → ∀ r ∈ fx.updater.cache, IsLocated r) := by
  have hmap : Ensures (doNotUse.mapM fun ie => expect (env.socketAddr ie) "valid doNotUseEndpoints")
      (fun _ => True) ↔ ∀ ep ∈ doNotUse, ep.IsIpv4 := by
    simp only [ensures_mapM_iff, ensures_expect_iff, and_true, henv, ← isSome_iff_exists,
      isSome_trySocketAddr_iff]
  rw [onTriangleTest1, ensures_bind_iff, ← hmap,
    ensures_congr (Q := fun _ => fx.appId.isSome = true ∧
      (env.myId.isSome = true → doNotUse ≠ [] → ∀ r ∈ fx.updater.cache, IsLocated r))]
  · simp [Ensures, exists_and_right]
  · intro exclusions hex
    have hlength := (Lib.mapM_eq_ok_iff.mp hex).length_eq
    have hne : exclusions ≠ [] ↔ doNotUse ≠ [] := by
      rw [← length_pos_iff, ← hlength, length_pos_iff]
    rw [ensures_triangleTest1Thread_iff henv, hne]

lemma ensures_reportedRelay_iff (henv : env.socketAddr = trySocketAddr) {failedRelayId : Id} :
    Ensures (reportedRelay fx env failedRelayId) (fun _ => True) ↔
      ∀ r, fx.relays.find? (fun r => r.id = failedRelayId) = some r → IsLocated r := by
  rw [reportedRelay.eq_def]
  cases hfind : fx.relays.find? fun r => r.id = failedRelayId with
  | none => exact iff_of_true (ensures_pure trivial) nofun
  | some r =>
    rw [ensures_bind_iff, ensures_expect_iff, henv]
    simp [ensures_pure_iff, ← isSome_iff_exists, isSome_address_iff, forall_eq']

lemma ensures_moveClock_iff {timestamp : ℤ} :
    Ensures (moveClock fx timestamp) (fun _ => True) ↔
      (fx.overflowChecks = true →
        ∀ lamport ∈ fx.lamport, max lamport timestamp + 1 ≤ Mutex.i64Max) := by
  rw [moveClock.eq_def]
  cases fx.lamport with
  | none => exact iff_of_true (ensures_pure trivial) nofun
  | some lamport =>
    rw [ensures_bind_iff, succI64, ensures_bind_iff, ensures_expectThere_iff]
    simp only [ensures_pure_iff, and_true, mem_some_iff, forall_eq', Bool.or_eq_true,
      Bool.not_eq_true', decide_eq_true_eq]
    cases fx.overflowChecks <;> simp

/-! ## Which messages a node survives -/

def Survives (fx : Fixtures) (env : Env) (n : Node) : Message → Prop
  | .relay (.call _ _) | .relay (.listen _) | .relay .keepAlive =>
    n.router.amRelay = true → n.router.lastFrom.isSome = true → fx.turnHandlerRelay = true
  | .relay (.relayCalled _) =>
    n.router.lastFrom.isSome = true → env.lastPublicAddr.isSome = true →
      fx.turnHandlerClient = true
  | .relay (.triangleTest1 _ doNotUse _) =>
    (∀ ep ∈ doNotUse, ep.IsIpv4) ∧ fx.appId.isSome = true ∧
      (env.myId.isSome = true → doNotUse ≠ [] → ∀ r ∈ fx.updater.cache, IsLocated r)
  | .relay (.triangleTest2 _ checking) => checking.IsIpv4
  | .mutex (.request timestamp _) =>
    fx.overflowChecks = true → ∀ lamport ∈ fx.lamport, max lamport timestamp + 1 ≤ Mutex.i64Max
  | .reportFail (.relayReportFailed report) =>
    n.router.amRelay = true →
      ∀ r, fx.relays.find? (fun r => r.id = report.failedRelayId) = some r → IsLocated r
  | _ => True

/-- **Handlers and panics.**  In every state of the node and whoever sent it, handling a message
ends without a panic exactly if the node survives it. -/
theorem handlers_panic_free_iff (henv : env.socketAddr = trySocketAddr) (msg : Message) :
    Ensures (dispatch fx env src msg n) (fun _ => True) ↔ Survives fx env n msg := by
  rw [dispatch.eq_def, Survives.eq_def]
  split
  case h_1 => exact ensures_withTurnRelay_iff
  case h_2 => exact ensures_withTurnRelay_iff
  case h_3 => exact ensures_withTurnRelay_iff
  case h_4 => exact ensures_onRelayCalledChecked_iff
  case h_5 => exact ensures_bind_pure_iff.trans (ensures_onTriangleTest1_iff henv)
  case h_6 => exact ensures_bind_pure_iff.trans (ensures_onTriangleTest2_iff henv)
  case h_7 => exact ensures_bind_pure_iff.trans ensures_moveClock_iff
  case h_8 =>
    split_ifs with hrelay
    · rw [forall_prop_of_true hrelay]
      exact ensures_bind_pure_iff.trans (ensures_reportedRelay_iff henv)
    · exact iff_of_true (ensures_pure trivial) fun h => absurd h hrelay
  case h_9 => exact iff_of_true (ensures_pure trivial) trivial

end Dispatch

def fixturesOf (amRelay : Bool) : Fixtures where
  turnHandlerRelay := amRelay
  turnHandlerClient := !amRelay
  appId := some 1
  finder := .oneRoot
  ip := Finder.exampleIp

def nodeOf (amRelay : Bool) : Node where
  router := { lastFrom := some "203.0.113.9:5000", amRelay := amRelay }
  backend := .empty none none
  turnRelay := .new
  turnClient := .new

def publicEnv : Env where
  lastPublicAddr := some "198.51.100.6:5000"
  socketAddr := trySocketAddr

def examplePeer : FromStruct := ⟨"PEER", .newDirect "203.0.113.9:5000"⟩

theorem triangle_test2_survived :
    Ensures (dispatch (fixturesOf true) publicEnv examplePeer
      (.relay (.triangleTest2 "PEER" ⟨"192.0.2.1", 5000⟩)) (nodeOf true)) fun _ => True :=
  (handlers_panic_free_iff rfl _).mpr ⟨⟨⟨192, 0, 2, 1⟩, rfl⟩, by decide⟩

/-- **Peers make handlers panic**: with the name of a host or an IPv6 address for an endpoint to
test or to avoid, and by telling a relay that it is called. -/
theorem handlers_panic :
    dispatch (fixturesOf true) publicEnv examplePeer
        (.relay (.triangleTest2 "PEER" ⟨"relay.example", 5000⟩)) (nodeOf true) =
      .error (.expect "valid checkingEndpoint") ∧
    dispatch (fixturesOf true) publicEnv examplePeer
        (.relay (.triangleTest1 ⟨"192.0.2.1", 5000⟩ [⟨"2001:db8::1", 5000⟩] none)) (nodeOf true) =
      .error (.expect "valid doNotUseEndpoints") ∧
    dispatch (fixturesOf true) publicEnv examplePeer (.relay (.relayCalled 0x4000)) (nodeOf true) =
      .error (.expect "In turn_client_handle_called must have turn_handler_client") := by
  have hname : publicEnv.socketAddr ⟨"relay.example", 5000⟩ = none := by decide +kernel
  have hipv6 : publicEnv.socketAddr ⟨"2001:db8::1", 5000⟩ = none := by decide +kernel
  refine ⟨?_, ?_, rfl⟩
  · rw [dispatch, onTriangleTest2, hname]
    rfl
  · rw [dispatch, onTriangleTest1, mapM_cons, hipv6]
    rfl

end Bingle.Messages
