import Bingle.Lib.Threads
import Bingle.Stun.Finder

/-!
# The engine's lifecycle

How a node finds its public address and registers (`bingle_core/src/engine/mod.rs`, with the
triangle handlers of `messages/handlers.rs`).  Each access to an atomic or a locked cell is one step
of a thread's code, and any thread may run between two steps.  The answers of the network and the
chain, and the time, come from outside.
-/

namespace Bingle

inductive EngineState
  | stunIdentify
  | trianglePing
  | endpointAvailable
  | registered
  | natRestricted
deriving DecidableEq, Repr

inductive EarlyState
  | stunIdentify
  | trianglePing
deriving DecidableEq, Repr

def EarlyState.toEngineState : EarlyState → EngineState
  | .stunIdentify => .stunIdentify
  | .trianglePing => .trianglePing

inductive NatType
  | unknown
  | noConnection
  | symmetric
  | restricted
  | fullCone
deriving DecidableEq, Repr

structure RelayInfo where
  id : String
  address : Stun.SocketAddr
deriving DecidableEq, Repr

structure Engine where
  stateField : EarlyState := .stunIdentify
  registered : Bool := false
  endpointReady : Bool := false
  natRestricted : Bool := false
  natType : NatType := .unknown
  lastPublicAddr : Option Stun.SocketAddr := none
  /-- a new IP, and for how many polls it has been seen -/
  pendingIpChange : Option (List UInt8 × ℕ) := none
  lastRegisteredRelay : Option RelayInfo := none
  lastReregisterAt : Option ℕ := none
  registerAttemptAt : Option ℕ := none
  relayFinder : Bool := false
  lastNotified : Option Bool := none
deriving DecidableEq, Repr

namespace Engine

def state (e : Engine) : EngineState :=
  if e.registered then .registered
  else if e.endpointReady then .endpointAvailable
  else if e.natRestricted then .natRestricted
  else e.stateField.toEngineState

lemma state_eq_registered_iff (e : Engine) : e.state = .registered ↔ e.registered = true := by
  rw [state]
  cases hreg : e.registered with
  | true => simp
  | false =>
    cases e.endpointReady <;> cases e.natRestricted <;> cases e.stateField <;>
      simp [EarlyState.toEngineState]

/-- The single writes to the engine. -/
inductive Write
  | stateField (s : EarlyState)
  | registered (b : Bool)
  | endpointReady (b : Bool)
  | natRestricted (b : Bool)
  | natType (n : NatType)
  | lastPublicAddr (a : Option Stun.SocketAddr)
  | pendingIpChange (p : Option (List UInt8 × ℕ))
  | lastRegisteredRelay (r : RelayInfo)
  | lastReregisterAt (now : ℕ)
  | registerAttemptAt (now : ℕ)
  | relayFinder
  | notifyListening (listening : Bool)
deriving DecidableEq, Repr

def apply (e : Engine) : Write → Engine
  | .stateField s => { e with stateField := s }
  | .registered b => { e with registered := b }
  | .endpointReady b => { e with endpointReady := b }
  | .natRestricted b => { e with natRestricted := b }
  | .natType n => { e with natType := n }
  | .lastPublicAddr a => { e with lastPublicAddr := a }
  | .pendingIpChange p => { e with pendingIpChange := p }
  | .lastRegisteredRelay r => { e with lastRegisteredRelay := some r }
  | .lastReregisterAt now => { e with lastReregisterAt := some now }
  | .registerAttemptAt now => { e with registerAttemptAt := some now }
  | .relayFinder => { e with relayFinder := true }
  | .notifyListening b => { e with lastNotified := some b }

inductive ListenReply
  | listenResponse
  | unexpected
  | failed
deriving DecidableEq, Repr

structure Answer where
  relay : Option RelayInfo := none
  listen : ListenReply := .failed
  ddbRegistered : Bool := false
  now : ℕ := 0
deriving DecidableEq, Repr

instance : Nonempty Answer := ⟨{}⟩

abbrev Run := Lib.Code Engine Write Answer

open Lib.Code

def registerWatchdog : ℕ := 30000

def reregisterDebounce : ℕ := 5000

def pendingIpChangePolls : ℕ := 3

/-! ## State -/

def getState : Run EngineState := do
  if ← look fun e _ => e.registered then return .registered
  if ← look fun e _ => e.endpointReady then return .endpointAvailable
  if ← look fun e _ => e.natRestricted then return .natRestricted
  look fun e _ => e.stateField.toEngineState

def setStateInternal : EngineState → Run Unit
  | .endpointAvailable => write (.endpointReady true)
  | .registered => write (.registered true)
  | .natRestricted => do
      -- only meaningful while the endpoint is not available
      if !(← look fun e _ => e.endpointReady) then write (.natRestricted true)
  | .stunIdentify | .trianglePing => pure ()

/-! ## Registration with a relay -/

def sendRelayListen : ℕ → Run Bool
  | 0 => pure false
  | attempts + 1 => do
      match ← look fun _ i => i.listen with
      | .listenResponse => return true
      | .unexpected => return false
      | .failed => sendRelayListen attempts

section Configured

-- whether an app id is configured, which discovery needs
variable (appId : Bool)

def findRelay : Run (Option RelayInfo) :=
  look fun e i => if e.relayFinder || appId then i.relay else none

def registerWithRelay (relayInfoOverride : Option RelayInfo) : Run Bool := do
  let relayInfo ← match relayInfoOverride with
    | some info => pure (some info)
    | none => findRelay appId
  match relayInfo with
  | none => return false
  | some info =>
    if !(← sendRelayListen 3) then return false
    if !(← look fun _ i => i.ddbRegistered) then return false
    setStateInternal .registered
    write (.notifyListening true)
    write (.lastRegisteredRelay info)
    return true

def reregisterOrSwitch (relay : RelayInfo) : Run Bool := do
  if ← registerWithRelay appId (some relay) then return true
  registerWithRelay appId none

def refreshRelayRegistration : Run Unit := do
  if (← getState) = .registered then
    if let some relay ← look fun e _ => e.lastRegisteredRelay then
      let recent ← update fun e i =>
        if e.lastReregisterAt.any fun t => i.now - t < reregisterDebounce then (none, true)
        else (some (.lastReregisterAt i.now), false)
      if !recent then
        let _ ← reregisterOrSwitch appId relay

def onOutboundSessionEstablished (endpoint : Stun.SocketAddr) : Run Unit := do
  if let some relay ← look fun e _ => e.lastRegisteredRelay then
    if relay.address = endpoint then refreshRelayRegistration appId

def renewHomeRelayListen : Run Unit := do
  if (← getState) = .registered then
    if let some _ ← look fun e _ => e.lastRegisteredRelay then
      if !(← sendRelayListen 3) then
        let _ ← registerWithRelay appId none

/-! ## STUN -/

inductive PublicAddrChange
  | unchanged
  | portOnly
  | pendingIpDebounce
  | reset
deriving DecidableEq, Repr

def classifyPublicAddrChange (prevAddr newAddr : Option Stun.SocketAddr) : Run PublicAddrChange :=
  match prevAddr, newAddr with
  | none, _ => do
      write (.pendingIpChange none)
      return .unchanged
  | some _, none => do
      write (.pendingIpChange none)
      return .reset
  | some prev, some new =>
    if new = prev then do
      write (.pendingIpChange none)
      return .unchanged
    else if new.ip = prev.ip then do
      write (.pendingIpChange none)
      return .portOnly
    else
      update fun e _ =>
        let count :=
          match e.pendingIpChange with
          | some (ip, n) => if ip = new.ip then n + 1 else 1
          | none => 1
        if count ≥ pendingIpChangePolls then (some (.pendingIpChange none), .reset)
        else (some (.pendingIpChange (some (new.ip, count))), .pendingIpDebounce)

def noConnection : Run Unit := do
  write (.natType .noConnection)
  write (.stateField .stunIdentify)
  write (.notifyListening false)

def triangleTestInProgress : Run Bool := do
  if (← look fun e _ => e.stateField) ≠ .trianglePing then return false
  let stuck := (← getState) = .trianglePing
  let stale ← look fun e i => e.registerAttemptAt.any fun t => i.now - t ≥ registerWatchdog
  return !stuck || !stale

def stunConsistentProcess (publicAddr : Option Stun.SocketAddr) : Run Unit := do
  let prevAddr ← look fun e _ => e.lastPublicAddr
  let change ← classifyPublicAddrChange prevAddr publicAddr
  let addrChanged := change = .reset
  if addrChanged then
    write (.stateField .trianglePing)
    write (.natType .unknown)
    write (.notifyListening false)
  if change ≠ .pendingIpDebounce then
    write (.lastPublicAddr publicAddr)
  if addrChanged then
    if let some relay ← look fun e _ => e.lastRegisteredRelay then
      if ← reregisterOrSwitch appId relay then return
  else
    if ← triangleTestInProgress then return
  write (.stateField .trianglePing)
  update fun _ i => (some (.registerAttemptAt i.now), ())
  match publicAddr with
  | none => noConnection
  | some _ =>
    if !(← look fun e _ => e.relayFinder || appId) then return
    match ← look fun _ i => i.relay with
    | none => noConnection
    | some _ => write .relayFinder

def onStunBlocked : Run Unit := noConnection

def onStunNone : Run Unit := do
  write (.natType .unknown)
  write (.registered false)
  write (.endpointReady false)
  write (.natRestricted false)
  write (.stateField .stunIdentify)
  write (.notifyListening false)

/-! ## The triangle test -/

def onTriangleTest3 : Run Unit := do
  setStateInternal .endpointAvailable
  write (.natType .fullCone)
  if let some _ ← look fun e _ => e.lastPublicAddr then
    if ← look fun _ i => i.ddbRegistered then
      setStateInternal .registered
      write (.notifyListening true)

/-- `post_triangle_relay_register`, which `on_triangle_test1_response` starts, at once or after ten
seconds -/
def postTriangleRelayRegister : Run Unit := do
  let cur ← getState
  let settled : Bool ←
    if cur = .endpointAvailable ∨ cur = .registered then look fun e _ => e.natType ≠ .unknown
    else pure false
  if !settled then
    setStateInternal .natRestricted
    write (.natType .restricted)
    let _ ← registerWithRelay appId none

def startWithAddr (staticAddr : Stun.SocketAddr) (amRelay : Bool) : Run Unit := do
  write (.lastPublicAddr (some staticAddr))
  if appId then write .relayFinder
  write (.natType .fullCone)
  if amRelay && (← look fun e _ => e.relayFinder) then
    setStateInternal .registered
    write (.notifyListening true)
  else
    write (.notifyListening true)
    setStateInternal .registered

/-! ## Everything that starts a thread -/

inductive Trigger
  | stunConsistent (publicAddr : Option Stun.SocketAddr)
  | stunInconsistent
  | stunBlocked
  | stunNone
  | triangleTest1Response
  | triangleTest3
  | foreground
  | outboundSessionEstablished (endpoint : Stun.SocketAddr)
  | advertRefresh
  | startWithAddr (staticAddr : Stun.SocketAddr) (amRelay : Bool)
deriving DecidableEq, Repr

def code : Trigger → Run Unit
  | .stunConsistent publicAddr => stunConsistentProcess appId publicAddr
  | .stunInconsistent => do let _ ← registerWithRelay appId none
  | .stunBlocked => onStunBlocked
  | .stunNone => onStunNone
  | .triangleTest1Response => postTriangleRelayRegister appId
  | .triangleTest3 => onTriangleTest3
  | .foreground => refreshRelayRegistration appId
  | .outboundSessionEstablished endpoint => onOutboundSessionEstablished appId endpoint
  | .advertRefresh => renewHomeRelayListen appId
  | .startWithAddr staticAddr amRelay => startWithAddr appId staticAddr amRelay

end Configured

end Engine

end Bingle
