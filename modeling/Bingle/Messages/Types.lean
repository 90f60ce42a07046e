import Bingle.Mutex.Node
import Bingle.Outgoing.Path

/-!
# The messages nodes exchange

`Message` (`bingle_core/src/messages/types.rs`), with the fields some handler reads, and
`AdvertRecord` (`bingle_core/src/ddb/advert_record.rs`).
-/

namespace Bingle.Messages

abbrev Id := String

abbrev SocketAddr := String

structure InetSocketAddress where
  host : String
  port : ℕ
deriving DecidableEq, Repr

structure AdvertRecord where
  id : Id
  endpoint : Option InetSocketAddress := none
  amRelay : Option Bool := none
  relayId : Option Id := none
  relaySig : Option String := none
  date : String := ""
  sig : Option String := none
deriving DecidableEq, Repr

def AdvertRecord.isRelay (r : AdvertRecord) : Bool := r.amRelay.getD false

inductive RelayState
  | unknown
  | off
  | starting
  | loading
  | loaded
  | available
  | own
deriving DecidableEq, Repr

inductive RelayMessage
  | call (calledId : Id) (tag : Option String)
  | relayResponse (channel : Option ℕ) (responseTag : Option String)
  | triangleTest1 (checkingEndpoint : InetSocketAddress)
      (doNotUseEndpoints : List InetSocketAddress) (tag : Option String)
  | triangleTest2 (checkingId : Id) (checkingEndpoint : InetSocketAddress)
  | triangleTest3
  | triangleTest1Response (noCornerNode : Bool) (responseTag : Option String)
  | listen (tag : Option String)
  | check (tag : Option String)
  | listenResponse (responseTag : Option String)
  | checkResponse (relayState : RelayState) (responseTag : Option String)
  | keepAlive
  | relayCalled (channel : ℕ)
deriving DecidableEq, Repr

structure DdbUpsertResolve where
  startId : Id
  record : AdvertRecord
  rippled : Bool := false
  tag : Option String := none
deriving DecidableEq, Repr

structure DdbDeleteResolve where
  startId : Id
  rippled : Bool := false
  tag : Option String := none
deriving DecidableEq, Repr

structure DdbSignoff where
  startId : Id
  rippled : Bool := false
  tag : Option String := none
deriving DecidableEq, Repr

structure DdbSignon where
  startId : Id
  rippled : Option Bool := none
  tag : Option String := none
deriving DecidableEq, Repr

structure DdbRelaysStatusResponse where
  responderState : RelayState
  epochId : ℤ
  treeOrder : ℤ
  relayIds : List Id
  relayEndpoints : Option (List InetSocketAddress)
  relayStates : List RelayState
  responseTag : Option String
deriving DecidableEq, Repr

inductive DdbMessage
  | upsertResolve (m : DdbUpsertResolve)
  | deleteResolve (m : DdbDeleteResolve)
  | signoff (m : DdbSignoff)
  | queryResolve (id : Id) (tag : Option String)
  | queryResponse (found : Bool) (advert : Option AdvertRecord) (responseTag : Option String)
  | updateResponse (responseTag : Option String)
  | signon (m : DdbSignon)
  | signonResponse (responseTag : Option String)
  | getRelaysStatus (epochId : ℤ) (tag : Option String)
  | relaysStatusResponse (m : DdbRelaysStatusResponse)
  | initResolve (tag : Option String)
  | initResponse (dbCount : ℤ) (responseTag : Option String)
  | dumpResolve (record : AdvertRecord)
deriving DecidableEq, Repr

inductive PingMessage
  | ping (tag : Option String) (text : Option String)
  | response (verifiedId : Id) (responseTag : Option String) (text : Option String)
deriving DecidableEq, Repr

structure FailReport where
  failedRelayId : Id
  failType : String
  timestamp : String
deriving DecidableEq, Repr

inductive ReportFailMessage
  | relayReportFailed (report : FailReport)
  | reportFailedRipple (report : FailReport)
  | reportFailedRippleResponse (report : FailReport)
  | reportFailedComplete (report : FailReport)
deriving DecidableEq, Repr

inductive Message
  | plainText (text : String)
  | relay (m : RelayMessage)
  | ddb (m : DdbMessage)
  | ping (m : PingMessage)
  | mutex (m : Mutex.Msg)
  | reportFail (m : ReportFailMessage)
  | unknown (raw : String)
deriving DecidableEq

inductive Reply
  | message (m : Message)
  | fail (app : Option String) (responseTag : Option String) (text : String)
deriving DecidableEq

end Bingle.Messages
