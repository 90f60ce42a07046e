import Bingle.Lib.Json
import Bingle.Messages.Types

/-!
# Messages on the wire

The records of `bingle_core/src/messages/types.rs`, and `AdvertRecord` and `InetSocketAddress` of
`ddb/advert_record.rs`, with every field, and how `serde` writes and reads each.  `data`, any JSON
value, and `app` and `type` of a plain text do not read back as they were where they are `null`.
-/

namespace Bingle.Wire

open Lib (Json Codec Slot Fields)

open Messages (RelayState)

/-! ## Fields -/

def optString : Slot (Option String) := .optional .string fun _ h => Json.noConfusion h

def optBool : Slot (Option Bool) := .optional .bool fun _ h => Json.noConfusion h

def optU16 : Slot (Option UInt16) := .optional .u16 fun _ h => Json.noConfusion h

def optI64 : Slot (Option Int64) := .optional .i64 fun _ h => Json.noConfusion h

/-- `Option<Option<String>>`: a `null` in place of a string is written, and reads back as
missing. -/
def optOptString : Slot (Option (Option String)) where
  enc
    | none => none
    | some none => some .null
    | some (some s) => some (.str s)
  dec := Slot.decOption fun v => Codec.string.dec v |>.map some
  norm
    | some none => none
    | v => v
  dec_enc v := by rcases v with _ | _ | s <;> rfl

/-! ## Parts of messages -/

structure InetSocketAddress where
  host : String
  port : UInt16

def InetSocketAddress.fields : Fields InetSocketAddress InetSocketAddress :=
  Fields.make InetSocketAddress InetSocketAddress.mk
    |>.field "host" (.required .string) (·.host)
    |>.field "port" (.required .u16) (·.port)

def InetSocketAddress.codec : Codec InetSocketAddress := fields.codec fun _ => rfl

def optEndpoint : Slot (Option InetSocketAddress) :=
  .optional InetSocketAddress.codec fun _ h => Json.noConfusion h

def optEndpoints : Slot (Option (List InetSocketAddress)) :=
  .optional InetSocketAddress.codec.list fun _ h => Json.noConfusion h

structure AdvertRecord where
  id : String
  endpoint : Option InetSocketAddress
  amRelay : Option Bool
  relayId : Option String
  relaySig : Option String
  date : String
  sig : Option String

def AdvertRecord.fields : Fields AdvertRecord AdvertRecord :=
  Fields.make AdvertRecord AdvertRecord.mk
    |>.field "id" (.required .string) (·.id)
    |>.field "endpoint" optEndpoint (·.endpoint)
    |>.field "amRelay" optBool (·.amRelay)
    |>.field "relayId" optString (·.relayId)
    |>.field "relaySig" optString (·.relaySig)
    |>.field "date" (.required .string) (·.date)
    |>.field "sig" optString (·.sig)

def AdvertRecord.codec : Codec AdvertRecord := fields.codec fun _ => rfl

def optAdvert : Slot (Option AdvertRecord) :=
  .optional AdvertRecord.codec fun _ h => Json.noConfusion h

structure FailVote where
  confirmingId : String
  signature : String

def FailVote.fields : Fields FailVote FailVote :=
  Fields.make FailVote FailVote.mk
    |>.field "confirming_id" (.required .string) (·.confirmingId)
    |>.field "signature" (.required .string) (·.signature)

def FailVote.codec : Codec FailVote := fields.codec fun _ => rfl

def relayStateName : RelayState → String
  | .unknown => "unknown"
  | .off => "off"
  | .starting => "starting"
  | .loading => "loading"
  | .loaded => "loaded"
  | .available => "available"
  | .own => "own"

def relayStateOfName (name : String) : Option RelayState :=
  [.unknown, .off, .starting, .loading, .loaded, .available, .own].find? (relayStateName · = name)

def relayState : Codec RelayState :=
  Codec.unitVariant relayStateName relayStateOfName fun s => by cases s <;> rfl

structure Iteration where
  toList : Finset String → List String
  toFinset_toList : ∀ s, (toList s).toFinset = s

def Iteration.idSet (it : Iteration) : Codec (Finset String) :=
  Codec.string.list.via it.toList (fun l => some l.toFinset) fun s =>
    congrArg some (it.toFinset_toList s)

def Iteration.optIdSet (it : Iteration) : Slot (Option (Finset String)) :=
  .optional it.idSet fun _ h => Json.noConfusion h

/-! ## Plain text -/

structure PlainTextMessage where
  text : String
  app : Option (Option String)
  type : Option (Option String)
  cipherSuite : Option String
  sentTime : Option Int64
  signature : Option String

def PlainTextMessage.fields : Fields PlainTextMessage PlainTextMessage :=
  Fields.make PlainTextMessage PlainTextMessage.mk
    |>.field "text" (.required .string) (·.text)
    |>.field "app" optOptString (·.app)
    |>.field "type" optOptString (·.type)
    |>.field "cipher_suite" optString (·.cipherSuite)
    |>.field "sent_time" optI64 (·.sentTime)
    |>.field "signature" optString (·.signature)

/-! ## Relay messages -/

structure RelayCall where
  app : Option String
  calledId : String
  tag : Option String

def RelayCall.fields : Fields RelayCall RelayCall :=
  Fields.make RelayCall RelayCall.mk
    |>.field "app" .nullable (·.app)
    |>.field "calledId" (.required .string) (·.calledId)
    |>.field "tag" optString (·.tag)

structure RelayResponse where
  app : Option String
  channel : Option UInt16
  responseTag : Option String

def RelayResponse.fields : Fields RelayResponse RelayResponse :=
  Fields.make RelayResponse RelayResponse.mk
    |>.field "app" .nullable (·.app)
    |>.field "channel" optU16 (·.channel)
    |>.field "responseTag" optString (·.responseTag)

structure RelayCalled where
  app : Option String
  channel : UInt16

def RelayCalled.fields : Fields RelayCalled RelayCalled :=
  Fields.make RelayCalled RelayCalled.mk
    |>.field "app" .nullable (·.app)
    |>.field "channel" (.required .u16) (·.channel)

structure RelayTriangleTest1 where
  app : Option String
  checkingEndpoint : InetSocketAddress
  doNotUseEndpoints : List InetSocketAddress
  tag : Option String

def RelayTriangleTest1.fields : Fields RelayTriangleTest1 RelayTriangleTest1 :=
  Fields.make RelayTriangleTest1 RelayTriangleTest1.mk
    |>.field "app" .nullable (·.app)
    |>.field "checkingEndpoint" (.required InetSocketAddress.codec) (·.checkingEndpoint)
    |>.field "doNotUseEndpoints" (.nonempty InetSocketAddress.codec) (·.doNotUseEndpoints)
    |>.field "tag" optString (·.tag)

structure RelayTriangleTest2 where
  app : Option String
  checkingId : String
  checkingEndpoint : InetSocketAddress

def RelayTriangleTest2.fields : Fields RelayTriangleTest2 RelayTriangleTest2 :=
  Fields.make RelayTriangleTest2 RelayTriangleTest2.mk
    |>.field "app" .nullable (·.app)
    |>.field "checkingId" (.required .string) (·.checkingId)
    |>.field "checkingEndpoint" (.required InetSocketAddress.codec) (·.checkingEndpoint)

structure RelayTriangleTest3 where
  app : Option String

def RelayTriangleTest3.fields : Fields RelayTriangleTest3 RelayTriangleTest3 :=
  Fields.make RelayTriangleTest3 RelayTriangleTest3.mk
    |>.field "app" .nullable (·.app)

structure RelayTriangleTest1Response where
  app : Option String
  noCornerNode : Bool
  responseTag : Option String

def RelayTriangleTest1Response.fields :
    Fields RelayTriangleTest1Response RelayTriangleTest1Response :=
  Fields.make RelayTriangleTest1Response RelayTriangleTest1Response.mk
    |>.field "app" .nullable (·.app)
    |>.field "noCornerNode" (.withDefault .bool false) (·.noCornerNode)
    |>.field "responseTag" optString (·.responseTag)

structure RelayListen where
  app : Option String
  tag : Option String

def RelayListen.fields : Fields RelayListen RelayListen :=
  Fields.make RelayListen RelayListen.mk
    |>.field "app" .nullable (·.app)
    |>.field "tag" optString (·.tag)

structure RelayCheck where
  app : Option String
  tag : Option String

def RelayCheck.fields : Fields RelayCheck RelayCheck :=
  Fields.make RelayCheck RelayCheck.mk
    |>.field "app" .nullable (·.app)
    |>.field "tag" optString (·.tag)

structure RelayListenResponse where
  app : Option String
  responseTag : Option String

def RelayListenResponse.fields : Fields RelayListenResponse RelayListenResponse :=
  Fields.make RelayListenResponse RelayListenResponse.mk
    |>.field "app" .nullable (·.app)
    |>.field "responseTag" optString (·.responseTag)

structure RelayCheckResponse where
  app : Option String
  relayState : String
  responseTag : Option String

def RelayCheckResponse.fields : Fields RelayCheckResponse RelayCheckResponse :=
  Fields.make RelayCheckResponse RelayCheckResponse.mk
    |>.field "app" .nullable (·.app)
    |>.field "state" (.required .string) (·.relayState)
    |>.field "responseTag" optString (·.responseTag)

structure RelayKeepAlive where
  app : Option String

def RelayKeepAlive.fields : Fields RelayKeepAlive RelayKeepAlive :=
  Fields.make RelayKeepAlive RelayKeepAlive.mk
    |>.field "app" .nullable (·.app)

/-! ## DDB messages -/

structure DdbUpsertResolve where
  app : String
  startId : String
  epoch : UInt64
  record : AdvertRecord
  originalSignature : String
  rippled : Bool
  tag : Option String
  responseTag : Option String
  text : Option String
  data : Option Json

def DdbUpsertResolve.fields : Fields DdbUpsertResolve DdbUpsertResolve :=
  Fields.make DdbUpsertResolve DdbUpsertResolve.mk
    |>.field "app" (.required .string) (·.app)
    |>.field "startId" (.required .string) (·.startId)
    |>.field "epoch" (.required .u64) (·.epoch)
    |>.field "record" (.required AdvertRecord.codec) (·.record)
    |>.field "originalSignature" (.required .string) (·.originalSignature)
    |>.field "rippled" (.required .bool) (·.rippled)
    |>.field "tag" optString (·.tag)
    |>.field "responseTag" optString (·.responseTag)
    |>.field "text" optString (·.text)
    |>.field "data" .json (·.data)

structure DdbDeleteResolve where
  app : String
  startId : String
  epoch : UInt64
  originalSignature : String
  rippled : Bool
  tag : Option String
  responseTag : Option String
  text : Option String
  data : Option Json

def DdbDeleteResolve.fields : Fields DdbDeleteResolve DdbDeleteResolve :=
  Fields.make DdbDeleteResolve DdbDeleteResolve.mk
    |>.field "app" (.required .string) (·.app)
    |>.field "startId" (.required .string) (·.startId)
    |>.field "epoch" (.required .u64) (·.epoch)
    |>.field "originalSignature" (.required .string) (·.originalSignature)
    |>.field "rippled" (.required .bool) (·.rippled)
    |>.field "tag" optString (·.tag)
    |>.field "responseTag" optString (·.responseTag)
    |>.field "text" optString (·.text)
    |>.field "data" .json (·.data)

structure DdbSignoff where
  app : String
  startId : String
  rippled : Bool
  tag : Option String
  responseTag : Option String
  text : Option String
  data : Option Json

def DdbSignoff.fields : Fields DdbSignoff DdbSignoff :=
  Fields.make DdbSignoff DdbSignoff.mk
    |>.field "app" (.required .string) (·.app)
    |>.field "startId" (.required .string) (·.startId)
    |>.field "rippled" (.withDefault .bool false) (·.rippled)
    |>.field "tag" optString (·.tag)
    |>.field "responseTag" optString (·.responseTag)
    |>.field "text" optString (·.text)
    |>.field "data" .json (·.data)

structure DdbQueryResolve where
  app : String
  id : String
  tag : Option String
  text : Option String
  data : Option Json

def DdbQueryResolve.fields : Fields DdbQueryResolve DdbQueryResolve :=
  Fields.make DdbQueryResolve DdbQueryResolve.mk
    |>.field "app" (.required .string) (·.app)
    |>.field "id" (.required .string) (·.id)
    |>.field "tag" optString (·.tag)
    |>.field "text" optString (·.text)
    |>.field "data" .json (·.data)

structure DdbQueryResponse where
  app : String
  found : Bool
  advert : Option AdvertRecord
  tag : Option String
  responseTag : Option String
  text : Option String
  data : Option Json

def DdbQueryResponse.fields : Fields DdbQueryResponse DdbQueryResponse :=
  Fields.make DdbQueryResponse DdbQueryResponse.mk
    |>.field "app" (.required .string) (·.app)
    |>.field "found" (.required .bool) (·.found)
    |>.field "advert" optAdvert (·.advert)
    |>.field "tag" optString (·.tag)
    |>.field "responseTag" optString (·.responseTag)
    |>.field "text" optString (·.text)
    |>.field "data" .json (·.data)

structure DdbUpdateResponse where
  app : String
  responseTag : Option String
  text : Option String
  data : Option Json

def DdbUpdateResponse.fields : Fields DdbUpdateResponse DdbUpdateResponse :=
  Fields.make DdbUpdateResponse DdbUpdateResponse.mk
    |>.field "app" (.required .string) (·.app)
    |>.field "responseTag" optString (·.responseTag)
    |>.field "text" optString (·.text)
    |>.field "data" .json (·.data)

structure DdbSignon where
  app : String
  startId : String
  originalSignature : Option String
  rippled : Option Bool
  tag : Option String
  responseTag : Option String
  text : Option String
  data : Option Json

def DdbSignon.fields : Fields DdbSignon DdbSignon :=
  Fields.make DdbSignon DdbSignon.mk
    |>.field "app" (.required .string) (·.app)
    |>.field "startId" (.required .string) (·.startId)
    |>.field "originalSignature" optString (·.originalSignature)
    |>.field "rippled" optBool (·.rippled)
    |>.field "tag" optString (·.tag)
    |>.field "responseTag" optString (·.responseTag)
    |>.field "text" optString (·.text)
    |>.field "data" .json (·.data)

structure DdbSignonResponse where
  app : String
  tag : Option String
  responseTag : Option String
  text : Option String
  data : Option Json

def DdbSignonResponse.fields : Fields DdbSignonResponse DdbSignonResponse :=
  Fields.make DdbSignonResponse DdbSignonResponse.mk
    |>.field "app" (.required .string) (·.app)
    |>.field "tag" optString (·.tag)
    |>.field "responseTag" optString (·.responseTag)
    |>.field "text" optString (·.text)
    |>.field "data" .json (·.data)

structure DdbGetRelaysStatus where
  app : String
  epochId : Int64
  tag : Option String
  text : Option String
  data : Option Json

def DdbGetRelaysStatus.fields : Fields DdbGetRelaysStatus DdbGetRelaysStatus :=
  Fields.make DdbGetRelaysStatus DdbGetRelaysStatus.mk
    |>.field "app" (.required .string) (·.app)
    |>.field "epochId" (.required .i64) (·.epochId)
    |>.field "tag" optString (·.tag)
    |>.field "text" optString (·.text)
    |>.field "data" .json (·.data)

structure DdbRelaysStatusResponse where
  app : String
  responderState : RelayState
  epochId : Int64
  treeOrder : Int32
  relayIds : List String
  relayEndpoints : Option (List InetSocketAddress)
  relayStates : List RelayState
  responseTag : Option String
  text : Option String
  data : Option Json

def DdbRelaysStatusResponse.fields : Fields DdbRelaysStatusResponse DdbRelaysStatusResponse :=
  Fields.make DdbRelaysStatusResponse DdbRelaysStatusResponse.mk
    |>.field "app" (.required .string) (·.app)
    |>.field "responderState" (.required relayState) (·.responderState)
    |>.field "epochId" (.required .i64) (·.epochId)
    |>.field "treeOrder" (.required .i32) (·.treeOrder)
    |>.field "relayIds" (.required Codec.string.list) (·.relayIds)
    |>.field "relayEndpoints" optEndpoints (·.relayEndpoints)
    |>.field "relayStates" (.required relayState.list) (·.relayStates)
    |>.field "responseTag" optString (·.responseTag)
    |>.field "text" optString (·.text)
    |>.field "data" .json (·.data)

structure DdbInitResolve where
  app : String
  tag : Option String
  responseTag : Option String
  text : Option String
  data : Option Json

def DdbInitResolve.fields : Fields DdbInitResolve DdbInitResolve :=
  Fields.make DdbInitResolve DdbInitResolve.mk
    |>.field "app" (.required .string) (·.app)
    |>.field "tag" optString (·.tag)
    |>.field "responseTag" optString (·.responseTag)
    |>.field "text" optString (·.text)
    |>.field "data" .json (·.data)

structure DdbInitResponse where
  app : String
  dbCount : Int64
  responseTag : Option String
  text : Option String
  data : Option Json

def DdbInitResponse.fields : Fields DdbInitResponse DdbInitResponse :=
  Fields.make DdbInitResponse DdbInitResponse.mk
    |>.field "app" (.required .string) (·.app)
    |>.field "dbCount" (.required .i64) (·.dbCount)
    |>.field "responseTag" optString (·.responseTag)
    |>.field "text" optString (·.text)
    |>.field "data" .json (·.data)

structure DdbDumpResolve where
  app : String
  record : AdvertRecord
  tag : Option String
  responseTag : Option String
  text : Option String
  data : Option Json

def DdbDumpResolve.fields : Fields DdbDumpResolve DdbDumpResolve :=
  Fields.make DdbDumpResolve DdbDumpResolve.mk
    |>.field "app" (.required .string) (·.app)
    |>.field "record" (.required AdvertRecord.codec) (·.record)
    |>.field "tag" optString (·.tag)
    |>.field "responseTag" optString (·.responseTag)
    |>.field "text" optString (·.text)
    |>.field "data" .json (·.data)

/-! ## Ping messages -/

structure PingPing where
  app : String
  tag : Option String
  responseTag : Option String
  text : Option String
  data : Option Json

def PingPing.fields : Fields PingPing PingPing :=
  Fields.make PingPing PingPing.mk
    |>.field "app" (.required .string) (·.app)
    |>.field "tag" optString (·.tag)
    |>.field "responseTag" optString (·.responseTag)
    |>.field "text" optString (·.text)
    |>.field "data" .json (·.data)

structure PingResponse where
  app : String
  verifiedId : String
  responseTag : Option String
  text : Option String
  data : Option Json

def PingResponse.fields : Fields PingResponse PingResponse :=
  Fields.make PingResponse PingResponse.mk
    |>.field "app" (.required .string) (·.app)
    |>.field "verifiedId" (.required .string) (·.verifiedId)
    |>.field "responseTag" optString (·.responseTag)
    |>.field "text" optString (·.text)
    |>.field "data" .json (·.data)

/-! ## Mutex messages -/

section Mutex

variable (it : Iteration)

structure MutexRequest where
  app : String
  lamportTimestamp : Int64
  tag : Option String
  knownIds : Option (Finset String)

def MutexRequest.fields : Fields MutexRequest MutexRequest :=
  Fields.make MutexRequest MutexRequest.mk
    |>.field "app" (.required .string) (·.app)
    |>.field "lamport_timestamp" (.required .i64) (·.lamportTimestamp)
    |>.field "tag" optString (·.tag)
    |>.field "known_ids" it.optIdSet (·.knownIds)

structure MutexResponse where
  app : String
  responseTag : Option String
  knownIds : Option (Finset String)

def MutexResponse.fields : Fields MutexResponse MutexResponse :=
  Fields.make MutexResponse MutexResponse.mk
    |>.field "app" (.required .string) (·.app)
    |>.field "responseTag" optString (·.responseTag)
    |>.field "known_ids" it.optIdSet (·.knownIds)

structure MutexRelease where
  app : String
  tag : Option String
  knownIds : Option (Finset String)

def MutexRelease.fields : Fields MutexRelease MutexRelease :=
  Fields.make MutexRelease MutexRelease.mk
    |>.field "app" (.required .string) (·.app)
    |>.field "tag" optString (·.tag)
    |>.field "known_ids" it.optIdSet (·.knownIds)

end Mutex

/-! ## Reports of failed relays -/

structure RelayReportFailed where
  app : String
  tag : Option String
  responseTag : Option String
  failedRelayId : String
  failType : String
  timestamp : String

def RelayReportFailed.fields : Fields RelayReportFailed RelayReportFailed :=
  Fields.make RelayReportFailed RelayReportFailed.mk
    |>.field "app" (.required .string) (·.app)
    |>.field "tag" optString (·.tag)
    |>.field "responseTag" optString (·.responseTag)
    |>.field "failed_relay_id" (.required .string) (·.failedRelayId)
    |>.field "fail_type" (.required .string) (·.failType)
    |>.field "timestamp" (.required .string) (·.timestamp)

structure ReportFailedRipple where
  app : String
  tag : Option String
  responseTag : Option String
  failedRelayId : String
  failType : String
  timestamp : String
  confirmations : List FailVote
  disputes : List FailVote

def ReportFailedRipple.fields : Fields ReportFailedRipple ReportFailedRipple :=
  Fields.make ReportFailedRipple ReportFailedRipple.mk
    |>.field "app" (.required .string) (·.app)
    |>.field "tag" optString (·.tag)
    |>.field "responseTag" optString (·.responseTag)
    |>.field "failed_relay_id" (.required .string) (·.failedRelayId)
    |>.field "fail_type" (.required .string) (·.failType)
    |>.field "timestamp" (.required .string) (·.timestamp)
    |>.field "confirmations" (.required FailVote.codec.list) (·.confirmations)
    |>.field "disputes" (.required FailVote.codec.list) (·.disputes)

abbrev ReportFailedRippleResponse := ReportFailedRipple

abbrev ReportFailedComplete := ReportFailedRipple

end Bingle.Wire
