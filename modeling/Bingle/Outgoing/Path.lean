import Bingle.Lib.Text

/-!
# One direct send

What `BingleApiImpl::send_message_to_handle` (`bingle_core/src/api/bingle_api_impl.rs`) does for
one recipient: resolve the handle, find the endpoint of the account, allocate a relay channel where
one is needed, and hand the message to the DTLS layer, with calls of the progress callback.
-/

namespace Bingle.Outgoing

open Lib (contains)

/-! ## Errors -/

inductive SendFailureKind
  | handleNotFound
  | handleLookupFailed
  | recipientNotAdvertised
  | invalidRecipientId
  | noRelayAvailable
  | relayAllocationFailed
  | peerUnreachable
  | noResponse
  | malformedAdvert
  | protocolError
  | notReady
  | unknown
deriving DecidableEq, Repr

namespace SendFailureKind

def isRetryable : SendFailureKind → Bool
  | handleLookupFailed | recipientNotAdvertised | noRelayAvailable | relayAllocationFailed
  | peerUnreachable | noResponse | notReady => true
  | handleNotFound | invalidRecipientId | malformedAdvert | protocolError | unknown => false

def indicatesPeerOffline : SendFailureKind → Bool
  | peerUnreachable | relayAllocationFailed | recipientNotAdvertised | noResponse => true
  | _ => false

def debug : SendFailureKind → String
  | handleNotFound => "HandleNotFound"
  | handleLookupFailed => "HandleLookupFailed"
  | recipientNotAdvertised => "RecipientNotAdvertised"
  | invalidRecipientId => "InvalidRecipientId"
  | noRelayAvailable => "NoRelayAvailable"
  | relayAllocationFailed => "RelayAllocationFailed"
  | peerUnreachable => "PeerUnreachable"
  | noResponse => "NoResponse"
  | malformedAdvert => "MalformedAdvert"
  | protocolError => "ProtocolError"
  | notReady => "NotReady"
  | unknown => "Unknown"

end SendFailureKind

inductive BingleError
  | algo (detail : String)
  | retryable (detail : String)
  | handleTaken (owner : String)
  | send (kind : SendFailureKind) (detail : String)
  | other (detail : String)
deriving DecidableEq, Repr

def BingleError.toString : BingleError → String
  | algo detail => "Blockchain error: " ++ detail
  | retryable detail => "Retryable error: " ++ detail
  | handleTaken owner => "Handle already in use by " ++ owner
  | send kind detail => "Send failed (" ++ kind.debug ++ "): " ++ detail
  | other detail => detail

structure SendFailure where
  kind : SendFailureKind
  reason : String
deriving DecidableEq, Repr

def isTransientSendFailure (err : String) : Bool :=
  let e := String.ofList (err.toList.map Char.toLower)
  contains e "retryable" || contains e "send returned false" || contains e "no available relay" ||
    contains e "no relay" || contains e "unreachable" || contains e "no route" ||
    contains e "noconnection"

def humanizeFailure (kind : SendFailureKind) (detail : String) : String :=
  match kind with
  | .handleNotFound => "No account is registered for that handle"
  | .handleLookupFailed =>
    "Could not reach the network to look up the handle — will keep retrying"
  | .recipientNotAdvertised => "Recipient is not connected right now — will keep retrying"
  | .invalidRecipientId => "The recipient address is not valid"
  | .noRelayAvailable => "No relay available to route the message — will keep retrying"
  | .relayAllocationFailed =>
    "Could not open a relay channel to the recipient — will keep retrying"
  | .peerUnreachable => "Recipient unreachable — will keep retrying"
  | .noResponse => "No response from the recipient — will keep retrying"
  | .malformedAdvert => "The recipient's connection record is invalid"
  | .protocolError => "Unexpected response from the network"
  | .notReady => "Not ready to send yet — will keep retrying"
  | .unknown => "Message failed to send: " ++ detail

def classifyLegacyError (err : BingleError) : SendFailure :=
  let kind : SendFailureKind := match err with
    | .algo _ => .notReady
    | .retryable _ => .peerUnreachable
    | _ => if isTransientSendFailure err.toString then .peerUnreachable else .unknown
  ⟨kind, humanizeFailure kind err.toString⟩

def classifySendError : Except BingleError Bool → Option SendFailure
  | .ok true => none
  | .ok false => some ⟨.unknown, humanizeFailure .unknown "message not accepted by recipient"⟩
  | .error (.send kind detail) => some ⟨kind, humanizeFailure kind detail⟩
  | .error err => some (classifyLegacyError err)

lemma classifySendError_eq_none_iff {r : Except BingleError Bool} :
    classifySendError r = none ↔ r = .ok true := by
  rcases r with e | b
  · cases e <;> simp [classifySendError]
  · cases b <;> simp [classifySendError]

/-! ## The send path -/

structure NetworkEndpoint where
  inetSocketAddress : Option String := none
  relayChannel : Option ℕ := none
  relayAddress : Option String := none
  relayId : Option String := none
deriving DecidableEq, Repr

def NetworkEndpoint.newDirect (addr : String) : NetworkEndpoint := { inetSocketAddress := some addr }

structure Answers where
  handleLookup : String → Except BingleError (Option String)
  appId : Option ℕ
  lookupRootId : String → Option NetworkEndpoint
  ddbLookup : String → Except BingleError NetworkEndpoint
  /-- the number of bytes an account id decodes to -/
  base32Length : String → Option ℕ
  myId : Option String
  turnRelayLookupAddrById : String → Option String
  relayCall : NetworkEndpoint → String → Except BingleError NetworkEndpoint
  lastPublicAddr : Option String
  sendToPeer : NetworkEndpoint → Except String Unit

inductive Effect
  | progress (percent : ℕ)
  | handedOver
deriving DecidableEq, Repr

structure Attempt where
  effects : List Effect
  result : Except BingleError Bool

namespace Attempt

def progress (percent : ℕ) (a : Attempt) : Attempt :=
  { a with effects := .progress percent :: a.effects }

def finish (result : Except BingleError Bool) : Attempt := ⟨[.progress 100], result⟩

end Attempt

section Path

variable (a : Answers)

def sendOverDtls (nsk : NetworkEndpoint) : Except BingleError Bool :=
  if nsk.relayId.isSome ∧ nsk.relayChannel = none then .ok false
  -- do not send to ourselves
  else if nsk.inetSocketAddress.isSome ∧ a.lastPublicAddr = nsk.inetSocketAddress then .ok false
  else match a.sendToPeer nsk with
    | .ok () => .ok true
    | .error err =>
      if contains err "rejecting" then .ok false else .error (.send .peerUnreachable err)

/-- The end of `send_message_to_network`: the message goes over DTLS, and the end is reported. -/
def sendAndReport (nsk : NetworkEndpoint) : Attempt :=
  match sendOverDtls a nsk with
  | .ok true => ⟨[.handedOver, .progress 100], .ok true⟩
  | result => .finish result

def sendMessageToNetwork (nsk : NetworkEndpoint) (userId : String) : Attempt :=
  .progress 10 <|
    if a.base32Length userId = some 36 then
      if nsk.relayId.isSome ∧ nsk.relayChannel = none then
        if a.myId = nsk.relayId then
          match nsk.relayAddress <|> a.turnRelayLookupAddrById userId with
          | some addr => sendAndReport a (.newDirect addr)
          | none => .finish (.error (.send .relayAllocationFailed
              ("self-relay but no relay address for user_id " ++ userId)))
        else
          .progress 15 <|
            match a.relayCall nsk userId with
            | .ok updated => .progress 30 (sendAndReport a updated)
            | .error err => .finish (.error (.send .relayAllocationFailed
                ("relay channel allocation failed: " ++ err.toString)))
      else sendAndReport a nsk
    else .finish (.error (.send .invalidRecipientId ("invalid recipient id: " ++ userId)))

def sendMessageToId (userId : String) : Attempt :=
  let viaDdb : Attempt := .progress 20 <| match a.ddbLookup userId with
    | .ok nsk => .progress 40 (sendMessageToNetwork a nsk userId)
    | .error err => .finish (.error err)
  .progress 5 <| .progress 10 <| .progress 15 <|
    if a.appId.isSome then
      match a.lookupRootId userId with
      | some nsk => .progress 30 (sendMessageToNetwork a nsk userId)
      | none => .progress 20 viaDdb
    else viaDdb

def sendMessageToHandle (handle : String) : Attempt :=
  match a.handleLookup handle with
  | .error (.send kind detail) => .finish (.error (.send kind detail))
  | .error err => .finish (.error (.send .handleLookupFailed err.toString))
  | .ok (some userId) => .progress 10 (sendMessageToId a userId)
  | .ok none => .finish (.error (.send .handleNotFound ("handle not found: " ++ handle)))

end Path

/-! ## When a send succeeds -/

namespace Answers

variable (a : Answers)

def endpoint (userId : String) : Option NetworkEndpoint :=
  (if a.appId.isSome then a.lookupRootId userId else none) <|> (a.ddbLookup userId).toOption

def target (nsk : NetworkEndpoint) (userId : String) : Option NetworkEndpoint :=
  if nsk.relayId.isSome ∧ nsk.relayChannel = none then
    if a.myId = nsk.relayId then
      (nsk.relayAddress <|> a.turnRelayLookupAddrById userId).map .newDirect
    else (a.relayCall nsk userId).toOption
  else some nsk

def answered (nsk : NetworkEndpoint) : Bool :=
  ¬ (nsk.relayId.isSome ∧ nsk.relayChannel = none) ∧
    ¬ (nsk.inetSocketAddress.isSome ∧ a.lastPublicAddr = nsk.inetSocketAddress) ∧
      (a.sendToPeer nsk).isOk

def reaches (handle : String) : Bool :=
  match a.handleLookup handle with
  | .ok (some userId) => a.base32Length userId = some 36 &&
      ((a.endpoint userId).bind fun nsk => a.target nsk userId).any a.answered
  | _ => false

end Answers

section Success

variable {a : Answers}

@[simp] lemma Attempt.progress_result (percent : ℕ) (t : Attempt) :
    (t.progress percent).result = t.result := rfl

@[simp] lemma Attempt.finish_result (result : Except BingleError Bool) :
    (Attempt.finish result).result = result := rfl

variable {nsk : NetworkEndpoint} {userId : String}

lemma sendAndReport_result :
    (sendAndReport a nsk).result = .ok true ↔ a.answered nsk := by
  have hreport : (sendAndReport a nsk).result = sendOverDtls a nsk := by
    unfold sendAndReport
    split
    · rename_i h
      exact h.symm
    · rfl
  rw [hreport]
  unfold sendOverDtls Answers.answered
  split_ifs with hchannel hself
  · simp [hchannel]
  · simp [hself]
  · cases hsend : a.sendToPeer nsk with
    | ok u => simp [hchannel, hself, Except.isOk, Except.toBool]
    | error err =>
      simp only [Except.isOk, Except.toBool]
      split_ifs <;> simp

lemma sendMessageToNetwork_result :
    (sendMessageToNetwork a nsk userId).result = .ok true ↔
      a.base32Length userId = some 36 ∧ (a.target nsk userId).any a.answered := by
  unfold sendMessageToNetwork Answers.target
  rw [Attempt.progress_result]
  by_cases hid : a.base32Length userId = some 36
  · rw [if_pos hid]
    split_ifs
    · cases nsk.relayAddress <|> a.turnRelayLookupAddrById userId with
      | none => simp
      | some addr => simp [hid, sendAndReport_result]
    · rw [Attempt.progress_result]
      cases a.relayCall nsk userId with
      | error err => simp [Except.toOption]
      | ok updated => simp [hid, sendAndReport_result, Except.toOption]
    · simp [hid, sendAndReport_result]
  · simp [hid]

lemma sendMessageToId_result :
    (sendMessageToId a userId).result = .ok true ↔ a.base32Length userId = some 36 ∧
      ((a.endpoint userId).bind fun nsk => a.target nsk userId).any a.answered := by
  unfold sendMessageToId Answers.endpoint
  simp only [Attempt.progress_result]
  split_ifs
  · cases a.lookupRootId userId with
    | some nsk => simp [sendMessageToNetwork_result]
    | none =>
      cases a.ddbLookup userId with
      | ok nsk => simp [sendMessageToNetwork_result, Except.toOption]
      | error err => simp [Except.toOption]
  · cases a.ddbLookup userId with
    | ok nsk => simp [sendMessageToNetwork_result, Except.toOption]
    | error err => simp [Except.toOption]

theorem sendMessageToHandle_result {handle : String} :
    (sendMessageToHandle a handle).result = .ok true ↔ a.reaches handle := by
  unfold sendMessageToHandle Answers.reaches
  rcases a.handleLookup handle with err | _ | userId
  · cases err <;> simp
  · simp
  · simp [sendMessageToId_result]

end Success

/-! ## How a send ends -/

namespace Attempt

def Shaped (t : Attempt) : Prop :=
  ∃ early : List ℕ, (∀ p ∈ early, p < 100) ∧
    (t.result = .ok true ∧
        t.effects = early.map .progress ++ [.handedOver, .progress 100] ∨
      t.result ≠ .ok true ∧ t.effects = early.map .progress ++ [.progress 100])

lemma shaped_finish {result : Except BingleError Bool} (h : result ≠ .ok true) :
    (finish result).Shaped := ⟨[], by simp, Or.inr ⟨h, rfl⟩⟩

lemma Shaped.progress {t : Attempt} (h : t.Shaped) {percent : ℕ} (hp : percent < 100) :
    (t.progress percent).Shaped := by
  obtain ⟨early, hearly, hend⟩ := h
  refine ⟨percent :: early, by simpa using ⟨hp, hearly⟩, ?_⟩
  rcases hend with ⟨hok, heff⟩ | ⟨hok, heff⟩
  · exact Or.inl ⟨hok, by simp [Attempt.progress, heff]⟩
  · exact Or.inr ⟨hok, by simp [Attempt.progress, heff]⟩

end Attempt

open Attempt (shaped_finish)

section Shape

variable (a : Answers)

lemma sendAndReport_shaped (nsk : NetworkEndpoint) : (sendAndReport a nsk).Shaped := by
  unfold sendAndReport
  split
  · exact ⟨[], by simp, Or.inl ⟨rfl, rfl⟩⟩
  · rename_i hne
    exact shaped_finish fun h => hne h

lemma sendMessageToNetwork_shaped (nsk : NetworkEndpoint) (userId : String) :
    (sendMessageToNetwork a nsk userId).Shaped := by
  refine Attempt.Shaped.progress ?_ (by omega)
  split_ifs
  · split
    · exact sendAndReport_shaped a _
    · exact shaped_finish (by simp)
  · refine Attempt.Shaped.progress ?_ (by omega)
    split
    · exact (sendAndReport_shaped a _).progress (by omega)
    · exact shaped_finish (by simp)
  · exact sendAndReport_shaped a nsk
  · exact shaped_finish (by simp)

lemma sendMessageToId_shaped (userId : String) : (sendMessageToId a userId).Shaped := by
  have hddb : (Attempt.progress 20 <| match a.ddbLookup userId with
      | .ok nsk => .progress 40 (sendMessageToNetwork a nsk userId)
      | .error err => .finish (.error err)).Shaped := by
    refine Attempt.Shaped.progress ?_ (by omega)
    split
    · exact (sendMessageToNetwork_shaped a _ userId).progress (by omega)
    · exact shaped_finish (by simp)
  refine ((Attempt.Shaped.progress ?_ (by omega)).progress (by omega)).progress (by omega)
  split_ifs
  · split
    · exact (sendMessageToNetwork_shaped a _ userId).progress (by omega)
    · exact hddb.progress (by omega)
  · exact hddb

/-- **Every send ends with a report of 100%**, whatever becomes of the message. -/
theorem sendMessageToHandle_shaped (handle : String) : (sendMessageToHandle a handle).Shaped := by
  unfold sendMessageToHandle
  split
  · exact shaped_finish (by simp)
  · exact shaped_finish (by simp)
  · exact (sendMessageToId_shaped a _).progress (by omega)
  · exact shaped_finish (by simp)

end Shape

end Bingle.Outgoing
