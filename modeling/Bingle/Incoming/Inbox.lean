import Bingle.Lib.KeepFirst
import Bingle.Outgoing.Store

/-!
# Receiving a message by two routes

`bingle_local/src/api/bingle_local_api_impl.rs` and its `store_and_forward.rs`, the receiving side.
A message comes over a live session (`add_received_message`) or is read from the Mailbox
(`poll_mailbox`).  Under the lock each route looks for a copy, `holds_received_copy`: a message
under the same name of the sender, with the same send time and text.  A poll is a loop of pops, and
calls and other polls run between two of them.  `Message.sender`, `Inbox.arrived`, `Inbox.told` and
`Inbox.answers` are not in the program.
-/

namespace Bingle.Incoming

open List Option
open Lib (isHeld)
open Outgoing (DeliveryRoute)
open Outgoing.Store (identityRefusedBackoff)

/-! ## Messages -/

structure Message where
  id : String
  senderHandle : String
  recipientHandles : List String
  timestamp : ℤ
  text : String
  cipherSuite : Option String
  progress : Option ℕ
  sentTime : Option ℤ
  deliveredTime : Option ℤ
  signature : Option String
  deliveryRoute : Option DeliveryRoute
  sender : Option String
deriving DecidableEq, Repr

/-- The JSON of a live message: its fields where they are there and of the right type, and the whole
of it as text. -/
structure Payload where
  json : String
  text : Option String
  cipherSuite : Option String
  sentTime : Option ℤ
  signature : Option String
deriving DecidableEq, Repr

/-- An opened envelope, with the address of the sender's key, if it has one, and the id, the
signature and the suite as they are stored. -/
structure Opened where
  senderAddress : Option String
  sentTime : ℤ
  messageId : String
  text : String
  signature : String
  suite : Option String
deriving DecidableEq, Repr

namespace Message

def orderTime (m : Message) : ℤ := (m.sentTime.or m.deliveredTime).getD m.timestamp

def fromOpened (opened : Opened) (senderHandle : String) (recipientHandles : List String)
    (deliveredTime : ℤ) : Message where
  id := opened.messageId
  senderHandle := senderHandle
  recipientHandles := recipientHandles
  timestamp := deliveredTime
  text := opened.text
  cipherSuite := opened.suite
  progress := some 100
  sentTime := some opened.sentTime
  deliveredTime := some deliveredTime
  signature := some opened.signature
  deliveryRoute := some .storeAndForward
  sender := opened.senderAddress

def key (m : Message) : Option (String × ℤ × String) :=
  m.sentTime.map fun t => (m.senderHandle, t, m.text)

end Message

def holdsReceivedCopy (messages : List Message) (senderHandle : String) (sentTime : Option ℤ)
    (text : String) : Bool :=
  match sentTime with
  | none => false
  | some t => messages.reverse.any fun m =>
      m.sentTime = some t && m.senderHandle = senderHandle && m.text = text

lemma holdsReceivedCopy_eq_isHeld (messages : List Message) (m : Message) :
    holdsReceivedCopy messages m.senderHandle m.sentTime m.text =
      isHeld Message.key messages m := by
  cases hsent : m.sentTime with
  | none => simp [holdsReceivedCopy, isHeld, Message.key, hsent]
  | some t =>
    simp only [holdsReceivedCopy, isHeld, Message.key, hsent, map_some,
      isSome_some, Bool.true_and, any_reverse]
    congr 1
    funext m'
    rw [Bool.eq_iff_iff]
    simp only [Bool.and_eq_true, decide_eq_true_eq, map_eq_some_iff, Prod.mk.injEq]
    constructor
    · rintro ⟨⟨ht, hname⟩, htext⟩
      exact ⟨t, ht, hname, rfl, htext⟩
    · rintro ⟨t', ht', hname, rfl, htext⟩
      exact ⟨⟨ht', hname⟩, htext⟩

/-! ## The inbox -/

inductive MailboxPollStatus
  | drained
  | unreachable (reason : String)
  | skipped
deriving DecidableEq, Repr

structure MailboxPoll where
  messages : List Message
  status : MailboxPollStatus
deriving DecidableEq, Repr

structure Poll where
  ownHandle : Option String
  read : List Message
deriving DecidableEq, Repr

/-- The configuration, and which characters are white space to Rust's `trim`. -/
structure Config where
  storeAndForwardReceive : Bool
  sidewinder : Bool
  isWhitespace : Char → Bool := Char.isWhitespace

def Config.isBlank (config : Config) (s : String) : Bool := s.toList.all config.isWhitespace

structure Inbox where
  config : Config
  contacts : List (String × Bool) := []
  messages : List Message := []
  identityRefusedAt : Option ℕ := none
  identityRefusalReason : Option String := none
  polls : List Poll := []
  answers : List MailboxPoll := []
  told : List Message := []
  arrived : List Message := []

namespace Inbox

def isMailboxSenderBlocked (s : Inbox) : Option String → Bool
  | some addr => !s.config.isBlank addr && (s.contacts.lookup addr).getD false
  | none => false

def mailboxIdentityRefusalHolds (s : Inbox) (now : ℕ) : Bool :=
  s.identityRefusedAt.any fun refusedAt => now - refusedAt < identityRefusedBackoff

/-- The section under the lock on the messages that the two routes share.  The answer is the message
if it is stored. -/
def record (s : Inbox) (m : Message) : Inbox × Option Message :=
  let kept :=
    if holdsReceivedCopy s.messages m.senderHandle m.sentTime m.text then none else some m
  ({ s with messages := s.messages ++ kept.toList, arrived := s.arrived ++ [m] }, kept)

/-! ### Live messages -/

def storeLiveMessage (s : Inbox) (sender : Option String) (id senderHandle : String)
    (recipientHandles : List String) (timestamp : ℤ) (text : String) (cipherSuite : Option String)
    (sentTime : Option ℤ) (signature : Option String) : Except String (Inbox × Option Message) :=
  if s.config.isBlank senderHandle then .error "sender_handle cannot be empty"
  else if recipientHandles.isEmpty then .error "recipient_handles cannot be empty"
  else if recipientHandles.any s.config.isBlank then
    .error "recipient_handles cannot contain empty handles"
  else if s.config.isBlank text then .error "text cannot be empty"
  else .ok (s.record
    { id, senderHandle, recipientHandles, timestamp, text, cipherSuite
      progress := some 100
      sentTime
      deliveredTime := none
      signature
      deliveryRoute := some .direct
      sender })

def addReceivedMessage (s : Inbox) (sender id senderHandle : String)
    (recipientHandles : List String) (timestamp : ℤ) (message : Payload) :
    Except String (Inbox × Option Message) :=
  s.storeLiveMessage (some sender) id senderHandle recipientHandles timestamp
    (message.text.getD message.json) message.cipherSuite message.sentTime message.signature

def addMessage (s : Inbox) (id senderHandle : String) (recipientHandles : List String)
    (timestamp : ℤ) (text : String) (cipherSuite : Option String) :
    Except String (Inbox × Message) :=
  match s.storeLiveMessage none id senderHandle recipientHandles timestamp text cipherSuite none
      none with
  | .error e => .error e
  | .ok (_, none) => .error "message treated as a duplicate"
  | .ok (s, some m) => .ok (s, m)

def queueMessage (s : Inbox) (id : String) (ownHandle : Except String String)
    (recipientHandles : List String) (timestamp : ℤ) (text : String) : Except String Inbox :=
  match ownHandle with
  | .error e => .error e
  | .ok senderHandle =>
    if recipientHandles.isEmpty then .error "recipient_handles cannot be empty"
    else if recipientHandles.any s.config.isBlank then
      .error "recipient_handles cannot contain empty handles"
    else if s.config.isBlank text then .error "text cannot be empty"
    else
      let m : Message :=
        { id, senderHandle, recipientHandles, timestamp, text
          cipherSuite := none
          progress := some 0
          sentTime := none
          deliveredTime := none
          signature := none
          deliveryRoute := none
          sender := none }
      .ok { s with messages := s.messages ++ [m], arrived := s.arrived ++ [m] }

end Inbox

/-! ### Mailbox polls -/

inductive Access
  | noKeypair
  | noSeed
  | noAlgoOps
  | noMailbox (reason : String)
  | ready (ownHandle : Option String)
deriving DecidableEq, Repr

/-- What a pop yields.  An opened message comes with the handle that the chain has for the sender's
address, if the look-up succeeds and finds one, and with the time. -/
inductive Popped
  | empty
  | retryable (reason : String)
  | identityRefused (reason : String) (now : ℕ)
  | failed (reason : String)
  | unopened
  | opened (opened : Opened) (handleForAddress : Option String) (now : ℤ)
deriving DecidableEq, Repr

def Opened.senderHandle (opened : Opened) (handleForAddress : Option String) : String :=
  ((opened.senderAddress.bind fun _ => handleForAddress).or opened.senderAddress).getD "unknown"

def Poll.batch (poll : Poll) : List Message :=
  poll.read.insertionSort fun m m' => m.orderTime ≤ m'.orderTime

namespace Inbox

def recordMailboxMessage (s : Inbox) (m : Message) : Inbox × Bool :=
  let (s, kept) := s.record m
  (s, kept.isSome)

def startPoll (s : Inbox) (now : ℕ) (access : Access) : Inbox :=
  let answer (status : MailboxPollStatus) : Inbox :=
    { s with answers := s.answers ++ [⟨[], status⟩] }
  if !s.config.storeAndForwardReceive || !s.config.sidewinder then answer .skipped
  else if s.mailboxIdentityRefusalHolds now then answer .skipped
  else
    match access with
    | .noKeypair | .noSeed | .noAlgoOps => answer .skipped
    | .noMailbox reason => answer (.unreachable reason)
    | .ready ownHandle => { s with polls := s.polls ++ [⟨ownHandle, []⟩] }

def endPoll (s : Inbox) (i : ℕ) (poll : Poll) (status : MailboxPollStatus) : Inbox :=
  { s with polls := s.polls.eraseIdx i, answers := s.answers ++ [⟨poll.batch, status⟩] }

def pop (s : Inbox) (i : ℕ) (popped : Popped) : Inbox :=
  match s.polls[i]? with
  | none => s
  | some poll =>
    match popped with
    | .empty => s.endPoll i poll .drained
    | .retryable reason => s.endPoll i poll (.unreachable reason)
    | .identityRefused reason now =>
      { s with identityRefusedAt := some now, identityRefusalReason := some reason }.endPoll i
        poll .skipped
    | .failed reason => s.endPoll i poll (.unreachable reason)
    -- the node has dropped the message already
    | .unopened => s
    | .opened opened handleForAddress now =>
      if s.isMailboxSenderBlocked opened.senderAddress then s
      else
        let m := Message.fromOpened opened (opened.senderHandle handleForAddress)
          poll.ownHandle.toList now
        let (s, stored) := s.recordMailboxMessage m
        if stored then
          { s with polls := s.polls.set i { poll with read := poll.read ++ [m] } }
        else s

end Inbox

/-! ## Runs -/

inductive Event
  | received (sender id senderHandle : String) (recipientHandles : List String) (timestamp : ℤ)
      (message : Payload)
  | added (id senderHandle : String) (recipientHandles : List String) (timestamp : ℤ)
      (text : String) (cipherSuite : Option String)
  | queued (id : String) (ownHandle : Except String String) (recipientHandles : List String)
      (timestamp : ℤ) (text : String)
  | startPoll (now : ℕ) (access : Access)
  | pop (i : ℕ) (popped : Popped)
  | contacts (contacts : List (String × Bool))
  | configure (config : Config)

namespace Inbox

def step (s : Inbox) : Event → Inbox
  | .received sender id senderHandle recipientHandles timestamp message =>
    match s.addReceivedMessage sender id senderHandle recipientHandles timestamp message with
    | .error _ => s
    | .ok (s, kept) => { s with told := s.told ++ kept.toList }
  | .added id senderHandle recipientHandles timestamp text cipherSuite =>
    match s.addMessage id senderHandle recipientHandles timestamp text cipherSuite with
    | .error _ => s
    | .ok (s, _) => s
  | .queued id ownHandle recipientHandles timestamp text =>
    match s.queueMessage id ownHandle recipientHandles timestamp text with
    | .error _ => s
    | .ok s => s
  | .startPoll now access => s.startPoll now access
  | .pop i popped => s.pop i popped
  | .contacts contacts => { s with contacts }
  | .configure config => { s with config }

def load (config : Config) (messages : List Message) : Inbox :=
  { config, messages, told := messages, arrived := messages }

def reported (s : Inbox) : List Message := s.told ++ s.answers.flatMap MailboxPoll.messages

def underWay (s : Inbox) : List Message := s.polls.flatMap Poll.read

def shown (s : Inbox) : List Message := s.reported ++ s.underWay

/-! ## What a step does -/

variable {s : Inbox} {m : Message} {i : ℕ} {poll : Poll}

/-- What a step can do to what is stored and shown: nothing, record a message that has come by one
of the routes, or store a message of this user's own, which has no send time. -/
inductive Changes (s s' : Inbox) : Prop
  | nothing (messages : s'.messages = s.messages) (arrived : s'.arrived = s.arrived)
      (shown : s'.shown.Perm s.shown)
  | records (m : Message) (messages : s'.messages = (s.record m).1.messages)
      (arrived : s'.arrived = s.arrived ++ [m])
      (shown : s'.shown.Perm (s.shown ++ (s.record m).2.toList))
  | own (m : Message) (sentTime : m.sentTime = none) (messages : s'.messages = s.messages ++ [m])
      (arrived : s'.arrived = s.arrived ++ [m]) (shown : s'.shown.Perm s.shown)

lemma record_of_sentTime_eq_none (hm : m.sentTime = none) : (s.record m).2 = some m := by
  simp [record, hm, holdsReceivedCopy]

lemma storeLiveMessage_eq_ok {s' : Inbox} {kept : Option Message} {sender : Option String}
    {id senderHandle text : String} {recipientHandles : List String} {timestamp : ℤ}
    {cipherSuite : Option String} {sentTime : Option ℤ} {signature : Option String}
    (h : s.storeLiveMessage sender id senderHandle recipientHandles timestamp text cipherSuite
      sentTime signature = .ok (s', kept)) :
    ∃ m, m.sentTime = sentTime ∧ s.record m = (s', kept) := by
  rw [storeLiveMessage] at h
  split_ifs at h
  exact ⟨_, rfl, Except.ok.inj h⟩

lemma changes_received (sender id senderHandle : String) (recipientHandles : List String)
    (timestamp : ℤ) (message : Payload) :
    s.Changes (s.step (.received sender id senderHandle recipientHandles timestamp message)) := by
  simp only [step]
  split
  · exact .nothing rfl rfl (.refl _)
  · rename_i s' kept hok
    obtain ⟨m, -, hrecord⟩ := storeLiveMessage_eq_ok hok
    have hs' : s' = (s.record m).1 := by rw [hrecord]
    have hkept : kept = (s.record m).2 := by rw [hrecord]
    subst hs' hkept
    refine .records m rfl rfl ?_
    rw [perm_iff_count]
    intro x
    simp only [shown, reported, underWay, record, count_append]
    omega

lemma changes_added (id senderHandle : String) (recipientHandles : List String) (timestamp : ℤ)
    (text : String) (cipherSuite : Option String) :
    s.Changes
      (s.step (.added id senderHandle recipientHandles timestamp text cipherSuite)) := by
  simp only [step]
  split
  · exact .nothing rfl rfl (.refl _)
  · rename_i s' x hok
    rw [addMessage] at hok
    split at hok
    · cases hok
    · cases hok
    · rename_i s'' m' hlive
      obtain ⟨m, hm, hrecord⟩ := storeLiveMessage_eq_ok hlive
      have hs' : s' = (s.record m).1 := by
        rw [hrecord]
        exact (congrArg Prod.fst (Except.ok.inj hok)).symm
      subst hs'
      refine .own m hm ?_ rfl (.refl _)
      rw [show (s.record m).1.messages = s.messages ++ (s.record m).2.toList from rfl,
        record_of_sentTime_eq_none hm]
      rfl

lemma changes_queued (id : String) (ownHandle : Except String String)
    (recipientHandles : List String) (timestamp : ℤ) (text : String) :
    s.Changes (s.step (.queued id ownHandle recipientHandles timestamp text)) := by
  simp only [step]
  split
  · exact .nothing rfl rfl (.refl _)
  · rename_i s' hok
    cases ownHandle with
    | error e => cases hok
    | ok senderHandle =>
      simp only [queueMessage] at hok
      split_ifs at hok
      rw [← Except.ok.inj hok]
      exact .own _ rfl rfl rfl (.refl _)

lemma changes_startPoll (now : ℕ) (access : Access) :
    s.Changes (s.step (.startPoll now access)) := by
  -- a poll that does not run answers with an empty batch, and one that does has read nothing
  have hanswer : ∀ status, s.Changes { s with answers := s.answers ++ [⟨[], status⟩] } := by
    intro status
    exact .nothing rfl rfl (by simp [shown, reported, underWay])
  simp only [step, startPoll]
  split_ifs
  · exact hanswer _
  · exact hanswer _
  · cases access with
    | noKeypair | noSeed | noAlgoOps | noMailbox => exact hanswer _
    | ready ownHandle => exact .nothing rfl rfl (by simp [shown, reported, underWay])

lemma underWay_perm (h : s.polls[i]? = some poll) :
    s.underWay.Perm (poll.read ++ (s.polls.eraseIdx i).flatMap Poll.read) := by
  obtain ⟨hi, rfl⟩ := List.getElem?_eq_some_iff.mp h
  exact (getElem_cons_eraseIdx_perm hi).symm.flatMap_right Poll.read

lemma underWay_set_perm (h : s.polls[i]? = some poll) (poll' : Poll) :
    ((s.polls.set i poll').flatMap Poll.read).Perm
      (poll'.read ++ (s.polls.eraseIdx i).flatMap Poll.read) := by
  obtain ⟨hi, -⟩ := List.getElem?_eq_some_iff.mp h
  exact (set_perm_cons_eraseIdx hi poll').flatMap_right Poll.read

lemma shown_endPoll (h : s.polls[i]? = some poll) (status : MailboxPollStatus) :
    (s.endPoll i poll status).shown.Perm s.shown := by
  have hbatch : poll.batch.Perm poll.read := perm_insertionSort _ _
  rw [perm_iff_count]
  intro x
  have hcount := (underWay_perm h).count_eq x
  have hcount' := hbatch.count_eq x
  simp only [shown, reported, underWay, endPoll, flatMap_append, flatMap_cons,
    flatMap_nil, append_nil, count_append] at hcount ⊢
  omega

lemma record_eq_some {m' : Message} (h : (s.record m).2 = some m') : m' = m := by
  simp only [record] at h
  split_ifs at h
  exact (some.inj h).symm

lemma shown_read (h : s.polls[i]? = some poll) {m' : Message} (hkept : (s.record m).2 = some m') :
    ({ (s.record m).1 with
        polls := s.polls.set i { poll with read := poll.read ++ [m] } } : Inbox).shown.Perm
      (s.shown ++ (s.record m).2.toList) := by
  rw [hkept, record_eq_some hkept, perm_iff_count]
  intro x
  have hcount := (underWay_perm h).count_eq x
  have hcount' := (underWay_set_perm h { poll with read := poll.read ++ [m] }).count_eq x
  simp only [shown, reported, underWay, record, toList_some, count_append]
    at hcount hcount' ⊢
  omega

lemma changes_pop (i : ℕ) (popped : Popped) : s.Changes (s.step (.pop i popped)) := by
  simp only [step, pop]
  cases hpoll : s.polls[i]? with
  | none => exact .nothing rfl rfl (.refl _)
  | some poll =>
    cases popped with
    | empty => exact .nothing rfl rfl (shown_endPoll hpoll _)
    | retryable reason => exact .nothing rfl rfl (shown_endPoll hpoll _)
    | identityRefused reason now => exact .nothing rfl rfl (shown_endPoll hpoll _)
    | failed reason => exact .nothing rfl rfl (shown_endPoll hpoll _)
    | unopened => exact .nothing rfl rfl (.refl _)
    | opened opened handleForAddress now =>
      dsimp only
      split_ifs with hblocked hstored
      · exact .nothing rfl rfl (.refl _)
      · obtain ⟨m, hkept⟩ := isSome_iff_exists.mp hstored
        exact .records _ rfl rfl (shown_read hpoll hkept)
      · -- a copy is stored already
        have hnone : (s.record _).2 = none := not_isSome_iff_eq_none.mp hstored
        refine .records _ rfl rfl ?_
        rw [hnone]
        exact .of_eq (append_nil _).symm

lemma step_changes (e : Event) : s.Changes (s.step e) := by
  cases e with
  | received sender id senderHandle recipientHandles timestamp message =>
    exact changes_received ..
  | added id senderHandle recipientHandles timestamp text cipherSuite => exact changes_added ..
  | queued id ownHandle recipientHandles timestamp text => exact changes_queued ..
  | startPoll now access => exact changes_startPoll ..
  | pop i popped => exact changes_pop ..
  | contacts contacts => exact .nothing rfl rfl (.refl _)
  | configure config => exact .nothing rfl rfl (.refl _)

end Inbox

end Bingle.Incoming
