import Bingle.Lib.Json
import Bingle.Lib.Run
import Bingle.Incoming.Inbox

/-!
# Receiving in the chat command

`bingle_cli/src/chat_receive.rs` and `chat_state.rs`.  A text from an account that the session's map
does not have enters the account under its handle on the chain, or under its id where there is none.
-/

namespace Bingle.Chat

open Incoming (Inbox Message)
open Lib (Json)

/-! ## JSON -/

def get (message : Json) (key : String) : Option Json :=
  match message with
  | .obj entries => entries.lookup key
  | _ => none

def asStr : Json → Option String
  | .str s => some s
  | _ => none

def asI64 : Json → Option ℤ
  | .int n => if -2 ^ 63 ≤ n ∧ n < 2 ^ 63 then some n else none
  | _ => none

def absentOrNull : Option Json → Bool
  | none | some .null => true
  | some _ => false

/-! ## The session -/

structure ChatState where
  handle : String
  contacts : AList fun _ : String => String
  store : Inbox

/-- A call of `receive_message`, with the id and the time that the message is stored with, and how
JSON is written. -/
structure Received where
  senderId : String
  senderHandle : String
  message : Json
  id : String
  now : ℤ
  toText : Json → String

namespace ChatState

variable (s : ChatState)

def resolveRecipient (handle : String) : Option String := s.contacts.lookup handle

def knowsId (id : String) : Bool := s.contacts.entries.any fun entry => entry.2 = id

/-- `is_blocked`, in the store and here.  An empty id is an error there, and not blocked here. -/
def isBlocked (id : String) : Bool := s.store.isMailboxSenderBlocked (some id)

end ChatState

def addContactShared (store : Inbox) (handle id : String) : Except String Inbox :=
  if store.config.isBlank handle then .error "handle cannot be empty"
  else if store.config.isBlank id then .error "id cannot be empty"
  else if (store.contacts.lookup id).isSome then .error "contact already exists"
  else .ok { store with contacts := (id, false) :: store.contacts }

namespace ChatState

variable (s : ChatState)

def addReceivedContact (handle id : String) : Except String ChatState := do
  let store ← addContactShared s.store handle id
  return { s with store, contacts := s.contacts.insert handle id }

end ChatState

namespace Received

variable (e : Received)

def text : Option String := (get e.message "text").bind asStr

def isPlain : Bool := absentOrNull (get e.message "app") && absentOrNull (get e.message "type")

def payload : Incoming.Payload where
  json := e.toText e.message
  text := e.text
  cipherSuite := (get e.message "cipher_suite").bind asStr
  sentTime := (get e.message "sent_time").bind asI64
  signature := (get e.message "signature").bind asStr

end Received

namespace ChatState

variable (s : ChatState)

def displayHandle (e : Received) : String :=
  if s.store.config.isBlank e.senderHandle then e.senderId else e.senderHandle

def messages : List Message := s.store.messages.insertionSort fun m m' => m.orderTime ≤ m'.orderTime

def recordMessage (e : Received) : Except String (ChatState × Option Message) := do
  let (store, stored) ← s.store.addReceivedMessage e.senderId e.id (s.displayHandle e) [s.handle]
    e.now e.payload
  let s := { s with store }
  match stored with
  | none => return (s, none)
  | some _ =>
    match s.messages.find? fun m => m.id = e.id with
    | some m => return (s, some m)
    | none => throw "message missing after add_message"

def recordSender (e : Received) : ChatState :=
  if s.knowsId e.senderId then s
  else
    match s.addReceivedContact (s.displayHandle e) e.senderId with
    | .ok s => s
    | .error _ => s

def receiveMessage (e : Received) : ChatState × Option Message :=
  if e.text = none then (s, none)
  else if !e.isPlain then (s, none)
  else if s.isBlocked e.senderId then (s, none)
  else
    let s := s.recordSender e
    match s.recordMessage e with
    | .ok (s, some stored) => (s, some stored)
    | .ok (s, none) => (s, none)
    | .error _ => (s, none)

def step (s : ChatState) (e : Received) : ChatState := (s.receiveMessage e).1

/-! ## What a message does to the map -/

def enters (e : Received) : Bool :=
  e.text.isSome && e.isPlain && !s.isBlocked e.senderId && !s.knowsId e.senderId &&
    !s.store.config.isBlank (s.displayHandle e) && !s.store.config.isBlank e.senderId &&
    (s.store.contacts.lookup e.senderId).isNone

lemma recordMessage_contacts (e : Received) {t : ChatState} {m : Option Message}
    (h : s.recordMessage e = .ok (t, m)) : t.contacts = s.contacts := by
  rw [recordMessage] at h
  cases hstore : s.store.addReceivedMessage e.senderId e.id (s.displayHandle e) [s.handle] e.now
      e.payload with
  | error text =>
    rw [hstore] at h
    cases h
  | ok stored =>
    obtain ⟨store, stored⟩ := stored
    rw [hstore] at h
    cases stored with
    | none =>
      cases h
      rfl
    | some m' =>
      simp only [bind, Except.bind] at h
      split at h
      · cases h
        rfl
      · cases h

lemma recordSender_contacts (e : Received) :
    (s.recordSender e).contacts =
      if !s.knowsId e.senderId && !s.store.config.isBlank (s.displayHandle e) &&
          !s.store.config.isBlank e.senderId && (s.store.contacts.lookup e.senderId).isNone then
        s.contacts.insert (s.displayHandle e) e.senderId
      else s.contacts := by
  rw [recordSender, addReceivedContact, addContactShared]
  by_cases hknown : s.knowsId e.senderId
  · simp [hknown]
  by_cases hhandle : s.store.config.isBlank (s.displayHandle e)
  · simp [hknown, hhandle, bind, Except.bind]
  by_cases hid : s.store.config.isBlank e.senderId
  · simp [hknown, hhandle, hid, bind, Except.bind]
  cases hstore : s.store.contacts.lookup e.senderId with
  | some blocked => simp [hknown, hhandle, hid, bind, Except.bind]
  | none => simp [hknown, hhandle, hid, bind, Except.bind, pure, Except.pure]

lemma receiveMessage_contacts (e : Received) :
    (s.step e).contacts =
      if s.enters e then s.contacts.insert (s.displayHandle e) e.senderId else s.contacts := by
  rw [step, receiveMessage, enters]
  by_cases htext : e.text = none
  · simp [htext]
  by_cases hplain : e.isPlain
  · by_cases hblocked : s.isBlocked e.senderId
    · simp [hplain, hblocked]
    · have hsome : e.text.isSome = true := Option.isSome_iff_ne_none.mpr htext
      have hsender := s.recordSender_contacts e
      have hstored : ((match (s.recordSender e).recordMessage e with
          | .ok (t, some stored) => (t, some stored)
          | .ok (t, none) => (t, none)
          | .error _ => (s.recordSender e, none)) : ChatState × Option Message).1.contacts =
            (s.recordSender e).contacts := by
        cases hrec : (s.recordSender e).recordMessage e with
        | error text => rfl
        | ok stored =>
          obtain ⟨t, stored⟩ := stored
          cases stored with
          | none => exact recordMessage_contacts _ e hrec
          | some m => exact recordMessage_contacts _ e hrec
      rw [if_neg htext, if_neg (by simp [hplain]), if_neg hblocked]
      refine hstored.trans (hsender.trans ?_)
      rw [hsome, hplain, eq_false_of_ne_true hblocked]
      rfl
  · simp [htext, hplain]

/-! ## Redirection -/

/-- Every handle that reached an account still reaches the same one. -/
def Kept (s t : ChatState) : Prop :=
  ∀ handle id, s.resolveRecipient handle = some id → t.resolveRecipient handle = some id

/-- A name that enters the contacts is not one that reaches an account already. -/
def Fits (s : ChatState) (e : Received) : Prop :=
  s.enters e → s.resolveRecipient (s.displayHandle e) = none

lemma Kept.refl (s : ChatState) : s.Kept s := fun _ _ h => h

lemma Kept.trans (s t u : ChatState) (hst : s.Kept t) (htu : t.Kept u) : s.Kept u :=
  fun handle id h => htu handle id (hst handle id h)

lemma kept_step {s : ChatState} {e : Received} (h : s.Fits e) : s.Kept (s.step e) := by
  intro handle id hid
  rw [resolveRecipient, receiveMessage_contacts]
  split_ifs with henters
  · have hne : handle ≠ (s.displayHandle e) := by
      rintro rfl
      exact Option.some_ne_none id (hid.symm.trans (h henters))
    rw [AList.lookup_insert_ne hne]
    exact hid
  · exact hid

lemma not_kept_of_not_fits {s : ChatState} {e : Received} (h : ¬ s.Fits e) (t : ChatState)
    (hs : s.Kept t) : ¬ (s.step e).Kept t := by
  intro hstep
  rw [Fits, Classical.not_imp] at h
  obtain ⟨henters, htaken⟩ := h
  obtain ⟨id, hid⟩ := Option.ne_none_iff_exists'.mp htaken
  have hnew : (s.step e).resolveRecipient (s.displayHandle e) = some e.senderId := by
    rw [resolveRecipient, receiveMessage_contacts, if_pos henters, AList.lookup_insert]
  have hsame : id = e.senderId :=
    Option.some.inj ((hs _ _ hid).symm.trans (hstep _ _ hnew))
  have hunknown : s.knowsId e.senderId = false := by
    simp only [enters, Bool.and_eq_true, Bool.not_eq_true'] at henters
    exact henters.1.1.1.2
  have hknown : s.knowsId id = true :=
    List.any_eq_true.mpr ⟨⟨_, id⟩, AList.mem_lookup_iff.mp hid, decide_eq_true rfl⟩
  rw [hsame, hunknown] at hknown
  cases hknown

/-- **Redirection.**  From any session, over any messages, every handle stands to the end for the
account that it ever stood for, exactly when every sender who is entered finds their handle free. -/
theorem contact_not_redirected_iff (s : ChatState) (es : List Received) :
    (∀ fs gs, es = fs ++ gs → (Lib.run step s fs).Kept (Lib.run step s es)) ↔
      Lib.Along step Fits s es :=
  Lib.kept_iff_along Kept.refl Kept.trans (fun _ _ => kept_step)
    fun _ _ h t => not_kept_of_not_fits h t

def hello (senderId senderHandle : String) : Received where
  senderId := senderId
  senderHandle := senderHandle
  message := .obj [("text", .str "hello")]
  id := "1"
  now := 0
  toText := fun _ => ""

/-- **A contact is redirected.**  A session knows `alice`.  Another account has the handle `alice`
on chain and says hello. -/
theorem alice_redirected :
    let s : ChatState :=
      { handle := "bob"
        contacts := AList.singleton "alice" "ALICE"
        store := { config := ⟨false, false, Char.isWhitespace⟩, contacts := [("ALICE", false)] } }
    s.resolveRecipient "alice" = some "ALICE" ∧
      (Lib.run step s [hello "MALLORY" "alice"]).resolveRecipient "alice" = some "MALLORY" := by
  decide +kernel

end ChatState

end Bingle.Chat
