import Mathlib
import Bingle.Lib.Json
import Bingle.Outgoing.Store

/-!
# The state file of the local API

`save` writes the state as one JSON object, and `load` replaces it by what such a file has.  The
contacts are a hash map and the posts a hash set, written in whatever order they are iterated in
(`Iteration`); the text of a number is the JSON crate's (`SerdeJson`).
-/

namespace Bingle.Local

open List Option
open Lib (Json Codec Slot Fields)
open Outgoing (SendFailureKind DeliveryRoute)

/-! ## The records -/

structure Keypair where
  id : String
  passphrase : String
deriving DecidableEq, Repr

inductive ContactSource
  | manual
  | received
deriving DecidableEq, Repr

structure F32 where
  bits : UInt32
deriving DecidableEq, Repr

namespace F32

def isFinite (x : F32) : Bool := x.bits &&& 0x7f800000 != 0x7f800000

def isNan (x : F32) : Bool := !x.isFinite && x.bits &&& 0x007fffff != 0

def infinity : F32 := ⟨0x7f800000⟩

end F32

structure Message where
  id : String
  senderHandle : String
  recipientHandles : List String
  timestamp : Int64
  text : String
  cipherSuite : Option String := none
  progress : Option F32 := none
  failureReason : Option String := none
  failureKind : Option SendFailureKind := none
  sentTime : Option Int64 := none
  deliveredTime : Option Int64 := none
  signature : Option String := none
  deliveryRoute : Option DeliveryRoute := none
  storeAndForwardFailure : Option String := none
deriving DecidableEq

def legacyMessageId (timestamp : Int64) : String := "legacy-" ++ timestamp.toInt.repr

/-- What the library keeps in memory. -/
structure LocalState where
  keypair : Option Keypair
  recoveryKeypair : Option Keypair
  /-- handle, source and whether it is blocked, by id -/
  contacts : Finmap fun _ : String => String × ContactSource × Bool
  messages : List Message
  ownHandle : Option String
  ownHandleAppId : Option UInt64
  forwardedMessages : Finset (String × String)
deriving DecidableEq

structure ContactEntry where
  id : String
  handle : String
  source : ContactSource
  isBlocked : Bool
deriving DecidableEq, Repr

/-- An entry of the posts in a file.  One that is written now has an id and no timestamp; one from
before message ids has a timestamp and no id. -/
structure ForwardedEntry where
  messageId : Option String
  timestamp : Option Int64
  handle : String
deriving DecidableEq, Repr

structure StateFile where
  keypair : Option Keypair
  recoveryKeypair : Option Keypair
  contacts : List ContactEntry
  messages : List Message
  ownHandle : Option String
  ownHandleAppId : Option UInt64
  forwardedMessages : List ForwardedEntry
deriving DecidableEq

/-! ## Their JSON -/

/-- What the JSON crate does with single-precision numbers.  The shortest text of a finite one is
written, and a text is read as a double-precision number (given by its bits here) and rounded.  -/
structure SerdeJson where
  number : F32 → UInt64
  asF32 : UInt64 → F32
  intAsF32 : ℤ → F32
  asF32_number : ∀ x, x.isFinite → asF32 (number x) = x

lemma string_ne_null (s : String) : Codec.string.enc s ≠ .null := fun h => Json.noConfusion h

lemma i64_ne_null (n : Int64) : Codec.i64.enc n ≠ .null := fun h => Json.noConfusion h

def optString : Slot (Option String) := .optional .string string_ne_null

def optI64 : Slot (Option Int64) := .optional .i64 i64_ne_null

namespace ContactSource

def name : ContactSource → String
  | manual => "Manual"
  | received => "Received"

def ofName : String → Option ContactSource
  | "Manual" => some manual
  | "Received" => some received
  | _ => none

def codec : Codec ContactSource := Codec.unitVariant name ofName fun s => by cases s <;> rfl

end ContactSource

namespace DeliveryRoute

def name : DeliveryRoute → String
  | .direct => "Direct"
  | .storeAndForward => "StoreAndForward"

def ofName : String → Option DeliveryRoute
  | "Direct" => some .direct
  | "StoreAndForward" => some .storeAndForward
  | _ => none

def slot : Slot (Option DeliveryRoute) :=
  .optional (Codec.unitVariant name ofName fun r => by cases r <;> rfl) fun _ h => Json.noConfusion h

end DeliveryRoute

namespace SendFailureKind

def name : SendFailureKind → String
  | .handleNotFound => "HandleNotFound"
  | .handleLookupFailed => "HandleLookupFailed"
  | .recipientNotAdvertised => "RecipientNotAdvertised"
  | .invalidRecipientId => "InvalidRecipientId"
  | .noRelayAvailable => "NoRelayAvailable"
  | .relayAllocationFailed => "RelayAllocationFailed"
  | .peerUnreachable => "PeerUnreachable"
  | .noResponse => "NoResponse"
  | .malformedAdvert => "MalformedAdvert"
  | .protocolError => "ProtocolError"
  | .notReady => "NotReady"
  | .unknown => "Unknown"

def ofName : String → Option SendFailureKind
  | "HandleNotFound" => some .handleNotFound
  | "HandleLookupFailed" => some .handleLookupFailed
  | "RecipientNotAdvertised" => some .recipientNotAdvertised
  | "InvalidRecipientId" => some .invalidRecipientId
  | "NoRelayAvailable" => some .noRelayAvailable
  | "RelayAllocationFailed" => some .relayAllocationFailed
  | "PeerUnreachable" => some .peerUnreachable
  | "NoResponse" => some .noResponse
  | "MalformedAdvert" => some .malformedAdvert
  | "ProtocolError" => some .protocolError
  | "NotReady" => some .notReady
  | "Unknown" => some .unknown
  | _ => none

def slot : Slot (Option SendFailureKind) :=
  .optional (Codec.unitVariant name ofName fun k => by cases k <;> rfl) fun _ h => Json.noConfusion h

end SendFailureKind

def Keypair.fields : Fields Keypair Keypair :=
  Fields.make Keypair Keypair.mk
    |>.field "id" (.required .string) Keypair.id
    |>.field "passphrase" (.required .string) Keypair.passphrase

def Keypair.codec : Codec Keypair := Keypair.fields.codec fun _ => rfl

def ContactEntry.fields : Fields ContactEntry ContactEntry :=
  Fields.make ContactEntry ContactEntry.mk
    |>.field "id" (.required .string) ContactEntry.id
    |>.field "handle" (.required .string) ContactEntry.handle
    |>.field "source" (.required ContactSource.codec) ContactEntry.source
    |>.field "is_blocked" (.required .bool) ContactEntry.isBlocked

def ContactEntry.codec : Codec ContactEntry := ContactEntry.fields.codec fun _ => rfl

def ForwardedEntry.fields : Fields ForwardedEntry ForwardedEntry :=
  Fields.make ForwardedEntry ForwardedEntry.mk
    |>.field "message_id" optString ForwardedEntry.messageId
    |>.field "timestamp" optI64 ForwardedEntry.timestamp
    |>.field "handle" (.required .string) ForwardedEntry.handle

def ForwardedEntry.codec : Codec ForwardedEntry := ForwardedEntry.fields.codec fun _ => rfl

namespace SerdeJson

variable (serde : SerdeJson)

def readF32 : Json → Option F32
  | .float bits => some (serde.asF32 bits)
  | .int n => some (serde.intAsF32 n)
  | _ => none

/-- The progress of a message, always written.  A number that is not finite is written as `null`, as
no number is. -/
def progress : Slot (Option F32) where
  enc
    | none => some .null
    | some x => some (if x.isFinite then .float (serde.number x) else .null)
  dec := Slot.decOption serde.readF32
  norm p := p.filter F32.isFinite
  dec_enc p := by
    cases p with
    | none => rfl
    | some x =>
      by_cases hx : x.isFinite
      · simp [hx, Slot.decOption, readF32, serde.asF32_number x hx, Option.filter]
      · simp [hx, Slot.decOption, Option.filter]

def message : Fields Message Message :=
  Fields.make Message Message.mk
    |>.field "id" (.withDefault .string "") Message.id
    |>.field "sender_handle" (.required .string) Message.senderHandle
    |>.field "recipient_handles" (.required Codec.string.list) Message.recipientHandles
    |>.field "timestamp" (.required .i64) Message.timestamp
    |>.field "text" (.required .string) Message.text
    |>.field "cipher_suite" optString Message.cipherSuite
    |>.field "progress" serde.progress Message.progress
    |>.field "failure_reason" optString Message.failureReason
    |>.field "failure_kind" SendFailureKind.slot Message.failureKind
    |>.field "sent_time" optI64 Message.sentTime
    |>.field "delivered_time" optI64 Message.deliveredTime
    |>.field "signature" optString Message.signature
    |>.field "delivery_route" DeliveryRoute.slot Message.deliveryRoute
    |>.field "store_and_forward_failure" optString Message.storeAndForwardFailure

def stateFile : Fields StateFile StateFile :=
  Fields.make StateFile StateFile.mk
    |>.field "keypair" (.nullOr Keypair.codec fun _ h => Json.noConfusion h) StateFile.keypair
    |>.field "recovery_keypair" (.optional Keypair.codec fun _ h => Json.noConfusion h)
        StateFile.recoveryKeypair
    |>.field "contacts" (.withDefault ContactEntry.codec.list []) StateFile.contacts
    |>.field "messages" (serde.message.list 8) StateFile.messages
    |>.field "own_handle" .nullable StateFile.ownHandle
    |>.field "own_handle_app_id" (.nullOr .u64 fun _ h => Json.noConfusion h)
        StateFile.ownHandleAppId
    |>.field "forwarded_messages" (.withDefault ForwardedEntry.codec.list [])
        StateFile.forwardedMessages

end SerdeJson

/-! ## Saving and loading -/

structure Iteration where
  contacts : (Finmap fun _ : String => String × ContactSource × Bool) →
    List (Sigma fun _ : String => String × ContactSource × Bool)
  forwarded : Finset (String × String) → List (String × String)
  coe_contacts : ∀ m, (contacts m : Multiset _) = m.entries
  toFinset_forwarded : ∀ s, (forwarded s).toFinset = s

def LocalState.snapshot (it : Iteration) (s : LocalState) : StateFile where
  keypair := s.keypair
  recoveryKeypair := s.recoveryKeypair
  contacts := (it.contacts s.contacts).map fun c => ⟨c.1, c.2.1, c.2.2.1, c.2.2.2⟩
  messages := s.messages
  ownHandle := s.ownHandle
  ownHandleAppId := s.ownHandleAppId
  forwardedMessages := (it.forwarded s.forwardedMessages).map fun f => ⟨some f.1, none, f.2⟩

/-- `save`: the state as the JSON of its file. -/
def save (serde : SerdeJson) (it : Iteration) (s : LocalState) : Json :=
  .obj (serde.stateFile.enc (s.snapshot it))

def Message.withId (m : Message) : Message :=
  if m.id.isEmpty then { m with id := legacyMessageId m.timestamp } else m

def ForwardedEntry.post (e : ForwardedEntry) : Option (String × String) :=
  (e.messageId.or (e.timestamp.map legacyMessageId)).map (·, e.handle)

def StateFile.state (f : StateFile) : LocalState where
  keypair := f.keypair
  recoveryKeypair := f.recoveryKeypair
  contacts := f.contacts.foldl (fun m c => m.insert c.id (c.handle, c.source, c.isBlocked)) ∅
  messages := f.messages.map Message.withId
  ownHandle := f.ownHandle
  ownHandleAppId := f.ownHandleAppId
  forwardedMessages := (f.forwardedMessages.filterMap ForwardedEntry.post).toFinset

inductive LoadError
  | file
  | json
deriving DecidableEq, Repr

/-- `load`: the state that a file holds, or why there is none. -/
def load (serde : SerdeJson) : Option Json → Except LoadError LocalState
  | none => .error .file
  | some json =>
    match serde.stateFile.ofJson 0 json with
    | none => .error .json
    | some stateFile => .ok stateFile.state

lemma load_of_ofJson {serde : SerdeJson} {json : Json} {f : StateFile}
    (h : serde.stateFile.ofJson 0 json = some f) : load serde (some json) = .ok f.state := by
  simp only [load, h]

/-! ## What a saved state reads back as -/

def Message.restored (m : Message) : Message :=
  { m with progress := m.progress.filter F32.isFinite }.withId

lemma entries_foldl_insert {m : Finmap fun _ : String => String × ContactSource × Bool}
    {l : List (Sigma fun _ : String => String × ContactSource × Bool)}
    (hl : (l.map Sigma.fst).Nodup) (hm : ∀ c ∈ l, c.1 ∉ m) :
    (l.foldl (fun m c => m.insert c.1 c.2) m).entries = l + m.entries := by
  induction l generalizing m with
  | nil => exact (zero_add _).symm
  | cons c l ih =>
    obtain ⟨hc, hl⟩ := nodup_cons.mp hl
    have hkeys : ∀ d ∈ l, d.1 ∉ m.insert c.1 c.2 := by
      intro d hd hmem
      rcases Finmap.mem_insert.mp hmem with heq | hmem
      · exact hc (heq ▸ List.mem_map_of_mem hd)
      · exact hm d (mem_cons_of_mem c hd) hmem
    rw [foldl_cons, ih hl hkeys, Finmap.entries_insert_of_notMem (hm c mem_cons_self)]
    rw [Multiset.add_cons, ← Multiset.cons_coe, Multiset.cons_add]

lemma contacts_snapshot (it : Iteration) (s : LocalState) :
    (s.snapshot it).state.contacts = s.contacts := by
  have hnodup : ((it.contacts s.contacts).map Sigma.fst).Nodup := by
    have h := s.contacts.nodupKeys
    rw [← it.coe_contacts, Multiset.coe_nodupKeys] at h
    exact h
  apply Finmap.ext
  rw [StateFile.state, LocalState.snapshot, foldl_map]
  rw [entries_foldl_insert hnodup fun c _ => Finmap.notMem_empty, it.coe_contacts]
  exact add_zero _

lemma forwardedMessages_snapshot (it : Iteration) (s : LocalState) :
    (s.snapshot it).state.forwardedMessages = s.forwardedMessages := by
  have hpost : (s.snapshot it).forwardedMessages.filterMap ForwardedEntry.post =
      it.forwarded s.forwardedMessages := by
    rw [LocalState.snapshot, filterMap_map]
    exact filterMap_some
  rw [StateFile.state, hpost, it.toFinset_forwarded]

lemma load_save (serde : SerdeJson) (it : Iteration) (s : LocalState) :
    load serde (some (save serde it s)) =
      .ok { s with messages := s.messages.map Message.restored } := by
  have hread : serde.stateFile.norm (s.snapshot it) =
      { s.snapshot it with messages := s.messages.map serde.message.norm } := rfl
  rw [save, load_of_ofJson (serde.stateFile.ofJson_enc _), hread, StateFile.state, List.map_map]
  congr 2
  · exact contacts_snapshot it s
  · exact forwardedMessages_snapshot it s

lemma filter_isFinite_eq_self_iff (p : Option F32) :
    p.filter F32.isFinite = p ↔ ∀ x ∈ p, x.isFinite := by
  cases p with
  | none => simp
  | some x => simp [filter_eq_some_iff]

namespace Message

lemma withId_of_id_eq {m : Message} (h : m.id = "") :
    m.withId = { m with id := legacyMessageId m.timestamp } := by
  rw [withId, h]
  rfl

lemma withId_of_id_ne {m : Message} (h : m.id ≠ "") : m.withId = m := by
  simp [withId, h]

lemma legacyMessageId_ne_empty (timestamp : Int64) : legacyMessageId timestamp ≠ "" := by
  simp [legacyMessageId]

lemma restored_eq_self_iff (m : Message) :
    m.restored = m ↔ m.id ≠ "" ∧ ∀ x ∈ m.progress, x.isFinite := by
  rw [← filter_isFinite_eq_self_iff, restored]
  by_cases hid : m.id = ""
  · rw [withId_of_id_eq (by exact hid)]
    simp only [hid, ne_eq, not_true_eq_false, false_and, iff_false]
    intro h
    exact legacyMessageId_ne_empty _ ((congrArg id h).trans hid)
  · rw [withId_of_id_ne (by exact hid)]
    constructor
    · intro h
      exact ⟨hid, congrArg progress h⟩
    · rintro ⟨-, h⟩
      rw [h]

end Message

/-- **A saved state comes back** exactly if every message has an id and no progress that JSON has no
number for. -/
theorem load_save_eq_iff (serde : SerdeJson) (it : Iteration) (s : LocalState) :
    load serde (some (save serde it s)) = .ok s ↔
      ∀ m ∈ s.messages, m.id ≠ "" ∧ ∀ x ∈ m.progress, x.isFinite := by
  have hmap : s.messages.map Message.restored = s.messages ↔
      ∀ m ∈ s.messages, m.restored = m := by
    conv_lhs => rhs; rw [← List.map_id s.messages]
    exact map_inj_left
  simp only [← Message.restored_eq_self_iff, ← hmap, load_save, Except.ok.injEq]
  constructor
  · intro h
    exact congrArg LocalState.messages h
  · intro h
    rw [h]

/-! ## Files from before message ids -/

lemma legacyMessageId_injective : Function.Injective legacyMessageId := by
  intro t t' h
  have hrepr : t.toInt.repr = t'.toInt.repr := by simpa [legacyMessageId] using h
  exact Int64.toInt_inj.mp (Int.repr_inj.mp hrepr)

def ForwardedEntry.RefersTo (e : ForwardedEntry) (m : Message) : Prop :=
  match e.messageId with
  | some id => m.id = id
  | none => e.timestamp = some m.timestamp

lemma post_of_messageId_eq_none {e : ForwardedEntry} (h : e.messageId = none) :
    e.post = e.timestamp.map fun t => (legacyMessageId t, e.handle) := by
  rw [ForwardedEntry.post, h, none_or, Option.map_map]
  rfl

lemma withId_id_eq_iff {m : Message} (hm : m.id = "") {e : ForwardedEntry}
    (he : e.messageId = none) {t : Int64} (ht : e.timestamp = some t) :
    m.withId.id = legacyMessageId t ↔ e.RefersTo m := by
  rw [Message.withId_of_id_eq hm, legacyMessageId_injective.eq_iff]
  simp [ForwardedEntry.RefersTo, he, ht, eq_comm]

section Legacy

variable {f : StateFile} (hids : ∀ m ∈ f.messages, m.id = "")
  (hposts : ∀ e ∈ f.forwardedMessages, e.messageId = none)
include hids hposts

lemma exists_post_of_entry {e : ForwardedEntry} (he : e ∈ f.forwardedMessages)
    (ht : e.timestamp.isSome) :
    ∃ id, (id, e.handle) ∈ f.state.forwardedMessages ∧
      ∀ m ∈ f.messages, m.withId.id = id ↔ e.RefersTo m := by
  obtain ⟨t, ht⟩ := isSome_iff_exists.mp ht
  refine ⟨legacyMessageId t, ?_, fun m hm => withId_id_eq_iff (hids m hm) (hposts e he) ht⟩
  refine List.mem_toFinset.mpr (mem_filterMap.mpr ⟨e, he, ?_⟩)
  rw [post_of_messageId_eq_none (hposts e he), ht]
  rfl

lemma exists_entry_of_post {post : String × String} (h : post ∈ f.state.forwardedMessages) :
    ∃ e ∈ f.forwardedMessages, e.handle = post.2 ∧
      ∀ m ∈ f.messages, m.withId.id = post.1 ↔ e.RefersTo m := by
  obtain ⟨e, he, hpost⟩ := mem_filterMap.mp (List.mem_toFinset.mp h)
  rw [post_of_messageId_eq_none (hposts e he)] at hpost
  obtain ⟨t, ht, rfl⟩ := map_eq_some_iff.mp hpost
  exact ⟨e, he, rfl, fun m hm => withId_id_eq_iff (hids m hm) (hposts e he) ht⟩

end Legacy

/-! ## Round trip -/

/-- **The state file.**  Loading a saved state gives the same state exactly if every message has an
id and no progress that is infinite or not a number.  Loading a file from before message ids keeps
the messages in order, and each entry of its posts refers to the same messages as before. -/
theorem state_file_round_trip (serde : SerdeJson) (it : Iteration) :
    (∀ s : LocalState, load serde (some (save serde it s)) = .ok s ↔
      ∀ m ∈ s.messages, m.id ≠ "" ∧ ∀ x ∈ m.progress, x.isFinite) ∧
    ∀ (json : Json) (f : StateFile), serde.stateFile.ofJson 0 json = some f →
      (∀ m ∈ f.messages, m.id = "") → (∀ e ∈ f.forwardedMessages, e.messageId = none) →
      ∃ s, load serde (some json) = .ok s ∧
        s.messages = f.messages.map Message.withId ∧
        (∀ e ∈ f.forwardedMessages, e.timestamp.isSome →
          ∃ id, (id, e.handle) ∈ s.forwardedMessages ∧
            ∀ m ∈ f.messages, m.withId.id = id ↔ e.RefersTo m) ∧
        ∀ post ∈ s.forwardedMessages, ∃ e ∈ f.forwardedMessages, e.handle = post.2 ∧
          ∀ m ∈ f.messages, m.withId.id = post.1 ↔ e.RefersTo m := by
  refine ⟨load_save_eq_iff serde it, fun json f hread hids hposts => ?_⟩
  refine ⟨f.state, load_of_ofJson hread, rfl, ?_, ?_⟩
  · exact fun e he ht => exists_post_of_entry hids hposts he ht
  · exact fun post h => exists_entry_of_post hids hposts h

def SerdeJson.ofBits : SerdeJson where
  number x := x.bits.toUInt64
  asF32 bits := ⟨bits.toUInt32⟩
  intAsF32 n := ⟨.ofNat n.toNat⟩
  asF32_number x _ := by simp

noncomputable def Iteration.arbitrary : Iteration where
  contacts m := m.entries.toList
  forwarded s := s.toList
  coe_contacts m := m.entries.coe_toList
  toFinset_forwarded s := s.toList_toFinset

def legacyFile : StateFile where
  keypair := none
  recoveryKeypair := none
  contacts := []
  messages := [⟨"", "me", ["bob"], 5, "hi", none, none, none, none, none, none, none, none, none⟩,
    ⟨"", "me", ["bob"], 7, "ho", none, none, none, none, none, none, none, none, none⟩]
  ownHandle := some "me"
  ownHandleAppId := none
  forwardedMessages := [⟨none, some 7, "bob"⟩]

theorem legacy_file_loaded :
    ∃ s, load .ofBits (some (.obj (SerdeJson.ofBits.stateFile.enc legacyFile))) = .ok s ∧
      s.messages = legacyFile.messages.map Message.withId := by
  obtain ⟨s, hload, hmessages, -⟩ := (state_file_round_trip .ofBits .arbitrary).2 _ legacyFile
    (SerdeJson.ofBits.stateFile.ofJson_enc legacyFile) (by decide) (by decide)
  exact ⟨s, hload, hmessages⟩

def infiniteProgress : LocalState where
  keypair := none
  recoveryKeypair := none
  contacts := ∅
  messages := [⟨"m1", "me", ["bob"], 5, "hi", none, some .infinity, none, none, none, none, none,
    none, none⟩]
  ownHandle := some "me"
  ownHandleAppId := none
  forwardedMessages := ∅

theorem infinite_progress_lost :
    (infiniteProgress.messages.map Message.id).Nodup ∧
    (∀ m ∈ infiniteProgress.messages, m.id ≠ "" ∧ ∀ x ∈ m.progress, ¬ x.isNan) ∧
    ∃ s, load .ofBits (some (save .ofBits .arbitrary infiniteProgress)) = .ok s ∧
      s.messages.map Message.progress = [none] ∧ s ≠ infiniteProgress := by
  refine ⟨by decide, by decide, _, load_save _ _ _, by decide, ?_⟩
  intro h
  exact absurd (congrArg LocalState.messages h) (by decide)

end Bingle.Local
