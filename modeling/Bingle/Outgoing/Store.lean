import Bingle.Outgoing.Path

/-!
# The outgoing messages and their Mailbox fallback

`bingle_local/src/api/bingle_local_api_impl.rs` and its `store_and_forward.rs`: the messages this
client has queued, and the functions that write their status.  A call is a sequence of sections, and
other threads run between them: `Call` is a call that has reached a section, and `Store.advance` is
that section.  `Store.handed`, the history of hand-overs, is not in the program.
-/

namespace Bingle.Outgoing

open List Option

/-! ## Messages -/

inductive DeliveryRoute
  | direct
  | storeAndForward
deriving DecidableEq, Repr

structure Message where
  id : String
  recipientHandles : List String
  timestamp : ℤ
  text : String
  progress : Option ℕ := some 0
  failureReason : Option String := none
  failureKind : Option SendFailureKind := none
  deliveryRoute : Option DeliveryRoute := none
  storeAndForwardFailure : Option String := none
deriving DecidableEq, Repr

inductive ForwardOutcome
  | disabled
  | forwarded
  | notForwarded (reason : String)
deriving DecidableEq, Repr

namespace Message

def isPending (m : Message) : Bool := m.progress.any (· < 100)

def isComplete (m : Message) : Bool := m.progress.any (100 ≤ ·)

def displayFailureReason (m : Message) : Option String :=
  m.failureReason.map fun reason =>
    match m.storeAndForwardFailure with
    | some sf => reason ++ " (store-and-forward failed: " ++ sf ++ ")"
    | none => reason

def record (progress : ℕ) (reason : Option String) (kind : Option SendFailureKind)
    (route : Option DeliveryRoute) (m : Message) : Message :=
  let m := { m with progress := some progress }
  let m := if reason.isSome ∨ 100 ≤ progress then
    { m with failureReason := reason, failureKind := kind } else m
  let m := { m with deliveryRoute := route }
  if route.isSome then { m with storeAndForwardFailure := none } else m

def applyOutcome (outcome : ForwardOutcome) (m : Message) : Message :=
  match outcome with
  | .forwarded =>
    { m with
      progress := some 100
      failureReason := none
      failureKind := none
      deliveryRoute := some .storeAndForward
      storeAndForwardFailure := none }
  | .disabled => { m with storeAndForwardFailure := none }
  | .notForwarded reason => { m with storeAndForwardFailure := some reason }

section

variable {m : Message} {p : ℕ} {reason : Option String} {kind : Option SendFailureKind}
  {route : Option DeliveryRoute} {outcome : ForwardOutcome}

@[simp] lemma record_id : (m.record p reason kind route).id = m.id := by
  unfold record
  split_ifs <;> rfl

@[simp] lemma record_recipientHandles :
    (m.record p reason kind route).recipientHandles = m.recipientHandles := by
  unfold record
  split_ifs <;> rfl

@[simp] lemma record_progress : (m.record p reason kind route).progress = some p := by
  unfold record
  split_ifs <;> rfl

lemma record_failureReason (hp : 100 ≤ p) :
    (m.record p reason kind route).failureReason = reason := by
  unfold record
  split_ifs <;> simp_all

@[simp] lemma applyOutcome_id : (m.applyOutcome outcome).id = m.id := by
  cases outcome <;> rfl

@[simp] lemma applyOutcome_recipientHandles :
    (m.applyOutcome outcome).recipientHandles = m.recipientHandles := by
  cases outcome <;> rfl

end

end Message

def modifyMessage (id : String) (f : Message → Message) : List Message → List Message
  | [] => []
  | m :: ms => if m.id = id then f m :: ms else m :: modifyMessage id f ms

lemma mem_modifyMessage {id : String} {f : Message → Message} {ms : List Message} {m : Message}
    (hm : m ∈ modifyMessage id f ms) : m ∈ ms ∨ ∃ m₀ ∈ ms, m₀.id = id ∧ m = f m₀ := by
  induction ms with
  | nil => exact absurd hm not_mem_nil
  | cons x xs ih =>
    unfold modifyMessage at hm
    split_ifs at hm with hx
    · rcases mem_cons.mp hm with rfl | hm
      · exact Or.inr ⟨x, mem_cons_self .., hx, rfl⟩
      · exact Or.inl (mem_cons_of_mem _ hm)
    · rcases mem_cons.mp hm with rfl | hm
      · exact Or.inl (mem_cons_self ..)
      · rcases ih hm with hm | ⟨m₀, hm₀, hid, rfl⟩
        · exact Or.inl (mem_cons_of_mem _ hm)
        · exact Or.inr ⟨m₀, mem_cons_of_mem _ hm₀, hid, rfl⟩

lemma map_modifyMessage {β : Type*} {g : Message → β} {id : String} {f : Message → Message}
    (hfg : ∀ m, g (f m) = g m) (ms : List Message) :
    (modifyMessage id f ms).map g = ms.map g := by
  induction ms with
  | nil => rfl
  | cons x xs ih =>
    unfold modifyMessage
    split_ifs
    · rw [map_cons, map_cons, hfg]
    · rw [map_cons, map_cons, ih]

/-! ## The store -/

structure Handover where
  id : String
  recipient : String
  route : DeliveryRoute
deriving DecidableEq, Repr

structure Store where
  storeAndForwardSend : Bool
  sidewinder : Bool
  notifyOnGiveup : Bool := true
  notifyGatewayUrl : Option String := none
  messages : List Message := []
  forwarded : Finset (String × String) := ∅
  refused : String × String → Option String := fun _ => none
  nudged : Finset String := ∅
  identityRefusedAt : Option ℕ := none
  identityRefusalReason : Option String := none
  handed : List Handover := []

namespace Store

def identityRefusedBackoff : ℕ := 600

def identityRefusalHolds (s : Store) (now : ℕ) : Bool :=
  s.identityRefusedAt.any fun refusedAt => now - refusedAt < identityRefusedBackoff

def identityRefusalNote (s : Store) : String :=
  match s.identityRefusalReason with
  | some reason => "the Mailbox node refused this account (" ++ reason ++ ")"
  | none => "the Mailbox node refused this account"

def anyRecipientForwarded (s : Store) (id : String) : Prop := ∃ x ∈ s.forwarded, x.1 = id

instance (s : Store) (id : String) : Decidable (s.anyRecipientForwarded id) :=
  inferInstanceAs (Decidable (∃ x ∈ s.forwarded, x.1 = id))

def decideRoute (s : Store) (id : String) (progress : ℕ) (reason : Option String) :
    Option DeliveryRoute :=
  if 100 ≤ progress ∧ reason = none then
    some (if s.anyRecipientForwarded id then .storeAndForward else .direct)
  else none

def modify (s : Store) (id : String) (f : Message → Message) : Store :=
  { s with messages := modifyMessage id f s.messages }

def pendingMessages (s : Store) : List Message := s.messages.filter Message.isPending

def isHandedOff (s : Store) (id : String) : Bool :=
  (s.messages.find? fun m => m.id = id).any fun m =>
    m.progress = some 100 && m.failureReason.isNone

def displayFailureReason (s : Store) (id : String) : Option String :=
  (s.messages.find? fun m => m.id = id).bind Message.displayFailureReason

def handOver (s : Store) (id recipient : String) (route : DeliveryRoute) : Store :=
  { s with handed := ⟨id, recipient, route⟩ :: s.handed }

end Store

def refusedNote (handle reason : String) : String :=
  "the Mailbox node refused the post to '" ++ handle ++ "' (" ++ reason ++ ")"

/-- What a post needs before the first recipient: the keypair, its seed, an Algorand client and a
Sidewinder node. -/
inductive Access
  | ready
  | noKeypair
  | noSigningKey (e : String)
  | noAlgorandClient (e : String)
  | noMailbox (e : String)
deriving DecidableEq, Repr

def Access.failure : Access → Option String
  | ready => none
  | noKeypair => some "no keypair to sign the post"
  | noSigningKey e => some ("cannot derive the signing key (" ++ e ++ ")")
  | noAlgorandClient e => some ("no Algorand client (" ++ e ++ ")")
  | noMailbox e => some ("Mailbox unavailable (" ++ e ++ ")")

inductive Post
  | noAccount
  | lookupFailed (e : String)
  | invalidAddress (e : String)
  | sealFailed (e : String)
  | posted
  | refused (reason : String)
  | identityRefused (reason : String)
  | failed (e : String)
deriving DecidableEq, Repr

/-- `update_message_status` or `forward_message_to_mailbox`, at the section it has reached. -/
inductive Call
  | decide (id : String) (progress : ℕ) (reason : Option String) (kind : Option SendFailureKind)
  | record (id : String) (progress : ℕ) (reason : Option String) (kind : Option SendFailureKind)
      (route : Option DeliveryRoute)
  | forward (id : String) (recipients : List String)
  | post (id : String) (recipients todo notes : List String)
  | apply (id : String) (outcome : ForwardOutcome)
deriving DecidableEq, Repr

namespace Store

def forward (s : Store) (now : ℕ) (access : Access) (id : String) (recipients : List String) :
    Call :=
  if ¬ (s.storeAndForwardSend ∧ s.sidewinder) then .apply id .disabled
  else
    -- `pending_forward_recipients`
    let pending := recipients.filter fun h => (id, h) ∉ s.forwarded
    if pending = [] then .apply id .forwarded
    else if s.identityRefusalHolds now then .apply id (.notForwarded s.identityRefusalNote)
    else
      let notes := pending.filterMap fun h => (s.refused (id, h)).map (refusedNote h)
      let pending := pending.filter fun h => (s.refused (id, h)).isNone
      if pending = [] then .apply id (.notForwarded ("; ".intercalate notes))
      else match access.failure with
        | some reason => .apply id (.notForwarded reason)
        | none => .post id recipients pending notes

def postTo (s : Store) (now : ℕ) (id h : String) : Post → Store × List String × Bool
  | .noAccount => (s, ["no account for '" ++ h ++ "'"], true)
  | .lookupFailed e => (s, ["could not look up '" ++ h ++ "' (" ++ e ++ ")"], true)
  | .invalidAddress e => (s, ["invalid address for '" ++ h ++ "' (" ++ e ++ ")"], true)
  | .sealFailed e => (s, ["could not seal the message for '" ++ h ++ "' (" ++ e ++ ")"], true)
  | .posted =>
    ({ s with forwarded := insert (id, h) s.forwarded }.handOver id h .storeAndForward, [], true)
  | .refused reason =>
    ({ s with refused := Function.update s.refused (id, h) (some reason) },
      [refusedNote h reason], true)
  | .identityRefused reason =>
    -- the refusal is for this account, not this recipient
    let s := { s with identityRefusedAt := some now, identityRefusalReason := some reason }
    (s, [s.identityRefusalNote], false)
  | .failed e => (s, ["Mailbox post to '" ++ h ++ "' failed (" ++ e ++ ")"], true)

def forwardOutcome (s : Store) (id : String) (recipients notes : List String) : ForwardOutcome :=
  if ∀ h ∈ recipients, (id, h) ∈ s.forwarded then .forwarded
  else if notes = [] then .notForwarded "not every recipient was posted"
  else .notForwarded ("; ".intercalate notes)

def advance (s : Store) (now : ℕ) (access : Access) (post : Post) : Call → Store × Option Call
  | .decide id progress reason kind =>
    (s, some (.record id progress reason kind (s.decideRoute id progress reason)))
  | .record id progress reason kind route =>
    match s.messages.find? fun m => m.id = id with
    -- "Message with id … not found"
    | none => (s, none)
    | some m =>
      let s := s.modify id (.record progress reason kind route)
      if (m.record progress reason kind route).failureReason.isSome then
        ({ s with nudged := insert id s.nudged }, some (.forward id m.recipientHandles))
      else (s, none)
  | .forward id recipients => (s, some (s.forward now access id recipients))
  | .post id recipients (h :: todo) notes =>
    match s.postTo now id h post with
    | (s, added, true) => (s, some (.post id recipients todo (notes ++ added)))
    | (s, added, false) => (s, some (.post id recipients [] (notes ++ added)))
  | .post id recipients [] notes =>
    (s, some (.apply id (s.forwardOutcome id recipients notes)))
  | .apply id outcome => (s.modify id (.applyOutcome outcome), none)

/-! ## What the sections keep -/

def Reached (s : Store) (id recipient : String) : Prop :=
  ∃ x ∈ s.handed, x.id = id ∧ x.recipient = recipient

instance (s : Store) (id recipient : String) : Decidable (s.Reached id recipient) :=
  inferInstanceAs (Decidable (∃ x ∈ s.handed, _))

/-- A message that counts as delivered has reached all its recipients. -/
def NoFalseDelivery (s : Store) : Prop :=
  ∀ m ∈ s.messages, m.isComplete → m.failureReason = none →
    ∀ r ∈ m.recipientHandles, s.Reached m.id r

instance (s : Store) : Decidable s.NoFalseDelivery :=
  inferInstanceAs (Decidable (∀ m ∈ s.messages, _ → _ → ∀ r ∈ m.recipientHandles, _))

def addressed (s : Store) : List (String × List String) :=
  s.messages.map fun m => (m.id, m.recipientHandles)

structure Sound (s : Store) : Prop where
  ids : (s.addressed.map Prod.fst).Nodup
  posted : ∀ x ∈ s.forwarded, s.Reached x.1 x.2
  noFalse : s.NoFalseDelivery

structure Grows (s s' : Store) : Prop where
  addressed : ∀ x ∈ s.addressed, x ∈ s'.addressed
  reached : ∀ id r, s.Reached id r → s'.Reached id r

lemma Grows.refl (s : Store) : s.Grows s := ⟨fun _ h => h, fun _ _ h => h⟩

end Store

def Call.Sound (s : Store) : Call → Prop
  | .decide id progress reason _ | .record id progress reason _ _ =>
    ∃ rs, (id, rs) ∈ s.addressed ∧ (100 ≤ progress → reason = none → ∀ r ∈ rs, s.Reached id r)
  | .forward id rs | .post id rs _ _ => (id, rs) ∈ s.addressed
  | .apply id .forwarded => ∃ rs, (id, rs) ∈ s.addressed ∧ ∀ r ∈ rs, s.Reached id r
  | .apply _ .disabled | .apply _ (.notForwarded _) => True

lemma Call.Sound.mono {s s' : Store} {c : Call} (h : c.Sound s) (hg : s.Grows s') :
    c.Sound s' := by
  cases c with
  | decide id progress reason kind | record id progress reason kind route =>
    obtain ⟨rs, hrs, hall⟩ := h
    exact ⟨rs, hg.addressed _ hrs, fun hp hr r hr' => hg.reached _ _ (hall hp hr r hr')⟩
  | forward id rs => exact hg.addressed _ h
  | post id rs todo notes => exact hg.addressed _ h
  | apply id outcome =>
    cases outcome with
    | forwarded =>
      obtain ⟨rs, hrs, hall⟩ := h
      exact ⟨rs, hg.addressed _ hrs, fun r hr => hg.reached _ _ (hall r hr)⟩
    | disabled => trivial
    | notForwarded reason => trivial

namespace Store

section Keep

variable {s s' : Store} {id : String} {rs : List String}

variable {m : Message}

lemma mem_addressed (hm : m ∈ s.messages) :
    (m.id, m.recipientHandles) ∈ s.addressed :=
  List.mem_map_of_mem hm

lemma Sound.recipients_eq (h : s.Sound) (hid : (id, rs) ∈ s.addressed)
    (hm : m ∈ s.messages) (heq : m.id = id) : m.recipientHandles = rs := by
  have hfst : (m.id, m.recipientHandles).1 = (id, rs).1 := heq
  have := inj_on_of_nodup_map h.ids (mem_addressed hm) hid hfst
  exact congrArg Prod.snd this

lemma Sound.modify (h : s.Sound) {f : Message → Message} (hid : ∀ m, (f m).id = m.id)
    (hto : ∀ m, (f m).recipientHandles = m.recipientHandles)
    (htrue : ∀ m ∈ s.messages, m.id = id → (f m).isComplete → (f m).failureReason = none →
      ∀ r ∈ m.recipientHandles, s.Reached m.id r) :
    (s.modify id f).Sound ∧ s.Grows (s.modify id f) := by
  have haddr : (s.modify id f).addressed = s.addressed :=
    map_modifyMessage (fun m => by rw [hid, hto]) s.messages
  refine ⟨⟨?_, h.posted, fun m hm hc hf r hr => ?_⟩, fun x hx => ?_, fun _ _ hr => hr⟩
  · rw [haddr]
    exact h.ids
  · rcases mem_modifyMessage hm with hm | ⟨m₀, hm₀, hid₀, rfl⟩
    · exact h.noFalse m hm hc hf r hr
    · rw [hto] at hr
      rw [hid]
      exact htrue m₀ hm₀ hid₀ hc hf r hr
  · rw [haddr]
    exact hx

lemma Sound.record (h : s.Sound) {progress : ℕ} {reason : Option String}
    {kind : Option SendFailureKind} {route : Option DeliveryRoute} (hrs : (id, rs) ∈ s.addressed)
    (htrue : 100 ≤ progress → reason = none → ∀ r ∈ rs, s.Reached id r) :
    (s.modify id (.record progress reason kind route)).Sound ∧
      s.Grows (s.modify id (.record progress reason kind route)) := by
  refine h.modify (fun _ => Message.record_id) (fun _ => Message.record_recipientHandles) ?_
  intro m hm hid hc hf r hr
  have hp : 100 ≤ progress := by simpa [Message.isComplete] using hc
  rw [Message.record_failureReason hp] at hf
  rw [h.recipients_eq hrs hm hid] at hr
  exact hid ▸ htrue hp hf r hr

lemma grows_handOver (s : Store) (id r : String) (route : DeliveryRoute) :
    s.Grows (s.handOver id r route) :=
  ⟨fun _ h => h, fun _ _ ⟨x, hx, heq⟩ => ⟨x, mem_cons_of_mem _ hx, heq⟩⟩

lemma reached_handOver (s : Store) (id r : String) (route : DeliveryRoute) :
    (s.handOver id r route).Reached id r := ⟨_, mem_cons_self .., rfl, rfl⟩

lemma Sound.handOver (h : s.Sound) (id r : String) (route : DeliveryRoute) :
    (s.handOver id r route).Sound := by
  have hg := grows_handOver s id r route
  exact ⟨h.ids, fun x hx => hg.reached _ _ (h.posted x hx),
    fun m hm hc hf r hr => hg.reached _ _ (h.noFalse m hm hc hf r hr)⟩

lemma Sound.postTo (h : s.Sound) (now : ℕ) (id r : String) (post : Post) :
    (s.postTo now id r post).1.Sound ∧ s.Grows (s.postTo now id r post).1 := by
  cases post with
  | posted =>
    have hg := grows_handOver s id r .storeAndForward
    refine ⟨⟨h.ids, fun x hx => ?_, (h.handOver id r .storeAndForward).noFalse⟩,
      hg.addressed, hg.reached⟩
    rcases Finset.mem_insert.mp hx with rfl | hx
    · exact reached_handOver s id r .storeAndForward
    · exact hg.reached _ _ (h.posted x hx)
  | noAccount | lookupFailed e | invalidAddress e | sealFailed e | failed e =>
    exact ⟨h, .refl s⟩
  | refused reason | identityRefused reason =>
    exact ⟨⟨h.ids, h.posted, h.noFalse⟩, fun _ hx => hx, fun _ _ hr => hr⟩

lemma Sound.forward (h : s.Sound) (now : ℕ) (access : Access) (hrs : (id, rs) ∈ s.addressed) :
    (s.forward now access id rs).Sound s := by
  unfold Store.forward
  dsimp only
  split_ifs with hgate hnone
  · refine ⟨rs, hrs, fun r hr => ?_⟩
    have := filter_eq_nil_iff.mp hnone r hr
    exact h.posted (id, r) (by simpa using this)
  · trivial
  · trivial
  · split
    · trivial
    · exact hrs
  · trivial

lemma Sound.forwardOutcome (h : s.Sound) (notes : List String) (hrs : (id, rs) ∈ s.addressed) :
    (Call.apply id (s.forwardOutcome id rs notes)).Sound s := by
  unfold Store.forwardOutcome
  split_ifs with hall
  · exact ⟨rs, hrs, fun r hr => h.posted (id, r) (hall r hr)⟩
  · trivial
  · trivial

/-- **Step of a call.**  Every section keeps the invariant, and leaves a call that may go on. -/
theorem advance_sound (h : s.Sound) (now : ℕ) (access : Access) (post : Post) {c : Call}
    (hc : c.Sound s) :
    (s.advance now access post c).1.Sound ∧ s.Grows (s.advance now access post c).1 ∧
      ∀ c', (s.advance now access post c).2 = some c' →
        c'.Sound (s.advance now access post c).1 := by
  cases c with
  | decide id progress reason kind =>
    exact ⟨h, .refl s, fun c' hc' => some.inj hc' ▸ hc⟩
  | record id progress reason kind route =>
    obtain ⟨rs, hrs, htrue⟩ := hc
    obtain ⟨hs, hg⟩ : (s.modify id (.record progress reason kind route)).Sound ∧
        s.Grows (s.modify id (.record progress reason kind route)) := h.record hrs htrue
    simp only [advance]
    split
    · exact ⟨h, .refl s, fun c' hc' => absurd hc' (by simp)⟩
    · rename_i m hfind
      have hm := mem_of_find?_eq_some hfind
      have hid : m.id = id := by simpa using List.find?_some hfind
      split_ifs
      · refine ⟨⟨hs.ids, hs.posted, hs.noFalse⟩, ⟨hg.addressed, hg.reached⟩, fun c' hc' => ?_⟩
        obtain rfl := some.inj hc'
        exact hg.addressed _ (hid ▸ mem_addressed hm)
      · exact ⟨hs, hg, fun c' hc' => absurd hc' (by simp)⟩
  | forward id rs =>
    exact ⟨h, .refl s, fun c' hc' => some.inj hc' ▸ h.forward now access hc⟩
  | post id rs todo notes =>
    cases todo with
    | nil =>
      exact ⟨h, .refl s, fun c' hc' => some.inj hc' ▸ h.forwardOutcome notes hc⟩
    | cons r todo =>
      obtain ⟨hs, hg⟩ := h.postTo now id r post
      simp only [advance]
      split <;> rename_i heq <;> rw [heq] at hs hg <;>
        exact ⟨hs, hg, fun c' hc' => some.inj hc' ▸ hg.addressed _ hc⟩
  | apply id outcome =>
    have hkeep : (s.modify id (.applyOutcome outcome)).Sound ∧
        s.Grows (s.modify id (.applyOutcome outcome)) := by
      refine h.modify (fun _ => Message.applyOutcome_id)
        (fun _ => Message.applyOutcome_recipientHandles) ?_
      intro m hm hid hcomp hf r hr
      cases outcome with
      | forwarded =>
        obtain ⟨rs, hrs, hall⟩ := hc
        rw [h.recipients_eq hrs hm hid] at hr
        exact hid ▸ hall r hr
      | disabled => exact h.noFalse m hm hcomp hf r hr
      | notForwarded reason => exact h.noFalse m hm hcomp hf r hr
    exact ⟨hkeep.1, hkeep.2, fun c' hc' => absurd hc' (by simp [advance])⟩

lemma Sound.push (h : s.Sound) (hnew : ∀ m' ∈ s.messages, m'.id ≠ m.id)
    (hpend : m.isComplete = false) :
    ({ s with messages := s.messages ++ [m] } : Store).Sound ∧
      s.Grows { s with messages := s.messages ++ [m] } := by
  refine ⟨⟨?_, h.posted, fun m' hm' hc => ?_⟩, fun x hx => ?_, fun _ _ hr => hr⟩
  · simp only [addressed, map_append, List.map_map, map_cons, map_nil]
    refine nodup_append.mpr ⟨by simpa [addressed] using h.ids, nodup_singleton _, ?_⟩
    intro x hx y hy heq
    obtain ⟨m', hm', rfl⟩ := List.mem_map.mp hx
    exact hnew m' hm' (heq.trans (mem_singleton.mp hy))
  · rcases mem_append.mp hm' with hm' | hm'
    · exact h.noFalse m' hm' hc
    · rw [mem_singleton.mp hm', hpend] at hc
      exact absurd hc (by simp)
  · simp only [addressed, map_append, mem_append]
    exact Or.inl hx

end Keep

end Store

end Bingle.Outgoing
