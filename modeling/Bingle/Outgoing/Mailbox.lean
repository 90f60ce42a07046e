import Bingle.Outgoing.AtMostOnce

/-!
# How often a post becomes final

A post to a recipient's Mailbox is a transaction on a side chain.  The client asks a node for the
parameters, failing over to the next node, submits one transaction, and polls it until it is final
or refused, or until a deadline.  It records the recipient only if it has seen the transaction
final.
-/

namespace Bingle.Outgoing

open List Option
open Function (update_eq_self_iff update_idem update_of_ne update_self)
open Lib (run Along Always Tasks)

/-! ## The Mailbox client -/

inductive Probe
  | answered
  | identityRefused (reason : String)
  | unreachable (e : String)
  | failed (e : String)
deriving DecidableEq, Repr

inductive ProbeFailure
  | identityRefused (reason : String)
  | exhausted (e : String)
  | failed (e : String)
deriving DecidableEq, Repr

def Probe.failure : Probe → Option ProbeFailure
  | answered => none
  | identityRefused reason => some (.identityRefused reason)
  | unreachable e => some (.exhausted e)
  | failed e => some (.failed e)

def ProbeFailure.post : ProbeFailure → Post
  | identityRefused reason => .identityRefused reason
  | exhausted e | failed e => .failed e

/-- What the nodes and the chain answer to one `params_with_failover`.  A node is named by whether
the set was resolved anew, and by how many nodes of the set come after it. -/
structure ProbeAnswers where
  params : Bool → ℕ → Probe
  connect : Bool → ℕ → Option String := fun _ _ => none
  /-- `resolve_reachable`, which returns one node at least -/
  resolve : Except String (String × List String) := .error "not resolved"

structure Transport where
  client : String
  rest : List String := []
deriving DecidableEq, Repr

def probeNodes (params : ℕ → Probe) (connect : ℕ → Option String) :
    String → List String → Transport × Option ProbeFailure
  | client, [] => (⟨client, []⟩, (params 0).failure)
  | client, next :: rest =>
    match params (rest.length + 1), connect rest.length with
    | .unreachable _, none => probeNodes params connect next rest
    -- the next node is the active one by then, but the client is not bound to it
    | .unreachable _, some e => (⟨client, rest⟩, some (.failed e))
    | probe, _ => (⟨client, next :: rest⟩, probe.failure)

/-- `params_with_failover`, with `advance_or_reresolve`.  The set is resolved anew once. -/
def Transport.paramsWithFailover (d : Transport) (a : ProbeAnswers) :
    Transport × Option ProbeFailure :=
  match probeNodes (a.params false) (a.connect false) d.client d.rest with
  | (d, some (.exhausted _)) =>
    match a.resolve with
    | .error e => (d, some (.failed e))
    | .ok (first, rest) =>
      match a.connect true rest.length with
      | some e => (⟨d.client, rest⟩, some (.failed e))
      | none => probeNodes (a.params true) (a.connect true) first rest
  | r => r

/-! ## The ledger -/

/-- The stages of a transaction.  It is in flight in the first two. -/
inductive Stage
  | pending
  | provisional
  | final
  | failed
  | rejected
  | expired
deriving DecidableEq, Repr

def Stage.isUnsuccessful : Stage → Bool
  | failed | rejected | expired => true
  | pending | provisional | final => false

def Stage.debug : Stage → String
  | pending => "Pending"
  | provisional => "Provisional"
  | final => "Final"
  | failed => "Failed"
  | rejected => "Rejected"
  | expired => "Expired"

structure Transaction where
  txid : String
  key : String × String
  node : String
  stage : Stage := .pending
  error : Option String := none
deriving DecidableEq, Repr

inductive WatchProgress
  | inFlight
  | final
  | finalWithError (reason : String)
  | refused (stage : Stage) (reason : String)
deriving DecidableEq, Repr

def classifyWatch (tx : Transaction) : WatchProgress :=
  let reason := tx.error.getD "no reason given"
  if tx.stage = .final then
    if tx.error.isSome then .finalWithError reason else .final
  else if tx.stage.isUnsuccessful then .refused tx.stage reason
  else .inFlight

def WatchProgress.post (txid : String) : WatchProgress → Option Post
  | inFlight => none
  | final => some .posted
  | finalWithError reason =>
    some (.failed ("sidewinder post transaction " ++ txid ++ " finalised with error: " ++ reason))
  | refused stage reason => some (.refused (stage.debug ++ ": " ++ reason))

namespace Transaction

def Live (tx : Transaction) : Prop := tx.stage.isUnsuccessful = false

instance (tx : Transaction) : Decidable tx.Live :=
  inferInstanceAs (Decidable (tx.stage.isUnsuccessful = false))

/-- The side chain moves it on.  The stages that `classify_watch` ends on are its last. -/
def settle (stage : Stage) (error : Option String) (tx : Transaction) : Transaction :=
  if classifyWatch tx = .inFlight then { tx with stage, error } else tx

@[simp] lemma settle_key (stage : Stage) (error : Option String) (tx : Transaction) :
    (tx.settle stage error).key = tx.key := by
  rw [settle]
  split_ifs <;> rfl

variable {tx : Transaction} {stage : Stage}

lemma live_of_inFlight (h : classifyWatch tx = .inFlight) : tx.Live := by
  simp only [classifyWatch] at h
  split_ifs at h with hfinal herror hun
  simpa [Live] using hun

lemma live_of_settle {error : Option String} (h : (tx.settle stage error).Live) : tx.Live := by
  rw [settle] at h
  split_ifs at h with hflight
  · exact live_of_inFlight hflight
  · exact h

lemma not_live_of_refused {reason : String}
    (h : classifyWatch tx = .refused stage reason) : ¬ tx.Live := by
  simp only [classifyWatch] at h
  split_ifs at h with hfinal herror hun
  simp [Live, hun]

end Transaction

def liveKeys (ledger : List Transaction) : List (String × String) :=
  ((ledger.filter fun tx => tx.Live).map Transaction.key).reverse

lemma liveKeys_submit (ledger : List Transaction) {tx : Transaction} (h : tx.Live) :
    liveKeys (ledger ++ [tx]) = tx.key :: liveKeys ledger := by
  simp [liveKeys, h]

lemma mem_liveKeys {ledger : List Transaction} {k : String × String} (h : k ∈ liveKeys ledger) :
    ∃ (i : ℕ) (tx : Transaction), ledger[i]? = some tx ∧ tx.Live ∧ tx.key = k := by
  obtain ⟨tx, hmem, hkey⟩ := List.mem_map.mp (mem_reverse.mp h)
  obtain ⟨hmem, hlive⟩ := mem_filter.mp hmem
  obtain ⟨i, hi⟩ := mem_iff_getElem?.mp hmem
  exact ⟨i, tx, hi, of_decide_eq_true hlive, hkey⟩

lemma liveKeys_settle (stage : Stage) (error : Option String) (ledger : List Transaction) (i : ℕ) :
    (liveKeys (ledger.modify i (Transaction.settle stage error))).Sublist (liveKeys ledger) := by
  rw [liveKeys, liveKeys, reverse_sublist]
  induction ledger generalizing i with
  | nil => simp
  | cons tx ledger ih =>
    cases i with
    | zero =>
      rw [modify_zero_cons]
      by_cases hlive : (tx.settle stage error).Live
      · have htx := Transaction.live_of_settle hlive
        simp [hlive, htx]
      · by_cases htx : tx.Live
        · simp [hlive, htx]
        · simp [hlive, htx]
    | succ i =>
      rw [modify_succ_cons]
      by_cases htx : tx.Live
      · simpa [htx] using ih i
      · simpa [htx] using ih i

/-! ## The system -/

structure SavedState where
  messages : List Message := []
  forwarded : Finset (String × String) := ∅

structure Mailer where
  sender : Sender
  mailbox : Thread → Option Transport := fun _ => none
  /-- the transaction that it polls, by its place in the ledger -/
  polling : Thread → Option ℕ := fun _ => none
  ledger : List Transaction := []
  saved : SavedState := {}

inductive Submission
  | accepted (txid : String)
  /-- the node has taken it, but its answer is lost -/
  | lost (txid : String) (e : String)
  | failed (e : String)
deriving DecidableEq, Repr

inductive MailEvent
  /-- a section of the sender that is not inside `try_post`, with the client that `get_mailbox`
  connects in it -/
  | sender (e : Event) (client : Transport)
  | submit (t : Thread) (answers : ProbeAnswers) (submission : Submission)
  | watch (t : Thread)
  /-- it gets another error than not-found, or its deadline passes -/
  | stopWatching (t : Thread) (e : String)
  | settle (i : ℕ) (stage : Stage) (error : Option String)
  | save
  | restart

def Post.early : Post → Bool
  | noAccount | lookupFailed _ | invalidAddress _ | sealFailed _ => true
  | posted | refused _ | identityRefused _ | failed _ => false

namespace Mailer

def outsidePost (w : Mailer) : Event → Bool
  | .call t _ post =>
    match w.sender.calls t with
    | some (.post _ _ (_ :: _) _) => w.polling t = none ∧ post.early
    | _ => true
  | _ => true

def connect (w : Mailer) (client : Transport) : Event → Thread → Option Transport
  | .call t _ _ =>
    match w.sender.calls t with
    | some (.forward ..) => Function.update w.mailbox t (some client)
    | _ => w.mailbox
  | _ => w.mailbox

def endPost (o : Options) (w : Mailer) (t : Thread) (post : Post) : Mailer :=
  { w with
    sender := w.sender.step o (.call t .ready post)
    polling := Function.update w.polling t none }

def enter (w : Mailer) (txid : String) (key : String × String) (node : String) : Mailer :=
  { w with ledger := w.ledger ++ [{ txid, key, node }] }

def submit (o : Options) (w : Mailer) (t : Thread) (key : String × String) (node : String) :
    Submission → Mailer
  | .accepted txid =>
    { w.enter txid key node with polling := Function.update w.polling t (some w.ledger.length) }
  | .lost txid e => (w.enter txid key node).endPost o t (.failed e)
  | .failed e => w.endPost o t (.failed e)

def polled (w : Mailer) (t : Thread) : Option Transaction := (w.polling t).bind (w.ledger[·]?)

def step (o : Options) (w : Mailer) : MailEvent → Mailer
  | .sender e client =>
    if w.outsidePost e then
      { w with sender := w.sender.step o e, mailbox := w.connect client e }
    else w
  | .submit t answers submission =>
    match w.sender.calls t, w.mailbox t, w.polling t with
    | some (.post id _ (h :: _) _), some d, none =>
      let (d, failure) := d.paramsWithFailover answers
      let w := { w with mailbox := Function.update w.mailbox t (some d) }
      match failure with
      | some failure => w.endPost o t failure.post
      | none => w.submit o t (id, h) d.client submission
    | _, _, _ => w
  | .watch t =>
    match (w.polled t).bind fun tx => (classifyWatch tx).post tx.txid with
    | some post => w.endPost o t post
    | none => w
  | .stopWatching t e => if (w.polling t).isSome then w.endPost o t (.failed e) else w
  | .settle i stage error => { w with ledger := w.ledger.modify i (.settle stage error) }
  | .save =>
    { w with saved := ⟨w.sender.store.messages, w.sender.store.forwarded⟩ }
  | .restart =>
    { w with
      sender :=
        { now := w.sender.now
          store :=
            { storeAndForwardSend := w.sender.store.storeAndForwardSend
              sidewinder := w.sender.store.sidewinder
              notifyOnGiveup := w.sender.store.notifyOnGiveup
              notifyGatewayUrl := w.sender.store.notifyGatewayUrl
              messages := w.saved.messages
              forwarded := w.saved.forwarded
              handed := w.sender.store.handed } }
      mailbox := fun _ => none
      polling := fun _ => none }

def init (storeAndForwardSend sidewinder : Bool) : Mailer :=
  { sender := .init storeAndForwardSend sidewinder }

/-- Of all posts of a message to a recipient at most one is final on chain. -/
def AtMostOneFinal (w : Mailer) : Prop :=
  ((w.ledger.filter fun tx => tx.stage = .final).map Transaction.key).Nodup

instance (w : Mailer) : Decidable w.AtMostOneFinal :=
  inferInstanceAs (Decidable (List.Nodup _))

def posting (w : Mailer) (t : Thread) : List (String × String) :=
  (w.sender.calls t).elim [] Call.due

def takesOn (w : Mailer) : Event → List (String × String)
  | .call t access _ =>
    match w.sender.calls t with
    | some (.forward id recipients) =>
      (w.sender.store.forward w.sender.now access id recipients).due
    | _ => []
  | _ => []

def SeesThrough (w : Mailer) : MailEvent → Prop
  -- nobody else is posting the message to the recipient, who is named once
  | .sender e _ =>
    (w.takesOn e).Nodup ∧ ∀ k ∈ w.takesOn e, ∀ t, k ∉ w.posting t
  -- no answer to a submission is lost
  | .submit _ _ submission =>
    match submission with
    | .lost .. => False
    | _ => True
  -- none becomes final with an error
  | .watch t => ∀ tx ∈ w.polled t, ∀ reason, classifyWatch tx ≠ .finalWithError reason
  -- the transaction has been refused already
  | .stopWatching t _ => ∀ tx ∈ w.polled t, ¬ tx.Live
  -- so have all that are polled, and the posts that are recorded have been saved
  | .restart =>
    (∀ t, ∀ tx ∈ w.polled t, ¬ tx.Live) ∧ w.sender.store.forwarded ⊆ w.saved.forwarded
  | .settle .. | .save => True

/-! ## What the sections keep -/

section Step

variable {w : Mailer} {o : Options}

def tasks (w : Mailer) : Tasks Thread (String × String) where
  done := liveKeys w.ledger
  due t := if (w.polling t).isSome then (w.posting t).tail else w.posting t

variable {t : Thread} {c : Call} {s' : Sender} {id r : String} {recipients todo notes : List String}

lemma exclusive_of_take {w' : Mailer} {l : List (String × String)}
    (hother : ∀ t', t' ≠ t → w'.sender.calls t' = w.sender.calls t' ∧ w'.polling t' = w.polling t')
    (hdue : w'.tasks.due t = l)
    (h : (({ w.tasks with done := liveKeys w'.ledger } : Tasks _ _).take t l).Exclusive) :
    w'.tasks.Exclusive := by
  refine (congrArg Tasks.Exclusive ?_).mpr h
  rw [Tasks.take, tasks, Tasks.mk.injEq]
  refine ⟨rfl, funext fun t' => ?_⟩
  by_cases ht : t' = t
  · subst ht
    rw [update_self]
    exact hdue
  · rw [update_of_ne ht]
    simp only [tasks, posting, hother t' ht]

structure Accounted (w : Mailer) : Prop where
  apart : w.tasks.Exclusive
  /-- a transaction that is final, or may become so, is recorded or polled -/
  followed : ∀ (i : ℕ) (tx : Transaction), w.ledger[i]? = some tx → tx.Live →
    tx.key ∈ w.sender.store.forwarded ∨ ∃ t, w.polling t = some i
  head : ∀ t i, w.polling t = some i → ∃ tx : Transaction, w.ledger[i]? = some tx ∧
    ∃ id recipients h todo notes,
      w.sender.calls t = some (.post id recipients (h :: todo) notes) ∧ tx.key = (id, h)

lemma step_call {s : Sender} (hc : s.calls t = some c) (access : Access) (post : Post) :
    s.step o (.call t access post) =
      { s with
        store := (s.store.advance s.now access post c).1
        calls := Function.update s.calls t (s.store.advance s.now access post c).2 } := by
  simp only [Sender.step, hc]

structure Quiet (s s' : Sender) : Prop where
  forwarded : s'.store.forwarded = s.store.forwarded
  calls : ∀ t, s'.calls t = s.calls t ∨
    (s.calls t).elim [] Call.due = [] ∧ (s'.calls t).elim [] Call.due = []

variable {s : Sender}

lemma quiet_of_eq (hforwarded : s'.store.forwarded = s.store.forwarded)
    (hcalls : s'.calls = s.calls) : Quiet s s' :=
  ⟨hforwarded, fun t => .inl (congrFun hcalls t)⟩

lemma quiet_update {c : Option Call} (hforwarded : s'.store.forwarded = s.store.forwarded)
    (hcalls : s'.calls = Function.update s.calls t c) (hs : (s.calls t).elim [] Call.due = [])
    (hc : c.elim [] Call.due = []) : Quiet s s' := by
  refine ⟨hforwarded, fun t' => ?_⟩
  rw [hcalls]
  by_cases ht : t' = t
  · subst ht
    rw [update_self]
    exact .inr ⟨hs, hc⟩
  · rw [update_of_ne ht]
    exact .inl rfl

lemma quiet_beginCall
    (hforwarded : s'.store.forwarded = s.store.forwarded) (hcalls : s'.calls = s.calls)
    (hs : s.calls t = none) (hc : c.due = []) : Quiet s (s'.beginCall t c) := by
  refine quiet_update hforwarded ?_ (by rw [hs]; rfl) (c := some c) hc
  rw [Sender.beginCall, hcalls]

lemma quiet_step {e : Event} (he : ∀ t access post, e ≠ .call t access post) :
    Quiet s (s.step o e) := by
  cases e with
  | tick d => exact quiet_of_eq rfl rfl
  | queue id recipients timestamp text =>
    simp only [Sender.step]
    split_ifs
    · exact quiet_of_eq rfl rfl
    · exact quiet_of_eq rfl rfl
  | select id =>
    simp only [Sender.step]
    split
    · exact quiet_of_eq rfl rfl
    · exact quiet_of_eq rfl rfl
  | peerSeen recipient => exact quiet_of_eq rfl rfl
  | work answers =>
    simp only [Sender.step]
    split_ifs with hcalls
    · simp only [Sender.work]
      repeat' split
      all_goals first
        | exact quiet_of_eq rfl rfl
        | exact quiet_beginCall rfl rfl hcalls rfl
    · exact quiet_of_eq rfl rfl
  | panic =>
    simp only [Sender.step, Sender.panic]
    split_ifs
    · split <;> exact quiet_of_eq rfl rfl
    · exact quiet_of_eq rfl rfl
  | shutdown patience =>
    simp only [Sender.step]
    split_ifs with hcalls
    · simp only [Sender.shutdownStep]
      repeat' split
      all_goals first
        | exact quiet_of_eq rfl rfl
        | exact quiet_beginCall rfl rfl hcalls rfl
    · exact quiet_of_eq rfl rfl
  | flush n =>
    simp only [Sender.step]
    split_ifs
    · exact quiet_of_eq rfl rfl
    · exact quiet_of_eq rfl rfl
  | flushNext n =>
    simp only [Sender.step]
    split
    · rename_i hcalls _
      exact quiet_beginCall rfl rfl hcalls rfl
    · exact quiet_of_eq rfl rfl
  | call t access post => exact absurd rfl (he t access post)

lemma quiet_call (hc : s.calls t = some c) (hdue : c.due = [])
    (hforward : ∀ id recipients, c ≠ .forward id recipients) (access : Access) (post : Post) :
    Quiet s (s.step o (.call t access post)) := by
  have hs : (s.calls t).elim [] Call.due = [] := by rw [hc]; exact hdue
  rw [step_call hc]
  cases c with
  | decide id progress reason kind => exact quiet_update rfl rfl hs rfl
  | record id progress reason kind route =>
    simp only [Store.advance]
    split
    · exact quiet_update rfl rfl hs rfl
    · split_ifs
      · exact quiet_update rfl rfl hs rfl
      · exact quiet_update rfl rfl hs rfl
  | forward id recipients => exact absurd rfl (hforward id recipients)
  | post id recipients todo notes =>
    cases todo with
    | nil => exact quiet_update rfl rfl hs rfl
    | cons h todo => exact absurd hdue (cons_ne_nil _ _)
  | apply id outcome => exact quiet_update rfl rfl hs rfl

lemma Accounted.posting_ne_nil (h : w.Accounted) {i : ℕ} (hi : w.polling t = some i) :
    w.posting t ≠ [] := by
  obtain ⟨tx, -, id, recipients, r, todo, notes, hc, -⟩ := h.head t i hi
  rw [posting, hc]
  exact cons_ne_nil _ _

lemma accounted_quiet (h : w.Accounted) {s : Sender} (hs : Quiet w.sender s)
    (m : Thread → Option Transport) : { w with sender := s, mailbox := m }.Accounted := by
  have htasks : ({ w with sender := s, mailbox := m } : Mailer).tasks = w.tasks := by
    rw [tasks, tasks, Tasks.mk.injEq]
    refine ⟨rfl, funext fun t => ?_⟩
    simp only [posting]
    rcases hs.calls t with heq | ⟨hold, hnew⟩
    · rw [heq]
    · rw [hold, hnew]
  refine ⟨htasks ▸ h.apart, fun i tx hi hlive => ?_, fun t i hi => ?_⟩
  · rw [hs.forwarded]
    exact h.followed i tx hi hlive
  · rcases hs.calls t with heq | ⟨hold, -⟩
    · rw [heq]
      exact h.head t i hi
    · exact absurd hold (h.posting_ne_nil hi)

lemma accounted_forward (h : w.Accounted)
    (hc : w.sender.calls t = some (.forward id recipients)) (access : Access) (post : Post)
    (m : Thread → Option Transport)
    (hnew : (w.sender.store.forward w.sender.now access id recipients).due.Nodup ∧
      ∀ k ∈ (w.sender.store.forward w.sender.now access id recipients).due, ∀ t, k ∉ w.posting t) :
    { w with sender := w.sender.step o (.call t access post), mailbox := m }.Accounted := by
  have hidle : w.polling t = none := by
    refine eq_none_iff_forall_ne_some.mpr fun i hi => h.posting_ne_nil hi ?_
    rw [posting, hc]
    rfl
  rw [step_call hc]
  simp only [Store.advance]
  set c := w.sender.store.forward w.sender.now access id recipients with hcdef
  refine ⟨?_, h.followed, fun t' i hi => ?_⟩
  · refine exclusive_of_take (w := w) (t := t) (l := c.due)
      (fun t' ht => ⟨update_of_ne ht .., rfl⟩) (by simp [tasks, posting, hidle]) ?_
    refine h.apart.take hnew.1 fun k hk => ⟨fun hdone => ?_, fun t' _ hdue => ?_⟩
    · -- a transaction for it is recorded, or another call is at it
      obtain ⟨i, tx, hi, hlive, rfl⟩ := mem_liveKeys hdone
      rcases h.followed i tx hi hlive with hforwarded | ⟨t', ht'⟩
      · exact Store.forward_due_notMem hk hforwarded
      · obtain ⟨tx', hi', id', recipients', r, todo, notes, hc', hkey⟩ := h.head t' i ht'
        obtain rfl : tx' = tx := some.inj (hi'.symm.trans hi)
        refine hnew.2 _ hk t' ?_
        rw [posting, hc', hkey]
        exact mem_cons_self
    · refine hnew.2 k hk t' ?_
      simp only [tasks] at hdue
      split_ifs at hdue
      · exact mem_of_mem_tail hdue
      · exact hdue
  · have ht : t' ≠ t := by
      rintro rfl
      cases hidle.symm.trans hi
    simp only [update_of_ne ht]
    exact h.head t' i hi

lemma advance_post (s : Store) (now : ℕ) (access : Access) (post : Post) (id r : String)
    (recipients todo notes : List String) :
    (s.advance now access post (.post id recipients (r :: todo) notes)).1.forwarded =
        (if post = .posted then insert (id, r) s.forwarded else s.forwarded) ∧
      ∃ todo' notes', todo'.Sublist todo ∧
        (s.advance now access post (.post id recipients (r :: todo) notes)).2 =
          some (.post id recipients todo' notes') := by
  cases post with
  | identityRefused reason => exact ⟨rfl, [], _, nil_sublist _, rfl⟩
  | _ => exact ⟨rfl, todo, _, List.Sublist.refl _, rfl⟩

lemma accounted_endPost (h : w.Accounted)
    (hc : w.sender.calls t = some (.post id recipients (r :: todo) notes)) (access : Access)
    (post : Post) (hend : post = .posted ∨ ∀ tx ∈ w.polled t, ¬ tx.Live) :
    { w with
      sender := w.sender.step o (.call t access post)
      polling := Function.update w.polling t none }.Accounted := by
  obtain ⟨hforwarded, todo', notes', htodo, hnext⟩ :=
    advance_post w.sender.store w.sender.now access post id r recipients todo notes
  rw [step_call hc, hnext]
  refine ⟨?_, fun i tx hi hlive => ?_, fun t' i hi => ?_⟩
  · have hsub : (todo'.map fun h => (id, h)).Sublist (w.tasks.due t) := by
      simp only [tasks, posting, hc, elim_some, Call.due, map_cons, tail_cons]
      split_ifs
      · exact htodo.map _
      · exact (htodo.map _).cons _
    exact exclusive_of_take
      (fun t' ht => ⟨update_of_ne ht .., update_of_ne ht ..⟩)
      (by simp [tasks, posting, Call.due]) (h.apart.giveUp hsub)
  · rw [hforwarded]
    rcases h.followed i tx hi hlive with hmem | ⟨t', ht'⟩
    · left
      split_ifs
      · exact Finset.mem_insert_of_mem hmem
      · exact hmem
    · by_cases ht : t' = t
      · -- it is the transaction of this post
        subst ht
        obtain ⟨tx', hi', id', recipients', r', todo', notes', hc', hkey⟩ := h.head t' i ht'
        obtain rfl : tx' = tx := some.inj (hi'.symm.trans hi)
        obtain ⟨rfl, -, ⟨rfl, -⟩, -⟩ := by simpa using hc.symm.trans hc'
        rcases hend with rfl | hdead
        · exact .inl (by rw [if_pos rfl, hkey]; exact Finset.mem_insert_self _ _)
        · exact absurd hlive (hdead tx' (by rw [polled, ht']; exact hi))
      · exact .inr ⟨t', by simpa only [update_of_ne ht] using ht'⟩
  · have ht : t' ≠ t := by
      rintro rfl
      simp only [update_self, reduceCtorEq] at hi
    simp only [update_of_ne ht] at hi ⊢
    exact h.head t' i hi

lemma accounted_accepted (h : w.Accounted)
    (hc : w.sender.calls t = some (.post id recipients (r :: todo) notes))
    (hidle : w.polling t = none) (txid node : String) :
    (w.submit o t (id, r) node (.accepted txid)).Accounted := by
  refine ⟨?_, fun i tx hi hlive => ?_, fun t' i hi => ?_⟩
  · have hdue : w.tasks.due t = (id, r) :: todo.map fun h => (id, h) := by
      simp [tasks, hidle, posting, hc, Call.due]
    have hlive : ({ txid, key := (id, r), node } : Transaction).Live := rfl
    refine exclusive_of_take (w := w) (t := t) (l := todo.map fun h => (id, h))
      (fun t' ht => ⟨rfl, update_of_ne ht ..⟩)
      (by simp [tasks, submit, enter, posting, hc, Call.due]) ?_
    rw [submit, enter, liveKeys_submit w.ledger hlive]
    exact h.apart.perform hdue
  · by_cases hlt : i < w.ledger.length
    · rw [submit, enter, List.getElem?_append_left hlt] at hi
      refine (h.followed i tx hi hlive).imp_right fun ⟨t', ht'⟩ => ⟨t', ?_⟩
      have ht : t' ≠ t := by
        rintro rfl
        exact nomatch hidle.symm.trans ht'
      simpa only [submit, update_of_ne ht] using ht'
    · obtain ⟨hle, -⟩ := List.getElem?_eq_some_iff.mp hi
      have hlast : i = w.ledger.length := by
        simp only [submit, enter, length_append, length_singleton] at hle
        omega
      exact .inr ⟨t, by simp only [submit, update_self, hlast]⟩
  · by_cases ht : t' = t
    · subst ht
      simp only [submit, update_self] at hi
      obtain rfl := some.inj hi
      exact ⟨_, List.getElem?_concat_length, id, recipients, r, todo, notes, hc, rfl⟩
    · simp only [submit, update_of_ne ht] at hi
      obtain ⟨tx, hi', hpost⟩ := h.head t' i hi
      have hlt : i < w.ledger.length := (List.getElem?_eq_some_iff.mp hi').1
      exact ⟨tx, by rw [submit, enter, List.getElem?_append_left hlt, hi'], hpost⟩

lemma accounted_settle (h : w.Accounted) (i : ℕ) (stage : Stage) (error : Option String) :
    { w with ledger := w.ledger.modify i (.settle stage error) }.Accounted := by
  refine ⟨h.apart.undo (liveKeys_settle stage error w.ledger i), fun j tx hj hlive => ?_,
    fun t j hj => ?_⟩
  · obtain ⟨tx', htx', rfl⟩ := map_eq_some_iff.mp (List.getElem?_modify .. ▸ hj)
    by_cases hij : i = j
    · rw [if_pos hij] at hlive ⊢
      rw [Transaction.settle_key]
      exact h.followed j tx' htx' (Transaction.live_of_settle hlive)
    · rw [if_neg hij] at hlive ⊢
      exact h.followed j tx' htx' hlive
  · obtain ⟨tx, htx, id, recipients, r, todo, notes, hc, hkey⟩ := h.head t j hj
    refine ⟨_, by rw [List.getElem?_modify, htx]; rfl, id, recipients, r, todo, notes, hc, ?_⟩
    split_ifs
    · rw [Transaction.settle_key, hkey]
    · exact hkey

lemma accounted_restart (h : w.Accounted) (hsee : w.SeesThrough .restart) :
    (w.step o .restart).Accounted := by
  refine ⟨⟨h.apart.done, fun t => nodup_nil, fun t k hk => absurd hk not_mem_nil⟩,
    fun i tx hi hlive => ?_, fun t i hi => nomatch hi⟩
  rcases h.followed i tx hi hlive with hforwarded | ⟨t, ht⟩
  · exact .inl (hsee.2 hforwarded)
  · exact absurd hlive (hsee.1 t tx (by rw [polled, ht]; exact hi))

lemma accounted_sender (h : w.Accounted) (e : Event) (client : Transport)
    (hsee : w.SeesThrough (.sender e client)) :
    (w.step o (.sender e client)).Accounted := by
  simp only [step]
  split_ifs with hout
  · by_cases hcall : ∃ t access post, e = .call t access post
    · obtain ⟨t, access, post, rfl⟩ := hcall
      cases hc : w.sender.calls t with
      | none => exact accounted_quiet h (quiet_of_eq (by simp [Sender.step, hc])
          (by simp [Sender.step, hc])) _
      | some c =>
        cases c with
        | forward id recipients =>
          simp only [SeesThrough, takesOn, hc] at hsee
          exact accounted_forward h hc access post _ hsee
        | post id recipients todo notes =>
          cases todo with
          | nil => exact accounted_quiet h (quiet_call hc rfl (by simp) access post) _
          | cons r todo =>
            simp only [outsidePost, hc, decide_eq_true_eq] at hout
            have hpolled : w.polled t = none := by rw [polled, hout.1]; rfl
            have hend := accounted_endPost (o := o) h hc access post
              (.inr (by simp [hpolled]))
            rw [update_eq_self_iff.mpr hout.1.symm] at hend
            exact ⟨hend.apart, hend.followed, hend.head⟩
        | _ => exact accounted_quiet h (quiet_call hc rfl (by simp) access post) _
    · exact accounted_quiet h (quiet_step fun t access post he => hcall ⟨t, access, post, he⟩) _
  · exact h

lemma accounted_submit (h : w.Accounted) (t : Thread) (answers : ProbeAnswers)
    {submission : Submission} (hsee : w.SeesThrough (.submit t answers submission)) :
    (w.step o (.submit t answers submission)).Accounted := by
  simp only [step]
  split
  · rename_i id recipients r todo notes d hc hd hidle
    have hw : ∀ m, ({ w with mailbox := m } : Mailer).Accounted :=
      fun m => ⟨h.apart, h.followed, h.head⟩
    have hpolled : w.polled t = none := by rw [polled, hidle]; rfl
    have hfailed : ∀ m post, (({ w with mailbox := m } : Mailer).endPost o t post).Accounted :=
      fun m post => accounted_endPost (hw m) hc .ready post
        (.inr fun tx htx => nomatch hpolled.symm.trans htx)
    split
    · exact hfailed _ _
    · cases submission with
      | accepted txid =>
        have hw := hw (Function.update w.mailbox t (some (d.paramsWithFailover answers).1))
        exact accounted_accepted hw hc hidle txid _
      | lost txid e => exact absurd hsee not_false
      | failed e => exact hfailed _ _
  · exact h

lemma accounted_watch (h : w.Accounted) (t : Thread) (hsee : w.SeesThrough (.watch t)) :
    (w.step o (.watch t)).Accounted := by
  simp only [step]
  split
  · rename_i post hpost
    obtain ⟨tx, htx, hpost⟩ := bind_eq_some_iff.mp hpost
    obtain ⟨i, hi, -⟩ := bind_eq_some_iff.mp htx
    obtain ⟨-, -, id, recipients, r, todo, notes, hc, -⟩ := h.head t i hi
    refine accounted_endPost h hc .ready _ ?_
    cases hprogress : classifyWatch tx with
    | inFlight =>
      rw [hprogress] at hpost
      exact nomatch hpost
    | final =>
      rw [hprogress] at hpost
      exact .inl (some.inj hpost).symm
    | finalWithError reason => exact absurd hprogress (hsee tx htx reason)
    | refused stage reason =>
      refine .inr fun tx' htx' => ?_
      obtain rfl : tx = tx' := some.inj (htx.symm.trans htx')
      exact Transaction.not_live_of_refused hprogress
  · exact h

lemma accounted_step (h : w.Accounted) {e : MailEvent} (hsee : w.SeesThrough e) :
    (w.step o e).Accounted := by
  cases e with
  | sender e client => exact accounted_sender h e client hsee
  | submit t answers submission => exact accounted_submit h t answers hsee
  | watch t => exact accounted_watch h t hsee
  | stopWatching t e =>
    simp only [step]
    split_ifs with hpolling
    · obtain ⟨i, hi⟩ := isSome_iff_exists.mp hpolling
      obtain ⟨-, -, id, recipients, r, todo, notes, hc, -⟩ := h.head t i hi
      exact accounted_endPost h hc .ready _ (.inr hsee)
    · exact h
  | settle i stage error => exact accounted_settle h i stage error
  | save => exact ⟨h.apart, h.followed, h.head⟩
  | restart => exact accounted_restart h hsee

lemma Accounted.atMostOneFinal (h : w.Accounted) : w.AtMostOneFinal := by
  have hsub : (w.ledger.filter fun tx => tx.stage = .final).Sublist
      (w.ledger.filter fun tx => tx.Live) := by
    refine monotone_filter_right _ fun tx htx => ?_
    have hfinal : tx.stage = .final := of_decide_eq_true htx
    simp [Transaction.Live, hfinal, Stage.isUnsuccessful]
  exact (nodup_reverse.mp h.apart.done).sublist (hsub.map _)

end Step

/-! ## At most one final post -/

/-- **At most one final post.**  In every run and every state on the way no two transactions for a
message and a recipient are final, as long as

* a call posts a message to recipients that are named once and that no other call is posting it to,
* no answer to a submission is lost, and no transaction becomes final with an error,
* the transactions that a call stops polling, or that a restart finds polled, have been refused, and
* a restart finds every recorded post in the saved state. -/
theorem at_most_one_final_post (o : Options) (storeAndForwardSend sidewinder : Bool)
    (es : List MailEvent)
    (hsee : Along (step o) SeesThrough (init storeAndForwardSend sidewinder) es) :
    Always (step o) AtMostOneFinal (init storeAndForwardSend sidewinder) es := by
  have h0 : (init storeAndForwardSend sidewinder).Accounted :=
    ⟨⟨nodup_nil, fun t => nodup_nil, fun t k hk => absurd hk not_mem_nil⟩,
      fun i tx hi => (nomatch hi), fun t i hi => (nomatch hi)⟩
  have h := Lib.always_of_along (I := Accounted) (fun w e h hp => accounted_step h hp) h0 hsee
  exact h.mono fun w hw => hw.atMostOneFinal

lemma seesThrough_of_nil {w : Mailer} {e : Event} (client : Transport) (h : w.takesOn e = []) :
    w.SeesThrough (.sender e client) := by
  rw [SeesThrough, h]
  exact ⟨nodup_nil, fun k hk => absurd hk not_mem_nil⟩

lemma notMem_posting {w : Mailer} {k : String × String} (t : Thread) {c : Call}
    (hcalls : w.sender.calls = Function.update (fun _ => none) t (some c)) (hc : c.due = [])
    (t' : Thread) : k ∉ w.posting t' := by
  rw [posting, hcalls]
  by_cases ht : t' = t
  · subst ht
    simp [hc]
  · simp [ht]

def failingOver : ProbeAnswers where
  params _ left := if left = 0 then .answered else .unreachable "timed out"

def nodes : Transport := ⟨"node1", ["node2"]⟩

def flushAndSubmit (txid : String) : List MailEvent :=
  [.sender (.flush 0) nodes, .sender (.flushNext 0) nodes,
    .sender (.call (.flush 0) .ready .noAccount) nodes,
    .submit (.flush 0) failingOver (.accepted txid)]

def flushReturns : List MailEvent :=
  [.sender (.call (.flush 0) .ready .noAccount) nodes,
    .sender (.call (.flush 0) .ready .noAccount) nodes]

/-- A message is queued and posted, the post is seen final and is saved, and the client restarts. -/
def postedAndSaved : List MailEvent :=
  List.flatten [[.sender (.queue "m" ["bob"] 1 "hello") nodes], flushAndSubmit "tx1",
    [.settle 0 .final none, .watch (.flush 0)], flushReturns, [.save, .restart]]

theorem posted_and_recorded :
    Always (step {}) AtMostOneFinal (init true true) postedAndSaved ∧
      (run (step {}) (init true true) postedAndSaved).ledger =
        [⟨"tx1", ("m", "bob"), "node2", .final, none⟩] ∧
      ("m", "bob") ∈ (run (step {}) (init true true) postedAndSaved).sender.store.forwarded := by
  refine ⟨at_most_one_final_post {} true true postedAndSaved ?_, by decide +kernel,
    by decide +kernel⟩
  refine ⟨seesThrough_of_nil _ rfl, seesThrough_of_nil _ rfl, seesThrough_of_nil _ rfl,
    ⟨nodup_singleton ("m", "bob"), fun k _ t => ?_⟩, trivial, trivial, ?_,
    seesThrough_of_nil _ rfl, seesThrough_of_nil _ rfl, trivial, ⟨fun t tx htx => ?_, ?_⟩, trivial⟩
  · exact notMem_posting (.flush 0) (c := .forward "m" ["bob"]) rfl rfl t
  · intro tx htx reason
    obtain rfl : (⟨"tx1", ("m", "bob"), "node2", .final, none⟩ : Transaction) = tx :=
      some.inj htx
    exact nofun
  · have hpolling : Function.update (Function.update (fun _ => none) (.flush 0) (some 0))
        (.flush 0) none t = none := by
      rw [update_idem, update_eq_self_iff.mpr rfl]
    obtain ⟨i, hi, -⟩ := bind_eq_some_iff.mp htx
    exact nomatch hpolling.symm.trans hi
  · exact Finset.Subset.refl _

/-- A message is queued and posted, the post becomes final after the deadline of the poll, and
another flush comes to the message. -/
def finalAfterDeadline : List MailEvent :=
  List.flatten [[.sender (.queue "m" ["bob"] 1 "hello") nodes], flushAndSubmit "tx1",
    [.stopWatching (.flush 0) "did not finalise"], flushReturns, [.settle 0 .final none],
    flushAndSubmit "tx2", [.settle 1 .final none]]

/-- **The condition is needed.**  The call has recorded nothing of a transaction that it stopped
polling; the next one submits another, and both become final. -/
theorem posted_again_after_timeout :
    ¬ (run (step {}) (init true true) finalAfterDeadline).AtMostOneFinal := by
  decide +kernel

end Mailer

end Bingle.Outgoing
