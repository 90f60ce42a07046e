import Bingle.Crypto.SealedEnvelope
import Bingle.Incoming.Inbox

/-!
# What a poll of the Mailbox returns

`poll_mailbox_inner` pops one sealed message after another, opens it, and stores what is neither
from a blocked sender nor a copy.  It returns what it has stored, by send time.
-/

namespace Bingle.Incoming

open List
open Crypto (Crates Key SigningKey OpenedMessage MessageId Signature)

variable {SignatureError HpkeError : Type} (crates : Crates SignatureError HpkeError)
  (key : SigningKey)

/-- How keys, ids and signatures are written.  A key may be the key of no address. -/
structure Texts where
  address : Key → Option String
  hexId : MessageId → String
  base64 : Signature → String

def Texts.opened (texts : Texts) (o : OpenedMessage) : Opened where
  senderAddress := texts.address o.senderId
  sentTime := o.sentTime.toInt
  messageId := texts.hexId o.messageId
  text := o.text
  signature := texts.base64 o.signature
  suite := Crypto.suiteName o.suiteId

structure Read where
  bytes : Crypto.Bytes
  handleForAddress : Option String
  now : ℤ

abbrev Ending := {p : Popped // p ≠ .unopened ∧ ∀ opened handle now, p ≠ .opened opened handle now}

variable (texts : Texts)

def Read.popped (r : Read) : Popped :=
  match Crypto.Envelope.unseal crates key r.bytes with
  | .error _ => .unopened
  | .ok o => .opened (texts.opened o) r.handleForAddress r.now

def Verified (o : OpenedMessage) : Prop :=
  ∃ senderKey, crates.verifyingKeyFromBytes o.senderId = .ok senderKey ∧
    crates.verify senderKey (Crypto.canonicalSignedMessage o.senderId (crates.verifyingKey key)
      o.sentTime o.text) o.signature = true

lemma verified_of_unseal {bytes : Crypto.Bytes} {o : OpenedMessage}
    (h : Crypto.Envelope.unseal crates key bytes = .ok o) : Verified crates key o := by
  simp only [Crypto.Envelope.unseal, bind, Except.bind] at h
  repeat' split at h
  all_goals cases h
  rename_i inner _ _ hverify
  simp only [Crypto.InnerPayload.verify, bind, Except.bind] at hverify
  split at hverify
  · cases hverify
  · rename_i senderKey hkey
    split_ifs at hverify with hok
    exact ⟨senderKey, Crypto.eq_ok_of_mapError hkey, hok⟩

namespace Inbox

def pollMailboxInner (s : Inbox) (now : ℕ) (access : Access) (reads : List Read)
    (ending : Ending) : Inbox :=
  (reads.foldl (fun s' r => s'.pop s.polls.length (r.popped crates key texts))
    (s.startPoll now access)).pop s.polls.length ending

/-- **A message that is to be stored** beside those held: it was opened with a valid signature, its
sender is not blocked, and no copy of it is held. -/
structure Admits (s : Inbox) (reads : List Read) (held : List Message) (m : Message) : Prop where
  opened : ∃ r ∈ reads, ∃ o handle own, Crypto.Envelope.unseal crates key r.bytes = .ok o ∧
    Verified crates key o ∧ m = Message.fromOpened (texts.opened o) handle own r.now
  notBlocked : s.isMailboxSenderBlocked m.sender = false
  notHeld : holdsReceivedCopy held m.senderHandle m.sentTime m.text = false

structure Reading (s : Inbox) (i : ℕ) (reads : List Read) (stored : List Message) (s' : Inbox) :
    Prop where
  poll : ∃ own, s'.polls[i]? = some ⟨own, stored⟩
  messages : s'.messages = s.messages ++ stored
  answers : s'.answers = s.answers
  blocked : s'.isMailboxSenderBlocked = s.isMailboxSenderBlocked
  admits : ∀ l m, l ++ [m] <+: stored → s.Admits crates key texts reads (s.messages ++ l) m

variable {crates key texts} {s s' : Inbox} {i : ℕ} {reads : List Read}

variable {stored : List Message}

lemma Reading.pop (h : s.Reading crates key texts i reads stored s') {r : Read} (hr : r ∈ reads) :
    ∃ stored', s.Reading crates key texts i reads stored'
      (s'.pop i (r.popped crates key texts)) := by
  obtain ⟨own, hpoll⟩ := h.poll
  rw [Read.popped]
  cases ho : Crypto.Envelope.unseal crates key r.bytes with
  | error e => exact ⟨stored, by simpa only [Inbox.pop, hpoll] using h⟩
  | ok o =>
    simp only [Inbox.pop, hpoll, recordMailboxMessage, record]
    generalize hm : Message.fromOpened (texts.opened o) _ own.toList r.now = m
    have hsender : (texts.opened o).senderAddress = m.sender := by rw [← hm]; rfl
    rw [hsender, h.blocked, h.messages]
    split_ifs with hblocked hheld hstored hstored
    · exact ⟨stored, h⟩
    · cases hstored
    · exact ⟨stored, ⟨own, hpoll⟩, by simp, h.answers, h.blocked, h.admits⟩
    · have hi : i < s'.polls.length := (List.getElem?_eq_some_iff.mp hpoll).1
      refine ⟨stored ++ [m], ⟨own, by simp [hi]⟩, by simp, h.answers, h.blocked, ?_⟩
      intro l m' hl
      rcases prefix_concat_iff.mp hl with heq | hl
      · obtain ⟨rfl, hlast⟩ := append_inj' heq rfl
        obtain rfl := singleton_inj.mp hlast
        exact ⟨⟨r, hr, o, _, _, ho, verified_of_unseal crates key ho, hm.symm⟩,
          Bool.eq_false_of_not_eq_true hblocked, Bool.eq_false_of_not_eq_true hheld⟩
      · exact h.admits l m' hl
    · exact absurd rfl hstored

lemma Reading.foldl (rs : List Read) (hrs : rs ⊆ reads)
    (h : s.Reading crates key texts i reads stored s') :
    ∃ stored', s.Reading crates key texts i reads stored'
      (rs.foldl (fun s' r => s'.pop i (r.popped crates key texts)) s') := by
  induction rs generalizing stored s' with
  | nil => exact ⟨stored, h⟩
  | cons r rs ih =>
    obtain ⟨stored', h'⟩ := h.pop (hrs mem_cons_self)
    exact ih (fun _ hr => hrs (mem_cons_of_mem r hr)) h'

lemma startPoll_cases (s : Inbox) (now : ℕ) (access : Access) :
    (∃ status, s.startPoll now access = { s with answers := s.answers ++ [⟨[], status⟩] }) ∨
      ∃ own, s.startPoll now access = { s with polls := s.polls ++ [⟨own, []⟩] } := by
  simp only [startPoll]
  repeat' split
  all_goals first | exact .inl ⟨_, rfl⟩ | exact .inr ⟨_, rfl⟩

lemma foldl_pop_of_eq_none (h : s.polls[i]? = none) (f : Read → Popped) (rs : List Read) :
    rs.foldl (fun s r => s.pop i (f r)) s = s := by
  induction rs with
  | nil => rfl
  | cons r rs ih => rw [foldl_cons, show s.pop i (f r) = s by rw [Inbox.pop, h], ih]

lemma answers_of_ending {poll : Poll} (h : s.polls[i]? = some poll) (ending : Ending) :
    ∃ status, (s.pop i ending).answers = s.answers ++ [⟨poll.batch, status⟩] ∧
      (s.pop i ending).messages = s.messages := by
  obtain ⟨popped, hopen, hopened⟩ := ending
  simp only [Inbox.pop, h]
  cases popped with
  | unopened => exact absurd rfl hopen
  | opened opened handle now => exact absurd rfl (hopened opened handle now)
  | _ => exact ⟨_, rfl, rfl⟩

end Inbox

lemma filter_batch (poll : Poll) (t : ℤ) :
    poll.batch.filter (·.orderTime = t) = poll.read.filter (·.orderTime = t) := by
  have hties : (poll.read.filter (·.orderTime = t)).Pairwise fun m m' =>
      m.orderTime ≤ m'.orderTime := by
    refine pairwise_of_forall_mem_list fun m hm m' hm' => ?_
    rw [of_decide_eq_true (mem_filter.mp hm).2, of_decide_eq_true (mem_filter.mp hm').2]
  have hsub := (sublist_insertionSort hties filter_sublist).filter (·.orderTime = t)
  simp only [filter_filter, Bool.and_self] at hsub
  exact (hsub.eq_of_length ((perm_insertionSort _ _).filter _).length_eq.symm).symm

/-- **Polling the Mailbox.**  Whatever it holds and whatever is stored: a poll returns exactly the
messages it has newly stored, in order of their times with ties in the order they were read in; and
each of them was opened with a valid signature by the sender it states, who is not blocked, and was
not held already. -/
theorem poll_returns_stored (s : Inbox) (now : ℕ) (access : Access) (reads : List Read)
    (ending : Ending) :
    ∃ stored answer,
      (s.pollMailboxInner crates key texts now access reads ending).messages =
        s.messages ++ stored ∧
      (s.pollMailboxInner crates key texts now access reads ending).answers =
        s.answers ++ [answer] ∧
      answer.messages.Perm stored ∧
      (answer.messages.Pairwise fun m m' => m.orderTime ≤ m'.orderTime) ∧
      (∀ t, answer.messages.filter (·.orderTime = t) = stored.filter (·.orderTime = t)) ∧
      ∀ l m, l ++ [m] <+: stored → s.Admits crates key texts reads (s.messages ++ l) m := by
  rw [Inbox.pollMailboxInner]
  rcases s.startPoll_cases now access with ⟨status, hstart⟩ | ⟨own, hstart⟩
  · have hnone : (s.startPoll now access).polls[s.polls.length]? = none := by simp [hstart]
    rw [Inbox.foldl_pop_of_eq_none hnone, Inbox.pop, hnone, hstart]
    exact ⟨[], _, by simp, rfl, .nil, .nil, fun _ => rfl, by simp⟩
  · have h0 : s.Reading crates key texts s.polls.length reads [] (s.startPoll now access) := by
      rw [hstart]
      exact ⟨⟨own, by simp⟩, by simp, rfl, rfl, by simp⟩
    obtain ⟨stored, h⟩ := h0.foldl reads (Subset.refl _)
    obtain ⟨own, hpoll⟩ := h.poll
    obtain ⟨status, hanswers, hmessages⟩ := Inbox.answers_of_ending hpoll ending
    exact ⟨stored, _, hmessages.trans h.messages, by rw [hanswers, h.answers],
      perm_insertionSort _ _, pairwise_insertionSort _ _, filter_batch _, h.admits⟩

end Bingle.Incoming
