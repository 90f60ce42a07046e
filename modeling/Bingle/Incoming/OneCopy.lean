import Bingle.Incoming.Inbox
import Bingle.Lib.Run

/-!
# One copy of each message

What is stored is the first of each name, send time and text to arrive, however the routes
interleave.  Names are what they compare, and one sender can have two.
-/

namespace Bingle.Incoming

open Lib (run keepFirst isHeld keep)

namespace Inbox

variable {s : Inbox} {m : Message}

/-! ## What is stored and reported -/

def Stored (s : Inbox) : Prop := s.messages = keepFirst Message.key s.arrived

def Told (s : Inbox) : Prop :=
  (s.messages.filter (·.sentTime.isSome)).Perm (s.shown.filter (·.sentTime.isSome))

lemma record_messages : (s.record m).1.messages = keep Message.key s.messages m := by
  simp only [record, keep, holdsReceivedCopy_eq_isHeld]
  split_ifs
  · exact List.append_nil _
  · rfl

lemma keep_of_sentTime_eq_none (hm : m.sentTime = none) (held : List Message) :
    keep Message.key held m = held ++ [m] := by
  have hheld : isHeld Message.key held m = false := by simp [isHeld, Message.key, hm]
  rw [keep, hheld]
  rfl

lemma Changes.stored {s' : Inbox} (h : s.Changes s') (hs : s.Stored) : s'.Stored := by
  cases h with
  | nothing messages arrived _ => rw [Stored, messages, arrived, ← hs]
  | records m messages arrived _ =>
    rw [Stored, messages, arrived, record_messages, Lib.keepFirst_concat, ← hs]
  | own m sentTime messages arrived _ =>
    rw [Stored, messages, arrived, Lib.keepFirst_concat, ← hs,
      keep_of_sentTime_eq_none sentTime]

lemma Changes.told {s' : Inbox} (h : s.Changes s') (hs : s.Told) : s'.Told := by
  cases h with
  | nothing messages _ shown =>
    rw [Told, messages]
    exact hs.trans (shown.symm.filter _)
  | records m messages _ shown =>
    have hmessages : (s.record m).1.messages = s.messages ++ (s.record m).2.toList := rfl
    rw [Told, messages, hmessages]
    refine .trans ?_ (shown.symm.filter _)
    rw [List.filter_append, List.filter_append]
    exact hs.append_right _
  | own m sentTime messages _ shown =>
    rw [Told, messages, List.filter_append]
    have hown : [m].filter (·.sentTime.isSome) = [] := by simp [sentTime]
    rw [hown, List.append_nil]
    exact hs.trans (shown.symm.filter _)

section

variable {config : Config} {messages : List Message}

lemma stored_load (h : (messages.filterMap Message.key).Nodup) : (load config messages).Stored :=
  (Lib.keepFirst_of_nodup_keys h).symm

lemma told_load : (load config messages).Told := by
  rw [Told, shown, reported, underWay, load]
  exact .of_eq (by simp)

theorem stored_and_told (h : (messages.filterMap Message.key).Nodup) (es : List Event) :
    (run step (load config messages) es).Stored ∧ (run step (load config messages) es).Told := by
  have hstep : ∀ (s : Inbox) (e : Event), s.Stored ∧ s.Told → True →
      (s.step e).Stored ∧ (s.step e).Told := by
    rintro s e ⟨hstored, htold⟩ -
    exact ⟨(step_changes e).stored hstored, (step_changes e).told htold⟩
  exact Lib.run_invariant hstep ⟨stored_load h, told_load⟩
    (Lib.along_of_forall_mem (fun _ _ => trivial) _)

end

end Inbox

/-! ## One copy of each message -/

structure Sent where
  sender : String
  sentTime : ℤ
  text : String
deriving DecidableEq, Repr

namespace Sent

def isCopy (k : Sent) (m : Message) : Bool :=
  m.sender = some k.sender && m.sentTime = some k.sentTime && m.text = k.text

variable {k : Sent} {m : Message}

lemma isCopy_iff : k.isCopy m ↔
    m.sender = some k.sender ∧ m.sentTime = some k.sentTime ∧ m.text = k.text := by
  simp only [isCopy, Bool.and_eq_true, decide_eq_true_eq, and_assoc]

lemma key_of_isCopy (h : k.isCopy m) : m.key = some (m.senderHandle, k.sentTime, k.text) := by
  obtain ⟨-, hsent, htext⟩ := isCopy_iff.mp h
  rw [Message.key, hsent, htext]
  rfl

def FirstUnder (k : Sent) (arrived : List Message) (n : String) : Prop :=
  (arrived.find? fun m => m.key = some (n, k.sentTime, k.text)).any k.isCopy

/-- Nobody else's message with the time and the text of this one arrives under a name that this one
arrives under. -/
def OwnsNames (k : Sent) (arrived : List Message) : Prop :=
  ∀ m ∈ arrived, ∀ m' ∈ arrived, k.isCopy m → m'.key = m.key → k.isCopy m'

instance (k : Sent) (arrived : List Message) : Decidable (k.OwnsNames arrived) :=
  inferInstanceAs (Decidable (∀ m ∈ arrived, ∀ m' ∈ arrived, k.isCopy m → m'.key = m.key →
    k.isCopy m'))

variable {arrived : List Message}

lemma existsUnique_firstUnder :
    (∃! c, (arrived.find? fun m => m.key = some c).any k.isCopy) ↔
      ∃! n, k.FirstUnder arrived n := by
  have hkey : ∀ c : String × ℤ × String, (arrived.find? fun m => m.key = some c).any k.isCopy →
      c = (c.1, k.sentTime, k.text) := by
    intro c hc
    rw [Option.any_eq_true] at hc
    obtain ⟨m, hfound, hm⟩ := hc
    have hmc : m.key = some c := by simpa using List.find?_some hfound
    rw [key_of_isCopy hm] at hmc
    rw [← Option.some.inj hmc]
  constructor
  · rintro ⟨c, hc, hunique⟩
    refine ⟨c.1, ?_, ?_⟩
    · rw [hkey c hc] at hc
      exact hc
    · intro n hn
      rw [← hunique _ hn]
  · rintro ⟨n, hn, hunique⟩
    refine ⟨_, hn, ?_⟩
    intro c hc
    have hc' := hc
    rw [hkey c hc] at hc'
    rw [hkey c hc, hunique _ hc']

lemma firstUnder_iff (h : k.OwnsNames arrived) (n : String) :
    k.FirstUnder arrived n ↔ ∃ m ∈ arrived, k.isCopy m ∧ m.senderHandle = n := by
  rw [FirstUnder, Option.any_eq_true]
  constructor
  · rintro ⟨m, hfound, hm⟩
    have hmn : m.key = some (n, k.sentTime, k.text) := by simpa using List.find?_some hfound
    rw [key_of_isCopy hm, Option.some.injEq, Prod.mk.injEq] at hmn
    exact ⟨m, List.mem_of_find?_eq_some hfound, hm, hmn.1⟩
  · rintro ⟨m, hmem, hm, rfl⟩
    cases hfound : arrived.find? fun m' => m'.key = some (m.senderHandle, k.sentTime, k.text) with
    | none =>
      rw [List.find?_eq_none] at hfound
      exact absurd (decide_eq_true (key_of_isCopy hm)) (hfound m hmem)
    | some m' =>
      have hm' : m'.key = m.key := by
        rw [key_of_isCopy hm]
        simpa using List.find?_some hfound
      exact ⟨m', rfl, h m hmem m' (List.mem_of_find?_eq_some hfound) hm hm'⟩

lemma existsUnique_firstUnder_iff (h : k.OwnsNames arrived) :
    (∃! n, k.FirstUnder arrived n) ↔
      (∃ m ∈ arrived, k.isCopy m) ∧
        ∀ m ∈ arrived, ∀ m' ∈ arrived, k.isCopy m → k.isCopy m' →
          m'.senderHandle = m.senderHandle := by
  simp only [firstUnder_iff h]
  constructor
  · rintro ⟨n, ⟨m, hmem, hm, -⟩, hunique⟩
    refine ⟨⟨m, hmem, hm⟩, ?_⟩
    intro m₁ hmem₁ m₂ hmem₂ hm₁ hm₂
    rw [hunique _ ⟨m₁, hmem₁, hm₁, rfl⟩, hunique _ ⟨m₂, hmem₂, hm₂, rfl⟩]
  · rintro ⟨⟨m, hmem, hm⟩, hnames⟩
    refine ⟨m.senderHandle, ⟨m, hmem, hm, rfl⟩, ?_⟩
    rintro n ⟨m', hmem', hm', rfl⟩
    exact hnames m hmem m' hmem' hm hm'

end Sent

namespace Inbox

variable {config : Config} {messages : List Message}

/-- The message is stored once and reported once. -/
def OneCopy (s : Inbox) (k : Sent) : Prop :=
  s.messages.countP k.isCopy = 1 ∧ s.reported.countP k.isCopy = 1

lemma Told.countP_eq {s : Inbox} (h : s.Told) (k : Sent) :
    s.shown.countP k.isCopy = s.messages.countP k.isCopy := by
  have hsent : ∀ m : Message, (k.isCopy m && m.sentTime.isSome) = k.isCopy m := by
    intro m
    rw [Bool.and_eq_left_iff_imp]
    intro hm
    rw [(Sent.isCopy_iff.mp hm).2.1]
    rfl
  have hcount := List.Perm.countP_eq k.isCopy h
  simp only [List.countP_filter, hsent] at hcount
  exact hcount.symm

/-- **One copy.**  From a store without two copies of a message, once no poll is under way it is
stored once and reported once, exactly if there is exactly one name under which it has arrived
before anybody else's with its time and text.  Where nobody else's has arrived so, that is to say
that it has arrived, always under the same name. -/
theorem one_copy_iff (hmessages : (messages.filterMap Message.key).Nodup) (es : List Event)
    {s : Inbox} (hs : run step (load config messages) es = s) (hidle : s.polls = []) (k : Sent) :
    (s.OneCopy k ↔ ∃! n, k.FirstUnder s.arrived n) ∧
      (k.OwnsNames s.arrived →
        (s.OneCopy k ↔
          (∃ m ∈ s.arrived, k.isCopy m) ∧
            ∀ m ∈ s.arrived, ∀ m' ∈ s.arrived, k.isCopy m → k.isCopy m' →
              m'.senderHandle = m.senderHandle)) := by
  subst hs
  obtain ⟨hstored, htold⟩ := stored_and_told hmessages es
  generalize run step (load config messages) es = s at *
  have hreported : s.reported.countP k.isCopy = s.messages.countP k.isCopy := by
    have hshown : s.shown = s.reported := by
      rw [shown, underWay, hidle]
      exact List.append_nil _
    rw [← hshown, htold.countP_eq]
  have hkey : ∀ m, k.isCopy m → m.key.isSome := by
    intro m hm
    rw [Sent.key_of_isCopy hm]
    rfl
  have hone : s.OneCopy k ↔ ∃! n, k.FirstUnder s.arrived n := by
    rw [OneCopy, hreported, and_self, hstored, Lib.countP_keepFirst_eq_one_iff hkey,
      Sent.existsUnique_firstUnder]
  refine ⟨hone, ?_⟩
  intro howns
  rw [hone, Sent.existsUnique_firstUnder_iff howns]

/-! ### A message that comes by both routes -/

def hello : Sent := { sender := "ALICE", sentTime := 900, text := "hello" }

def bothRoutes (handleForAddress : Option String) : List Event :=
  [.received "ALICE" "m1" "alice" ["bob"] 1000
      { json := "hello", text := some "hello", cipherSuite := none, sentTime := some 900
        signature := some "direct" },
    .startPoll 0 (.ready (some "bob")),
    .pop 0 (.opened
      { senderAddress := some "ALICE", sentTime := 900, messageId := "m2", text := "hello"
        signature := "mailbox", suite := none } handleForAddress 2000),
    .pop 0 .empty]

def afterBothRoutes (handleForAddress : Option String) : Inbox :=
  run step (load ⟨true, true, Char.isWhitespace⟩ []) (bothRoutes handleForAddress)

theorem hello_stored_once :
    (afterBothRoutes (some "alice")).arrived.countP hello.isCopy = 2 ∧
      (afterBothRoutes (some "alice")).OneCopy hello := by
  have howns : hello.OwnsNames (afterBothRoutes (some "alice")).arrived := by decide +kernel
  have hidle : (afterBothRoutes (some "alice")).polls = [] := by decide +kernel
  have hnew : (([] : List Message).filterMap Message.key).Nodup := List.nodup_nil
  refine ⟨by decide +kernel, ?_⟩
  refine ((one_copy_iff hnew (bothRoutes (some "alice")) rfl hidle hello).2 howns).mpr ?_
  decide +kernel

theorem hello_stored_twice :
    (afterBothRoutes none).polls = [] ∧
      (∃ m ∈ (afterBothRoutes none).arrived,
        hello.isCopy m ∧ m.deliveryRoute = some .direct) ∧
      (∃ m ∈ (afterBothRoutes none).arrived,
        hello.isCopy m ∧ m.deliveryRoute = some .storeAndForward) ∧
      (afterBothRoutes none).messages.countP hello.isCopy = 2 ∧
      (afterBothRoutes none).reported.countP hello.isCopy = 2 := by
  decide +kernel

end Inbox

end Bingle.Incoming
