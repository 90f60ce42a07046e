import Bingle.Lib.Json
import Bingle.Lib.Run
import Bingle.Lib.Waiting
import Bingle.Outgoing.Path

/-!
# Requests that wait for a response

`send_message_to_network_with_response_timeout` (`bingle_core/src/api/bingle_api_impl.rs`) draws a
tag, registers a waiter for it with the engine, sends the request and waits.  The handler of inbound
messages gives a message with a `responseTag` to the waiter that is registered for it.
-/

namespace Bingle.Pending

open Function (update_of_ne update_self)
open Lib (Json Along Always run)
open Outgoing (BingleError)

abbrev Uuid := BitVec 128

structure ResponseWait where
  responded : Bool := false
  response : Option Json := none

inductive RequestPhase
  | idle
  | sending (tag : Uuid) (message : Json)
  | sent (tag : Uuid)
  | waiting (tag : Uuid) (waiter : ℕ)
  | woken (tag : Uuid) (out : Option Json)
  | returned (tag : Uuid) (result : Except BingleError Json)

def RequestPhase.tag : RequestPhase → Option Uuid
  | idle => none
  | sending t _ | sent t | waiting t _ | woken t _ | returned t _ => some t

/-- The pending requests, their waits, and how far each caller has come. -/
structure Requests where
  pending : Uuid → Option ℕ
  waits : ℕ → ResponseWait
  phase : ℕ → RequestPhase

inductive RequestEvent
  | call (i : ℕ) (tag : Uuid) (message : Json)
  | sendReturns (i : ℕ) (result : Except BingleError Bool)
  | lookUp (i : ℕ)
  | wake (i : ℕ) (elapsed : Bool)
  | cleanUp (i : ℕ)
  | inbound (v : Json)

def withTag (text : Uuid → String) (tag : Uuid) : Json → Json
  | .obj entries =>
    .obj (("tag", .str (text tag)) ::
      entries.filter fun kv => kv.1 ≠ "tag" ∧ kv.1 ≠ "responseTag")
  | other => .obj [("payload", other), ("tag", .str (text tag))]

def responseTag (parse : String → Option Uuid) (v : Json) : Option Uuid :=
  ((v.get "responseTag").bind Json.asStr).bind parse

def outcome : Option Json → Except BingleError Json
  | some resp => .ok resp
  | none => .error (.send .noResponse "timeout waiting for response")

namespace Requests

variable (parse : String → Option Uuid) (text : Uuid → String)

def start : Requests where
  pending _ := none
  waits _ := {}
  phase _ := .idle

def setPhase (s : Requests) (i : ℕ) (p : RequestPhase) : Requests :=
  { s with phase := Function.update s.phase i p }

def call (s : Requests) (i : ℕ) (tag : Uuid) (message : Json) : Requests :=
  match s.phase i with
  | .idle =>
    { pending := Function.update s.pending tag (some i)
      waits := Function.update s.waits i {}
      phase := Function.update s.phase i (.sending tag (withTag text tag message)) }
  | _ => s

def sendReturns (s : Requests) (i : ℕ) (result : Except BingleError Bool) : Requests :=
  match s.phase i with
  | .sending tag _ =>
    match result with
    | .ok true => s.setPhase i (.sent tag)
    | .ok false => s.setPhase i (.returned tag (.error (.other "Failed to send request")))
    | .error e => s.setPhase i (.returned tag (.error e))
  | _ => s

def lookUp (s : Requests) (i : ℕ) : Requests :=
  match s.phase i with
  | .sent tag =>
    match s.pending tag with
    | some waiter => s.setPhase i (.waiting tag waiter)
    | none => s.setPhase i (.returned tag (outcome none))
  | _ => s

def wake (s : Requests) (i : ℕ) (elapsed : Bool) : Requests :=
  match s.phase i with
  | .waiting tag waiter =>
    if (s.waits waiter).responded then
      { s with
        waits := Function.update s.waits waiter { s.waits waiter with response := none }
        phase := Function.update s.phase i (.woken tag (s.waits waiter).response) }
    else if elapsed then s.setPhase i (.woken tag none)
    else s
  | _ => s

def cleanUp (s : Requests) (i : ℕ) : Requests :=
  match s.phase i with
  | .woken tag out =>
    { s with
      pending := Function.update s.pending tag none
      phase := Function.update s.phase i (.returned tag (outcome out)) }
  | _ => s

def inbound (s : Requests) (v : Json) : Requests :=
  match responseTag parse v with
  | some tag =>
    match s.pending tag with
    | some waiter =>
      { s with waits := Function.update s.waits waiter ⟨true, some v⟩ }
    -- a response that comes after its waiter is gone is dropped
    | none => s
  | none => s

def step (s : Requests) : RequestEvent → Requests
  | .call i tag message => s.call text i tag message
  | .sendReturns i result => s.sendReturns i result
  | .lookUp i => s.lookUp i
  | .wake i elapsed => s.wake i elapsed
  | .cleanUp i => s.cleanUp i
  | .inbound v => s.inbound parse v

def FreshTag (s : Requests) : RequestEvent → Prop
  | .call i tag _ => (s.phase i).tag = none → ∀ j, (s.phase j).tag ≠ some tag
  | _ => True

def SendSucceeds (s : Requests) : RequestEvent → Prop
  | .sendReturns i result => ∀ tag message, s.phase i = .sending tag message → result = .ok true
  | _ => True

/-- A request that has returned has left nothing behind. -/
def Cleared (s : Requests) : Prop :=
  ∀ i tag result, s.phase i = .returned tag result → s.pending tag = none

/-- What a request returns is a response with its own tag. -/
def Answered (s : Requests) : Prop :=
  ∀ i tag v, s.phase i = .returned tag (.ok v) → responseTag parse v = some tag

def waiting (s : Requests) : Lib.Waiting ℕ Uuid := ⟨s.pending, fun i => (s.phase i).tag⟩

end Requests

def RequestPhase.Sound (parse : String → Option Uuid) (tagOf : ℕ → Option Uuid) :
    RequestPhase → Prop
  | waiting tag waiter => tagOf waiter = some tag
  | woken tag (some v) | returned tag (.ok v) => responseTag parse v = some tag
  | _ => True

lemma RequestPhase.Sound.mono {parse : String → Option Uuid} {p : RequestPhase}
    {tagOf tagOf' : ℕ → Option Uuid} (h : p.Sound parse tagOf)
    (hkey : ∀ j t, tagOf j = some t → tagOf' j = some t) : p.Sound parse tagOf' := by
  cases p with
  | waiting tag waiter => exact hkey _ _ h
  | woken tag out => cases out <;> exact h
  | returned tag result => cases result <;> exact h
  | _ => trivial

namespace Requests

structure Sound (parse : String → Option Uuid) (s : Requests) : Prop where
  owned : s.waiting.Owned
  told : ∀ j v, (s.waits j).response = some v →
    ∃ tag, s.waiting.key j = some tag ∧ responseTag parse v = some tag
  phases : ∀ i, (s.phase i).Sound parse s.waiting.key

structure Kept (s : Requests) : Prop where
  distinct : s.waiting.Distinct
  entered : ∀ i tag message, s.phase i = .sending tag message → s.pending tag = some i
  cleared : s.Cleared

variable {parse : String → Option Uuid} {text : Uuid → String} {s : Requests} {i : ℕ} {tag : Uuid}

/-! ## What the sections do to entries and tags -/

lemma key_setPhase {p : RequestPhase} (hp : p.tag = (s.phase i).tag) :
    (s.setPhase i p).waiting.key = s.waiting.key := by
  funext j
  by_cases hj : j = i
  · subst hj
    simp [waiting, setPhase, hp]
  · simp [waiting, setPhase, hj]

lemma waiting_setPhase {p : RequestPhase} (hp : p.tag = (s.phase i).tag) :
    (s.setPhase i p).waiting = s.waiting := by
  have hkey := key_setPhase hp
  rw [waiting, waiting]
  exact congrArg _ hkey

lemma waiting_call (text : Uuid → String) (tag : Uuid) (message : Json)
    (hidle : s.phase i = .idle) :
    (s.call text i tag message).waiting =
      ⟨Function.update s.pending tag (some i), Function.update s.waiting.key i (some tag)⟩ := by
  have hkey : (fun j => (Function.update s.phase i
      (.sending tag (withTag text tag message)) j).tag) =
      Function.update s.waiting.key i (some tag) := by
    funext j
    by_cases hj : j = i
    · subst hj
      simp [RequestPhase.tag]
    · simp [waiting, hj]
  rw [call, hidle, waiting]
  exact congrArg _ hkey

lemma phase_setPhase_self (s : Requests) (i : ℕ) (p : RequestPhase) :
    (s.setPhase i p).phase i = p := update_self ..

lemma phase_setPhase_of_ne (s : Requests) {i j : ℕ} (p : RequestPhase) (h : j ≠ i) :
    (s.setPhase i p).phase j = s.phase j := update_of_ne h ..

/-! ## What one section can do -/

inductive Moves (parse : String → Option Uuid) (text : Uuid → String) (s : Requests) :
    RequestEvent → Requests → Prop
  | rest {e : RequestEvent} : Moves parse text s e s
  | call (i : ℕ) (tag : Uuid) (message : Json) (hidle : s.phase i = .idle) :
      Moves parse text s (.call i tag message) (s.call text i tag message)
  | sent {e : RequestEvent} (i : ℕ) (tag : Uuid) (message : Json)
      (hphase : s.phase i = .sending tag message) : Moves parse text s e (s.setPhase i (.sent tag))
  | failed (i : ℕ) (tag : Uuid) (message : Json) (result : Except BingleError Bool)
      (error : BingleError) (hphase : s.phase i = .sending tag message)
      (hresult : result ≠ .ok true) :
      Moves parse text s (.sendReturns i result) (s.setPhase i (.returned tag (.error error)))
  | found {e : RequestEvent} (i : ℕ) (tag : Uuid) (waiter : ℕ) (hphase : s.phase i = .sent tag)
      (hentry : s.pending tag = some waiter) :
      Moves parse text s e (s.setPhase i (.waiting tag waiter))
  | gone {e : RequestEvent} (i : ℕ) (tag : Uuid) (hphase : s.phase i = .sent tag)
      (hentry : s.pending tag = none) :
      Moves parse text s e (s.setPhase i (.returned tag (outcome none)))
  | taken {e : RequestEvent} (i : ℕ) (tag : Uuid) (waiter : ℕ)
      (hphase : s.phase i = .waiting tag waiter) :
      Moves parse text s e { s with
        waits := Function.update s.waits waiter { s.waits waiter with response := none }
        phase := Function.update s.phase i (.woken tag (s.waits waiter).response) }
  | elapsed {e : RequestEvent} (i : ℕ) (tag : Uuid) (waiter : ℕ)
      (hphase : s.phase i = .waiting tag waiter) :
      Moves parse text s e (s.setPhase i (.woken tag none))
  | cleanUp {e : RequestEvent} (i : ℕ) (tag : Uuid) (out : Option Json)
      (hphase : s.phase i = .woken tag out) :
      Moves parse text s e { s with
        pending := Function.update s.pending tag none
        phase := Function.update s.phase i (.returned tag (outcome out)) }
  | told {e : RequestEvent} (tag : Uuid) (waiter : ℕ) (v : Json)
      (htag : responseTag parse v = some tag) (hentry : s.pending tag = some waiter) :
      Moves parse text s e { s with waits := Function.update s.waits waiter ⟨true, some v⟩ }

lemma moves_step (parse : String → Option Uuid) (text : Uuid → String) (s : Requests)
    (e : RequestEvent) : s.Moves parse text e (s.step parse text e) := by
  cases e with
  | call i tag message =>
    cases hphase : s.phase i with
    | idle => exact .call i tag message hphase
    | _ =>
      simp only [step, Requests.call, hphase]
      exact .rest
  | sendReturns i result =>
    simp only [step, Requests.sendReturns]
    cases hphase : s.phase i with
    | sending tag message =>
      match result with
      | .ok true => exact .sent i tag message hphase
      | .ok false => exact .failed i tag message _ _ hphase (by simp)
      | .error e => exact .failed i tag message _ _ hphase (by simp)
    | _ => exact .rest
  | lookUp i =>
    simp only [step, Requests.lookUp]
    cases hphase : s.phase i with
    | sent tag =>
      dsimp only
      cases hentry : s.pending tag with
      | some waiter => exact .found i tag waiter hphase hentry
      | none => exact .gone i tag hphase hentry
    | _ => exact .rest
  | wake i elapsed =>
    simp only [step, Requests.wake]
    cases hphase : s.phase i with
    | waiting tag waiter =>
      dsimp only
      split_ifs
      · exact .taken i tag waiter hphase
      · exact .elapsed i tag waiter hphase
      · exact .rest
    | _ => exact .rest
  | cleanUp i =>
    simp only [step, Requests.cleanUp]
    cases hphase : s.phase i with
    | woken tag out => exact .cleanUp i tag out hphase
    | _ => exact .rest
  | inbound v =>
    simp only [step, Requests.inbound]
    cases htag : responseTag parse v with
    | none => exact .rest
    | some tag =>
      dsimp only
      cases hentry : s.pending tag with
      | none => exact .rest
      | some waiter => exact .told tag waiter v htag hentry

/-! ## Responses come with their tag -/

namespace Sound

lemma start : Sound parse start where
  owned _ _ h := absurd h (by simp [waiting, Requests.start])
  told _ _ h := absurd h (by simp [Requests.start])
  phases _ := trivial

lemma setPhase (h : s.Sound parse) {p : RequestPhase} (htag : p.tag = (s.phase i).tag)
    (hp : p.Sound parse s.waiting.key) : (s.setPhase i p).Sound parse := by
  have hw := waiting_setPhase htag
  refine ⟨hw ▸ h.owned, hw ▸ h.told, fun j => ?_⟩
  rw [hw]
  by_cases hj : j = i
  · subst hj
    rwa [phase_setPhase_self]
  · rw [phase_setPhase_of_ne s p hj]
    exact h.phases j

lemma setWaits (h : s.Sound parse) {waits : ℕ → ResponseWait}
    (htold : ∀ j v, (waits j).response = some v →
      ∃ tag, s.waiting.key j = some tag ∧ responseTag parse v = some tag) :
    Sound parse { s with waits := waits } := ⟨h.owned, htold, h.phases⟩

lemma updateWait (h : s.Sound parse) {waiter : ℕ} {w : ResponseWait}
    (hw : ∀ v, w.response = some v →
      ∃ tag, s.waiting.key waiter = some tag ∧ responseTag parse v = some tag) :
    Sound parse { s with waits := Function.update s.waits waiter w } := by
  refine h.setWaits fun j v hv => ?_
  by_cases hj : j = waiter
  · subst hj
    rw [update_self] at hv
    exact hw v hv
  · rw [update_of_ne hj] at hv
    exact h.told j v hv

lemma removePending (h : s.Sound parse) (tag : Uuid) :
    Sound parse { s with pending := Function.update s.pending tag none } := by
  refine ⟨h.owned.mono (fun t j hentry => ?_) fun _ _ _ => rfl, h.told, h.phases⟩
  rcases Lib.of_update_eq hentry with ⟨-, hnew⟩ | ⟨-, hold⟩
  · cases hnew
  · exact hold

lemma call (h : s.Sound parse) {message : Json} (hidle : s.phase i = .idle) :
    (s.call text i tag message).Sound parse := by
  have hnone : s.waiting.key i = none := congrArg RequestPhase.tag hidle
  have hw := waiting_call text tag message hidle
  -- a call that had no tag is told of nowhere
  have hmono : ∀ j t, s.waiting.key j = some t →
      Function.update s.waiting.key i (some tag) j = some t := by
    intro j t hj
    rw [update_of_ne, hj]
    rintro rfl
    rw [hnone] at hj
    cases hj
  refine ⟨?_, fun j v hv => ?_, fun j => ?_⟩
  · rw [hw]
    exact (h.owned.take hnone).enter (update_self ..)
  · rw [hw]
    rw [Requests.call, hidle] at hv
    by_cases hj : j = i
    · subst hj
      simp at hv
    · have hv' : (s.waits j).response = some v := by simpa [hj] using hv
      obtain ⟨t, ht, hresp⟩ := h.told j v hv'
      exact ⟨t, hmono j t ht, hresp⟩
  · rw [hw]
    by_cases hj : j = i
    · subst hj
      rw [Requests.call, hidle]
      simp [RequestPhase.Sound]
    · have hsame : (s.call text i tag message).phase j = s.phase j := by
        rw [Requests.call, hidle]
        simp [hj]
      rw [hsame]
      exact RequestPhase.Sound.mono (h.phases j) hmono

lemma taken (h : s.Sound parse) {waiter : ℕ} (hphase : s.phase i = .waiting tag waiter) :
    Sound parse { s with
      waits := Function.update s.waits waiter { s.waits waiter with response := none }
      phase := Function.update s.phase i (.woken tag (s.waits waiter).response) } := by
  have htag : (s.phase i).tag = some tag := congrArg RequestPhase.tag hphase
  have hwaiter : s.waiting.key waiter = some tag := by
    have hi := h.phases i
    rwa [hphase] at hi
  have htaken : Sound parse { s with
      waits := Function.update s.waits waiter { s.waits waiter with response := none } } :=
    h.updateWait fun _ hv => by cases hv
  refine htaken.setPhase (i := i) htag.symm ?_
  cases hresp : (s.waits waiter).response with
  | none => trivial
  | some v =>
    obtain ⟨t, ht, hv⟩ := h.told waiter v hresp
    exact hv.trans (ht.symm.trans hwaiter)

lemma cleanUp (h : s.Sound parse) {out : Option Json} (hphase : s.phase i = .woken tag out) :
    Sound parse { s with
      pending := Function.update s.pending tag none
      phase := Function.update s.phase i (.returned tag (outcome out)) } := by
  have htag : (s.phase i).tag = some tag := congrArg RequestPhase.tag hphase
  refine (h.removePending tag).setPhase (i := i) htag.symm ?_
  have hout := h.phases i
  rw [hphase] at hout
  cases out with
  | none => trivial
  | some v => exact hout

lemma moves (h : s.Sound parse) {e : RequestEvent} {s' : Requests}
    (hm : s.Moves parse text e s') : s'.Sound parse := by
  cases hm with
  | rest => exact h
  | call i tag message hidle => exact h.call hidle
  | sent i tag message hphase => exact h.setPhase (congrArg RequestPhase.tag hphase).symm trivial
  | failed i tag message result error hphase =>
    exact h.setPhase (congrArg RequestPhase.tag hphase).symm trivial
  | found i tag waiter hphase hentry =>
    exact h.setPhase (congrArg RequestPhase.tag hphase).symm (h.owned tag waiter hentry)
  | gone i tag hphase => exact h.setPhase (congrArg RequestPhase.tag hphase).symm trivial
  | taken i tag waiter hphase => exact h.taken hphase
  | elapsed i tag waiter hphase =>
    exact h.setPhase (congrArg RequestPhase.tag hphase).symm trivial
  | cleanUp i tag out hphase => exact h.cleanUp hphase
  | told tag waiter v htag hentry =>
    refine h.updateWait fun v' hv' => ?_
    obtain rfl := Option.some.inj hv'
    exact ⟨tag, h.owned tag waiter hentry, htag⟩

lemma answered (h : s.Sound parse) : s.Answered parse := by
  intro i tag v hphase
  have := h.phases i
  rwa [hphase] at this

end Sound

/-! ## Entries while the sends succeed -/

namespace Kept

lemma start : Kept start where
  distinct _ _ _ h := absurd h (by simp [waiting, Requests.start, RequestPhase.tag])
  entered _ _ _ h := absurd h (by simp [Requests.start])
  cleared _ _ _ h := absurd h (by simp [Requests.start])

lemma setPhase (h : s.Kept) {p : RequestPhase} (htag : p.tag = (s.phase i).tag)
    (hsending : ∀ t message, p ≠ .sending t message)
    (hreturned : ∀ t result, p = .returned t result → s.pending t = none) :
    (s.setPhase i p).Kept := by
  refine ⟨waiting_setPhase htag ▸ h.distinct, fun j t message hj => ?_, fun j t result hj => ?_⟩
  · rcases Lib.of_update_eq hj with ⟨-, hnew⟩ | ⟨-, hold⟩
    · exact absurd hnew (hsending t message)
    · exact h.entered j t message hold
  · rcases Lib.of_update_eq hj with ⟨-, hnew⟩ | ⟨-, hold⟩
    · exact hreturned t result hnew
    · exact h.cleared j t result hold

lemma setWaits (h : s.Kept) (waits : ℕ → ResponseWait) : Kept { s with waits := waits } :=
  ⟨h.distinct, h.entered, h.cleared⟩

lemma call (h : s.Kept) {message : Json} (hidle : s.phase i = .idle)
    (hnew : ∀ j, s.waiting.key j ≠ some tag) : (s.call text i tag message).Kept := by
  have hother : ∀ j p, j ≠ i → (s.call text i tag message).phase j = p → s.phase j = p := by
    intro j p hj hp
    rw [Requests.call, hidle] at hp
    simpa [hj] using hp
  have hpending : ∀ j t, s.waiting.key j = some t →
      (s.call text i tag message).pending t = s.pending t := by
    intro j t hj
    have ht : t ≠ tag := by
      rintro rfl
      exact hnew j hj
    rw [Requests.call, hidle]
    exact update_of_ne ht ..
  refine ⟨?_, fun j t m hj => ?_, fun j t result hj => ?_⟩
  · rw [waiting_call text tag message hidle]
    exact h.distinct.take hnew
  · by_cases hji : j = i
    · subst hji
      rw [Requests.call, hidle] at hj ⊢
      obtain ⟨rfl, -⟩ : tag = t ∧ _ := by simpa using hj
      exact update_self ..
    · have hj := hother j _ hji hj
      rw [hpending j t (congrArg RequestPhase.tag hj)]
      exact h.entered j t m hj
  · by_cases hji : j = i
    · subst hji
      rw [Requests.call, hidle] at hj
      simp at hj
    · have hj := hother j _ hji hj
      rw [hpending j t (congrArg RequestPhase.tag hj)]
      exact h.cleared j t result hj

lemma cleanUp (h : s.Kept) {out : Option Json} (hphase : s.phase i = .woken tag out) :
    Kept { s with
      pending := Function.update s.pending tag none
      phase := Function.update s.phase i (.returned tag (outcome out)) } := by
  have htag : (s.phase i).tag = some tag := congrArg RequestPhase.tag hphase
  have hremoved : Kept { s with pending := Function.update s.pending tag none } := by
    refine ⟨h.distinct, fun j t m (hj : s.phase j = _) => ?_, fun j t result hj => ?_⟩
    · have ht : t ≠ tag := by
        rintro rfl
        have hji : j = i := h.distinct j i t (congrArg RequestPhase.tag hj) htag
        subst hji
        rw [hphase] at hj
        cases hj
      exact (update_of_ne ht ..).trans (h.entered j t m hj)
    · by_cases ht : t = tag
      · subst ht
        exact update_self ..
      · exact (update_of_ne ht ..).trans (h.cleared j t result hj)
  refine hremoved.setPhase (i := i) htag.symm (by simp) fun t result heq => ?_
  obtain ⟨rfl, -⟩ := RequestPhase.returned.inj heq
  exact update_self ..

lemma moves (h : s.Kept) {e : RequestEvent} {s' : Requests} (hfresh : s.FreshTag e)
    (hsend : s.SendSucceeds e) (hm : s.Moves parse text e s') : s'.Kept := by
  cases hm with
  | rest => exact h
  | call i tag message hidle => exact h.call hidle (hfresh (congrArg RequestPhase.tag hidle))
  | sent i tag message hphase =>
    exact h.setPhase (congrArg RequestPhase.tag hphase).symm (by simp) (by simp)
  | failed i tag message result error hphase hresult =>
    exact absurd (hsend tag message hphase) hresult
  | found i tag waiter hphase =>
    exact h.setPhase (congrArg RequestPhase.tag hphase).symm (by simp) (by simp)
  | gone i tag hphase hentry =>
    refine h.setPhase (congrArg RequestPhase.tag hphase).symm (by simp) fun t result heq => ?_
    obtain ⟨rfl, -⟩ := RequestPhase.returned.inj heq
    exact hentry
  | taken i tag waiter hphase =>
    have htaken := h.setWaits
      (Function.update s.waits waiter { s.waits waiter with response := none })
    exact htaken.setPhase (i := i) (p := .woken tag (s.waits waiter).response)
      (congrArg RequestPhase.tag hphase).symm (by simp) (by simp)
  | elapsed i tag waiter hphase =>
    exact h.setPhase (congrArg RequestPhase.tag hphase).symm (by simp) (by simp)
  | cleanUp i tag out hphase => exact h.cleanUp hphase
  | told => exact h.setWaits _

end Kept

lemma not_cleared_of_failed (h : s.Kept) {e : RequestEvent} (hsend : ¬ s.SendSucceeds e) :
    ¬ (s.step parse text e).Cleared := by
  cases e with
  | sendReturns i result =>
    simp only [SendSucceeds, not_forall] at hsend
    obtain ⟨tag, message, hphase, hresult⟩ := hsend
    have hentry := h.entered i tag message hphase
    have hreturned : ∃ r, s.step parse text (.sendReturns i result) =
        s.setPhase i (.returned tag r) := by
      simp only [Requests.step, Requests.sendReturns, hphase]
      match result, hresult with
      | .error e, _ => exact ⟨_, rfl⟩
      | .ok false, _ => exact ⟨_, rfl⟩
      | .ok true, hresult => exact absurd rfl hresult
    obtain ⟨r, hr⟩ := hreturned
    intro hcleared
    have hnone := hcleared i tag r (by rw [hr, phase_setPhase_self])
    rw [hr] at hnone
    exact absurd (hentry.symm.trans hnone) (by simp)
  | _ => exact absurd trivial hsend

/-- **Request bookkeeping**, in any order: a response that a call returns carried the tag of that
call; and where no tag is drawn twice, no entry is left under the tag of a call that has returned
exactly if every send succeeds. -/
theorem request_bookkeeping (parse : String → Option Uuid) (text : Uuid → String)
    (es : List RequestEvent) :
    Always (step parse text) (Answered parse) start es ∧
      (Along (step parse text) FreshTag start es →
        (Always (step parse text) Cleared start es ↔
          Along (step parse text) SendSucceeds start es)) := by
  constructor
  · have hany : Along (step parse text) (fun _ _ => True) start es :=
      Lib.along_of_forall_mem (fun _ _ => trivial) start
    have hsound : Always (step parse text) (Sound parse) start es :=
      Lib.always_of_along (fun s e h _ => h.moves (moves_step parse text s e)) Sound.start hany
    exact hsound.mono fun s h => h.answered
  · intro hfresh
    have hkept : ∀ s e, Kept s → s.FreshTag e → s.SendSucceeds e → Kept (s.step parse text e) :=
      fun s e h hf hsend => h.moves hf hsend (moves_step parse text s e)
    refine Lib.always_iff_along_given (I := Kept) (fun s e h hf => ?_) hkept
      (fun s h => h.cleared) Kept.start hfresh
    constructor
    · intro hcleared
      by_contra hsend
      exact not_cleared_of_failed h hsend hcleared
    · intro hsend
      exact (hkept s e h hf hsend).cleared

theorem answered_request_cleared :
    let parse : String → Option Uuid := fun s => if s = "1" then some 1 else none
    let answer : Json := .obj [("responseTag", .str "1")]
    let es : List RequestEvent := [.call 0 1 .null, .sendReturns 0 (.ok true), .lookUp 0,
      .inbound answer, .wake 0 false, .cleanUp 0, .inbound answer]
    Always (step parse fun _ => "1") (Answered parse) start es ∧
      Always (step parse fun _ => "1") Cleared start es ∧
      (run (step parse fun _ => "1") start es).phase 0 = .returned 1 (.ok answer) := by
  intro parse answer es
  obtain ⟨hanswered, hcleared⟩ := request_bookkeeping parse (fun _ => "1") es
  have hfresh : Along (step parse fun _ => "1") FreshTag start es :=
    ⟨(fun _ _ h => nomatch h), trivial, trivial, trivial, trivial, trivial, trivial, trivial⟩
  have hsend : Along (step parse fun _ => "1") SendSucceeds start es :=
    ⟨trivial, fun _ _ _ => rfl, trivial, trivial, trivial, trivial, trivial, trivial⟩
  exact ⟨hanswered, (hcleared hfresh).mpr hsend, rfl⟩

theorem entry_left_after_failed_send :
    let s := run (step (fun _ => none) fun _ => "1") start
      [.call 0 1 .null, .sendReturns 0 (.ok false)]
    s.phase 0 = .returned 1 (.error (.other "Failed to send request")) ∧ s.pending 1 = some 0 :=
  ⟨rfl, rfl⟩

end Requests

end Bingle.Pending
