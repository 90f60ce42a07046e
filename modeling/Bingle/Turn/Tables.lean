import Bingle.Lib.Inverse
import Bingle.Lib.Run
import Bingle.Turn.Handler

/-!
# The relay's tables, two ways round

`TurnRelayHandlerImpl` keeps its channels under the channel and under the pair, and its listeners
under the id and under the address.  Each map has a lock of its own, and other calls run between two
sections of a `handle_call`.  None of the writers removes what it replaces from the other map.
-/

namespace Bingle.Turn

open Messages (Id SocketAddr)
open Lib (Inverse Fits)

/-! ## Calls, section by section -/

abbrev Candidate := {c : ℕ // minCh ≤ c ∧ c ≤ maxCh}

def Candidate.first (seed : ℕ) : Candidate :=
  ⟨minCh + seed % (maxCh - minCh + 1), Nat.le_add_right _ _, RelayHandler.first_le seed⟩

def Candidate.next (c : Candidate) : Candidate :=
  if h : c.val = maxCh then ⟨minCh, le_rfl, by decide⟩
  else ⟨c.val + 1, Nat.le_succ_of_le c.property.1, lt_of_le_of_ne c.property.2 h⟩

inductive Stage
  | look
  | probe (left : ℕ) (candidate : Candidate)
  | insert (ch : Candidate)
  | returned (ch : Option ℕ)
deriving DecidableEq, Repr

structure Call where
  seed : ℕ
  sourceId : Id
  destId : Id
  source : SocketAddr
  dest : SocketAddr
  stage : Stage := .look
deriving DecidableEq, Repr

def RelayHandler.enter (t : RelayHandler) (ch : ℕ) (sourceId destId : Id)
    (source dest : SocketAddr) : RelayHandler :=
  ((t.bind ch source dest).allowIfAbsent sourceId source).allowIfAbsent destId dest

def Call.advance (c : Call) (t : RelayHandler) : Call × RelayHandler :=
  match c.stage with
  | .look =>
    match t.pairToCh (c.source, c.dest) with
    | some ch => ({ c with stage := .returned (some ch) }, t)
    | none => ({ c with stage := .probe (maxCh - minCh + 1) (.first c.seed) }, t)
  | .probe 0 _ => ({ c with stage := .returned none }, t)
  | .probe (n + 1) candidate =>
    if (t.chToPair candidate).isNone then ({ c with stage := .insert candidate }, t)
    else ({ c with stage := .probe n candidate.next }, t)
  | .insert ch =>
    ({ c with stage := .returned (some ch) }, t.enter ch c.sourceId c.destId c.source c.dest)
  | .returned _ => (c, t)

structure Relay where
  tables : RelayHandler
  calls : List Call

namespace Relay

inductive Event
  | listen (sourceId : Id) (source : SocketAddr)
  | callResponse (source dest : SocketAddr) (channel : ℕ) (relayId : Id)
  | call (seed : ℕ) (sourceId destId : Id) (source dest : SocketAddr)
  | advance (i : ℕ)
deriving DecidableEq, Repr

def init : Relay := ⟨.new, []⟩

/-- A registration, or a step of a call; the calls of several threads interleave. -/
def step (r : Relay) : Event → Relay
  | .listen sourceId source => { r with tables := r.tables.handleListen sourceId source }
  | .callResponse source dest channel relayId =>
    { r with tables := r.tables.handleCallResponse source dest channel relayId }
  | .call seed sourceId destId source dest =>
    { r with calls := r.calls ++ [⟨seed, sourceId, destId, source, dest, .look⟩] }
  | .advance i =>
    match r.calls[i]? with
    | none => r
    | some c => ⟨(c.advance r.tables).2, r.calls.set i (c.advance r.tables).1⟩

end Relay

/-! ## Channels -/

structure RelayHandler.Consistent (t : RelayHandler) : Prop where
  inverse : Inverse t.chToPair t.pairToCh
  unshared : ∀ p q ch, t.pairToCh p = some ch → t.pairToCh q = some ch → p = q
  inRange : ∀ ch p, t.chToPair ch = some p → minCh ≤ ch ∧ ch ≤ maxCh

lemma RelayHandler.consistent_iff (t : RelayHandler) :
    t.Consistent ↔ Inverse t.chToPair t.pairToCh ∧
      ∀ ch p, t.chToPair ch = some p → minCh ≤ ch ∧ ch ≤ maxCh :=
  ⟨fun h => ⟨h.inverse, h.inRange⟩,
    fun h => ⟨h.1, fun _ _ _ hp hq => h.1.symm.injOn hp hq, h.2⟩⟩

/-- **Entering a channel** keeps the maps consistent exactly where the channel is in range, and it
and the pair are free or each other's. -/
lemma RelayHandler.Consistent.bind_iff {t : RelayHandler} (h : t.Consistent) (ch : ℕ)
    (source dest : SocketAddr) :
    (t.bind ch source dest).Consistent ↔
      (minCh ≤ ch ∧ ch ≤ maxCh) ∧ Fits t.chToPair t.pairToCh ch (source, dest) := by
  rw [RelayHandler.consistent_iff, RelayHandler.bind, h.inverse.update_iff, and_comm]
  refine and_congr_left fun hfits => ⟨fun hrange => ?_, fun hch ch' p hp => ?_⟩
  · exact hrange ch (source, dest) (by simp)
  · by_cases hch' : ch' = ch
    · exact hch' ▸ hch
    · exact h.inRange ch' p (by simpa [Function.update_of_ne hch'] using hp)

lemma RelayHandler.consistent_congr {t t' : RelayHandler} (hch : t'.chToPair = t.chToPair)
    (hpair : t'.pairToCh = t.pairToCh) : t'.Consistent ↔ t.Consistent := by
  rw [RelayHandler.consistent_iff, RelayHandler.consistent_iff, hch, hpair]

lemma RelayHandler.consistent_allow (t : RelayHandler) (id : Id) (addr : SocketAddr) :
    (t.allow id addr).Consistent ↔ t.Consistent := RelayHandler.consistent_congr rfl rfl

lemma RelayHandler.consistent_allowIfAbsent (t : RelayHandler) (id : Id) (addr : SocketAddr) :
    (t.allowIfAbsent id addr).Consistent ↔ t.Consistent := by
  rw [RelayHandler.allowIfAbsent]
  split_ifs
  · rfl
  · exact t.consistent_allow id addr

namespace Relay

def entering (r : Relay) (i : ℕ) : Option (Call × Candidate) :=
  match r.calls[i]? with
  | some c =>
    match c.stage with
    | .insert ch => some (c, ch)
    | _ => none
  | none => none

lemma advance_tables (r : Relay) (i : ℕ) :
    (r.step (.advance i)).tables =
      match r.entering i with
      | none => r.tables
      | some (c, ch) => r.tables.enter ch c.sourceId c.destId c.source c.dest := by
  rw [step, entering]
  cases hc : r.calls[i]? with
  | none => rfl
  | some c =>
    simp only [Call.advance]
    cases hstage : c.stage with
    | look => cases r.tables.pairToCh (c.source, c.dest) <;> rfl
    | probe left candidate =>
      cases left with
      | zero => rfl
      | succ n => simp only; split_ifs <;> rfl
    | insert ch => rfl
    | returned ch => rfl

/-- The channel an event enters, and the pair it enters it for, are free or each other's; a channel
that a response brings is in range. -/
def ChannelFits (r : Relay) : Event → Prop
  | .callResponse source dest channel _ =>
    (minCh ≤ channel ∧ channel ≤ maxCh) ∧
      Fits r.tables.chToPair r.tables.pairToCh channel (source, dest)
  | .advance i =>
    ∀ e ∈ r.entering i,
      Fits r.tables.chToPair r.tables.pairToCh e.2 (e.1.source, e.1.dest)
  | _ => True

lemma consistent_step_iff (r : Relay) (e : Event) (h : r.tables.Consistent) :
    (r.step e).tables.Consistent ↔ r.ChannelFits e := by
  cases e with
  | listen sourceId source =>
    exact iff_of_true ((r.tables.consistent_allow sourceId source).mpr h) trivial
  | call seed sourceId destId source dest => exact iff_of_true h trivial
  | callResponse source dest channel relayId =>
    rw [step, RelayHandler.handleCallResponse, RelayHandler.consistent_allow, h.bind_iff]
    rfl
  | advance i =>
    rw [advance_tables, ChannelFits]
    cases r.entering i with
    | none => simp [h]
    | some e =>
      obtain ⟨c, ch⟩ := e
      simp only [RelayHandler.enter, RelayHandler.consistent_allowIfAbsent, h.bind_iff,
        Option.mem_def, Option.some.injEq, forall_eq', ch.property, and_self, true_and]

lemma consistent_init : init.tables.Consistent :=
  (RelayHandler.consistent_iff _).mpr ⟨Lib.inverse_empty, fun _ _ h => nomatch h⟩

/-- **Channels.**  Whatever comes between the sections of a call, the channel maps are each other's
inverse, no two pairs share a channel and every channel is in range, exactly when every entry made
finds its channel and its pair free or each other's, and every channel a response brings is in
range. -/
theorem channels_consistent_iff (es : List Event) :
    Lib.Always step (fun r => r.tables.Consistent) init es ↔
      Lib.Along step ChannelFits init es :=
  Lib.always_iff_along consistent_step_iff consistent_init

def racingCalls : List Event :=
  [.call 0 "A" "B" "a" "b", .call 0 "C" "D" "c" "d",
    .advance 0, .advance 0, .advance 1, .advance 1, .advance 0, .advance 1]

theorem racing_calls_share_channel :
    ¬ Lib.Always step (fun r => r.tables.Consistent) init racingCalls := by
  intro h
  have hlast := (Lib.always_iff_prefix _ _ _ _).mp h racingCalls List.prefix_rfl
  have hab : (Lib.run step init racingCalls).tables.pairToCh ("a", "b") = some minCh := by decide
  have hcd : (Lib.run step init racingCalls).tables.pairToCh ("c", "d") = some minCh := by decide
  exact absurd (hlast.unshared _ _ _ hab hcd) (by decide)

end Relay

/-! ## Listeners -/

namespace RelayHandler

def OneToOne (t : RelayHandler) : Prop := Inverse t.allowedIdToAddr t.allowedAddrToId

abbrev AllowFits (t : RelayHandler) (id : Id) (addr : SocketAddr) : Prop :=
  Fits t.allowedIdToAddr t.allowedAddrToId id addr

variable {t : RelayHandler}

lemma OneToOne.allow_iff (h : t.OneToOne) (id : Id) (addr : SocketAddr) :
    (t.allow id addr).OneToOne ↔ t.AllowFits id addr :=
  h.update_iff id addr

lemma OneToOne.allowIfAbsent_iff (h : t.OneToOne) (id : Id) (addr : SocketAddr) :
    (t.allowIfAbsent id addr).OneToOne ↔
      (t.allowedAddrToId addr).isSome ∨ t.allowedIdToAddr id = none := by
  rw [allowIfAbsent]
  split_ifs with haddr
  · exact iff_of_true h (Or.inl haddr)
  · have hnone : t.allowedAddrToId addr = none := by simpa using haddr
    rw [h.allow_iff, or_iff_right haddr]
    constructor
    · rintro ⟨hid, -⟩
      refine Option.eq_none_iff_forall_ne_some.mpr fun a ha => ?_
      rw [hid a ha, h id addr, hnone] at ha
      exact absurd ha (by simp)
    · intro hid
      exact ⟨by simp [hid], by simp [hnone]⟩

variable {id i : Id} {addr a : SocketAddr}

lemma allowIfAbsent_allowedAddrToId
    (h : t.allowedAddrToId a = some i) : (t.allowIfAbsent id addr).allowedAddrToId a = some i := by
  rw [allowIfAbsent]
  split_ifs with haddr
  · exact h
  · have hne : a ≠ addr := by
      rintro rfl
      exact haddr (by simp [h])
    simpa [allow, Function.update_of_ne hne] using h

lemma not_oneToOne_allowIfAbsent
    (ha : t.allowedAddrToId a = some i) (hi : t.allowedIdToAddr i ≠ some a) :
    ¬ (t.allowIfAbsent id addr).OneToOne := by
  intro h
  rcases t.allowIfAbsent_allowedIdToAddr ((h i a).mpr (allowIfAbsent_allowedAddrToId ha)) with
    hold | ⟨rfl, rfl⟩
  · exact hi hold
  · rw [allowIfAbsent, if_pos (by simp [ha])] at h
    exact hi ((h i a).mpr ha)

def CallFits (t : RelayHandler) (sourceId destId : Id) (source dest : SocketAddr) : Prop :=
  ((t.allowedAddrToId source).isSome ∨ t.allowedIdToAddr sourceId = none) ∧
    ((t.allowedAddrToId dest).isSome ∨ dest = source ∨
      t.allowedIdToAddr destId = none ∧
        ((t.allowedAddrToId source).isSome ∨ destId ≠ sourceId))

lemma OneToOne.not_of_moved (h : t.OneToOne) {sourceId destId : Id} {source dest : SocketAddr}
    (hsource : t.allowedAddrToId source = none) (ha : t.allowedIdToAddr sourceId = some a) :
    ¬ ((t.allow sourceId source).allowIfAbsent destId dest).OneToOne := by
  have hne : a ≠ source := by
    rintro rfl
    rw [h sourceId a, hsource] at ha
    exact absurd ha (by simp)
  refine not_oneToOne_allowIfAbsent (i := sourceId) (a := a) ?_ ?_
  · simpa [allow, Function.update_of_ne hne] using (h sourceId a).mp ha
  · simpa [allow] using hne.symm

lemma OneToOne.allowIfAbsent_twice_iff (h : t.OneToOne) (sourceId destId : Id)
    (source dest : SocketAddr) :
    ((t.allowIfAbsent sourceId source).allowIfAbsent destId dest).OneToOne ↔
      t.CallFits sourceId destId source dest := by
  rw [CallFits]
  cases hsource : t.allowedAddrToId source with
  | some i =>
    rw [show t.allowIfAbsent sourceId source = t by rw [allowIfAbsent, if_pos (by simp [hsource])],
      h.allowIfAbsent_iff]
    simp only [Option.isSome_some, true_or, true_and, and_true]
    refine or_congr_right' fun hdest => ⟨Or.inr, fun hor => hor.resolve_left ?_⟩
    rintro rfl
    exact hdest (by simp [hsource])
  | none =>
    rw [show t.allowIfAbsent sourceId source = t.allow sourceId source by
      rw [allowIfAbsent, if_neg (by simp [hsource])]]
    cases hid : t.allowedIdToAddr sourceId with
    | some a =>
      simp only [Option.isSome_none, Bool.false_eq_true, reduceCtorEq, or_self, false_and,
        iff_false]
      exact h.not_of_moved hsource hid
    | none =>
      have hallow : (t.allow sourceId source).OneToOne :=
        (h.allow_iff _ _).mpr ⟨by simp [hid], by simp [hsource]⟩
      rw [hallow.allowIfAbsent_iff]
      by_cases hdest : dest = source
      · simp [hdest, allow]
      · by_cases hdestId : destId = sourceId
        · simp [hdest, hdestId, allow]
        · simp [hdest, hdestId, allow]

lemma OneToOne.enter_iff (h : t.OneToOne) (ch : ℕ) (sourceId destId : Id)
    (source dest : SocketAddr) :
    (t.enter ch sourceId destId source dest).OneToOne ↔
      t.CallFits sourceId destId source dest :=
  have hbind : (t.bind ch source dest).OneToOne := h
  hbind.allowIfAbsent_twice_iff sourceId destId source dest

end RelayHandler

namespace Relay

def RegistrationFits (r : Relay) : Event → Prop
  | .listen sourceId source => r.tables.AllowFits sourceId source
  | .callResponse source _ _ relayId => r.tables.AllowFits relayId source
  | .call _ _ _ _ _ => True
  | .advance i =>
    ∀ e ∈ r.entering i, r.tables.CallFits e.1.sourceId e.1.destId e.1.source e.1.dest

lemma oneToOne_step_iff (r : Relay) (e : Event) (h : r.tables.OneToOne) :
    (r.step e).tables.OneToOne ↔ r.RegistrationFits e := by
  cases e with
  | listen sourceId source => exact h.allow_iff sourceId source
  | call seed sourceId destId source dest => exact iff_of_true h trivial
  | callResponse source dest channel relayId =>
    have hbind : (r.tables.bind channel source dest).OneToOne := h
    exact hbind.allow_iff relayId source
  | advance i =>
    rw [advance_tables, RegistrationFits]
    cases r.entering i with
    | none => simp [h]
    | some e =>
      simp [h.enter_iff, Option.mem_def, forall_eq']

/-- **Listeners.**  The id-to-address and the address-to-id map are each other's inverse exactly
when every registration made finds the id and the address free or each other's: no id listens from a
second address, and no address changes hands. -/
theorem registrations_inverse_iff (es : List Event) :
    Lib.Always step (fun r => Inverse r.tables.allowedIdToAddr r.tables.allowedAddrToId) init es ↔
      Lib.Along step RegistrationFits init es :=
  Lib.always_iff_along oneToOne_step_iff Lib.inverse_empty

def movedClient : List Event := [.listen "A" "old", .listen "A" "new"]

theorem moved_client_leaves_address :
    ¬ Lib.Always step (fun r => Inverse r.tables.allowedIdToAddr r.tables.allowedAddrToId) init
      movedClient := by
  intro h
  have hlast := (Lib.always_iff_prefix _ _ _ _).mp h movedClient List.prefix_rfl
  have hstale : (Lib.run step init movedClient).tables.allowedAddrToId "old" = some "A" := by decide
  exact absurd ((hlast "A" "old").mpr hstale) (by decide)

end Relay

end Bingle.Turn
