import Bingle.Lib.LogicalClock
import Bingle.Mutex.Grants

/-!
# The Lamport clock of a node

`handle_request` moves the clock past the timestamp it receives, whatever that is, and `acquire`
moves it on and takes the new value.  The clock is an `i64`, and the next addition may wrap around
(or panic, in a build that checks).
-/

namespace Bingle.Mutex

open List Option
open Lib (run Along Move HasRoom)

def i64Max : ℤ := 2 ^ 63 - 1

lemma i64Add_one {a : ℤ} (h0 : 0 ≤ a) (h : a + 1 ≤ i64Max) : i64Add a 1 = a + 1 := by
  unfold i64Max at h
  exact Int.bmod_eq_of_le (by norm_num; omega) (by norm_num; omega)

namespace Voter

variable (selfId : NodeId) (leaseDuration : ℕ)

def clockMove (v : Voter) : Event → Option Move
  | .request _ ts _ => some (.receive ts)
  | .acquire =>
    if v.inner.currentRequestTs = none ∧ v.inner.inCs = false then some .issue else none
  | _ => none

def clockMoves : Voter → List Event → List Move
  | _, [] => []
  | v, e :: es => (v.clockMove e).toList ++ clockMoves (v.step selfId leaseDuration e) es

def NoOverflow (v : Voter) (e : Event) : Prop :=
  ∀ m ∈ v.clockMove e, m.next v.inner.lamport ≤ i64Max

def issued (v : Voter) : Event → Option ℤ
  | .acquire =>
    if v.inner.currentRequestTs = none ∧ v.inner.inCs = false then
      (v.inner.beginRequest selfId).currentRequestTs
    else none
  | _ => none

end Voter

def Voter.Event.received : Voter.Event → Option ℤ
  | .request _ ts _ => some ts
  | _ => none

structure Stamped where
  voter : Voter
  seen : List ℤ := []

namespace Stamped

variable (selfId : NodeId) (leaseDuration : ℕ)

def step (s : Stamped) (e : Voter.Event) : Stamped where
  voter := s.voter.step selfId leaseDuration e
  seen := e.received.toList ++ (s.voter.issued selfId e).toList ++ s.seen

def init (members : Finset NodeId) : Stamped := { voter := Voter.init selfId members }

/-- **The clock is sound** at one event: the addition does not overflow, the clock is past a
timestamp received, and a timestamp issued is past every one received or issued before. -/
structure ClockSound (s : Stamped) (e : Voter.Event) : Prop where
  noOverflow : s.voter.NoOverflow e
  received : ∀ ts ∈ e.received, ts < (s.step selfId leaseDuration e).voter.inner.lamport
  issued : ∀ ts ∈ s.voter.issued selfId e, ∀ t ∈ s.seen, t < ts

end Stamped

/-! ## What each event does to the clock -/

namespace Voter

variable {selfId : NodeId} {leaseDuration : ℕ} {v : Voter}

lemma lamport_grantDeferred (st : Inner) (now : ℕ) :
    (st.grantDeferred selfId leaseDuration now).1.lamport = st.lamport := by
  unfold Inner.grantDeferred
  cases st.deferred <;> rfl

lemma lamport_step (e : Event) :
    (v.step selfId leaseDuration e).inner.lamport =
      ((v.clockMove e).map fun m => i64Add (m.base v.inner.lamport) 1).getD v.inner.lamport := by
  cases e with
  | request fromId ts known =>
    show (v.inner.handleRequest selfId leaseDuration v.now fromId ts known).1.lamport =
      i64Add (max v.inner.lamport ts) 1
    unfold Inner.handleRequest
    dsimp only
    split_ifs <;> rfl
  | reply fromId tag known =>
    show (v.inner.handleReply selfId fromId tag known).1.lamport = v.inner.lamport
    unfold Inner.handleReply
    dsimp only
    split_ifs <;> rfl
  | release fromId known =>
    show (v.inner.handleRelease selfId leaseDuration v.now fromId known).1.lamport =
      v.inner.lamport
    unfold Inner.handleRelease
    dsimp only
    rw [lamport_grantDeferred]
    split_ifs <;> rfl
  | acquire =>
    unfold step act clockMove
    dsimp only
    split_ifs <;> rfl
  | enter =>
    unfold step act clockMove
    dsimp only
    split
    · split_ifs <;> rfl
    · rfl
  | leave =>
    unfold step act clockMove
    dsimp only
    split_ifs
    · exact lamport_grantDeferred _ _
    · rfl
  | prune unreachable => rfl
  | tick d => rfl

variable {e : Event} {ts : ℤ}

lemma clockMove_of_received (h : ts ∈ e.received) :
    v.clockMove e = some (.receive ts) := by
  cases e with
  | request fromId ts' known =>
    obtain rfl := some.inj h
    rfl
  | _ => exact absurd h (not_mem_none ts)

lemma clockMove_of_issued (h : ts ∈ v.issued selfId e) :
    v.clockMove e = some .issue ∧ ts = i64Add v.inner.lamport 1 := by
  cases e with
  | acquire =>
    unfold issued at h
    split_ifs at h with hidle
    · exact ⟨if_pos hidle, (some.inj h).symm⟩
    · exact absurd h (not_mem_none ts)
  | _ => exact absurd h (not_mem_none ts)

def ClockInRange (v : Voter) : Prop := 0 ≤ v.inner.lamport ∧ v.inner.lamport ≤ i64Max

lemma clockInRange_init (members : Finset NodeId) : (init selfId members).ClockInRange :=
  ⟨le_rfl, (by decide : (0 : ℤ) ≤ i64Max)⟩

lemma lamport_step_of_move {m : Move} (hrange : v.ClockInRange)
    (hmove : v.clockMove e = some m) (hnext : m.next v.inner.lamport ≤ i64Max) :
    (v.step selfId leaseDuration e).inner.lamport = m.next v.inner.lamport := by
  have hbase : 0 ≤ m.base v.inner.lamport := by
    cases m with
    | receive ts => exact hrange.1.trans (le_max_left _ _)
    | issue => exact hrange.1
  rw [lamport_step, hmove, map_some, getD_some]
  exact i64Add_one hbase hnext

lemma ClockInRange.step (h : v.ClockInRange) (he : v.NoOverflow e) :
    (v.step selfId leaseDuration e).ClockInRange := by
  unfold ClockInRange
  cases hmove : v.clockMove e with
  | none => rwa [lamport_step, hmove]
  | some m =>
    have hnext := he m hmove
    rw [lamport_step_of_move h hmove hnext]
    exact ⟨h.1.trans (m.lt_next _).le, hnext⟩

lemma along_noOverflow_iff (es : List Event) (hrange : v.ClockInRange) :
    Along (step selfId leaseDuration) NoOverflow v es ↔
      Along Move.next (fun clock m => m.next clock ≤ i64Max) v.inner.lamport
        (clockMoves selfId leaseDuration v es) := by
  induction es generalizing v with
  | nil => exact Iff.rfl
  | cons e es ih =>
    rw [Lib.along_cons, clockMoves, Lib.along_append]
    cases hmove : v.clockMove e with
    | none =>
      have he : v.NoOverflow e := by
        intro m hm
        rw [hmove] at hm
        exact absurd hm (not_mem_none m)
      have hsame : (v.step selfId leaseDuration e).inner.lamport = v.inner.lamport := by
        rw [lamport_step, hmove]
        rfl
      simp only [he, true_and, toList_none, Lib.along_nil, Lib.run_nil]
      rw [ih (hrange.step he), hsame]
    | some m =>
      have he : v.NoOverflow e ↔ m.next v.inner.lamport ≤ i64Max := by
        simp [NoOverflow, hmove]
      simp only [he, toList_some, Lib.along_cons, Lib.along_nil, and_true, Lib.run_cons,
        Lib.run_nil]
      refine and_congr_right fun hnext => ?_
      rw [ih (hrange.step (he.mpr hnext)), lamport_step_of_move hrange hmove hnext]

end Voter

/-! ## Every run -/

namespace Stamped

variable {selfId : NodeId} {leaseDuration : ℕ} {s : Stamped}

structure Ahead (s : Stamped) : Prop where
  inRange : s.voter.ClockInRange
  seen : ∀ t ∈ s.seen, t ≤ s.voter.inner.lamport

variable {e : Voter.Event}

lemma Ahead.lamport_of_move (h : s.Ahead) (he : s.voter.NoOverflow e) {m : Move}
    (hmove : s.voter.clockMove e = some m) :
    (s.step selfId leaseDuration e).voter.inner.lamport = m.next s.voter.inner.lamport :=
  Voter.lamport_step_of_move h.inRange hmove (he m hmove)

lemma Ahead.issued_eq (h : s.Ahead) (he : s.voter.NoOverflow e) {ts : ℤ}
    (hts : ts ∈ s.voter.issued selfId e) : ts = s.voter.inner.lamport + 1 := by
  obtain ⟨hmove, rfl⟩ := Voter.clockMove_of_issued hts
  exact i64Add_one h.inRange.1 (he .issue hmove)

lemma Ahead.clockSound (h : s.Ahead) (he : s.voter.NoOverflow e) :
    s.ClockSound selfId leaseDuration e where
  noOverflow := he
  received ts hts := by
    rw [h.lamport_of_move he (Voter.clockMove_of_received hts)]
    exact Int.lt_add_one_of_le (le_max_right _ ts)
  issued ts hts t ht := by
    rw [h.issued_eq he hts]
    exact Int.lt_add_one_of_le (h.seen t ht)

lemma Ahead.lamport_le (h : s.Ahead) (he : s.voter.NoOverflow e) :
    s.voter.inner.lamport ≤ (s.step selfId leaseDuration e).voter.inner.lamport := by
  cases hmove : s.voter.clockMove e with
  | none => exact (by rw [step, Voter.lamport_step, hmove]; rfl : _ = _).le
  | some m =>
    rw [h.lamport_of_move he hmove]
    exact (m.lt_next _).le

lemma Ahead.step (h : s.Ahead) (he : s.voter.NoOverflow e) :
    (s.step selfId leaseDuration e).Ahead where
  inRange := h.inRange.step he
  seen t ht := by
    have hsound : s.ClockSound selfId leaseDuration e := h.clockSound he
    rcases mem_append.mp ht with ht | ht
    · rcases mem_append.mp ht with ht | ht
      · exact (hsound.received t (mem_toList.mp ht)).le
      · have hts := mem_toList.mp ht
        rw [h.lamport_of_move he (Voter.clockMove_of_issued hts).1, h.issued_eq he hts]
        exact le_rfl
    · exact (h.seen t ht).trans (h.lamport_le he)

lemma ahead_init (members : Finset NodeId) : (init selfId members).Ahead where
  inRange := Voter.clockInRange_init members
  seen _ ht := absurd ht not_mem_nil

lemma along_voter {P : Voter → Voter.Event → Prop} (es : List Voter.Event) :
    Along (step selfId leaseDuration) (fun s e => P s.voter e) s es ↔
      Along (Voter.step selfId leaseDuration) P s.voter es := by
  induction es generalizing s with
  | nil => exact Iff.rfl
  | cons e es ih => exact and_congr_right fun _ => ih

/-- **Soundness of the Lamport clock, exactly.**  No addition overflows, the clock is past every
timestamp received and every timestamp issued is past all received or issued before, if and only if
there are no more clock moves than `i64` has room for, from the start and from each timestamp
received. -/
theorem clock_sound_iff (selfId : NodeId) (leaseDuration : ℕ) (members : Finset NodeId)
    (es : List Voter.Event) :
    Along (step selfId leaseDuration) (ClockSound selfId leaseDuration) (init selfId members) es ↔
      ((Voter.init selfId members).clockMoves selfId leaseDuration es).length ≤ i64Max ∧
        HasRoom i64Max ((Voter.init selfId members).clockMoves selfId leaseDuration es) := by
  have hstart : (Voter.init selfId members).ClockInRange := Voter.clockInRange_init members
  have hsound : Along (step selfId leaseDuration) (ClockSound selfId leaseDuration)
      (init selfId members) es ↔
      Along (step selfId leaseDuration) (fun s e => s.voter.NoOverflow e) (init selfId members)
        es :=
    ⟨Lib.Along.of_invariant (I := fun _ => True) (fun _ _ _ _ => trivial)
        (fun _ _ _ h => h.noOverflow) trivial,
      Lib.Along.of_invariant (I := Ahead) (fun _ _ h he => h.step he)
        (fun _ _ h he => h.clockSound he) (ahead_init members)⟩
  have hroom := Lib.along_next_le_iff i64Max hstart.2
    ((Voter.init selfId members).clockMoves selfId leaseDuration es)
  rw [hsound, along_voter]
  refine (Voter.along_noOverflow_iff es hstart).trans (hroom.trans ?_)
  simp [Voter.init]

theorem largest_timestamp_unsound :
    ¬ Along (step "n" 1000) (ClockSound "n" 1000) (init "n" {"x"})
      [.request "x" (2 ^ 63 - 1) none] := by
  rintro ⟨hsound, -⟩
  exact absurd (hsound.received _ rfl) (by decide)

end Stamped

end Bingle.Mutex
