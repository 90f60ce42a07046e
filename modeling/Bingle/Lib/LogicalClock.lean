import Mathlib
import Bingle.Lib.Run

/-!
# Logical clocks of bounded width

A logical clock moves past every timestamp it receives, and past itself when it issues one.  Each
move adds one, so a bound on the clock's values is a bound on how many moves may follow a timestamp
that is received (`along_next_le_iff`).
-/

namespace Lib

inductive Move
  | receive (ts : ℤ)
  | issue
deriving DecidableEq, Repr

def Move.base (clock : ℤ) : Move → ℤ
  | .receive ts => max clock ts
  | .issue => clock

def Move.next (clock : ℤ) (m : Move) : ℤ := m.base clock + 1

lemma Move.lt_next (clock : ℤ) (m : Move) : clock < m.next clock := by
  cases m <;> simp only [next, base] <;> omega

def HasRoom (bound : ℤ) (ms : List Move) : Prop :=
  ∀ ts rest, Move.receive ts :: rest <:+ ms → ts + 1 + rest.length ≤ bound

lemma hasRoom_cons_iff {bound : ℤ} {m : Move} {ms : List Move} :
    HasRoom bound (m :: ms) ↔
      (∀ ts, m = .receive ts → ts + 1 + ms.length ≤ bound) ∧ HasRoom bound ms := by
  constructor
  · intro h
    refine ⟨fun ts hm => ?_, fun ts rest hrest => h ts rest (hrest.trans (List.suffix_cons m ms))⟩
    subst hm
    exact h ts ms List.suffix_rfl
  · rintro ⟨hfirst, hrest⟩ ts rest hsuffix
    rcases List.suffix_cons_iff.mp hsuffix with heq | hsuffix
    · obtain ⟨rfl, rfl⟩ := List.cons.inj heq
      exact hfirst ts rfl
    · exact hrest ts rest hsuffix

/-- **The clock stays within its bound** exactly when there is room for all moves after where it
stands and after every timestamp it receives. -/
theorem along_next_le_iff (bound : ℤ) {clock : ℤ} (hclock : clock ≤ bound) (ms : List Move) :
    Along Move.next (fun clock m => m.next clock ≤ bound) clock ms ↔
      clock + ms.length ≤ bound ∧ HasRoom bound ms := by
  induction ms generalizing clock with
  | nil => simp [hclock, HasRoom]
  | cons m ms ih =>
    rw [along_cons, hasRoom_cons_iff, List.length_cons]
    push_cast
    constructor
    · rintro ⟨hnext, hrest⟩
      obtain ⟨hlength, hroom⟩ := (ih hnext).mp hrest
      have hlt := m.lt_next clock
      refine ⟨by omega, fun ts hm => ?_, hroom⟩
      subst hm
      have hbase : ts ≤ Move.base clock (.receive ts) := le_max_right clock ts
      rw [Move.next] at hlength
      omega
    · rintro ⟨hlength, hfirst, hroom⟩
      have hnext : m.next clock + ms.length ≤ bound := by
        cases m with
        | receive ts =>
          have hts := hfirst ts rfl
          simp only [Move.next, Move.base]
          omega
        | issue =>
          simp only [Move.next, Move.base]
          omega
      exact ⟨by omega, (ih (by omega)).mpr ⟨hnext, hroom⟩⟩

end Lib
