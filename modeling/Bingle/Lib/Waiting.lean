import Mathlib

/-!
# Calls that wait under a key

A call takes a key, enters itself in a table under it, and waits; whoever brings the answer finds
the call by its key.  An entry should be its call's, and no two calls on their way should have one
key.
-/

namespace Lib

variable {ι κ : Type*}

lemma of_update_eq {α β : Type*} [DecidableEq α] {f : α → β} {a x : α} {v y : β}
    (h : Function.update f a v x = y) : x = a ∧ v = y ∨ x ≠ a ∧ f x = y := by
  rcases eq_or_ne x a with rfl | hx
  · rw [Function.update_self] at h
    exact .inl ⟨rfl, h⟩
  · rw [Function.update_of_ne hx] at h
    exact .inr ⟨hx, h⟩

structure Waiting (ι κ : Type*) where
  table : κ → Option ι
  key : ι → Option κ

namespace Waiting

def Owned (w : Waiting ι κ) : Prop := ∀ k i, w.table k = some i → w.key i = some k

def Distinct (w : Waiting ι κ) : Prop := ∀ i j k, w.key i = some k → w.key j = some k → i = j

variable {w : Waiting ι κ} {i : ι} {k : κ}

lemma table_eq_none (howned : w.Owned) (hdistinct : w.Distinct) (hkey : w.key i = some k)
    (hgone : w.table k ≠ some i) : w.table k = none := by
  cases hentry : w.table k with
  | none => rfl
  | some j =>
    obtain rfl := hdistinct j i k (howned k j hentry) hkey
    exact absurd hentry hgone

/-! ## What keeps the two -/

lemma Owned.mono (h : w.Owned) {w' : Waiting ι κ}
    (htable : ∀ k i, w'.table k = some i → w.table k = some i)
    (hkey : ∀ i k, w'.table k = some i → w'.key i = w.key i) : w'.Owned := by
  intro k i hentry
  rw [hkey i k hentry]
  exact h k i (htable k i hentry)

lemma Distinct.mono (h : w.Distinct) {w' : Waiting ι κ}
    (hkey : ∀ i k, w'.key i = some k → w.key i = some k) : w'.Distinct :=
  fun i j k hi hj => h i j k (hkey i k hi) (hkey j k hj)

lemma Distinct.take [DecidableEq ι] (h : w.Distinct) (hnew : ∀ j, w.key j ≠ some k) :
    Distinct { w with key := Function.update w.key i (some k) } := by
  intro a b l ha hb
  rcases of_update_eq ha with ⟨hai, hal⟩ | ⟨-, hal⟩ <;>
    rcases of_update_eq hb with ⟨hbi, hbl⟩ | ⟨-, hbl⟩
  · rw [hai, hbi]
  · exact absurd (hbl.trans hal.symm) (hnew b)
  · exact absurd (hal.trans hbl.symm) (hnew a)
  · exact h a b l hal hbl

lemma Owned.take [DecidableEq ι] (h : w.Owned) (hidle : w.key i = none) :
    Owned { w with key := Function.update w.key i (some k) } := by
  refine h.mono (fun _ _ hentry => hentry) fun j l hentry => Function.update_of_ne ?_ _ _
  rintro rfl
  rw [h l j hentry] at hidle
  exact absurd hidle (Option.some_ne_none l)

lemma Owned.enter [DecidableEq κ] (h : w.Owned) (hkey : w.key i = some k) :
    Owned { w with table := Function.update w.table k (some i) } := by
  intro l j hentry
  rcases of_update_eq hentry with ⟨rfl, hj⟩ | ⟨-, hentry⟩
  · rw [← Option.some.inj hj]
    exact hkey
  · exact h l j hentry

end Waiting

end Lib
