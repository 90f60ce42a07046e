import Mathlib

/-!
# Tasks done at most once

Nothing is done twice if a task is taken on only while nobody has done it and nobody else has taken
it on.  `Tasks.Exclusive` is the invariant: what has been done and what each agent has taken on are
all different.
-/

namespace Lib

structure Tasks (ι α : Type*) where
  done : List α
  due : ι → List α

namespace Tasks

variable {ι α : Type*} [DecidableEq ι] {t : Tasks ι α} {i : ι} {a : α} {l : List α}

def Free (t : Tasks ι α) (i : ι) (a : α) : Prop := a ∉ t.done ∧ ∀ j, j ≠ i → a ∉ t.due j

def take (t : Tasks ι α) (i : ι) (l : List α) : Tasks ι α :=
  { t with due := Function.update t.due i l }

structure Exclusive (t : Tasks ι α) : Prop where
  done : t.done.Nodup
  due : ∀ i, (t.due i).Nodup
  free : ∀ i, ∀ a ∈ t.due i, t.Free i a

@[simp] lemma take_self : (t.take i l).due i = l := Function.update_self ..

lemma take_of_ne {j : ι} (h : j ≠ i) : (t.take i l).due j = t.due j := Function.update_of_ne h ..

lemma Exclusive.take (h : t.Exclusive) (hl : l.Nodup) (hfree : ∀ a ∈ l, t.Free i a) :
    (t.take i l).Exclusive := by
  refine ⟨h.done, fun j => ?_, fun j a ha => ⟨?_, fun k hk hak => ?_⟩⟩
  · by_cases hj : j = i
    · subst hj
      rwa [take_self]
    · rw [take_of_ne hj]
      exact h.due j
  · by_cases hj : j = i
    · subst hj
      rw [take_self] at ha
      exact (hfree a ha).1
    · rw [take_of_ne hj] at ha
      exact (h.free j a ha).1
  · by_cases hj : j = i
    · subst hj
      rw [take_self] at ha
      rw [take_of_ne hk] at hak
      exact (hfree a ha).2 k hk hak
    · rw [take_of_ne hj] at ha
      by_cases hki : k = i
      · subst hki
        rw [take_self] at hak
        exact (hfree a hak).2 j hj ha
      · rw [take_of_ne hki] at hak
        exact (h.free j a ha).2 k hk hak

lemma Exclusive.giveUp (h : t.Exclusive) (hl : l.Sublist (t.due i)) : (t.take i l).Exclusive :=
  h.take ((h.due i).sublist hl) fun a ha => h.free i a (hl.subset ha)

omit [DecidableEq ι] in
lemma Exclusive.undo {done : List α} (h : t.Exclusive) (hdone : done.Sublist t.done) :
    ({ t with done } : Tasks ι α).Exclusive :=
  ⟨h.done.sublist hdone, h.due, fun i a ha =>
    ⟨fun hmem => (h.free i a ha).1 (hdone.subset hmem), (h.free i a ha).2⟩⟩

lemma Exclusive.perform (h : t.Exclusive) (hi : t.due i = a :: l) :
    (({ t with done := a :: t.done } : Tasks ι α).take i l).Exclusive := by
  have hfree : t.Free i a := h.free i a (hi ▸ List.mem_cons_self)
  obtain ⟨hal, hl⟩ := List.nodup_cons.mp (hi ▸ h.due i)
  have hrest : (t.take i l).Exclusive := h.giveUp (hi ▸ List.sublist_cons_self a l)
  refine ⟨List.nodup_cons.mpr ⟨hfree.1, h.done⟩, hrest.due, fun j b hb => ?_⟩
  refine ⟨fun hdone => ?_, (hrest.free j b hb).2⟩
  rcases List.mem_cons.mp hdone with rfl | hdone
  · by_cases hj : j = i
    · subst hj
      exact hal (by simpa using hb)
    · exact hfree.2 j hj (by rwa [take_of_ne hj] at hb)
  · exact (hrest.free j b hb).1 hdone

end Tasks

end Lib
