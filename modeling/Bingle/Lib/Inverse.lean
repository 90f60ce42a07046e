import Mathlib

/-!
# Two tables, each the other's inverse

A relation kept twice, once under each side, is sound as long as the two are the sides of a partial
equivalence, `PEquiv`.  A writer that enters a pair on both sides leaves such tables exactly when
nothing else stood on either side: `Inverse.update_iff`.
-/

namespace Lib

variable {α β : Type*} {f : α → Option β} {g : β → Option α}

def Inverse (f : α → Option β) (g : β → Option α) : Prop :=
  ∀ a b, f a = some b ↔ g b = some a

lemma inverse_empty : Inverse (fun _ : α => (none : Option β)) fun _ => none := by
  intro a b
  simp

def Fits (f : α → Option β) (g : β → Option α) (a : α) (b : β) : Prop :=
  (∀ b' ∈ f a, b' = b) ∧ ∀ a' ∈ g b, a' = a

namespace Inverse

lemma symm (h : Inverse f g) : Inverse g f := fun b a => (h a b).symm

def toPEquiv (h : Inverse f g) : α ≃. β where
  toFun := f
  invFun := g
  inv a b := (h a b).symm

lemma injOn (h : Inverse f g) {a a' : α} {b : β} (ha : f a = some b) (ha' : f a' = some b) :
    a = a' :=
  h.toPEquiv.inj ha ha'

variable [DecidableEq α] [DecidableEq β]

lemma eq_of_update {a : α} {b b' : β} (h : Inverse f g)
    (hu : Inverse (Function.update f a (some b)) (Function.update g b (some a)))
    (hb : f a = some b') : b' = b := by
  by_contra hne
  have hg : Function.update g b (some a) b' = some a := by
    rw [Function.update_of_ne hne, ← h]
    exact hb
  have hf := (hu a b').mpr hg
  rw [Function.update_self, Option.some.injEq] at hf
  exact hne hf.symm

/-- **Entering a pair on both sides** keeps the tables each other's inverse exactly where nothing
else stood. -/
theorem update_iff (h : Inverse f g) (a : α) (b : β) :
    Inverse (Function.update f a (some b)) (Function.update g b (some a)) ↔ Fits f g a b := by
  constructor
  · intro hu
    exact ⟨fun b' hb => h.eq_of_update hu hb, fun a' ha => h.symm.eq_of_update hu.symm ha⟩
  · rintro ⟨hf, hg⟩ a' b'
    by_cases ha : a' = a <;> by_cases hb : b' = b
    · simp [ha, hb]
    · rw [ha, Function.update_self, Function.update_of_ne hb, Option.some.injEq, ← h]
      exact ⟨fun hbb => absurd hbb.symm hb, fun hfa => absurd (hf b' hfa) hb⟩
    · rw [hb, Function.update_self, Function.update_of_ne ha, Option.some.injEq, h]
      exact ⟨fun hga => absurd (hg a' hga) ha, fun haa => absurd haa.symm ha⟩
    · rw [Function.update_of_ne ha, Function.update_of_ne hb, h]

end Inverse

end Lib
