import Mathlib

/-!
# A first-write-wins register with stamps

Keys claim values.  A value, once there, is never replaced, and each claim carries a *stamp* taken
from a counter that the claims move forward.  `Ordered`: every value has a stamp, no two keys share
one, none is beyond the counter.  It is kept by every entry that meets `Orderly`.
-/

namespace Lib

structure Register (κ ν τ : Type*) where
  last : τ
  value : κ → Option ν
  stamp : κ → Option τ

/-- What can be entered: nothing, a claim with its stamp, a value without one, a new counter.  A
claim of `none` takes a stamp and leaves the key without a value. -/
inductive Entry (κ ν τ : Type*)
  | skip
  | claim (x : κ) (v : Option ν) (t : τ)
  | bare (x : κ) (v : Option ν)
  | reset (t : τ)

namespace Register

variable {κ ν τ : Type*} [DecidableEq κ]

/-- The register after an entry.  A key that has a value keeps value and stamp; its claim still
moves the counter. -/
def apply (r : Register κ ν τ) : Entry κ ν τ → Register κ ν τ
  | .skip => r
  | .claim x v t =>
    if (r.value x).isSome then { r with last := t }
    else ⟨t, Function.update r.value x v, Function.update r.stamp x (some t)⟩
  | .bare x v =>
    if (r.value x).isSome then r else { r with value := Function.update r.value x v }
  | .reset t => { r with last := t }

variable {x : κ} {r : Register κ ν τ} {e : Entry κ ν τ}

/-- **First write wins.**  No entry replaces a value or the stamp that goes with it. -/
lemma apply_kept (r : Register κ ν τ) (e : Entry κ ν τ) (hx : (r.value x).isSome) :
    (r.apply e).value x = r.value x ∧ (r.apply e).stamp x = r.stamp x := by
  cases e with
  | skip => exact ⟨rfl, rfl⟩
  | reset t => exact ⟨rfl, rfl⟩
  | claim y v t =>
    simp only [apply]
    split_ifs with hy
    · exact ⟨rfl, rfl⟩
    · have hne : x ≠ y := fun h => hy (h ▸ hx)
      exact ⟨Function.update_of_ne hne _ _, Function.update_of_ne hne _ _⟩
  | bare y v =>
    simp only [apply]
    split_ifs with hy
    · exact ⟨rfl, rfl⟩
    · have hne : x ≠ y := fun h => hy (h ▸ hx)
      exact ⟨Function.update_of_ne hne _ _, rfl⟩

lemma apply_stamp (r : Register κ ν τ) (e : Entry κ ν τ) (x : κ) :
    (r.apply e).stamp x = r.stamp x ∨
      ∃ v t, e = .claim x v t ∧ r.value x = none ∧ (r.apply e).stamp x = some t := by
  cases e with
  | skip => exact Or.inl rfl
  | reset t => exact Or.inl rfl
  | bare y v => simp only [apply]; split_ifs <;> exact Or.inl rfl
  | claim y v t =>
    simp only [apply]
    split_ifs with hy
    · exact Or.inl rfl
    · by_cases hxy : x = y
      · subst hxy
        exact Or.inr ⟨v, t, rfl, by simpa using hy, Function.update_self ..⟩
      · exact Or.inl (Function.update_of_ne hxy _ _)

lemma apply_value (r : Register κ ν τ) (e : Entry κ ν τ) (x : κ) :
    (r.apply e).value x = r.value x ∨
      r.value x = none ∧ ∃ v, (r.apply e).value x = v ∧
        ((∃ t, e = .claim x v t) ∨ e = .bare x v) := by
  cases e with
  | skip => exact Or.inl rfl
  | reset t => exact Or.inl rfl
  | claim y v t =>
    simp only [apply]
    split_ifs with hy
    · exact Or.inl rfl
    · by_cases hxy : x = y
      · subst hxy
        exact Or.inr ⟨by simpa using hy, v, Function.update_self .., Or.inl ⟨t, rfl⟩⟩
      · exact Or.inl (Function.update_of_ne hxy _ _)
  | bare y v =>
    simp only [apply]
    split_ifs with hy
    · exact Or.inl rfl
    · by_cases hxy : x = y
      · subst hxy
        exact Or.inr ⟨by simpa using hy, v, Function.update_self .., Or.inr rfl⟩
      · exact Or.inl (Function.update_of_ne hxy _ _)

lemma new_value (hnone : r.value x = none) (hx : ((r.apply e).value x).isSome) :
    ∃ v, (r.apply e).value x = v ∧
      ((∃ t, e = .claim x v t ∧ (r.apply e).stamp x = some t) ∨ e = .bare x v) := by
  rcases apply_value r e x with he | ⟨-, v, he, ⟨t, rfl⟩ | rfl⟩
  · rw [he, hnone] at hx
    exact absurd hx Bool.false_ne_true
  · exact ⟨v, he, Or.inl ⟨t, rfl, by simp [apply, hnone]⟩⟩
  · exact ⟨v, he, Or.inr rfl⟩

lemma eq_of_new_value {y : κ} (hx : r.value x = none)
    (hy : r.value y = none) (hx' : ((r.apply e).value x).isSome)
    (hy' : ((r.apply e).value y).isSome) : x = y := by
  obtain ⟨v, -, ⟨t, rfl, -⟩ | rfl⟩ := new_value hx hx' <;>
    obtain ⟨w, -, ⟨u, h, -⟩ | h⟩ := new_value hy hy'
  · exact (Entry.claim.inj h).1
  · exact absurd h (by simp)
  · exact absurd h (by simp)
  · exact (Entry.bare.inj h).1

section Order

variable [LinearOrder τ]

/-- The stamps are in order: every value has one, no two keys share one, none is past the
counter. -/
structure Ordered (r : Register κ ν τ) : Prop where
  stamped : ∀ x, (r.value x).isSome → (r.stamp x).isSome
  injective : ∀ x y t, r.stamp x = some t → r.stamp y = some t → x = y
  bounded : ∀ x t, r.stamp x = some t → t ≤ r.last

/-- What keeps them in order: a claim is stamped past the counter, the counter is not wound back,
and a value comes with a stamp or finds one. -/
def Orderly (r : Register κ ν τ) : Entry κ ν τ → Prop
  | .skip => True
  | .claim _ _ t => r.last < t
  | .bare x v => v = none ∨ (r.value x).isSome ∨ (r.stamp x).isSome
  | .reset t => r.last ≤ t

variable {r : Register κ ν τ}

variable {e : Entry κ ν τ} {x : κ}

lemma last_le_apply (h : r.Orderly e) : r.last ≤ (r.apply e).last := by
  cases e with
  | skip => exact le_rfl
  | reset t => exact h
  | claim x v t => simp only [apply]; split_ifs <;> exact le_of_lt h
  | bare x v => simp only [apply]; split_ifs <;> exact le_rfl

lemma last_lt_of_new_stamp (h : r.Orderly e) {t : τ}
    (ht : (r.apply e).stamp x = some t) (hnew : r.stamp x ≠ some t) : r.last < t := by
  rcases apply_stamp r e x with hs | ⟨v, t', rfl, -, hs⟩
  · exact absurd (hs ▸ ht) hnew
  · obtain rfl := Option.some.inj (hs.symm.trans ht)
    exact h

lemma stamped_apply (h : r.Orderly e) (hr : ∀ x, (r.value x).isSome → (r.stamp x).isSome)
    (hx : ((r.apply e).value x).isSome) : ((r.apply e).stamp x).isSome := by
  by_cases hv : (r.value x).isSome
  · rw [(apply_kept r e hv).2]
    exact hr x hv
  · rcases apply_value r e x with he | ⟨hn, v, he, ⟨t, rfl⟩ | rfl⟩
    · exact absurd (he ▸ hx) hv
    · simp [apply, hn]
    · -- a bare value found a stamp: there is a value, and the key had none
      have hv' : v ≠ none := Option.isSome_iff_ne_none.mp (he ▸ hx)
      have hs : (r.stamp x).isSome := (h.resolve_left hv').resolve_left hv
      simpa [apply, hn] using hs

/-- Every entry that meets `Orderly` keeps the register in order. -/
theorem Ordered.apply (hr : r.Ordered) (h : r.Orderly e) :
    (r.apply e).Ordered := by
  refine ⟨fun x hx => stamped_apply h hr.stamped hx, fun x y t htx hty => ?_, fun x t ht => ?_⟩
  · -- a new stamp is past the counter, so no other key has it
    by_cases hx : r.stamp x = some t <;> by_cases hy : r.stamp y = some t
    · exact hr.injective x y t hx hy
    · exact absurd (hr.bounded x t hx) (not_le.mpr (last_lt_of_new_stamp h hty hy))
    · exact absurd (hr.bounded y t hy) (not_le.mpr (last_lt_of_new_stamp h htx hx))
    · rcases apply_stamp r e x with hsx | ⟨v, t', rfl, -⟩
      · exact absurd (hsx ▸ htx) hx
      rcases apply_stamp r (.claim x v t') y with hsy | ⟨_, _, he, -⟩
      · exact absurd (hsy ▸ hty) hy
      · exact (Entry.claim.inj he).1
  · by_cases hx : r.stamp x = some t
    · exact (hr.bounded x t hx).trans (last_le_apply h)
    · rcases apply_stamp r e x with hs | ⟨v, t', rfl, hv, hs⟩
      · exact absurd (hs ▸ ht) hx
      · obtain rfl := Option.some.inj (hs.symm.trans ht)
        simp [Register.apply, hv]

end Order

end Register

end Lib
