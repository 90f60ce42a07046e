import Mathlib

/-!
# Computations that may panic

`Checked α` is what a computation comes to that indexes, slices and unwraps: a value, or the panic
it ended in.  `Ensures x P` says that `x` does not panic and that what it returns meets `P`, with
one rule for each way to build a computation.
-/

namespace Lib

inductive Panic
  | index
  | slice
  | expect (message : String)
deriving DecidableEq, Repr

abbrev Checked (α : Type*) := Except Panic α

namespace Checked

universe u

variable {α β : Type u}

def index (l : List α) (i : ℕ) : Checked α :=
  match l[i]? with
  | some a => .ok a
  | none => .error .index

def slice (l : List α) (i j : ℕ) : Checked (List α) :=
  if i ≤ j ∧ j ≤ l.length then .ok ((l.drop i).take (j - i)) else .error .slice

def expect (o : Option α) (message : String) : Checked α :=
  match o with
  | some a => .ok a
  | none => .error (.expect message)

variable {o : Option α} {message : String} {a : α} {x : Checked α} {f : α → Checked β}
  {P : α → Prop} {Q : β → Prop}

lemma expect_eq_ok_iff :
    expect o message = .ok a ↔ o = some a := by
  cases o <;> simp [expect]

def Ensures (x : Checked α) (P : α → Prop) : Prop := ∃ a, x = .ok a ∧ P a

lemma ensures_pure (h : P a) : Ensures (pure a) P := ⟨a, rfl, h⟩

lemma Ensures.bind (hx : Ensures x P) (hf : ∀ a, P a → Ensures (f a) Q) :
    Ensures (x >>= f) Q := by
  obtain ⟨a, rfl, ha⟩ := hx
  exact hf a ha

lemma Ensures.self (h : Ensures x P) : Ensures x fun a => x = .ok a := by
  obtain ⟨a, ha, -⟩ := h
  exact ⟨a, ha, ha⟩

lemma ensures_ite {c : Prop} [Decidable c] {y : Checked α} (hx : c → Ensures x P)
    (hy : ¬ c → Ensures y P) : Ensures (if c then x else y) P := by
  split_ifs with h
  · exact hx h
  · exact hy h

variable {l : List α} {i j : ℕ}

lemma ensures_index (h : i < l.length) :
    Ensures (index l i) fun _ => True := by
  refine ⟨l[i], ?_, trivial⟩
  rw [index, List.getElem?_eq_getElem h]

lemma length_of_slice {s : List α} (h : slice l i j = .ok s) : s.length = j - i := by
  unfold slice at h
  split_ifs at h with hij
  obtain rfl := Except.ok.inj h
  rw [List.length_take, List.length_drop]
  omega

lemma ensures_slice (hij : i ≤ j) (hj : j ≤ l.length) :
    Ensures (slice l i j) fun s => s.length = j - i := by
  have h : slice l i j = .ok ((l.drop i).take (j - i)) := if_pos ⟨hij, hj⟩
  exact ⟨_, h, length_of_slice h⟩

lemma ensures_pure_iff : Ensures (pure a) P ↔ P a :=
  ⟨fun ⟨_, hb, h⟩ => Except.ok.inj hb ▸ h, ensures_pure⟩

lemma ensures_congr {Q : α → Prop} (h : ∀ a, x = .ok a → (P a ↔ Q a)) :
    Ensures x P ↔ Ensures x Q :=
  exists_congr fun a => and_congr_right (h a)

lemma ensures_bind_iff : Ensures (x >>= f) Q ↔ Ensures x fun a => Ensures (f a) Q := by
  cases x with
  | error p => exact iff_of_false (fun ⟨_, h, _⟩ => nomatch h) fun ⟨_, h, _⟩ => nomatch h
  | ok a => exact ⟨fun h => ⟨a, rfl, h⟩, fun ⟨_, hb, h⟩ => Except.ok.inj hb ▸ h⟩

lemma ensures_bind_pure_iff {f : α → β} :
    Ensures (x >>= fun a => pure (f a)) (fun _ => True) ↔ Ensures x fun _ => True := by
  simp only [ensures_bind_iff, ensures_pure_iff]

lemma ensures_expect_iff :
    Ensures (expect o message) P ↔ ∃ a, o = some a ∧ P a := by
  simp only [Ensures, expect_eq_ok_iff]

lemma ensures_mapM_iff :
    Ensures (l.mapM f) (fun _ => True) ↔ ∀ a ∈ l, Ensures (f a) fun _ => True := by
  induction l with
  | nil => exact iff_of_true (ensures_pure trivial) (by simp)
  | cons a l ih =>
    rw [List.mapM_cons, ensures_bind_iff, List.forall_mem_cons, ← ih]
    simp only [ensures_bind_iff, ensures_pure_iff]
    constructor
    · rintro ⟨b, hb, h⟩
      exact ⟨⟨b, hb, trivial⟩, h⟩
    · rintro ⟨⟨b, hb, -⟩, h⟩
      exact ⟨b, hb, h⟩

lemma not_ensures_expect_none : ¬ Ensures (expect none message >>= f) Q := by
  rintro ⟨b, hb, -⟩
  cases hb

end Checked

/-! ## Errors that are returned -/

section Fallible

variable {ε : Type*} {α β : Type*}

def okOr (o : Option α) (e : ε) : Except ε α :=
  match o with
  | some a => .ok a
  | none => .error e

def ensure (c : Bool) (e : ε) : Except ε Unit := if c then .ok () else .error e

lemma bind_eq_ok_iff {α β : Type} {x : Except ε α} {f : α → Except ε β} {b : β} :
    (x >>= f) = .ok b ↔ ∃ a, x = .ok a ∧ f a = .ok b := by
  cases x with
  | error e => simp [bind, Except.bind]
  | ok a => simp [bind, Except.bind]

lemma okOr_eq_ok_iff {o : Option α} {e : ε} {a : α} : okOr o e = .ok a ↔ o = some a := by
  cases o <;> simp [okOr]

lemma ensure_eq_ok_iff {c : Bool} {e : ε} {u : Unit} : ensure c e = .ok u ↔ c = true := by
  cases c <;> simp [ensure]

lemma mapError_eq_ok_iff {ε' : Type*} {f : ε → ε'} {x : Except ε α} {a : α} :
    x.mapError f = .ok a ↔ x = .ok a := by
  cases x <;> simp [Except.mapError]

lemma mapM_eq_ok_iff {α β : Type} {f : α → Except ε β} {l : List α} {bs : List β} :
    l.mapM f = .ok bs ↔ List.Forall₂ (fun a b => f a = .ok b) l bs := by
  induction l generalizing bs with
  | nil =>
    rw [List.mapM_nil, List.forall₂_nil_left_iff]
    exact ⟨fun h => (Except.ok.inj h).symm, fun h => h ▸ rfl⟩
  | cons a l ih =>
    rw [List.mapM_cons, bind_eq_ok_iff]
    constructor
    · rintro ⟨b, hb, h⟩
      obtain ⟨bs', hbs', h⟩ := bind_eq_ok_iff.mp h
      obtain rfl := Except.ok.inj h
      exact .cons hb (ih.mp hbs')
    · rintro (_ | ⟨hb, hbs⟩)
      exact ⟨_, hb, bind_eq_ok_iff.mpr ⟨_, ih.mpr hbs, rfl⟩⟩

lemma exists_mem_of_mapM_eq_ok {α β : Type} {f : α → Except ε β} {l : List α} {bs : List β}
    (h : l.mapM f = .ok bs) {a : α} (ha : a ∈ l) : ∃ b ∈ bs, f a = .ok b := by
  have hall := mapM_eq_ok_iff.mp h
  clear h
  induction hall with
  | nil => cases ha
  | cons hb _ ih =>
    rcases List.mem_cons.mp ha with rfl | ha
    · exact ⟨_, List.mem_cons_self, hb⟩
    · obtain ⟨b, hmem, hb⟩ := ih ha
      exact ⟨b, List.mem_cons_of_mem _ hmem, hb⟩

end Fallible

end Lib
