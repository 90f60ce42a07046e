import Mathlib

/-!
# Runs of a step function

A system is given by `step : σ → ε → σ`.  An event that is refused leaves the state alone, so every
list of events is a run.

* `run` — the state a list of events ends in.
* `Along` — every event of the list meets a condition in the state it finds.
* `Always` — a property of every state the list passes through, the first and the last included.

`run_invariant` is the rule for safety, and `always_iff_along` its exact form.
-/

namespace Lib

variable {σ ε : Type*}

/-- The state after a list of events. -/
def run (step : σ → ε → σ) : σ → List ε → σ
  | s, [] => s
  | s, e :: es => run step (step s e) es

@[simp] lemma run_nil (step : σ → ε → σ) (s : σ) : run step s [] = s := rfl

@[simp] lemma run_cons (step : σ → ε → σ) (s : σ) (e : ε) (es : List ε) :
    run step s (e :: es) = run step (step s e) es := rfl

lemma run_append (step : σ → ε → σ) (s : σ) (es fs : List ε) :
    run step s (es ++ fs) = run step (run step s es) fs := by
  induction es generalizing s with
  | nil => rfl
  | cons e es ih => exact ih (step s e)

/-- Every event of the list meets `P` in the state it finds. -/
def Along (step : σ → ε → σ) (P : σ → ε → Prop) : σ → List ε → Prop
  | _, [] => True
  | s, e :: es => P s e ∧ Along step P (step s e) es

instance Along.decidable (step : σ → ε → σ) (P : σ → ε → Prop) [∀ s e, Decidable (P s e)] :
    ∀ (s : σ) (es : List ε), Decidable (Along step P s es)
  | _, [] => isTrue trivial
  | s, e :: es =>
    have := Along.decidable step P (step s e) es
    inferInstanceAs (Decidable (P s e ∧ Along step P (step s e) es))

@[simp] lemma along_nil (step : σ → ε → σ) (P : σ → ε → Prop) (s : σ) :
    Along step P s [] := trivial

@[simp] lemma along_cons (step : σ → ε → σ) (P : σ → ε → Prop) (s : σ) (e : ε) (es : List ε) :
    Along step P s (e :: es) ↔ P s e ∧ Along step P (step s e) es := Iff.rfl

lemma along_append (step : σ → ε → σ) (P : σ → ε → Prop) (s : σ) (es fs : List ε) :
    Along step P s (es ++ fs) ↔ Along step P s es ∧ Along step P (run step s es) fs := by
  induction es generalizing s with
  | nil => simp
  | cons e es ih => simp [ih, and_assoc]

variable {step : σ → ε → σ} {P Q : σ → ε → Prop} {I J : σ → Prop} {s : σ} {es : List ε}

lemma along_of_forall_mem {Q : ε → Prop} (hQ : ∀ e ∈ es, Q e) (s : σ) :
    Along step (fun _ e => Q e) s es := by
  induction es generalizing s with
  | nil => trivial
  | cons e es ih =>
    exact ⟨hQ e List.mem_cons_self, ih (fun e' he' => hQ e' (List.mem_cons_of_mem e he')) _⟩

lemma Along.and_mem {Q : ε → Prop} (h : Along step P s es) (hQ : ∀ e ∈ es, Q e) :
    Along step (fun s e => P s e ∧ Q e) s es := by
  induction es generalizing s with
  | nil => trivial
  | cons e es ih =>
    exact ⟨⟨h.1, hQ e List.mem_cons_self⟩,
      ih h.2 fun e' he' => hQ e' (List.mem_cons_of_mem e he')⟩

lemma Along.of_invariant (hstep : ∀ s e, I s → P s e → I (step s e))
    (hPQ : ∀ s e, I s → P s e → Q s e) (h0 : I s) (hP : Along step P s es) :
    Along step Q s es := by
  induction es generalizing s with
  | nil => trivial
  | cons e es ih => exact ⟨hPQ s e h0 hP.1, ih (hstep s e h0 hP.1) hP.2⟩

lemma along_congr (hstep : ∀ s e, I s → I (step s e)) (hPQ : ∀ s e, I s → (P s e ↔ Q s e))
    (h0 : I s) (es : List ε) : Along step P s es ↔ Along step Q s es := by
  induction es generalizing s with
  | nil => rfl
  | cons e es ih => rw [along_cons, along_cons, hPQ s e h0, ih (hstep s e h0)]

/-- `I` holds in every state the list passes through. -/
def Always (step : σ → ε → σ) (I : σ → Prop) : σ → List ε → Prop
  | s, [] => I s
  | s, e :: es => I s ∧ Always step I (step s e) es

@[simp] lemma always_nil (step : σ → ε → σ) (I : σ → Prop) (s : σ) :
    Always step I s [] ↔ I s := Iff.rfl

@[simp] lemma always_cons (step : σ → ε → σ) (I : σ → Prop) (s : σ) (e : ε) (es : List ε) :
    Always step I s (e :: es) ↔ I s ∧ Always step I (step s e) es := Iff.rfl

lemma always_append (step : σ → ε → σ) (I : σ → Prop) (s : σ) (es fs : List ε) :
    Always step I s (es ++ fs) ↔ Always step I s es ∧ Always step I (run step s es) fs := by
  induction es generalizing s with
  | nil =>
    rw [List.nil_append, always_nil, run_nil]
    exact (and_iff_right_of_imp fun h => by cases fs <;> [exact h; exact h.1]).symm
  | cons e es ih => rw [List.cons_append, always_cons, ih, always_cons, run_cons, and_assoc]

lemma Always.mono (hIJ : ∀ s, I s → J s) {s : σ} {es : List ε} (h : Always step I s es) :
    Always step J s es := by
  induction es generalizing s with
  | nil => exact hIJ s h
  | cons e es ih => exact ⟨hIJ s h.1, ih h.2⟩

lemma always_iff_prefix (step : σ → ε → σ) (I : σ → Prop) (s : σ) (es : List ε) :
    Always step I s es ↔ ∀ fs, fs <+: es → I (run step s fs) := by
  induction es generalizing s with
  | nil => simp
  | cons e es ih =>
    rw [always_cons, ih]
    constructor
    · rintro ⟨h0, h⟩ fs hfs
      cases fs with
      | nil => exact h0
      | cons f fs =>
        obtain ⟨rfl, hfs'⟩ := List.cons_prefix_cons.mp hfs
        exact h fs hfs'
    · intro h
      refine ⟨h [] (List.nil_prefix), fun fs hfs => ?_⟩
      exact h (e :: fs) (List.cons_prefix_cons.mpr ⟨rfl, hfs⟩)

/-- **Safety.**  What holds in the first state and is kept by every step that meets the condition
holds in the last state of every run whose steps all meet it. -/
theorem run_invariant (hstep : ∀ s e, I s → P s e → I (step s e)) (h0 : I s)
    (hP : Along step P s es) : I (run step s es) := by
  induction es generalizing s with
  | nil => exact h0
  | cons e es ih => exact ih (hstep s e h0 hP.1) hP.2

theorem always_of_along (hstep : ∀ s e, I s → P s e → I (step s e)) (h0 : I s)
    (hP : Along step P s es) : Always step I s es := by
  induction es generalizing s with
  | nil => exact h0
  | cons e es ih => exact ⟨h0, ih (hstep s e h0 hP.1) hP.2⟩

/-- The exact form along lists that meet another condition, where what tells whether one step keeps
`J` is a stronger invariant, which every step that meets `P` keeps. -/
theorem always_iff_along_given {F : σ → ε → Prop}
    (hstep : ∀ s e, I s → F s e → (J (step s e) ↔ P s e))
    (hkeep : ∀ s e, I s → F s e → P s e → I (step s e)) (hIJ : ∀ s, I s → J s) (h0 : I s)
    (hF : Along step F s es) : Always step J s es ↔ Along step P s es := by
  induction es generalizing s with
  | nil => simp [hIJ s h0]
  | cons e es ih =>
    obtain ⟨hf, hF⟩ := hF
    rw [always_cons, along_cons]
    constructor
    · rintro ⟨_, h⟩
      have hJ : J (step s e) := by cases es <;> [exact h; exact h.1]
      have hp : P s e := (hstep s e h0 hf).mp hJ
      exact ⟨hp, (ih (hkeep s e h0 hf hp) hF).mp h⟩
    · rintro ⟨hp, h⟩
      exact ⟨hIJ s h0, (ih (hkeep s e h0 hf hp) hF).mpr h⟩

theorem always_iff_along_within (hstep : ∀ s e, I s → (J (step s e) ↔ P s e))
    (hkeep : ∀ s e, I s → P s e → I (step s e)) (hIJ : ∀ s, I s → J s) (h0 : I s) :
    Always step J s es ↔ Along step P s es :=
  always_iff_along_given (fun s e hI _ => hstep s e hI) (fun s e hI _ => hkeep s e hI) hIJ h0
    (along_of_forall_mem (fun _ _ => trivial) s : Along step (fun _ _ => True) s es)

/-- **The exact form.**  Where one step keeps `I` exactly when it meets `P`, a run stays inside
`I` exactly when all its steps meet `P`. -/
theorem always_iff_along (hstep : ∀ s e, I s → (I (step s e) ↔ P s e)) (h0 : I s) :
    Always step I s es ↔ Along step P s es :=
  always_iff_along_within hstep (fun s e hI hp => (hstep s e hI).mpr hp) (fun _ => id) h0

lemma Along.related {R : σ → σ → Prop} (hrefl : ∀ s, R s s)
    (htrans : ∀ s t u, R s t → R t u → R s u) (hstep : ∀ s e, P s e → R s (step s e))
    (h : Along step P s es) : R s (run step s es) := by
  induction es generalizing s with
  | nil => exact hrefl s
  | cons e es ih => exact htrans _ _ _ (hstep s e h.1) (ih h.2)

/-- **What lasts.**  Where a step that meets `P` keeps what `R` says is kept, and one that does not
leaves a state that no other keeps both of, every state of a run is kept to its end exactly when all
its steps meet `P`. -/
theorem kept_iff_along {R : σ → σ → Prop} (hrefl : ∀ s, R s s)
    (htrans : ∀ s t u, R s t → R t u → R s u) (hstep : ∀ s e, P s e → R s (step s e))
    (hlost : ∀ s e, ¬ P s e → ∀ t, R s t → ¬ R (step s e) t) :
    (∀ fs gs, es = fs ++ gs → R (run step s fs) (run step s es)) ↔ Along step P s es := by
  constructor
  · intro h
    induction es generalizing s with
    | nil => trivial
    | cons e es ih =>
      have hfirst : R s (run step s (e :: es)) := h [] (e :: es) rfl
      have hsecond : R (step s e) (run step s (e :: es)) := h [e] es rfl
      refine ⟨by_contra fun hP => hlost s e hP _ hfirst hsecond, ih fun fs gs heq => ?_⟩
      exact h (e :: fs) gs (congrArg (e :: ·) heq)
  · rintro h fs gs rfl
    rw [run_append]
    exact ((along_append step P s fs gs).mp h).2.related hrefl htrans hstep

end Lib
