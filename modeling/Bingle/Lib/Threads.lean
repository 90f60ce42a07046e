import Bingle.Lib.Run

/-!
# Threads over a shared state

A step of a thread's code is atomic: it looks at the state and at an answer from outside, writes to
the state at most once, and goes on with what it saw.

* `Code` — the code of a thread, a monad.
* `Threads.step` — a thread starts, or one of those that run takes its next step.
* `always_shared_iff` — **the rule**: a property of the state holds throughout exactly when every
  write that is made keeps it.
-/

namespace Lib

/-- Code over a state `σ`, with writes `α` and answers `ι` from outside, which returns a `ρ`. -/
inductive Code (σ α ι ρ : Type) : Type
  | ret (r : ρ)
  | step (write : σ → ι → Option α) (next : σ → ι → Code σ α ι ρ)

namespace Code

variable {σ α ι ρ τ : Type}

def bind : Code σ α ι ρ → (ρ → Code σ α ι τ) → Code σ α ι τ
  | .ret r, k => k r
  | .step write next, k => .step write fun s i => (next s i).bind k

instance : Monad (Code σ α ι) where
  pure := .ret
  bind := .bind

lemma bind_bind {υ : Type} (c : Code σ α ι ρ) (k : ρ → Code σ α ι τ) (l : τ → Code σ α ι υ) :
    c >>= k >>= l = c >>= fun r => k r >>= l := by
  induction c with
  | ret r => rfl
  | step write next ih => exact congrArg (Code.step write) (funext fun s => funext fun i => ih s i)

def write (a : α) : Code σ α ι Unit := .step (fun _ _ => some a) fun _ _ => .ret ()

def look (f : σ → ι → ρ) : Code σ α ι ρ := .step (fun _ _ => none) fun s i => .ret (f s i)

def update (f : σ → ι → Option α × ρ) : Code σ α ι ρ :=
  .step (fun s i => (f s i).1) fun s i => .ret (f s i).2

/-- What has to hold before code that runs alone, whatever the answers, for it to end with `Q`. -/
def wp (apply : σ → α → σ) : Code σ α ι ρ → (σ → ρ → Prop) → σ → Prop
  | .ret r, Q, s => Q s r
  | .step write next, Q, s => ∀ i, (next s i).wp apply Q ((write s i).elim s (apply s))

section Wp

variable {apply : σ → α → σ} {Q : σ → ρ → Prop} {s : σ}

@[simp] lemma wp_pure (r : ρ) : (pure r : Code σ α ι ρ).wp apply Q s ↔ Q s r := Iff.rfl

@[simp] lemma wp_bind (c : Code σ α ι τ) (k : τ → Code σ α ι ρ) :
    (c >>= k).wp apply Q s ↔ c.wp apply (fun s t => (k t).wp apply Q s) s := by
  induction c generalizing s with
  | ret t => exact Iff.rfl
  | step write next ih => exact forall_congr' fun i => ih s i

@[simp] lemma wp_write [Nonempty ι] (a : α) (Q : σ → Unit → Prop) :
    (write a : Code σ α ι Unit).wp apply Q s ↔ Q (apply s a) () :=
  forall_const ι

@[simp] lemma wp_look (f : σ → ι → ρ) :
    (look f : Code σ α ι ρ).wp apply Q s ↔ ∀ i, Q s (f s i) := Iff.rfl

@[simp] lemma wp_update (f : σ → ι → Option α × ρ) :
    (update f).wp apply Q s ↔ ∀ i, Q ((f s i).1.elim s (apply s)) (f s i).2 := Iff.rfl

lemma wp_ite (p : Prop) [Decidable p] (c d : Code σ α ι ρ) :
    (if p then c else d).wp apply Q s ↔ if p then c.wp apply Q s else d.wp apply Q s := by
  split_ifs <;> exact Iff.rfl

end Wp

structure Outcome (σ α ι ρ : Type) where
  state : σ
  writes : List α
  result : ρ
  answers : ℕ → ι

def exec (apply : σ → α → σ) : Code σ α ι ρ → σ → (ℕ → ι) → Outcome σ α ι ρ
  | .ret r, s, answers => ⟨s, [], r, answers⟩
  | .step write next, s, answers =>
    let o := (next s (answers 0)).exec apply ((write s (answers 0)).elim s (apply s))
      fun n => answers (n + 1)
    { o with writes := (write s (answers 0)).toList ++ o.writes }

section Exec

variable (apply : σ → α → σ) (s : σ) (answers : ℕ → ι)

lemma exec_bind (c : Code σ α ι τ) (k : τ → Code σ α ι ρ) :
    (c >>= k).exec apply s answers =
      let o := c.exec apply s answers
      let o' := (k o.result).exec apply o.state o.answers
      { o' with writes := o.writes ++ o'.writes } := by
  induction c generalizing s answers with
  | ret t => rfl
  | step write next ih =>
    have hnext := ih s (answers 0) ((write s (answers 0)).elim s (apply s))
      fun n => answers (n + 1)
    change exec apply (.step write fun s i => next s i >>= k) s answers = _
    simp only [exec, hnext, List.append_assoc]

end Exec

/-- Every write that the code can make meets `P`, whatever comes between its steps. -/
def Writes (P : α → Prop) : Code σ α ι ρ → Prop
  | .ret _ => True
  | .step write next => ∀ s i, (∀ a ∈ write s i, P a) ∧ (next s i).Writes P

section Writes

variable {P : α → Prop}

lemma writes_pure (r : ρ) : (pure r : Code σ α ι ρ).Writes P := trivial

lemma Writes.bind {c : Code σ α ι τ} {k : τ → Code σ α ι ρ} (hc : c.Writes P)
    (hk : ∀ t, (k t).Writes P) : (c >>= k).Writes P := by
  induction c with
  | ret t => exact hk t
  | step write next ih => exact fun s i => ⟨(hc s i).1, ih s i (hc s i).2⟩

lemma writes_write {a : α} (h : P a) : (write a : Code σ α ι Unit).Writes P :=
  fun _ _ => ⟨fun _ hb => Option.some.inj hb ▸ h, trivial⟩

lemma writes_look (f : σ → ι → ρ) : (look f : Code σ α ι ρ).Writes P :=
  fun _ _ => ⟨by simp, trivial⟩

lemma writes_update {f : σ → ι → Option α × ρ} (h : ∀ s i, ∀ a ∈ (f s i).1, P a) :
    (update f).Writes P := fun s i => ⟨h s i, trivial⟩

lemma writes_ite {p : Prop} [Decidable p] {c d : Code σ α ι ρ} (hc : c.Writes P)
    (hd : d.Writes P) : (if p then c else d).Writes P := by
  split_ifs
  · exact hc
  · exact hd

lemma Writes.mono {Q : α → Prop} {c : Code σ α ι ρ} (h : c.Writes P) (hPQ : ∀ a, P a → Q a) :
    c.Writes Q := by
  induction c with
  | ret r => trivial
  | step write next ih =>
    exact fun s i => ⟨fun a ha => hPQ a ((h s i).1 a ha), ih s i (h s i).2⟩

end Writes

def returned : Code σ α ι ρ → Bool
  | .ret _ => true
  | .step _ _ => false

end Code

structure Threads (σ α ι : Type) where
  shared : σ
  threads : List (Code σ α ι Unit) := []

namespace Threads

variable {σ α ι κ : Type}

inductive Event (κ ι : Type)
  | start (k : κ)
  | go (thread : ℕ) (answer : ι)
deriving DecidableEq, Repr

def write? (s : Threads σ α ι) : Event κ ι → Option α
  | .start _ => none
  | .go n i =>
    match s.threads[n]? with
    | some (.step write _) => write s.shared i
    | _ => none

variable (apply : σ → α → σ) (code : κ → Code σ α ι Unit)

def step (s : Threads σ α ι) : Event κ ι → Threads σ α ι
  | .start k => { s with threads := s.threads ++ [code k] }
  | .go n i =>
    match s.threads[n]? with
    | some (.step write next) =>
      { shared := (write s.shared i).elim s.shared (apply s.shared)
        threads := s.threads.set n (next s.shared i) }
    | _ => s

lemma shared_step (s : Threads σ α ι) (e : Event κ ι) :
    (s.step apply code e).shared = (s.write? e).elim s.shared (apply s.shared) := by
  cases e with
  | start k => rfl
  | go n i =>
    simp only [step, write?]
    split <;> rfl

variable {s : Threads σ α ι} {n : ℕ}

/-- **The rule.**  Where a write keeps a property of the state exactly when it meets `P`, the
property holds throughout exactly when every write that is made meets `P`. -/
theorem always_shared_iff {I : σ → Prop} {P : σ → α → Prop}
    (hwrite : ∀ s a, I s → (I (apply s a) ↔ P s a)) {es : List (Event κ ι)} (h0 : I s.shared) :
    Always (step apply code) (fun s => I s.shared) s es ↔
      Along (step apply code) (fun s e => ∀ a ∈ s.write? e, P s.shared a) s es := by
  refine always_iff_along (fun s e hI => ?_) h0
  rw [shared_step]
  cases hw : s.write? e with
  | none => simpa using hI
  | some a => simpa using hwrite s.shared a hI

/-- **A thread that nobody comes between** ends with what it ends with alone. -/
theorem wp_shared {Q : σ → Unit → Prop} {c : Code σ α ι Unit}
    (h : c.wp apply Q s.shared) (hn : s.threads[n]? = some c) (answers : List ι)
    (hret : (run (step apply code) s (answers.map (.go n))).threads[n]? = some (.ret ())) :
    Q (run (step apply code) s (answers.map (.go n))).shared () := by
  induction answers generalizing s c with
  | nil =>
    obtain rfl : c = .ret () := Option.some.inj (hn.symm.trans hret)
    exact h
  | cons i answers ih =>
    rw [List.map_cons, run_cons] at hret ⊢
    cases c with
    | ret r =>
      have hstay : s.step apply code (.go n i) = s := by simp only [step, hn]
      rw [hstay] at hret ⊢
      exact ih h hn hret
    | step write next =>
      have hnext : (s.step apply code (.go n i)).threads[n]? = some (next s.shared i) := by
        have hlt : n < s.threads.length := (List.getElem?_eq_some_iff.mp hn).1
        simp only [step, hn]
        exact List.getElem?_set_self hlt
      have hshared : (s.step apply code (.go n i)).shared =
          (write s.shared i).elim s.shared (apply s.shared) := by
        simp only [step, hn]
      refine ih ?_ hnext hret
      rw [hshared]
      exact h i

/-- The first part of a thread, with nobody between its steps, is as if it were run alone. -/
lemma run_bind {τ : Type} {c : Code σ α ι τ} {k : τ → Code σ α ι Unit}
    (hn : s.threads[n]? = some (c >>= k)) (answers : ℕ → ι) :
    ∃ l : List ι, run (step apply code) s (l.map (.go n)) =
      ⟨(c.exec apply s.shared answers).state,
        s.threads.set n (k (c.exec apply s.shared answers).result)⟩ := by
  obtain ⟨hlt, hget⟩ := List.getElem?_eq_some_iff.mp hn
  induction c generalizing s answers with
  | ret t =>
    refine ⟨[], ?_⟩
    have hsame : s.threads.set n (k t) = s.threads := by
      rw [← show s.threads[n] = k t from hget, List.set_getElem_self]
    rw [show (Code.exec apply (.ret t) s.shared answers).result = t from rfl, hsame]
    rfl
  | step write next ih =>
    have hstep : s.step apply code (.go n (answers 0)) =
        ⟨(write s.shared (answers 0)).elim s.shared (apply s.shared),
          s.threads.set n (next s.shared (answers 0) >>= k)⟩ := by
      have hn : s.threads[n]? = some (.step write fun s i => next s i >>= k) := hn
      simp only [step, hn]
    have hlt' : n < (s.step apply code (.go n (answers 0))).threads.length := by
      rw [hstep]
      simpa using hlt
    obtain ⟨l, hl⟩ := ih s.shared (answers 0) (s := s.step apply code (.go n (answers 0)))
      (by rw [hstep]; exact List.getElem?_set_self hlt) (fun j => answers (j + 1)) hlt'
      (by simp [hstep])
    refine ⟨answers 0 :: l, ?_⟩
    rw [List.map_cons, run_cons, hl, hstep, List.set_set]
    rfl

end Threads

end Lib
