import Bingle.Mutex.Grants

/-!
# How long a recorded lease runs

A node that grants a request records its holder, with a deadline, which a retry of the request
keeps.  A retry that is not granted is put off, though; then the next release grants it once more
with a new deadline.
-/

namespace Bingle.Mutex

open List Option
open Lib (Along)

/-! ## The queue of deferred requests -/

lemma before_irrefl (a : ℤ × NodeId) : before a a = false := by
  simp [before]

variable {a b r : ℤ × NodeId}

lemma before_trans {c : ℤ × NodeId} (hab : before a b = true) (hbc : before b c = true) :
    before a c = true := by
  simp only [before, decide_eq_true_eq] at hab hbc ⊢
  rcases hab with hab | ⟨hab, hab'⟩ <;> rcases hbc with hbc | ⟨hbc, hbc'⟩
  · exact .inl (hab.trans hbc)
  · exact .inl (hbc ▸ hab)
  · exact .inl (hab ▸ hbc)
  · exact .inr ⟨hab.trans hbc, hab'.trans hbc'⟩

lemma before_of_not_before (hne : a ≠ b) (h : ¬ before a b = true) :
    before b a = true := by
  simp only [before, decide_eq_true_eq, not_or, not_lt, not_and] at h ⊢
  rcases h.1.lt_or_eq with hlt | heq
  · exact .inl hlt
  · refine .inr ⟨heq, lt_of_le_of_ne (h.2 heq.symm) fun hid => hne ?_⟩
    exact Prod.ext heq.symm hid.symm

def Ordered (rs : List (ℤ × NodeId)) : Prop := rs.Pairwise fun a b => before a b = true

lemma Ordered.notMem {rest : List (ℤ × NodeId)} (h : Ordered (r :: rest)) :
    r ∉ rest := by
  intro hr
  have hbefore := (pairwise_cons.mp h).1 r hr
  rw [before_irrefl] at hbefore
  exact absurd hbefore Bool.false_ne_true

lemma Ordered.insertDeferred {rs : List (ℤ × NodeId)} (h : Ordered rs) :
    Ordered (insertDeferred r rs) := by
  induction rs with
  | nil => exact pairwise_singleton _ r
  | cons q rest ih =>
    obtain ⟨hq, hrest⟩ := pairwise_cons.mp h
    unfold Mutex.insertDeferred
    split_ifs with hrq hbefore
    · exact h
    · refine pairwise_cons.mpr ⟨fun x hx => ?_, h⟩
      rcases mem_cons.mp hx with rfl | hx
      · exact hbefore
      · exact before_trans hbefore (hq x hx)
    · refine pairwise_cons.mpr ⟨fun x hx => ?_, ih hrest⟩
      rcases mem_insertDeferred.mp hx with rfl | hx
      · exact before_of_not_before hrq hbefore
      · exact hq x hx

/-! ## What each section does to the lease -/

namespace Inner

def KeepsLease (st st' : Inner) : Prop :=
  ∀ h ∈ st.lastHolder, ∀ h' ∈ st'.lastHolder, h'.id = h.id → h'.ts = h.ts → h'.deadline = h.deadline

instance (st st' : Inner) : Decidable (st.KeepsLease st') :=
  inferInstanceAs (Decidable (∀ h ∈ st.lastHolder, _))

structure Unqueued (selfId : NodeId) (st : Inner) : Prop where
  ordered : Ordered st.deferred
  unqueued : ∀ h ∈ st.lastHolder, (h.ts, h.id) ∉ st.deferred
  others : ∀ r ∈ st.deferred, r.2 ≠ selfId
  outside : st.inCs = false → ∀ h ∈ st.lastHolder, h.id ≠ selfId

variable {st st' : Inner} {selfId fromId : NodeId} {leaseDuration now : ℕ}

lemma keepsLease_of_eq (h : st'.lastHolder = st.lastHolder) : st.KeepsLease st' := by
  intro x hx y hy _ _
  rw [h] at hy
  rw [mem_unique hx hy]

lemma Unqueued.forget (h : st.Unqueued selfId) (hdeferred : st'.deferred.Sublist st.deferred)
    (hholder : ∀ x ∈ st'.lastHolder, x ∈ st.lastHolder) (hcs : st'.inCs = st.inCs) :
    st'.Unqueued selfId where
  ordered := h.ordered.sublist hdeferred
  unqueued x hx hmem := h.unqueued x (hholder x hx) (hdeferred.subset hmem)
  others r hr := h.others r (hdeferred.subset hr)
  outside hout x hx := h.outside (hcs ▸ hout) x (hholder x hx)

lemma Unqueued.defer (h : st.Unqueued selfId) {ts : ℤ} (hfrom : fromId ≠ selfId)
    (hnew : ∀ x ∈ st.lastHolder, (x.ts, x.id) ≠ (ts, fromId)) :
    (st.defer ts fromId).Unqueued selfId where
  ordered := h.ordered.insertDeferred
  unqueued x hx hmem := by
    rcases mem_insertDeferred.mp hmem with heq | hmem
    · exact hnew x hx heq
    · exact h.unqueued x hx hmem
  others r hr := by
    rcases mem_insertDeferred.mp hr with rfl | hr
    · exact hfrom
    · exact h.others r hr
  outside := h.outside

lemma Unqueued.grant (h : st.Unqueued selfId) {ts : ℤ} (hfrom : fromId ≠ selfId) :
    (st.grant leaseDuration now ts fromId).Unqueued selfId where
  ordered := h.ordered.filter _
  unqueued x hx hmem := by
    obtain rfl := some.inj hx
    simpa using of_mem_filter hmem
  others r hr := h.others r (mem_of_mem_filter hr)
  outside _ x hx := by
    obtain rfl := some.inj hx
    exact hfrom

lemma keepsLease_grant (ts : ℤ) : st.KeepsLease (st.grant leaseDuration now ts fromId) := by
  intro x hx y hy hid hts
  obtain rfl := some.inj hy
  rw [mem_def] at hx
  simp only [hx]
  exact if_pos ⟨hid.symm, hts.symm⟩

lemma Unqueued.grantDeferred (h : st.Unqueued selfId) (st₁ : Inner)
    (hdeferred : st₁.deferred = st.deferred) (hholder : ∀ x ∈ st₁.lastHolder, x ∈ st.lastHolder)
    (hout : st₁.inCs = false → ∀ x ∈ st₁.lastHolder, x.id ≠ selfId) :
    (st₁.grantDeferred selfId leaseDuration now).1.Unqueued selfId ∧
      st.KeepsLease (st₁.grantDeferred selfId leaseDuration now).1 := by
  unfold Inner.grantDeferred
  cases hq : st₁.deferred with
  | nil =>
    refine ⟨⟨hdeferred ▸ h.ordered, ?_, hdeferred ▸ h.others, hout⟩, fun x hx y hy _ _ => ?_⟩
    · intro x hx
      rw [hdeferred]
      exact h.unqueued x (hholder x hx)
    · rw [mem_unique hx (hholder y hy)]
  | cons r rest =>
    rw [hq] at hdeferred
    have hsub : rest.Sublist st.deferred := hdeferred ▸ sublist_cons_self r rest
    have hr : r ∈ st.deferred := hdeferred ▸ mem_cons_self
    refine ⟨⟨h.ordered.sublist hsub, ?_, fun q hq => h.others q (hsub.subset hq), ?_⟩, ?_⟩
    · intro x hx
      obtain rfl := some.inj hx
      exact (hdeferred ▸ h.ordered : Ordered (r :: rest)).notMem
    · rintro - x hx
      obtain rfl := some.inj hx
      exact h.others r hr
    · intro x hx y hy hid hts
      obtain rfl := some.inj hy
      have heq : r = (x.ts, x.id) := Prod.ext hts hid
      exact absurd (heq ▸ hr) (h.unqueued x hx)

lemma Unqueued.handleRequest (h : st.Unqueued selfId) {ts : ℤ} {known : Option (Finset NodeId)}
    (hfrom : fromId ≠ selfId) (hretry : ∀ x ∈ st.lastHolder, x.id = fromId → x.ts = ts →
      st.inCs = false ∧ st.grantNow selfId ts fromId = true) :
    (st.handleRequest selfId leaseDuration now fromId ts known).1.Unqueued selfId ∧
      st.KeepsLease (st.handleRequest selfId leaseDuration now fromId ts known).1 := by
  have hup : ({ st with lamport := i64Add (max st.lamport ts) 1 }.updateMembership fromId
      known).Unqueued selfId := ⟨h.ordered, h.unqueued, h.others, h.outside⟩
  unfold Inner.handleRequest
  dsimp only
  split_ifs with hcs hheld hgrant
  · refine ⟨hup.defer hfrom fun x hx heq => ?_, keepsLease_of_eq rfl⟩
    obtain ⟨hts, hid⟩ := Prod.mk.inj heq
    exact absurd hcs (by simp [updateMembership, (hretry x hx hid hts).1])
  · refine ⟨hup.defer hfrom fun x hx heq => ?_, keepsLease_of_eq rfl⟩
    obtain ⟨-, hid⟩ := Prod.mk.inj heq
    -- a vote is held against others only
    rw [heldAgainst, show _ = some x from hx] at hheld
    exact absurd hid (of_decide_eq_true hheld).1
  · exact ⟨hup.grant hfrom, keepsLease_grant ts⟩
  · refine ⟨hup.defer hfrom fun x hx heq => ?_, keepsLease_of_eq rfl⟩
    obtain ⟨hts, hid⟩ := Prod.mk.inj heq
    exact absurd (hretry x hx hid hts).2 hgrant

lemma Unqueued.handleRelease (h : st.Unqueued selfId) (known : Option (Finset NodeId)) :
    (st.handleRelease selfId leaseDuration now fromId known).1.Unqueued selfId ∧
      st.KeepsLease (st.handleRelease selfId leaseDuration now fromId known).1 := by
  unfold Inner.handleRelease
  dsimp only
  split_ifs
  · exact h.grantDeferred { st.updateMembership fromId known with lastHolder := none } rfl
      (fun x hx => absurd hx (not_mem_none x))
      fun _ x hx => absurd hx (not_mem_none x)
  · exact h.grantDeferred (st.updateMembership fromId known) rfl (fun x hx => hx) h.outside

lemma Unqueued.leave (h : st.Unqueued selfId) :
    (st.leave selfId leaseDuration now).1.Unqueued selfId ∧
      st.KeepsLease (st.leave selfId leaseDuration now).1 := by
  have hgrant :
      (({ st with lastHolder := none, inCs := false } : Inner).grantDeferred selfId leaseDuration
        now).1.Unqueued selfId ∧
      st.KeepsLease (({ st with lastHolder := none, inCs := false } : Inner).grantDeferred selfId
        leaseDuration now).1 :=
    h.grantDeferred _ rfl (fun x hx => absurd hx (not_mem_none x))
      fun _ x hx => absurd hx (not_mem_none x)
  -- whom the vote goes to does not depend on being inside
  have hleave : (st.leave selfId leaseDuration now).1 =
      { (({ st with lastHolder := none, inCs := false } : Inner).grantDeferred selfId leaseDuration
          now).1 with currentRequestTs := none, acks := ∅ } := by
    unfold Inner.leave Inner.grantDeferred
    cases st.deferred <;> rfl
  rw [hleave]
  exact ⟨⟨hgrant.1.ordered, hgrant.1.unqueued, hgrant.1.others, hgrant.1.outside⟩, hgrant.2⟩

lemma Unqueued.enter (h : st.Unqueued selfId) (hcs : st.inCs = false) (ts : ℤ) :
    (st.enter selfId leaseDuration now ts).Unqueued selfId ∧
      st.KeepsLease (st.enter selfId leaseDuration now ts) := by
  refine ⟨⟨h.ordered, fun x hx hmem => ?_, h.others, fun hout => Bool.noConfusion hout⟩, ?_⟩
  · obtain rfl := some.inj hx
    exact h.others _ hmem rfl
  · intro x hx y hy hid _
    obtain rfl := some.inj hy
    exact absurd hid.symm (h.outside hcs x hx)

end Inner

/-! ## Every run -/

namespace Voter

variable (selfId : NodeId) (leaseDuration : ℕ)

def LeaseKept (v : Voter) (e : Event) : Prop :=
  v.inner.KeepsLease (v.step selfId leaseDuration e).inner

instance (v : Voter) (e : Event) : Decidable (v.LeaseKept selfId leaseDuration e) :=
  inferInstanceAs (Decidable (v.inner.KeepsLease _))

/-- A request is another node's; and where it is the recorded one again, the node is outside and has
no earlier request of its own, so that it is granted again. -/
def RetryGranted (v : Voter) : Event → Prop
  | .request fromId ts _ =>
    fromId ≠ selfId ∧ ∀ h ∈ v.inner.lastHolder, h.id = fromId → h.ts = ts →
      v.inner.inCs = false ∧ v.inner.grantNow selfId ts fromId = true
  | _ => True

instance (v : Voter) : ∀ e, Decidable (v.RetryGranted selfId e)
  | .request _ _ _ => inferInstanceAs (Decidable (_ ∧ ∀ h ∈ v.inner.lastHolder, _))
  | .reply _ _ _ | .release _ _ | .acquire | .enter | .leave | .prune _ | .tick _ => isTrue trivial

variable {selfId : NodeId} {leaseDuration : ℕ} {v : Voter}

lemma unqueued_step (h : v.inner.Unqueued selfId) {e : Event} (he : v.RetryGranted selfId e) :
    (v.step selfId leaseDuration e).inner.Unqueued selfId ∧ v.LeaseKept selfId leaseDuration e := by
  cases e with
  | request fromId ts known => exact h.handleRequest he.1 he.2
  | reply fromId tag known =>
    unfold LeaseKept step act Inner.handleReply
    dsimp only
    split_ifs
    · exact ⟨⟨h.ordered, h.unqueued, h.others, h.outside⟩, Inner.keepsLease_of_eq rfl⟩
    · exact ⟨⟨h.ordered, h.unqueued, h.others, h.outside⟩, Inner.keepsLease_of_eq rfl⟩
  | release fromId known => exact h.handleRelease known
  | acquire =>
    unfold LeaseKept step act
    dsimp only
    split_ifs
    · exact ⟨⟨h.ordered, h.unqueued, h.others, h.outside⟩, Inner.keepsLease_of_eq rfl⟩
    · exact ⟨h, Inner.keepsLease_of_eq rfl⟩
  | enter =>
    unfold LeaseKept step act
    dsimp only
    split
    · split_ifs with hcan
      · exact h.enter hcan.1 _
      · exact ⟨h, Inner.keepsLease_of_eq rfl⟩
    · exact ⟨h, Inner.keepsLease_of_eq rfl⟩
  | leave =>
    unfold LeaseKept step act
    dsimp only
    split_ifs
    · exact h.leave
    · exact ⟨h, Inner.keepsLease_of_eq rfl⟩
  | prune unreachable =>
    have hmem : ∀ x ∈ (v.inner.pruneUnreachable (unreachable.erase selfId)).lastHolder,
        x ∈ v.inner.lastHolder := fun x hx => (mem_filter_iff.mp hx).1
    refine ⟨h.forget filter_sublist hmem rfl, fun x hx y hy _ _ => ?_⟩
    rw [mem_unique hx (hmem y hy)]
  | tick d => exact ⟨h, Inner.keepsLease_of_eq rfl⟩

lemma unqueued_init (members : Finset NodeId) : (init selfId members).inner.Unqueued selfId where
  ordered := List.Pairwise.nil
  unqueued _ hx := absurd hx (not_mem_none _)
  others _ hr := absurd hr not_mem_nil
  outside _ _ hx := absurd hx (not_mem_none _)

/-- **Retries keep the lease.**  As long as a node's recorded holder is the same request its
deadline does not change, if every retry of that request finds the node outside and with no earlier
request of its own. -/
theorem retries_keep_lease (selfId : NodeId) (leaseDuration : ℕ) (members : Finset NodeId)
    (es : List Event)
    (hes : Along (step selfId leaseDuration) (RetryGranted selfId) (init selfId members) es) :
    Along (step selfId leaseDuration) (LeaseKept selfId leaseDuration) (init selfId members) es :=
  Lib.Along.of_invariant (I := fun v => v.inner.Unqueued selfId)
    (fun _ _ h he => (unqueued_step h he).1) (fun _ _ h he => (unqueued_step h he).2)
    (unqueued_init members) hes

/-- `x` is granted and retries; `y` is put off, granted on a release of `z`, and retries. -/
def retried : List Event :=
  [.request "x" 1 none, .tick 400, .request "x" 1 none, .request "y" 2 none, .release "z" none,
    .tick 400, .request "y" 2 none, .release "x" none]

theorem retried_keeps_lease :
    Along (step "n" 1000) (LeaseKept "n" 1000) (init "n" {"x", "y", "z"}) retried :=
  retries_keep_lease "n" 1000 {"x", "y", "z"} retried (by decide)

/-- **A lease that runs on.**  `n` asks; a later request of `x` is put off, and granted on a release
of `z`; it is sent again and put off again, and granted once more, with a new deadline. -/
theorem retry_extends_lease :
    ¬ Along (step "n" 1000) (LeaseKept "n" 1000) (init "n" {"x", "z"})
      [.acquire, .request "x" 5 none, .release "z" none, .request "x" 5 none, .tick 400,
        .release "z" none] := by
  decide

end Voter

end Bingle.Mutex
