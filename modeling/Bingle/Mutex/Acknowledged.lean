import Bingle.Mutex.Gossip

/-!
# Who has acknowledged when a node enters

`acquire` enters when there are as many acknowledgements as members.  It compares two numbers, where
what is meant is two sets.  `Cycle` is one node with whatever the others send it, with how many
requests the node has made and who has acknowledged the last of them.
-/

namespace Bingle.Mutex

open Lib (run Along)

structure Cycle where
  voter : Voter
  requests : ℕ := 0
  acknowledged : Finset NodeId := ∅

namespace Cycle

/-- What happens to the node; for a reply, which request of the node it answers. -/
structure Event where
  event : Voter.Event
  answers : ℕ := 0
deriving DecidableEq

section

variable (selfId : NodeId) (leaseDuration : ℕ)

def begins (c : Cycle) (x : Event) : Bool :=
  x.event = .acquire ∧ c.voter.inner.currentRequestTs = none ∧ c.voter.inner.inCs = false

def counted (c : Cycle) : Voter.Event → Bool
  | .reply _ tag _ => c.voter.inner.currentRequestTs.isSome ∧ tag ≠ some "membership_only"
  | _ => false

def nextAcknowledged (c : Cycle) (x : Event) : Finset NodeId :=
  match x.event with
  | .acquire => if c.begins x then {selfId} else c.acknowledged
  | .reply fromId tag known =>
    if c.counted (.reply fromId tag known) ∧ x.answers = c.requests then
      insert fromId c.acknowledged
    else c.acknowledged
  | _ => c.acknowledged

def step (c : Cycle) (x : Event) : Cycle where
  voter := c.voter.step selfId leaseDuration x.event
  requests := if c.begins x then c.requests + 1 else c.requests
  acknowledged := c.nextAcknowledged selfId x

def init (members : Finset NodeId) : Cycle := { voter := Voter.init selfId members }

def enters (c : Cycle) (x : Event) : Prop :=
  x.event = .enter ∧ c.voter.inner.inCs = false ∧
    (c.voter.act selfId leaseDuration x.event).1.inCs = true

instance (c : Cycle) (x : Event) : Decidable (c.enters selfId leaseDuration x) :=
  inferInstanceAs (Decidable (_ ∧ _ ∧ _))

/-- Entering, the node has an acknowledgement of every member it knows. -/
def AllAcknowledged (c : Cycle) (x : Event) : Prop :=
  c.enters selfId leaseDuration x → c.voter.inner.dynamicNodeIds ⊆ c.acknowledged

instance (c : Cycle) (x : Event) : Decidable (c.AllAcknowledged selfId leaseDuration x) :=
  inferInstanceAs (Decidable (_ → _))

/-- A reply that is counted answers the current request, and no node is pruned that is counted. -/
def Answered (c : Cycle) (x : Event) : Prop :=
  match x.event with
  | .reply fromId tag known => c.counted (.reply fromId tag known) → x.answers = c.requests
  | .prune unreachable => ∀ i ∈ c.voter.inner.acks, i ∉ unreachable.erase selfId
  | _ => True

instance (c : Cycle) : ∀ x, Decidable (c.Answered selfId x)
  | ⟨.reply _ _ _, _⟩ => inferInstanceAs (Decidable (_ → _))
  | ⟨.prune _, _⟩ => inferInstanceAs (Decidable (∀ _ ∈ _, _))
  | ⟨.request _ _ _, _⟩ | ⟨.release _ _, _⟩ | ⟨.acquire, _⟩ | ⟨.enter, _⟩ | ⟨.leave, _⟩
  | ⟨.tick _, _⟩ => isTrue trivial

structure Sound (c : Cycle) : Prop where
  members : c.voter.inner.acks ⊆ c.voter.inner.dynamicNodeIds
  acknowledged : c.voter.inner.acks ⊆ c.acknowledged
  self : selfId ∈ c.voter.inner.dynamicNodeIds

end

/-! ## What each section does to what is counted -/

section Sections

variable {selfId : NodeId} {leaseDuration : ℕ} {c : Cycle}

lemma Sound.of_section (h : c.Sound selfId) {c' : Cycle}
    (hacks : c'.voter.inner.acks ⊆ c.voter.inner.acks)
    (hmembers : c.voter.inner.dynamicNodeIds ⊆ c'.voter.inner.dynamicNodeIds)
    (hacknowledged : c'.acknowledged = c.acknowledged) : c'.Sound selfId where
  members := (hacks.trans h.members).trans hmembers
  acknowledged := hacknowledged ▸ hacks.trans h.acknowledged
  self := hmembers h.self

lemma members_subset_handle (st : Inner) (selfId fromId : NodeId) (leaseDuration now : ℕ)
    (msg : Msg) :
    st.dynamicNodeIds ⊆ (st.handle selfId leaseDuration now fromId msg).1.dynamicNodeIds := by
  rw [(st.handle_spreads selfId fromId leaseDuration now msg).1]
  exact (Finset.subset_insert _ _).trans Finset.subset_union_left

variable {answers : ℕ}

lemma Sound.reply (h : c.Sound selfId) {fromId : NodeId} {tag : Option String}
    {known : Option (Finset NodeId)}
    (hanswered : c.Answered selfId ⟨.reply fromId tag known, answers⟩) :
    (c.step selfId leaseDuration ⟨.reply fromId tag known, answers⟩).Sound selfId := by
  have hmembers := members_subset_handle c.voter.inner selfId fromId leaseDuration c.voter.now
    (.reply tag known)
  have hfrom : fromId ∈ (c.voter.inner.handleReply selfId fromId tag known).1.dynamicNodeIds := by
    have hdyn := (c.voter.inner.handle_spreads selfId fromId leaseDuration c.voter.now
      (.reply tag known)).1
    rw [show (c.voter.inner.handleReply selfId fromId tag known).1.dynamicNodeIds = _ from hdyn]
    exact Finset.mem_union_left _ (Finset.mem_insert_self _ _)
  have hacks : (c.voter.inner.handleReply selfId fromId tag known).1.acks =
      if c.counted (.reply fromId tag known) then insert fromId c.voter.inner.acks
      else c.voter.inner.acks := by
    have hsame : (c.voter.inner.updateMembership fromId known).currentRequestTs =
        c.voter.inner.currentRequestTs := rfl
    simp only [Inner.handleReply, counted, decide_eq_true_eq, hsame]
    split_ifs <;> rfl
  by_cases hcounted : c.counted (.reply fromId tag known) = true
  · rw [if_pos hcounted] at hacks
    have hnext : (c.step selfId leaseDuration ⟨.reply fromId tag known, answers⟩).acknowledged =
        insert fromId c.acknowledged := if_pos ⟨hcounted, hanswered hcounted⟩
    refine ⟨?_, ?_, hmembers h.self⟩
    · exact hacks.subset.trans (Finset.insert_subset hfrom (h.members.trans hmembers))
    · rw [hnext]
      exact hacks.subset.trans (Finset.insert_subset_insert _ h.acknowledged)
  · rw [if_neg hcounted] at hacks
    exact h.of_section hacks.subset hmembers (if_neg fun hc => hcounted hc.1)

lemma Sound.acquire (h : c.Sound selfId) :
    (c.step selfId leaseDuration ⟨.acquire, answers⟩).Sound selfId := by
  by_cases hidle : c.voter.inner.currentRequestTs = none ∧ c.voter.inner.inCs = false
  · have hbegins : c.begins ⟨.acquire, answers⟩ = true := decide_eq_true ⟨rfl, hidle⟩
    have hinner : (c.step selfId leaseDuration ⟨.acquire, answers⟩).voter.inner =
        c.voter.inner.beginRequest selfId := congrArg Prod.fst (if_pos hidle)
    have hnext : (c.step selfId leaseDuration ⟨.acquire, answers⟩).acknowledged = {selfId} :=
      if_pos hbegins
    refine ⟨?_, ?_, ?_⟩
    · rw [hinner]
      exact Finset.singleton_subset_iff.mpr h.self
    · rw [hinner, hnext]
      exact subset_rfl
    · rw [hinner]
      exact h.self
  · have hbegins : ¬ c.begins ⟨.acquire, answers⟩ = true := fun hb => hidle (of_decide_eq_true hb).2
    have hinner : (c.step selfId leaseDuration ⟨.acquire, answers⟩).voter.inner = c.voter.inner :=
      congrArg Prod.fst (if_neg hidle)
    exact h.of_section (hinner ▸ subset_rfl) (hinner ▸ subset_rfl) (if_neg hbegins)

lemma Sound.prune (h : c.Sound selfId) {unreachable : Finset NodeId}
    (hanswered : c.Answered selfId ⟨.prune unreachable, answers⟩) :
    (c.step selfId leaseDuration ⟨.prune unreachable, answers⟩).Sound selfId where
  members := fun i hi => Finset.mem_sdiff.mpr ⟨h.members hi, hanswered i hi⟩
  acknowledged := h.acknowledged
  self := Finset.mem_sdiff.mpr ⟨h.self, Finset.notMem_erase selfId unreachable⟩

lemma Sound.step (h : c.Sound selfId) {x : Event} (hanswered : c.Answered selfId x) :
    (c.step selfId leaseDuration x).Sound selfId := by
  obtain ⟨event, answers⟩ := x
  cases event with
  | request fromId ts known =>
    have heffect :=
      c.voter.inner.handleRequest_effect selfId fromId leaseDuration c.voter.now ts known
    exact h.of_section heffect.1.subset
      (members_subset_handle _ selfId fromId leaseDuration c.voter.now (.request ts known)) rfl
  | reply fromId tag known => exact h.reply hanswered
  | release fromId known =>
    have heffect :=
      c.voter.inner.handleRelease_effect selfId fromId leaseDuration c.voter.now known
    exact h.of_section heffect.1.subset
      (members_subset_handle _ selfId fromId leaseDuration c.voter.now (.release known)) rfl
  | acquire => exact h.acquire
  | enter =>
    have henter : (c.voter.act selfId leaseDuration .enter).1.acks = c.voter.inner.acks ∧
        (c.voter.act selfId leaseDuration .enter).1.dynamicNodeIds =
          c.voter.inner.dynamicNodeIds := by
      rw [Voter.act]
      cases c.voter.inner.currentRequestTs with
      | none => exact ⟨rfl, rfl⟩
      | some ts =>
        dsimp only
        split_ifs <;> exact ⟨rfl, rfl⟩
    exact h.of_section henter.1.subset henter.2.symm.subset rfl
  | leave =>
    have hleave : (c.voter.act selfId leaseDuration .leave).1.acks ⊆ c.voter.inner.acks ∧
        (c.voter.act selfId leaseDuration .leave).1.dynamicNodeIds =
          c.voter.inner.dynamicNodeIds := by
      rw [Voter.act]
      split_ifs
      · exact ⟨Finset.empty_subset _,
          (c.voter.inner.leave_spreads selfId leaseDuration c.voter.now).1⟩
      · exact ⟨subset_rfl, rfl⟩
    exact h.of_section hleave.1 hleave.2.symm.subset rfl
  | prune unreachable => exact h.prune hanswered
  | tick d => exact h.of_section subset_rfl subset_rfl rfl

end Sections

/-! ## Entering -/

lemma Sound.allAcknowledged {selfId : NodeId} {c : Cycle} (h : c.Sound selfId) (leaseDuration : ℕ)
    (x : Event) : c.AllAcknowledged selfId leaseDuration x := by
  rintro ⟨hevent, hout, hin⟩
  rw [hevent, Voter.act] at hin
  cases hts : c.voter.inner.currentRequestTs with
  | none =>
    rw [hts] at hin
    exact absurd (hout.symm.trans hin) Bool.false_ne_true
  | some ts =>
    rw [hts] at hin
    dsimp only at hin
    split_ifs at hin with hcan
    · have hcard : c.voter.inner.dynamicNodeIds.card ≤ c.voter.inner.acks.card := by
        have hcan' := hcan.2
        simp only [Inner.canEnter, decide_eq_true_eq] at hcan'
        exact hcan'.1
      rw [← Finset.eq_of_subset_of_card_le h.members hcard]
      exact h.acknowledged
    · exact absurd (hout.symm.trans hin) Bool.false_ne_true

/-- **All members have acknowledged** the current request whenever the node enters, over every run
in which each reply that is counted answers the current request and no node is pruned that is
counted. -/
theorem members_acknowledged (selfId : NodeId) (leaseDuration : ℕ) (members : Finset NodeId)
    (xs : List Event)
    (h : Along (step selfId leaseDuration) (fun c x => c.Answered selfId x) (init selfId members)
      xs) :
    Along (step selfId leaseDuration) (fun c x => c.AllAcknowledged selfId leaseDuration x)
      (init selfId members) xs := by
  have hinit : (init selfId members).Sound selfId :=
    ⟨Finset.empty_subset _, Finset.empty_subset _, Finset.mem_insert_self _ _⟩
  exact Along.of_invariant (I := fun c => c.Sound selfId) (fun c x hc hx => hc.step hx)
    (fun c x hc _ => hc.allAcknowledged leaseDuration x) hinit h

theorem entered_acknowledged :
    let xs : List Event :=
      [⟨.acquire, 0⟩, ⟨.reply "B" none none, 1⟩, ⟨.reply "C" none none, 1⟩, ⟨.enter, 0⟩]
    (run (step "A" 1000) (init "A" {"B", "C"}) xs).voter.inner.inCs = true ∧
      Along (step "A" 1000) (fun c x => c.AllAcknowledged "A" 1000 x) (init "A" {"B", "C"}) xs := by
  intro xs
  exact ⟨by decide, members_acknowledged "A" 1000 {"B", "C"} xs (by decide)⟩

/-- **A node enters that not all members have acknowledged.**  In the first run `B` answers and is
then pruned; its answer is still counted, and `A` enters without that of `C`.  In the second `B`
answers the first request twice, and the second answer arrives during the second request. -/
theorem enters_unacknowledged :
    ¬ Along (step "A" 1000) (fun c x => c.AllAcknowledged "A" 1000 x) (init "A" {"B", "C"})
        [⟨.acquire, 0⟩, ⟨.reply "B" none none, 1⟩, ⟨.prune {"B"}, 0⟩, ⟨.enter, 0⟩] ∧
      ¬ Along (step "A" 1000) (fun c x => c.AllAcknowledged "A" 1000 x) (init "A" {"B"})
        [⟨.acquire, 0⟩, ⟨.reply "B" none none, 1⟩, ⟨.enter, 0⟩, ⟨.leave, 0⟩, ⟨.acquire, 0⟩,
          ⟨.reply "B" none none, 1⟩, ⟨.enter, 0⟩] := by
  decide

end Cycle

end Bingle.Mutex
