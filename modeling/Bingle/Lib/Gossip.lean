import Mathlib

/-!
# Gossip about who is there

Every node has a set of nodes that it knows.  It sends its set along with its messages, adds what it
receives, and announces its set to everyone in it whenever the set has grown.

* **`known_subset_of_quiet`** — when nothing is on its way every running node in the set of a node
  that has announced knows all of it.
* **`announced_le`** — announcements that follow the growth of a set are as many as sets can grow.
-/

namespace Lib

structure Rumour (ι : Type*) where
  src : ι
  dst : ι
  ids : Finset ι
deriving DecidableEq

/-- What each node knows, the messages on their way, the announcements to be made, who has
announced, and how many announcements have been made because a set had grown. -/
structure Gossip (ι : Type*) where
  known : ι → Finset ι
  flight : Multiset (Rumour ι)
  due : Multiset ι
  told : Finset ι
  announced : ℕ

namespace Gossip

variable {ι : Type*} [DecidableEq ι]

def announcement (g : Gossip ι) (i : ι) : Multiset (Rumour ι) :=
  ((g.known i).erase i).val.map fun dst => ⟨i, dst, g.known i⟩

variable {g : Gossip ι} {i : ι} {m : Rumour ι}

lemma mem_announcement :
    m ∈ g.announcement i ↔ m.src = i ∧ m.dst ∈ (g.known i).erase i ∧ m.ids = g.known i := by
  obtain ⟨src, dst, ids⟩ := m
  simp only [announcement, Multiset.mem_map, Finset.mem_val, Rumour.mk.injEq]
  constructor
  · rintro ⟨_, hdst, rfl, rfl, rfl⟩
    exact ⟨rfl, hdst, rfl⟩
  · rintro ⟨rfl, hdst, rfl⟩
    exact ⟨dst, hdst, rfl, rfl, rfl⟩

def send (g : Gossip ι) (ms : Multiset (Rumour ι)) : Gossip ι := { g with flight := g.flight + ms }

def announce (g : Gossip ι) (i : ι) : Gossip ι :=
  { g with flight := g.flight + g.announcement i, told := insert i g.told }

def announceDue (g : Gossip ι) (i : ι) : Gossip ι :=
  { g.announce i with due := g.due.erase i, announced := g.announced + 1 }

def learned (g : Gossip ι) (m : Rumour ι) : Finset ι := insert m.src (g.known m.dst) ∪ m.ids

def receive (g : Gossip ι) (m : Rumour ι) : Gossip ι :=
  { g with
    known := Function.update g.known m.dst (g.learned m)
    flight := g.flight.erase m
    due := if g.learned m ≠ g.known m.dst then m.dst ::ₘ g.due else g.due }

def drop (g : Gossip ι) (m : Rumour ι) : Gossip ι := { g with flight := g.flight.erase m }

inductive Move (running : Finset ι) : Gossip ι → Gossip ι → Prop
  | send {g : Gossip ι} {ms : Multiset (Rumour ι)}
      (hms : ∀ m ∈ ms, m.src ∈ running ∧ m.ids ⊆ g.known m.src) : Move running g (g.send ms)
  | announce {g : Gossip ι} {i : ι} (hi : i ∈ running) : Move running g (g.announce i)
  | announceDue {g : Gossip ι} {i : ι} (hi : i ∈ g.due) : Move running g (g.announceDue i)
  | receive {g : Gossip ι} {m : Rumour ι} (hm : m ∈ g.flight) (hdst : m.dst ∈ running) :
      Move running g (g.receive m)
  | drop {g : Gossip ι} {m : Rumour ι} (hm : m ∈ g.flight) (hdst : m.dst ∉ running) :
      Move running g (g.drop m)

def Quiet (g : Gossip ι) : Prop := g.flight = 0 ∧ g.due = 0

lemma known_subset_learned (g : Gossip ι) (m : Rumour ι) : g.known m.dst ⊆ g.learned m :=
  (Finset.subset_insert _ _).trans Finset.subset_union_left

@[simp] lemma receive_known_self (g : Gossip ι) (m : Rumour ι) :
    (g.receive m).known m.dst = g.learned m := Function.update_self ..

lemma receive_known_of_ne (g : Gossip ι) (h : i ≠ m.dst) :
    (g.receive m).known i = g.known i := Function.update_of_ne h ..

lemma known_subset_receive (g : Gossip ι) (m : Rumour ι) (i : ι) :
    g.known i ⊆ (g.receive m).known i := by
  by_cases h : i = m.dst
  · subst h
    rw [receive_known_self]
    exact g.known_subset_learned m
  · rw [receive_known_of_ne g h]

lemma receive_due_of_eq (h : g.learned m = g.known m.dst) :
    (g.receive m).due = g.due := if_neg (not_not.mpr h)

lemma receive_due_of_ne (h : g.learned m ≠ g.known m.dst) :
    (g.receive m).due = m.dst ::ₘ g.due := if_pos h

lemma mem_receive_due (h : i ∈ g.due) :
    i ∈ (g.receive m).due := by
  by_cases hnew : g.learned m = g.known m.dst
  · rwa [receive_due_of_eq hnew]
  · rw [receive_due_of_ne hnew]
    exact Multiset.mem_cons_of_mem h

/-! ## Spreading -/

/-- Every running node in the set of a node that has announced knows the set, or is on its way
to. -/
def Spread (running : Finset ι) (g : Gossip ι) : Prop :=
  ∀ a ∈ g.told, ∀ b ∈ g.known a, b ∈ running → b ≠ a →
    g.known a ⊆ g.known b ∨ (∃ m ∈ g.flight, m.src = a ∧ m.dst = b ∧ g.known a ⊆ m.ids) ∨ a ∈ g.due

section Spread

variable {running : Finset ι} {g g' : Gossip ι}

omit [DecidableEq ι] in
lemma Spread.send (h : g.Spread running) (ms : Multiset (Rumour ι)) :
    (g.send ms).Spread running := by
  intro a ha b hb hrun hne
  refine (h a ha b hb hrun hne).imp_right (Or.imp_left ?_)
  rintro ⟨m, hm, heq⟩
  exact ⟨m, Multiset.mem_add.mpr (Or.inl hm), heq⟩

lemma Spread.announcing (h : g.Spread running) {i : ι} (hknown : g'.known = g.known)
    (hflight : g'.flight = g.flight + g.announcement i) (htold : g'.told = insert i g.told)
    (hdue : ∀ a ∈ g.due, a ≠ i → a ∈ g'.due) : g'.Spread running := by
  intro a ha b hb hrun hne
  rw [hknown] at hb ⊢
  rw [htold] at ha
  rw [hflight]
  by_cases hai : a = i
  · subst hai
    refine Or.inr (Or.inl
      ⟨⟨a, b, g.known a⟩, Multiset.mem_add.mpr (Or.inr ?_), rfl, rfl, subset_rfl⟩)
    exact mem_announcement.mpr ⟨rfl, Finset.mem_erase.mpr ⟨hne, hb⟩, rfl⟩
  · have ha' : a ∈ g.told := (Finset.mem_insert.mp ha).resolve_left hai
    refine (h.send (g.announcement i) a ha' b hb hrun hne).imp_right (Or.imp_right fun hd => ?_)
    exact hdue a hd hai

lemma Spread.receive (h : g.Spread running) (m : Rumour ι) : (g.receive m).Spread running := by
  intro a ha b hb hrun hne
  by_cases hsame : (g.receive m).known a = g.known a
  · rw [hsame] at hb ⊢
    rcases h a ha b hb hrun hne with hsub | ⟨m', hm', hsrc, hdst, hids⟩ | hdue
    · exact Or.inl (hsub.trans (g.known_subset_receive m b))
    · by_cases heq : m' = m
      · subst heq
        subst hdst
        refine Or.inl (hids.trans ?_)
        rw [receive_known_self]
        exact Finset.subset_union_right
      · exact Or.inr (Or.inl ⟨m', (Multiset.mem_erase_of_ne heq).mpr hm', hsrc, hdst, hids⟩)
    · exact Or.inr (Or.inr (mem_receive_due hdue))
  · have ha' : a = m.dst := by
      by_contra hne'
      exact hsame (receive_known_of_ne g hne')
    subst ha'
    rw [receive_known_self] at hsame
    refine Or.inr (Or.inr ?_)
    rw [receive_due_of_ne hsame]
    exact Multiset.mem_cons_self _ _

lemma Spread.drop (h : g.Spread running) {m : Rumour ι} (hdst : m.dst ∉ running) :
    (g.drop m).Spread running := by
  intro a ha b hb hrun hne
  refine (h a ha b hb hrun hne).imp_right (Or.imp_left ?_)
  rintro ⟨m', hm', hsrc, rfl, hids⟩
  refine ⟨m', (Multiset.mem_erase_of_ne ?_).mpr hm', hsrc, rfl, hids⟩
  rintro rfl
  exact hdst hrun

lemma Move.spread (hmove : Move running g g') (h : g.Spread running) : g'.Spread running := by
  cases hmove with
  | send _ => exact h.send _
  | announce _ => exact h.announcing rfl rfl rfl fun _ hd _ => hd
  | announceDue _ =>
    exact h.announcing rfl rfl rfl fun _ hd hne => (Multiset.mem_erase_of_ne hne).mpr hd
  | receive _ _ => exact h.receive _
  | drop _ hdst => exact h.drop hdst

/-- **When nothing is on its way** every running node in the set of a node that has announced knows
all of it. -/
theorem known_subset_of_quiet (h : g.Spread running) (hquiet : g.Quiet) {a b : ι} (ha : a ∈ g.told)
    (hb : b ∈ g.known a) (hrun : b ∈ running) : g.known a ⊆ g.known b := by
  by_cases hne : b = a
  · rw [hne]
  · rcases h a ha b hb hrun hne with hsub | ⟨m, hm, -⟩ | hdue
    · exact hsub
    · rw [hquiet.1] at hm
      exact absurd hm (Multiset.notMem_zero m)
    · rw [hquiet.2] at hdue
      exact absurd hdue (Multiset.notMem_zero a)

end Spread

/-! ## Ending -/

section Bound

variable {running ids : Finset ι} {g g' : Gossip ι}

structure Within (running ids : Finset ι) (g : Gossip ι) : Prop where
  known : ∀ i ∈ running, g.known i ⊆ ids
  flight : ∀ m ∈ g.flight, m.src ∈ ids ∧ m.ids ⊆ ids
  due : ∀ i ∈ g.due, i ∈ running

def unknown (running ids : Finset ι) (g : Gossip ι) : ℕ := ∑ i ∈ running, (ids \ g.known i).card

lemma Within.announcing (hrun : running ⊆ ids) (h : g.Within running ids) {i : ι} (hi : i ∈ running)
    (hknown : g'.known = g.known) (hflight : g'.flight = g.flight + g.announcement i)
    (hdue : ∀ a ∈ g'.due, a ∈ g.due) : g'.Within running ids where
  known := hknown ▸ h.known
  flight := by
    intro m hm
    rw [hflight] at hm
    rcases Multiset.mem_add.mp hm with hm | hm
    · exact h.flight m hm
    · obtain ⟨hsrc, -, hids⟩ := mem_announcement.mp hm
      exact ⟨hsrc ▸ hrun hi, hids ▸ h.known i hi⟩
  due := fun a ha => h.due a (hdue a ha)

lemma Within.learned (h : g.Within running ids) {m : Rumour ι} (hm : m ∈ g.flight)
    (hdst : m.dst ∈ running) : g.learned m ⊆ ids := by
  obtain ⟨hsrc, hids⟩ := h.flight m hm
  exact Finset.union_subset (Finset.insert_subset hsrc (h.known m.dst hdst)) hids

lemma Move.within (hrun : running ⊆ ids) (hmove : Move running g g') (h : g.Within running ids) :
    g'.Within running ids := by
  cases hmove with
  | send hms =>
    refine ⟨h.known, fun m hm => ?_, h.due⟩
    rcases Multiset.mem_add.mp hm with hm | hm
    · exact h.flight m hm
    · obtain ⟨hsrc, hids⟩ := hms m hm
      exact ⟨hrun hsrc, hids.trans (h.known m.src hsrc)⟩
  | announce hi => exact h.announcing hrun hi rfl rfl fun _ hd => hd
  | announceDue hi =>
    exact h.announcing hrun (h.due _ hi) rfl rfl fun _ hd => Multiset.mem_of_mem_erase hd
  | @receive m hm hdst =>
    refine ⟨fun i hi => ?_, fun m' hm' => h.flight m' (Multiset.mem_of_mem_erase hm'),
      fun i hi => ?_⟩
    · by_cases heq : i = m.dst
      · subst heq
        rw [receive_known_self]
        exact h.learned hm hdst
      · rw [receive_known_of_ne g heq]
        exact h.known i hi
    · by_cases hnew : g.learned m = g.known m.dst
      · rw [receive_due_of_eq hnew] at hi
        exact h.due i hi
      · rw [receive_due_of_ne hnew, Multiset.mem_cons] at hi
        rcases hi with rfl | hi
        · exact hdst
        · exact h.due i hi
  | drop _ _ => exact ⟨h.known, fun m' hm' => h.flight m' (Multiset.mem_of_mem_erase hm'), h.due⟩

lemma unknown_receive (h : g.Within running ids) {m : Rumour ι} (hm : m ∈ g.flight)
    (hdst : m.dst ∈ running) :
    (g.receive m).due.card + (g.receive m).unknown running ids ≤
      g.due.card + g.unknown running ids := by
  have hother : ∑ i ∈ running.erase m.dst, (ids \ (g.receive m).known i).card =
      ∑ i ∈ running.erase m.dst, (ids \ g.known i).card := by
    refine Finset.sum_congr rfl fun i hi => ?_
    rw [receive_known_of_ne g (Finset.ne_of_mem_erase hi)]
  have hsub := g.known_subset_learned m
  rw [unknown, unknown, ← Finset.add_sum_erase _ _ hdst, ← Finset.add_sum_erase _ _ hdst, hother,
    receive_known_self]
  by_cases hsame : g.learned m = g.known m.dst
  · rw [hsame, receive_due_of_eq hsame]
  · have hless : (ids \ g.learned m).card < (ids \ g.known m.dst).card := by
      refine Finset.card_lt_card ⟨Finset.sdiff_subset_sdiff subset_rfl hsub, fun hback => hsame ?_⟩
      refine subset_antisymm (fun x hx => ?_) hsub
      by_contra hnew
      exact (Finset.mem_sdiff.mp (hback (Finset.mem_sdiff.mpr ⟨h.learned hm hdst hx, hnew⟩))).2 hx
    rw [receive_due_of_ne hsame, Multiset.card_cons]
    omega

lemma Move.announced_add_le (hmove : Move running g g') (h : g.Within running ids) :
    g'.announced + (g'.due.card + g'.unknown running ids) ≤
      g.announced + (g.due.card + g.unknown running ids) := by
  cases hmove with
  | send _ => exact le_rfl
  | announce _ => exact le_rfl
  | @announceDue i hi =>
    have hcard : (g.announceDue i).due.card + 1 = g.due.card := Multiset.card_erase_add_one hi
    have hunknown : (g.announceDue i).unknown running ids = g.unknown running ids := rfl
    have hannounced : (g.announceDue i).announced = g.announced + 1 := rfl
    omega
  | receive hm hdst => exact Nat.add_le_add_left (unknown_receive h hm hdst) _
  | drop _ _ => exact le_rfl

/-- **The announcements end**: over any moves there are no more than the nodes had to learn. -/
theorem announced_le (hrun : running ⊆ ids) (hmoves : Relation.ReflTransGen (Move running) g g')
    (h : g.Within running ids) :
    g'.Within running ids ∧ g'.announced + (g'.due.card + g'.unknown running ids) ≤
      g.announced + (g.due.card + g.unknown running ids) := by
  induction hmoves with
  | refl => exact ⟨h, le_rfl⟩
  | tail _ hmove ih => exact ⟨hmove.within hrun ih.1, (hmove.announced_add_le ih.1).trans ih.2⟩

theorem spread_of_moves (hmoves : Relation.ReflTransGen (Move running) g g')
    (h : g.Spread running) : g'.Spread running := by
  induction hmoves with
  | refl => exact h
  | tail _ hmove ih => exact hmove.spread ih

end Bound

end Gossip

end Lib
