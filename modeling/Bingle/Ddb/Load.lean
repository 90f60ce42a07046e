import Bingle.Lib.Run
import Bingle.Messages.Handlers

/-!
# Loading the database from a peer

A peer answers with the number of its records and sends them one by one; the relay signs on when it
has them all.  `on_ddb_dump_resolve` decides that in the thread of each record: it stores the
record, reads the number, reads the size of the database.
-/

namespace Bingle.Ddb

open List Option
open Function (update_of_ne update_self)
open Messages

/-- How far the thread of a record has come: nothing done, the record stored, the number read and
kept for the comparison, finished. -/
inductive Phase
  | received
  | stored
  | compares (target : ℕ)
  | done
deriving DecidableEq, Repr

/-- A relay that loads a snapshot, with one thread for each record of it. -/
structure Loader (dumps : List AdvertRecord) where
  node : Node
  phase : Fin dumps.length → Phase
  /-- for every sign-on sent, how far the threads had come -/
  signons : List (Fin dumps.length → Phase)

/-- The noting of the number, the three steps of a record's thread, and an upsert of a client. -/
inductive LoadEvent (dumps : List AdvertRecord)
  | setTarget
  | store (i : Fin dumps.length) (now : ℕ)
  | readTarget (i : Fin dumps.length)
  | readSize (i : Fin dumps.length) (now : ℕ)
  | upsert (now : ℕ) (src : FromStruct) (up : DdbUpsertResolve)

namespace Loader

variable {dumps : List AdvertRecord} (base : Env) (r : Id)

def start (b : Backend) : Loader dumps where
  node :=
    { router := { amRelay := true }
      backend := b
      turnRelay := .new
      turnClient := .new }
  phase := fun _ => .received
  signons := []

def setPhase (s : Loader dumps) (i : Fin dumps.length) (ph : Phase) : Loader dumps :=
  { s with phase := Function.update s.phase i ph }

def step (s : Loader dumps) : LoadEvent dumps → Loader dumps
  | .setTarget => { s with node := { s.node with peerDdbRecords := some dumps.length } }
  | .store i now =>
    if s.phase i = .received then
      { s.setPhase i .stored with
        node := { s.node with
          backend := ddbUpsertRecord (envAt base r now) (dumps.get i) s.node.backend } }
    else s
  | .readTarget i =>
    if s.phase i = .stored then
      match s.node.peerDdbRecords with
      | some target => s.setPhase i (.compares target)
      | none => s.setPhase i .done
    else s
  | .readSize i now =>
    match s.phase i with
    | .compares target =>
      if target = s.node.backend.len now then
        { s.setPhase i .done with signons := s.signons ++ [s.phase] }
      else s.setPhase i .done
    | _ => s
  | .upsert now src up =>
    { s with node := (onDdbUpsertResolve (envAt base r now) src up s.node).1 }

/-! ## The conditions -/

def Valid (record : AdvertRecord) : Prop :=
  base.verify record = true ∧
    ¬ (record.isRelay = true ∧ base.checkRelayAllowed record.id = .rejected)

lemma ddbUpsertRecord_of_valid {base : Env} {record : AdvertRecord} (h : Valid base record) (r : Id)
    (now : ℕ) (b : Backend) : ddbUpsertRecord (envAt base r now) record b = b.upsert now record := by
  have hverify : ¬ (!(envAt base r now).verify record) = true := by
    simpa [envAt] using h.1
  have hgate : ¬ (record.isRelay = true ∧
      (envAt base r now).checkRelayAllowed record.id = .rejected) := h.2
  rw [ddbUpsertRecord, if_neg hverify, if_neg hgate]
  rfl

/-- What the load needs of a step: nothing has expired; the last record is stored when all other
threads have finished, and its thread finds the number noted; a size is read while a record is still
to be stored only if some record is not held at all; and a client writes a record that is held. -/
def Orderly (s : Loader dumps) : LoadEvent dumps → Prop
  | .store i now => (∀ ttl ∈ s.node.backend.advertTtl, now < ttl) ∧
      ((∀ j, j ≠ i → s.phase j ≠ .received) → ∀ j, j ≠ i → s.phase j = .done)
  | .readTarget i => (∀ j, j ≠ i → s.phase j = .done) → s.node.peerDdbRecords.isSome = true
  | .readSize _ now => (∀ ttl ∈ s.node.backend.advertTtl, now < ttl) ∧
      ((∃ j, s.phase j = .received) → ∃ j, (dumps.get j).id ∉ s.node.backend.map)
  | .upsert _ _ up => up.record.id ∈ s.node.backend.map
  | .setTarget => True

instance (s : Loader dumps) : ∀ e, Decidable (Orderly s e)
  | .setTarget => isTrue trivial
  | .store i now => inferInstanceAs (Decidable ((∀ ttl ∈ s.node.backend.advertTtl, now < ttl) ∧
      ((∀ j, j ≠ i → s.phase j ≠ .received) → ∀ j, j ≠ i → s.phase j = .done)))
  | .readTarget i => inferInstanceAs (Decidable ((∀ j, j ≠ i → s.phase j = .done) → _ = true))
  | .readSize _ now => inferInstanceAs (Decidable ((∀ ttl ∈ s.node.backend.advertTtl, now < ttl) ∧
      ((∃ j, s.phase j = .received) → ∃ j, (dumps.get j).id ∉ s.node.backend.map)))
  | .upsert _ _ up => inferInstanceAs (Decidable (up.record.id ∈ s.node.backend.map))

/-! ## The invariant -/

inductive Stage (s : Loader dumps) : Prop
  | loading (i : Fin dumps.length) (hi : s.phase i = .received) (hnone : s.signons = [])
  | last (i : Fin dumps.length) (hothers : ∀ j, j ≠ i → s.phase j = .done)
      (hi : s.phase i = .stored ∨ ∃ n, s.phase i = .compares n) (hnone : s.signons = [])
  | signed (ph : Fin dumps.length → Phase) (hdone : ∀ i, s.phase i = .done)
      (hone : s.signons = [ph]) (hph : ∀ i, ph i ≠ .received)

structure Loading (s : Loader dumps) : Prop where
  held : ∀ id ∈ s.node.backend.map, ∃ i, (dumps.get i).id = id
  stored : ∀ i, s.phase i ≠ .received → (dumps.get i).id ∈ s.node.backend.map
  target : ∀ n ∈ s.node.peerDdbRecords, n = dumps.length
  compares : ∀ i n, s.phase i = .compares n → n = dumps.length
  stage : Stage s

section Steps

variable {base : Env} {r : Id} {s : Loader dumps}

variable {now : ℕ} {i : Fin dumps.length} {ph : Phase}

/-- The database is full when it holds every id. -/
lemma Loading.len_eq_iff (h : Loading s) (hids : (dumps.map AdvertRecord.id).Nodup)
    (hfresh : ∀ ttl ∈ s.node.backend.advertTtl, now < ttl) :
    dumps.length = s.node.backend.len now ↔ ∀ i, (dumps.get i).id ∈ s.node.backend.map := by
  have hinj : Function.Injective fun i : Fin dumps.length => (dumps.get i).id := by
    intro i j hij
    have hget := inj_on_of_nodup_map hids (dumps.get_mem i) (dumps.get_mem j) hij
    exact (hids.of_map _).get_inj_iff.mp hget
  have hcard : (Finset.univ.image fun i : Fin dumps.length => (dumps.get i).id).card =
      dumps.length := by
    rw [Finset.card_image_of_injective _ hinj, Finset.card_univ, Fintype.card_fin]
  have hsub : s.node.backend.map.keys.toFinset ⊆
      Finset.univ.image fun i : Fin dumps.length => (dumps.get i).id := by
    intro id hid
    obtain ⟨i, hi⟩ := h.held id (List.mem_toFinset.mp hid)
    exact Finset.mem_image.mpr ⟨i, Finset.mem_univ i, hi⟩
  rw [Backend.len_of_fresh _ _ hfresh, ← toFinset_card_of_nodup s.node.backend.map.keys_nodup]
  constructor
  · intro hlen i
    have heq := Finset.eq_of_subset_of_card_le hsub (by omega)
    exact List.mem_toFinset.mp (heq ▸ Finset.mem_image_of_mem _ (Finset.mem_univ i))
  · intro hall
    refine le_antisymm (hcard ▸ Finset.card_le_card fun id hid => ?_)
      (hcard ▸ Finset.card_le_card hsub)
    obtain ⟨i, -, rfl⟩ := Finset.mem_image.mp hid
    exact List.mem_toFinset.mpr (hall i)

lemma Loading.store (h : Loading s) (hvalid : Valid base (dumps.get i)) (hi : s.phase i = .received)
    (hlast : (∀ j, j ≠ i → s.phase j ≠ .received) → ∀ j, j ≠ i → s.phase j = .done) :
    Loading (step base r s (.store i now)) := by
  simp only [step, hi, if_true, ddbUpsertRecord_of_valid hvalid]
  refine ⟨fun id hid => ?_, fun j hj => ?_, h.target, fun j n hj => ?_, ?_⟩
  · rcases (AList.mem_insert _).mp hid with rfl | hid
    exacts [⟨i, rfl⟩, h.held id hid]
  · -- the record is held now, and its thread has stored it
    by_cases hji : j = i
    · exact (AList.mem_insert _).mpr (.inl (hji ▸ rfl))
    · simp only [setPhase, update_of_ne hji] at hj
      exact (AList.mem_insert _).mpr (.inr (h.stored j hj))
  · by_cases hji : j = i
    · simp [setPhase, hji] at hj
    · simp only [setPhase, update_of_ne hji] at hj
      exact h.compares j n hj
  · have hnone : s.signons = [] := by
      cases h.stage with
      | loading _ _ hnone => exact hnone
      | last _ _ _ hnone => exact hnone
      | signed ph hdone _ _ => simp [hdone i] at hi
    by_cases hmore : ∃ j, j ≠ i ∧ s.phase j = .received
    · obtain ⟨j, hji, hj⟩ := hmore
      exact .loading j (by simpa [setPhase, update_of_ne hji] using hj) hnone
    · -- this was the last one
      have hothers := hlast fun j hji hj => hmore ⟨j, hji, hj⟩
      refine .last i (fun j hji => ?_) (Or.inl (by simp [setPhase])) hnone
      simpa [setPhase, update_of_ne hji] using hothers j hji

lemma Loading.setPhase (h : Loading s) (hi : s.phase i ≠ .received)
    (hn : ∀ n, ph = .compares n → n = dumps.length) {signons : List (Fin dumps.length → Phase)}
    (hstage : Stage { s.setPhase i ph with signons := signons }) :
    Loading { s.setPhase i ph with signons := signons } := by
  refine ⟨h.held, fun j hj => h.stored j ?_, h.target, fun j n hj => ?_, hstage⟩
  · by_cases hji : j = i
    · exact hji ▸ hi
    · simpa [Loader.setPhase, update_of_ne hji] using hj
  · by_cases hji : j = i
    · subst hji
      exact hn n (by simpa [Loader.setPhase] using hj)
    · exact h.compares j n (by simpa [Loader.setPhase, update_of_ne hji] using hj)

lemma Stage.loading_setPhase {k : Fin dumps.length} (hk : s.phase k = .received)
    (hi : s.phase i ≠ .received) (hnone : s.signons = []) : Stage (s.setPhase i ph) := by
  have hki : k ≠ i := fun hki => hi (hki ▸ hk)
  exact .loading k (by simpa [Loader.setPhase, update_of_ne hki] using hk) hnone

lemma Stage.of_stored (h : Stage s) (hi : s.phase i = .stored) :
    s.signons = [] ∧ ((∃ k, s.phase k = .received) ∨ ∀ j, j ≠ i → s.phase j = .done) := by
  cases h with
  | loading k hk hnone => exact ⟨hnone, .inl ⟨k, hk⟩⟩
  | last l hothers hl hnone =>
    by_cases hil : i = l
    · exact ⟨hnone, .inr (hil ▸ hothers)⟩
    · simp [hothers i hil] at hi
  | signed ph hdone _ _ => simp [hdone i] at hi

lemma Loading.readTarget (h : Loading s) (i : Fin dumps.length)
    (hnoted : (∀ j, j ≠ i → s.phase j = .done) → s.node.peerDdbRecords.isSome = true) :
    Loading (step base r s (.readTarget i)) := by
  simp only [step]
  split_ifs with hi
  · have hi' : s.phase i ≠ .received := by simp [hi]
    obtain ⟨hnone, hstage⟩ := h.stage.of_stored hi
    cases htarget : s.node.peerDdbRecords with
    | none =>
      refine h.setPhase hi' (by simp) ?_
      rcases hstage with ⟨k, hk⟩ | hothers
      · exact .loading_setPhase hk hi' hnone
      · have hsome := hnoted hothers
        simp [htarget] at hsome
    | some n =>
      refine h.setPhase hi' (fun m hm => ?_) ?_
      · cases hm
        exact h.target n htarget
      · rcases hstage with ⟨k, hk⟩ | hothers
        · exact .loading_setPhase hk hi' hnone
        · refine .last i (fun j hj => ?_) (Or.inr ⟨n, by simp [Loader.setPhase]⟩) hnone
          simpa [Loader.setPhase, update_of_ne hj] using hothers j hj
  · exact h

lemma Loading.readSize (h : Loading s) (hids : (dumps.map AdvertRecord.id).Nodup)
    (i : Fin dumps.length) (hfresh : ∀ ttl ∈ s.node.backend.advertTtl, now < ttl)
    (hmissing : (∃ j, s.phase j = .received) → ∃ j, (dumps.get j).id ∉ s.node.backend.map) :
    Loading (step base r s (.readSize i now)) := by
  simp only [step]
  split
  · next n hi =>
      have hi' : s.phase i ≠ .received := by simp [hi]
      obtain rfl := h.compares i n hi
      have hfull := h.len_eq_iff hids hfresh
      cases h.stage with
      | loading k hk hnone =>
        obtain ⟨j, hj⟩ := hmissing ⟨k, hk⟩
        rw [if_neg fun hlen => hj (hfull.mp hlen j)]
        exact h.setPhase hi' (by simp) (.loading_setPhase hk hi' hnone)
      | last l hothers hl hnone =>
        have hil : i = l := by
          by_contra hil
          simp [hothers i hil] at hi
        subst hil
        have hall : ∀ j, s.phase j ≠ .received := by
          intro j
          by_cases hji : j = i
          · exact hji ▸ hi'
          · simp [hothers j hji]
        rw [if_pos (hfull.mpr fun j => h.stored j (hall j))]
        refine h.setPhase hi' (by simp) (.signed s.phase (fun j => ?_) ?_ hall)
        · by_cases hji : j = i
          · simp [Loader.setPhase, hji]
          · simpa [Loader.setPhase, update_of_ne hji] using hothers j hji
        · simp [hnone]
      | signed ph hdone _ _ => simp [hdone i] at hi
  · exact h

lemma Loading.setTarget (h : Loading s) : Loading (step base r s .setTarget) := by
  refine ⟨h.held, h.stored, fun n hn => (mem_some_iff.mp hn).symm, h.compares, ?_⟩
  cases h.stage with
  | loading i hi hnone => exact .loading i hi hnone
  | last i hothers hi hnone => exact .last i hothers hi hnone
  | signed ph hdone hone hph => exact .signed ph hdone hone hph

lemma Loading.upsert (h : Loading s) {src : FromStruct} {up : DdbUpsertResolve}
    (hup : up.record.id ∈ s.node.backend.map) :
    Loading (step base r s (.upsert now src up)) := by
  simp only [step, onDdbUpsertResolve_eq]
  by_cases haccepts : UpsertAccepts (envAt base r now) src s.node up
  · rw [if_pos haccepts]
    refine ⟨fun id hid => h.held id ?_, fun i hi => (AList.mem_insert _).mpr (.inr (h.stored i hi)),
      h.target, h.compares, ?_⟩
    · rcases (AList.mem_insert _).mp hid with rfl | hid
      exacts [hup, hid]
    · cases h.stage with
      | loading i hi hnone => exact .loading i hi hnone
      | last i hothers hi hnone => exact .last i hothers hi hnone
      | signed ph hdone hone hph => exact .signed ph hdone hone hph
  · rw [if_neg haccepts]
    exact h

/-- **Every orderly step keeps the load in order.** -/
theorem Loading.step (hids : (dumps.map AdvertRecord.id).Nodup)
    (hvalid : ∀ record ∈ dumps, Valid base record) (s : Loader dumps) (e : LoadEvent dumps)
    (h : Loading s) (he : Orderly s e) : Loading (step base r s e) := by
  cases e with
  | setTarget => exact h.setTarget
  | store i now =>
    by_cases hi : s.phase i = .received
    · exact h.store (hvalid _ (dumps.get_mem i)) hi he.2
    · simp only [Loader.step, hi, if_false]
      exact h
  | readTarget i => exact h.readTarget i he
  | readSize i now => exact h.readSize hids i he.1 he.2
  | upsert now src up => exact h.upsert he

lemma loading_start (hne : dumps ≠ []) {b : Backend}
    (hprior : ∀ id ∈ b.map, id ∈ dumps.map AdvertRecord.id) : Loading (start b : Loader dumps) where
  held := fun id hid => by
    obtain ⟨record, hrecord, rfl⟩ := mem_map.mp (hprior id hid)
    obtain ⟨i, rfl⟩ := get_of_mem hrecord
    exact ⟨i, rfl⟩
  stored := by simp [start]
  target := by simp [start]
  compares := by simp [start]
  stage := .loading ⟨0, length_pos_of_ne_nil hne⟩ rfl rfl

lemma Stage.all_stored (h : Stage s) : ∀ ph ∈ s.signons, ∀ i, ph i ≠ .received := by
  cases h with
  | loading _ _ hnone => simp [hnone]
  | last _ _ _ hnone => simp [hnone]
  | signed ph _ hone hph => simpa [hone] using hph

lemma Stage.signed_once (h : Stage s) (hdone : ∀ i, s.phase i = .done) :
    s.signons.length = 1 := by
  cases h with
  | loading i hi _ => simp [hdone i] at hi
  | last i _ hi _ => simp [hdone i] at hi
  | signed ph _ hone _ => simp [hone]

end Steps

/-- **Loading.**  A relay that holds no other records than it is sent loads valid records of
different ids, at least one.  If every step is orderly, no sign-on is sent before every record has
been stored, and exactly one has been when all threads have finished. -/
theorem signon_once_when_loaded {base : Env} {r : Id} (hne : dumps ≠ [])
    (hids : (dumps.map AdvertRecord.id).Nodup) (hvalid : ∀ record ∈ dumps, Valid base record)
    {b : Backend} (hprior : ∀ id ∈ b.map, id ∈ dumps.map AdvertRecord.id)
    (es : List (LoadEvent dumps)) (horderly : Lib.Along (step base r) Orderly (start b) es) :
    Lib.Always (step base r) (fun s => ∀ ph ∈ s.signons, ∀ i, ph i ≠ .received) (start b) es ∧
      ((∀ i, (Lib.run (step base r) (start b) es).phase i = .done) →
        (Lib.run (step base r) (start b) es).signons.length = 1) := by
  have hstart : Loading (start b : Loader dumps) := loading_start hne hprior
  exact ⟨(Lib.always_of_along (Loading.step hids hvalid) hstart horderly).mono
      fun s h => h.stage.all_stored,
    (Lib.run_invariant (Loading.step hids hvalid) hstart horderly).stage.signed_once⟩

/-! ## Two records -/

abbrev twoDumps : List AdvertRecord := [{ id := "ALICE" }, { id := "BOB" }]

def inOneGo (i : Fin twoDumps.length) : List (LoadEvent twoDumps) :=
  [.store i 0, .readTarget i, .readSize i 0]

theorem two_loaded_in_turn :
    (Lib.run (step {} "R") (start ((Backend.empty none none).upsert 0 { id := "ALICE" }))
      (inOneGo 0 ++ .setTarget :: inOneGo 1)).signons.length = 1 :=
  (signon_once_when_loaded (by decide) (by decide) (by simp [Valid, AdvertRecord.isRelay])
    (fun id hid => by
      rcases (AList.mem_insert _).mp hid with rfl | hid
      · decide
      · cases hid) (inOneGo 0 ++ .setTarget :: inOneGo 1)
    (by decide +kernel)).2 (by decide +kernel)

/-- **Never, twice, too early.**  With the number noted after the records no sign-on is sent; with
both records stored before either thread compares, two are; and on a relay with a record of its own,
one with the second record still to be stored. -/
theorem signon_never_twice_or_early :
    (Lib.run (step {} "R") (start (Backend.empty none none))
        (inOneGo 0 ++ inOneGo 1 ++ [.setTarget])).signons.length = 0 ∧
      (Lib.run (step {} "R") (start (Backend.empty none none))
        ([.setTarget, .store 0 0, .store 1 0, .readTarget 0, .readTarget 1, .readSize 0 0,
          .readSize 1 0] : List (LoadEvent twoDumps))).signons.length = 2 ∧
      (Lib.run (step {} "R") (start ((Backend.empty none none).upsert 0 { id := "CAROL" }))
        (.setTarget :: inOneGo 0)).signons.map (fun ph => ph 1) = [.received] := by
  decide +kernel

end Loader

end Bingle.Ddb
