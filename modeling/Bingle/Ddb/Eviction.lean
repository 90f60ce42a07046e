import Bingle.Lib.Run
import Bingle.Ddb.Backend

/-!
# Evicting relays that may not relay any more

`evict_disallowed_relays` (`bingle_core/src/ddb/mod.rs`) holds the lock of the database twice: to
take the ids of the relays, and to delete those whose permission is denied on chain.  In between
other threads write.
-/

namespace Bingle.Ddb

open Messages (Id AdvertRecord)
open Lib

namespace Eviction

inductive Write
  | upsert (now : ℕ) (record : AdvertRecord)
  | delete (id : Id)
deriving DecidableEq

def Write.id : Write → Id
  | .upsert _ record => record.id
  | .delete id => id

def Write.value : Write → Option AdvertRecord
  | .upsert _ record => some record
  | .delete _ => none

def Write.apply (b : Backend) : Write → Backend
  | .upsert now record => b.upsert now record
  | .delete id => b.delete id

/-- The number of the registration held then, what that was, and the last write under the id since.
-/
structure Denied where
  id : Id
  registration : ℕ
  held : Option AdvertRecord
  since : Option Write := none
deriving DecidableEq

/-- A record the call has removed, by the number of its registration, and the number the permission
was denied for. -/
structure Removed where
  record : AdvertRecord
  registration : ℕ
  denied : ℕ
deriving DecidableEq

structure State where
  myId : Id
  backend : Backend
  registrations : Id → ℕ := fun _ => 0
  /-- the relays still to be asked about, while a call is under way -/
  asking : Option (List Id) := none
  evict : List Denied := []
  removed : List Removed := []

inductive Event
  | write (w : Write)
  | snapshot (now : ℕ)
  | answer (permission : Option Bool)
  | remove

def Denied.note (w : Write) (d : Denied) : Denied :=
  if w.id = d.id then { d with since := some w } else d

def State.write (s : State) (w : Write) : State :=
  { s with
    backend := w.apply s.backend
    registrations := match w with
      | .upsert _ record =>
        Function.update s.registrations record.id (s.registrations record.id + 1)
      | .delete _ => s.registrations
    evict := s.evict.map (Denied.note w) }

def State.removal (s : State) (d : Denied) : Option Removed :=
  (s.backend.held d.id).map fun record => ⟨record, s.registrations d.id, d.registration⟩

def step (s : State) : Event → State
  | .write w => s.write w
  | .snapshot now =>
    match s.asking with
    | none => { s with asking := some ((s.backend.makeEpochInfo now).1.filter (· ≠ s.myId)) }
    | some _ => s
  | .answer permission =>
    match s.asking with
    | some (id :: ids) =>
      { s with
        asking := some ids
        evict := if permission = some false then
            s.evict ++ [⟨id, s.registrations id, s.backend.held id, none⟩] else s.evict }
    | _ => s
  | .remove =>
    match s.asking with
    | some [] =>
      { s with
        backend := (s.evict.map Denied.id).foldl Backend.delete s.backend
        asking := none
        evict := []
        removed := s.removed ++ s.evict.filterMap s.removal }
    | _ => s

def start (myId : Id) (b : Backend) : State := { myId := myId, backend := b }

/-- Only relays other than the node itself are removed, each in the registration that
was denied. -/
def Precise (s : State) : Prop :=
  ∀ x ∈ s.removed, x.record.isRelay = true ∧ x.record.id ≠ s.myId ∧ x.registration = x.denied

instance (s : State) : Decidable (Precise s) := inferInstanceAs (Decidable (∀ _ ∈ _, _))

/-- Since its permission was denied the relay has not been registered again, unless it has been
deleted after that; and what was held then, if it is still there, is a relay's. -/
def Denied.Undisturbed (d : Denied) : Prop :=
  match d.since with
  | none => ∀ record ∈ d.held, record.isRelay = true
  | some (.upsert _ _) => False
  | some (.delete _) => True

/-- Nobody has registered again between the denial and the removal. -/
def Unraced (s : State) : Event → Prop
  | .remove => s.asking = some [] → ∀ d ∈ s.evict, d.Undisturbed
  | _ => True

/-! ## What is known of a relay to be evicted -/

structure Tracked (myId : Id) (b : Backend) (registrations : Id → ℕ) (d : Denied) : Prop where
  other : d.id ≠ myId
  held : b.held d.id = match d.since with
    | none => d.held
    | some w => w.value
  le : d.registration ≤ registrations d.id
  same : d.since = none → registrations d.id = d.registration
  fresh : ∀ now record, d.since = some (.upsert now record) → d.registration < registrations d.id

structure Sound (s : State) : Prop where
  asking : ∀ ids, s.asking = some ids → s.myId ∉ ids
  evict : ∀ d ∈ s.evict, Tracked s.myId s.backend s.registrations d

lemma held_apply_self (b : Backend) (w : Write) : (w.apply b).held w.id = w.value := by
  cases w with
  | upsert now record => exact b.held_upsert_self now record
  | delete id => exact b.held_delete_self id

variable {w : Write} {id : Id} {d : Denied}

lemma held_apply_of_ne (b : Backend) (h : id ≠ w.id) :
    (w.apply b).held id = b.held id := by
  cases w with
  | upsert now record => exact b.held_upsert_of_ne now h
  | delete id' => exact b.held_delete_of_ne h

lemma registrations_write_of_ne (s : State) (h : id ≠ w.id) :
    (s.write w).registrations id = s.registrations id := by
  cases w with
  | upsert now record => exact Function.update_of_ne h ..
  | delete id' => rfl

lemma registrations_upsert (s : State) (now : ℕ) (record : AdvertRecord) :
    (s.write (.upsert now record)).registrations record.id = s.registrations record.id + 1 :=
  Function.update_self ..

variable {s : State}

lemma Tracked.write (h : Tracked s.myId s.backend s.registrations d) (w : Write) :
    Tracked s.myId (w.apply s.backend) (s.write w).registrations (d.note w) := by
  by_cases hid : w.id = d.id
  · rw [Denied.note, if_pos hid]
    have hheld : (w.apply s.backend).held d.id = w.value := hid ▸ held_apply_self s.backend w
    cases w with
    | upsert now record =>
      have hreg :
          (s.write (.upsert now record)).registrations d.id = s.registrations d.id + 1 := by
        rw [← (hid : record.id = d.id)]
        exact registrations_upsert s now record
      have hle : d.registration < (s.write (.upsert now record)).registrations d.id :=
        hreg ▸ Nat.lt_succ_of_le h.le
      exact ⟨h.other, hheld, hle.le, nofun, fun _ _ _ => hle⟩
    | delete id => exact ⟨h.other, hheld, h.le, nofun, nofun⟩
  · rw [Denied.note, if_neg hid]
    have hreg := registrations_write_of_ne s (Ne.symm hid)
    exact ⟨h.other, (held_apply_of_ne s.backend (Ne.symm hid)).trans h.held, hreg ▸ h.le,
      fun hs => hreg.trans (h.same hs), fun now record hs => hreg ▸ h.fresh now record hs⟩

lemma Sound.write (h : Sound s) (w : Write) : Sound (s.write w) := by
  refine ⟨h.asking, fun d hd => ?_⟩
  obtain ⟨d, hd', rfl⟩ := List.mem_map.mp hd
  exact (h.evict d hd').write w

lemma Sound.snapshot (h : Sound s) (now : ℕ) : Sound (step s (.snapshot now)) := by
  rw [step]
  split
  · refine ⟨fun ids hids => ?_, h.evict⟩
    obtain rfl := Option.some.inj hids
    simp
  · exact h

lemma Sound.answer (h : Sound s) (permission : Option Bool) :
    Sound (step s (.answer permission)) := by
  rw [step]
  split
  · next id ids hasking =>
      have hids := h.asking _ hasking
      refine ⟨fun ids' hids' => ?_, fun d hd => ?_⟩
      · obtain rfl := Option.some.inj hids'
        exact fun hmem => hids (List.mem_cons_of_mem _ hmem)
      · by_cases hp : permission = some false
        · simp only [if_pos hp, List.mem_append, List.mem_singleton] at hd
          rcases hd with hd | rfl
          · exact h.evict d hd
          · have hid : id ≠ s.myId := fun hid => hids (hid ▸ List.mem_cons_self)
            exact ⟨hid, rfl, le_rfl, fun _ => rfl, nofun⟩
        · simp only [if_neg hp] at hd
          exact h.evict d hd
  · exact h

lemma Sound.remove (h : Sound s) : Sound (step s .remove) := by
  rw [step]
  split
  · exact ⟨by simp, by simp⟩
  · exact h

lemma Sound.step (h : Sound s) (e : Event) : Sound (step s e) := by
  cases e with
  | write w => exact h.write w
  | snapshot now => exact h.snapshot now
  | answer permission => exact h.answer permission
  | remove => exact h.remove

/-! ## What the second section removes -/

lemma removal_precise_iff (h : Tracked s.myId s.backend s.registrations d) :
    (∀ x ∈ s.removal d, x.record.isRelay = true ∧ x.record.id ≠ s.myId ∧
      x.registration = x.denied) ↔ d.Undisturbed := by
  have hheld := h.held
  rw [State.removal, Denied.Undisturbed]
  cases hsince : d.since with
  | none =>
    -- what was held when the permission was denied is still there
    rw [hsince] at hheld
    simp only [hheld, Option.mem_map, forall_exists_index, and_imp, forall_apply_eq_imp_iff₂]
    refine forall₂_congr fun record hrecord => and_iff_left ⟨?_, h.same hsince⟩
    rw [s.backend.id_of_held (hheld.trans hrecord)]
    exact h.other
  | some w =>
    rw [hsince] at hheld
    cases w with
    | upsert now record =>
      -- the registration that goes is a later one
      have hne := (h.fresh now record hsince).ne'
      simpa [hheld, Write.value] using fun _ _ => hne
    | delete id => simp [hheld, Write.value]

lemma removed_step_of_not_remove {e : Event} (h : e ≠ .remove) :
    (step s e).removed = s.removed ∧ (step s e).myId = s.myId := by
  cases e with
  | write w => exact ⟨rfl, rfl⟩
  | snapshot now => rw [step]; split <;> exact ⟨rfl, rfl⟩
  | answer permission => rw [step]; split <;> exact ⟨rfl, rfl⟩
  | remove => exact absurd rfl h

lemma removals_precise_iff (h : Sound s) :
    (∀ x ∈ s.evict.filterMap s.removal, x.record.isRelay = true ∧ x.record.id ≠ s.myId ∧
      x.registration = x.denied) ↔ ∀ d ∈ s.evict, d.Undisturbed := by
  constructor
  · intro hall d hd
    exact (removal_precise_iff (h.evict d hd)).mp fun x hx =>
      hall x (List.mem_filterMap.mpr ⟨d, hd, hx⟩)
  · intro hall x hx
    obtain ⟨d, hd, hx⟩ := List.mem_filterMap.mp hx
    exact (removal_precise_iff (h.evict d hd)).mpr (hall d hd) x hx

lemma precise_step_iff (h : Sound s) (hs : Precise s) (e : Event) :
    Precise (step s e) ↔ Unraced s e := by
  by_cases he : e = .remove
  · subst he
    rw [step, Unraced]
    split
    · next hasking =>
        rw [Precise, List.forall_mem_append, removals_precise_iff h]
        exact ⟨fun hp _ => hp.2, fun hp => ⟨hs, hp hasking⟩⟩
    · next hasking => exact iff_of_true hs fun h => absurd h hasking
  · obtain ⟨hremoved, hme⟩ := removed_step_of_not_remove (s := s) he
    rw [Precise, hremoved, hme]
    refine iff_of_true hs ?_
    cases e <;> first | exact trivial | exact absurd rfl he

/-- **What an eviction removes.**  Over any run of calls and writes of other threads, every record
removed is a relay's, of another node, and the registration whose permission was denied *exactly
when* every second section finds the relays to be evicted as they were then, or gone. -/
theorem eviction_precise_iff (myId : Id) (b : Backend) (es : List Event) :
    Always step Precise (start myId b) es ↔ Along step Unraced (start myId b) es := by
  have hstart : Sound (start myId b) ∧ Precise (start myId b) :=
    ⟨⟨by simp [start], by simp [start]⟩, by simp [start, Precise]⟩
  exact always_iff_along_within (I := fun s => Sound s ∧ Precise s)
    (fun s e h => precise_step_iff h.1 h.2 e)
    (fun s e h hu => ⟨h.1.step e, (precise_step_iff h.1 h.2 e).mpr hu⟩) (fun _ h => h.2) hstart

def oneRelay : Backend :=
  (Backend.empty none (some "me")).upsert 0 { id := "r", amRelay := some true }

/-- The relay `"r"` is found denied, and signs on as a client before the second section: the advert
of the client goes. -/
theorem client_advert_evicted :
    (run step (start "me" oneRelay) [.snapshot 0, .answer (some false),
      .write (.upsert 1 { id := "r", amRelay := some false }), .remove]).removed =
        [⟨{ id := "r", amRelay := some false }, 1, 0⟩] ∧
      ¬ Precise (run step (start "me" oneRelay) [.snapshot 0, .answer (some false),
        .write (.upsert 1 { id := "r", amRelay := some false }), .remove]) := by
  decide

end Eviction

end Bingle.Ddb
