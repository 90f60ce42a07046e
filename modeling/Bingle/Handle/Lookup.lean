import Bingle.Lib.Run
import Bingle.Reader

/-!
# Resolving handles through the cache

`BingleApiImpl` (`bingle_core/src/api/bingle_api_impl.rs`) resolves a handle to its oldest holder on
the chain, and an account to its handle by reading that account's own state.  What either look-up
finds is entered in one cache, `HandleCacheBi`, both ways; but any account may register a handle
that another has.  `Node` is the cache with the chain, the clock and the threads between their
sections; `Node.past` and `Node.answers` are not in the program.
-/

namespace Bingle.Handle

open Lib (run Along)
open Reader (ScannedAccount)

/-! ## The cache -/

/-- Handles and ids, each with the other and the time it was learnt. -/
structure HandleCacheBi where
  handleToId : String → Option (String × ℕ) := fun _ => none
  idToHandle : String → Option (String × ℕ) := fun _ => none

namespace HandleCacheBi

def removeHandle (c : HandleCacheBi) (handle : String) : HandleCacheBi :=
  { c with handleToId := Function.update c.handleToId handle none }

def removeId (c : HandleCacheBi) (userId : String) : HandleCacheBi :=
  { c with idToHandle := Function.update c.idToHandle userId none }

def removeIdOf (c : HandleCacheBi) (userId handle : String) : HandleCacheBi :=
  if (c.idToHandle userId).map Prod.fst = some handle then c.removeId userId else c

def removeHandleOf (c : HandleCacheBi) (handle userId : String) : HandleCacheBi :=
  if (c.handleToId handle).map Prod.fst = some userId then c.removeHandle handle else c

/-- `insert`: the pair in both directions; what either stood for before is unlinked. -/
def insert (c : HandleCacheBi) (handle userId : String) (now : ℕ) : HandleCacheBi :=
  -- any previous reverse mapping for this handle
  let c := match c.handleToId handle with
    | some (oldUid, _) => (c.removeHandle handle).removeIdOf oldUid handle
    | none => c
  -- any other handle of this account
  let c := match c.idToHandle userId with
    | some (oldHandle, _) => (c.removeId userId).removeHandleOf oldHandle userId
    | none => c
  { handleToId := Function.update c.handleToId handle (some (userId, now))
    idToHandle := Function.update c.idToHandle userId (some (handle, now)) }

def getIdByHandle (c : HandleCacheBi) (handle : String) (expiry now : ℕ) :
    HandleCacheBi × Option String :=
  match c.handleToId handle with
  | some (uid, ts) =>
    if now - ts < expiry then (c, some uid)
    else ((c.removeHandle handle).removeIdOf uid handle, none)
  | none => (c, none)

def getHandleById (c : HandleCacheBi) (userId : String) (expiry now : ℕ) :
    HandleCacheBi × Option String :=
  match c.idToHandle userId with
  | some (handle, ts) =>
    if now - ts < expiry then (c, some handle)
    else ((c.removeId userId).removeHandleOf handle userId, none)
  | none => (c, none)

/-! What each operation leaves in the direction that `handle_lookup` reads. -/

section Frame

variable {c : HandleCacheBi} {h k u : String} {x : String × ℕ}

lemma removeHandle_handleToId (hx : (c.removeHandle h).handleToId k = some x) :
    c.handleToId k = some x := by
  simp only [removeHandle, Function.update_apply] at hx
  split_ifs at hx
  exact hx

lemma removeIdOf_handleToId : (c.removeIdOf u h).handleToId = c.handleToId := by
  unfold removeIdOf
  split_ifs <;> rfl

lemma removeHandleOf_handleToId (hx : (c.removeHandleOf h u).handleToId k = some x) :
    c.handleToId k = some x := by
  unfold removeHandleOf at hx
  split_ifs at hx
  · exact removeHandle_handleToId hx
  · exact hx

variable {now expiry : ℕ}

lemma insert_handleToId (hx : (c.insert h u now).handleToId k = some x) :
    k = h ∧ x = (u, now) ∨ c.handleToId k = some x := by
  unfold insert at hx
  simp only [Function.update_apply] at hx
  split_ifs at hx with hk
  · exact Or.inl ⟨hk, (Option.some.inj hx).symm⟩
  · right
    -- both clean-ups only take entries away
    have hfirst : ∀ {c' : HandleCacheBi}, c' = (match c.handleToId h with
        | some (oldUid, _) => (c.removeHandle h).removeIdOf oldUid h
        | none => c) → c'.handleToId k = some x → c.handleToId k = some x := by
      rintro c' rfl hx
      split at hx
      · rw [removeIdOf_handleToId] at hx
        exact removeHandle_handleToId hx
      · exact hx
    refine hfirst rfl ?_
    split at hx
    · exact removeHandleOf_handleToId (c := HandleCacheBi.removeId _ u) hx
    · exact hx

lemma getIdByHandle_eq_some (hu : (c.getIdByHandle h expiry now).2 = some u) :
    ∃ ts, c.handleToId h = some (u, ts) ∧ now - ts < expiry := by
  unfold getIdByHandle at hu
  split at hu
  · rename_i uid ts heq
    split_ifs at hu with hlt
    obtain rfl := Option.some.inj hu
    exact ⟨ts, heq, hlt⟩
  · exact absurd hu (by simp)

lemma getIdByHandle_handleToId
    (hx : (c.getIdByHandle h expiry now).1.handleToId k = some x) : c.handleToId k = some x := by
  unfold getIdByHandle at hx
  split at hx
  · split_ifs at hx
    · exact hx
    · rw [removeIdOf_handleToId] at hx
      exact removeHandle_handleToId hx
  · exact hx

lemma getHandleById_handleToId
    (hx : (c.getHandleById u expiry now).1.handleToId k = some x) : c.handleToId k = some x := by
  unfold getHandleById at hx
  split at hx
  · split_ifs at hx
    · exact hx
    · exact removeHandleOf_handleToId (c := c.removeId u) hx
  · exact hx

end Frame

/-! What both directions hold. -/

section Paired

variable {c : HandleCacheBi} {h k u : String} {t : ℕ}

def Paired (c : HandleCacheBi) : Prop :=
  ∀ h u t, c.handleToId h = some (u, t) ↔ c.idToHandle u = some (h, t)

inductive Op
  | insert (handle userId : String) (now : ℕ)
  | getIdByHandle (handle : String) (expiry now : ℕ)
  | getHandleById (userId : String) (expiry now : ℕ)
deriving DecidableEq, Repr

def perform (c : HandleCacheBi) : Op → HandleCacheBi
  | .insert handle userId now => c.insert handle userId now
  | .getIdByHandle handle expiry now => (c.getIdByHandle handle expiry now).1
  | .getHandleById userId expiry now => (c.getHandleById userId expiry now).1

def write (c : HandleCacheBi) (h u : String) (t : Option ℕ) : HandleCacheBi where
  handleToId := Function.update c.handleToId h (t.map (u, ·))
  idToHandle := Function.update c.idToHandle u (t.map (h, ·))

lemma Paired.write (hc : c.Paired) (hh : ∀ x ∈ c.handleToId h, x.1 = u)
    (hu : ∀ x ∈ c.idToHandle u, x.1 = h) (t : Option ℕ) : (c.write h u t).Paired := by
  intro k v s
  simp only [HandleCacheBi.write, Function.update_apply]
  by_cases hk : k = h <;> by_cases hv : v = u
  · simp [hk, hv]
  · rw [if_pos hk, if_neg hv, hk, ← hc]
    exact iff_of_false (by simp [Ne.symm hv]) fun hx => hv (hh _ hx)
  · rw [if_neg hk, if_pos hv, hv, hc]
    exact iff_of_false (fun hx => hk (hu _ hx)) (by simp [Ne.symm hk])
  · rw [if_neg hk, if_neg hv, hc]

lemma Paired.expire (hc : c.Paired) (hx : c.handleToId h = some (u, t)) :
    (c.write h u none).Paired ∧ (c.removeHandle h).removeIdOf u h = c.write h u none ∧
      (c.removeId u).removeHandleOf h u = c.write h u none := by
  have hback := (hc h u t).mp hx
  refine ⟨hc.write (by simp [hx]) (by simp [hback]) none, ?_, ?_⟩
  · simp [removeIdOf, removeHandle, removeId, HandleCacheBi.write, hback]
  · simp [removeHandleOf, removeHandle, removeId, HandleCacheBi.write, hx]

lemma Paired.replace (hc : c.Paired) (hh : c.handleToId h = none) (u : String) (now : ℕ) :
    let c := match c.idToHandle u with
      | some (oldHandle, _) => (c.removeId u).removeHandleOf oldHandle u
      | none => c
    (c.write h u (some now)).Paired := by
  cases hx : c.idToHandle u with
  | none => exact hc.write (by simp [hh]) (by simp [hx]) _
  | some x =>
    obtain ⟨hpaired, -, heq⟩ := hc.expire ((hc _ _ _).mpr hx)
    dsimp only
    rw [heq]
    refine hpaired.write ?_ ?_ _
    · simp [HandleCacheBi.write, Function.update_apply, hh]
    · simp [HandleCacheBi.write]

lemma Paired.insert (hc : c.Paired) (h u : String) (now : ℕ) : (c.insert h u now).Paired := by
  rw [HandleCacheBi.insert]
  cases hx : c.handleToId h with
  | none => exact hc.replace hx u now
  | some x =>
    obtain ⟨hpaired, heq, -⟩ := hc.expire hx
    dsimp only
    rw [heq]
    exact hpaired.replace (by simp [HandleCacheBi.write]) u now

lemma Paired.perform (hc : c.Paired) (op : Op) : (c.perform op).Paired := by
  cases op with
  | insert handle userId now => exact hc.insert handle userId now
  | getIdByHandle handle expiry now =>
    rw [HandleCacheBi.perform, getIdByHandle]
    cases hx : c.handleToId handle with
    | none => exact hc
    | some x =>
      dsimp only
      split_ifs
      · exact hc
      · obtain ⟨hpaired, heq, -⟩ := hc.expire hx
        rwa [heq]
  | getHandleById userId expiry now =>
    rw [HandleCacheBi.perform, getHandleById]
    cases hx : c.idToHandle userId with
    | none => exact hc
    | some x =>
      dsimp only
      split_ifs
      · exact hc
      · obtain ⟨hpaired, -, heq⟩ := hc.expire ((hc _ _ _).mpr hx)
        rwa [heq]

lemma getHandleById_eq_some {expiry now : ℕ} (hh : (c.getHandleById u expiry now).2 = some h) :
    ∃ ts, c.idToHandle u = some (h, ts) ∧ now - ts < expiry := by
  unfold getHandleById at hh
  split at hh
  · rename_i handle ts heq
    split_ifs at hh with hlt
    obtain rfl := Option.some.inj hh
    exact ⟨ts, heq, hlt⟩
  · exact absurd hh (by simp)

/-- **The cache is a bijection.**  Whatever is entered, looked up and expires, the two maps are each
other's inverse with the same times, and a look-up in either direction returns a pair that has not
expired. -/
theorem cache_bijection (ops : List Op) :
    let c := run perform {} ops
    (∀ h u t, c.handleToId h = some (u, t) ↔ c.idToHandle u = some (h, t)) ∧
    ∀ h u expiry now,
      ((c.getIdByHandle h expiry now).2 = some u →
        ∃ t, c.handleToId h = some (u, t) ∧ now - t < expiry) ∧
      ((c.getHandleById u expiry now).2 = some h →
        ∃ t, c.idToHandle u = some (h, t) ∧ now - t < expiry) := by
  refine ⟨?_, fun h u expiry now => ⟨getIdByHandle_eq_some, getHandleById_eq_some⟩⟩
  exact Lib.run_invariant (I := Paired) (P := fun _ _ => True) (fun _ op hc _ => hc.perform op)
    (fun h u t => by simp) (Lib.along_of_forall_mem (fun _ _ => trivial) _)

end Paired

end HandleCacheBi

/-! ## Look-ups -/

inductive Thread
  | askHandle (handle : String)
  | enterHandle (handle userId : String)
  | askId (userId : String)
  | enterId (userId handle : String)
deriving DecidableEq, Repr

structure Node where
  now : ℕ := 0
  chain : List ScannedAccount
  cache : HandleCacheBi := {}
  threads : List Thread := []
  answers : List (ℕ × String × String) := []
  past : List (ℕ × List ScannedAccount)

inductive Event
  | tick (d : ℕ)
  | chainMoves (accounts : List ScannedAccount)
  | handleLookup (handle : String)
  /-- `handle_lookup_by_id`, which the engine calls for every inbound packet -/
  | handleLookupById (userId : String)
  | ask (t : Thread)
  | askFails (t : Thread)
  | enter (t : Thread)
  | incoming (sender senderHandle : String)
deriving DecidableEq, Repr

def handleForAddress (chain : List ScannedAccount) (address : String) : Option String :=
  (chain.find? fun acct => acct.address = address).bind fun acct => acct.get "Handle"

namespace Node

variable (isAlphanumeric : Char → Bool) (expiry : ℕ)

def step (w : Node) : Event → Node
  | .tick d => { w with now := w.now + d, past := (w.now + d, w.chain) :: w.past }
  | .chainMoves accounts => { w with chain := accounts, past := (w.now, accounts) :: w.past }
  | .handleLookup handle =>
    match w.cache.getIdByHandle handle expiry w.now with
    | (cache, some userId) =>
      { w with cache, answers := (w.now, handle, userId) :: w.answers }
    | (cache, none) => { w with cache, threads := .askHandle handle :: w.threads }
  | .handleLookupById userId =>
    match w.cache.getHandleById userId expiry w.now with
    | (cache, some _) => { w with cache }
    | (cache, none) => { w with cache, threads := .askId userId :: w.threads }
  | .ask t =>
    if t ∈ w.threads then
      let threads := w.threads.erase t
      match t with
      | .askHandle handle =>
        match Reader.handleLookup isAlphanumeric w.chain handle with
        | some userId => { w with threads := .enterHandle handle userId :: threads }
        | none => { w with threads }
      | .askId userId =>
        match handleForAddress w.chain userId with
        | some handle => { w with threads := .enterId userId handle :: threads }
        | none => { w with threads }
      | .enterHandle _ _ | .enterId _ _ => w
    else w
  | .askFails t =>
    match t with
    | .askHandle _ | .askId _ => { w with threads := w.threads.erase t }
    | .enterHandle _ _ | .enterId _ _ => w
  | .enter t =>
    if t ∈ w.threads then
      match t with
      | .enterHandle handle userId =>
        { w with
          threads := w.threads.erase t
          cache := w.cache.insert handle userId w.now
          answers := (w.now, handle, userId) :: w.answers }
      | .enterId userId handle =>
        { w with threads := w.threads.erase t, cache := w.cache.insert handle userId w.now }
      | .askHandle _ | .askId _ => w
    else w
  | .incoming sender senderHandle =>
    { w with cache := w.cache.insert senderHandle sender w.now }

def init (chain : List ScannedAccount) : Node := { chain, past := [(0, chain)] }

end Node

/-! ## Owners -/

/-- The account has the handle, and nobody who has it has an earlier time. -/
def OldestHolder (isAlphanumeric : Char → Bool) (chain : List ScannedAccount)
    (handle u : String) : Prop :=
  ∃ m ∈ chain.flatMap fun acct => Reader.extractHandleMatch isAlphanumeric acct handle [],
    m.1 = u ∧ ∀ n ∈ chain.flatMap fun acct => Reader.extractHandleMatch isAlphanumeric acct handle [],
      m.2 ≤ n.2

instance (isAlphanumeric : Char → Bool) (chain : List ScannedAccount) (handle u : String) :
    Decidable (OldestHolder isAlphanumeric chain handle u) :=
  inferInstanceAs (Decidable (∃ m ∈ _, _ ∧ ∀ n ∈ _, _ ≤ _))

lemma oldestHolder_of_handleLookup {isAlphanumeric : Char → Bool} {chain : List ScannedAccount}
    {handle u : String} (h : Reader.handleLookup isAlphanumeric chain handle = some u) :
    OldestHolder isAlphanumeric chain handle u := by
  unfold Reader.handleLookup at h
  rw [Reader.foldl_extractHandleMatch, List.nil_append, Reader.pickOldestMatch_eq_some_iff] at h
  obtain ⟨t, hmem, hleast⟩ := h
  refine ⟨(u, t), hmem, rfl, fun n hn => ?_⟩
  rcases hleast n hn with hlt | ⟨heq, -⟩
  · exact hlt.le
  · exact heq.le

namespace Node

section Safety

variable {isAlphanumeric : Char → Bool} {expiry : ℕ} {w : Node}

/-- The condition on a step, in the state it finds: whatever pair it enters in the cache, the chain
resolves the handle to that account. -/
def EntersOwner (isAlphanumeric : Char → Bool) (w : Node) : Event → Prop
  | .enter (.enterHandle handle userId) | .enter (.enterId userId handle)
  | .incoming userId handle => Reader.handleLookup isAlphanumeric w.chain handle = some userId
  | _ => True

instance (isAlphanumeric : Char → Bool) (w : Node) : ∀ e, Decidable (w.EntersOwner isAlphanumeric e)
  | .enter (.enterHandle _ _) | .enter (.enterId _ _) | .incoming _ _ =>
    inferInstanceAs (Decidable (_ = _))
  | .enter (.askHandle _) | .enter (.askId _) | .tick _ | .chainMoves _ | .handleLookup _
  | .handleLookupById _ | .ask _ | .askFails _ => isTrue trivial

def WasOldest (isAlphanumeric : Char → Bool) (w : Node) (t : ℕ) (handle u : String) : Prop :=
  ∃ chain, (t, chain) ∈ w.past ∧ OldestHolder isAlphanumeric chain handle u

structure Honest (isAlphanumeric : Char → Bool) (expiry : ℕ) (w : Node) : Prop where
  current : (w.now, w.chain) ∈ w.past
  cache : ∀ h u ts, w.cache.handleToId h = some (u, ts) →
    ts ≤ w.now ∧ w.WasOldest isAlphanumeric ts h u
  answers : ∀ x ∈ w.answers, ∃ t, t ≤ x.1 ∧ x.1 ≤ t + expiry ∧
    w.WasOldest isAlphanumeric t x.2.1 x.2.2

variable {t : ℕ} {handle userId : String}

lemma WasOldest.mono {w' : Node} (hpast : ∀ m ∈ w.past, m ∈ w'.past) {h u : String}
    (hw : w.WasOldest isAlphanumeric t h u) : w'.WasOldest isAlphanumeric t h u := by
  obtain ⟨chain, hmem, hold⟩ := hw
  exact ⟨chain, hpast _ hmem, hold⟩

lemma Honest.move (h : w.Honest isAlphanumeric expiry) {now : ℕ} (hnow : w.now ≤ now)
    (chain : List ScannedAccount) :
    ({ w with now, chain, past := (now, chain) :: w.past } : Node).Honest isAlphanumeric expiry := by
  have hpast : ∀ m ∈ w.past, m ∈ (now, chain) :: w.past := fun m hm => List.mem_cons_of_mem _ hm
  refine ⟨List.mem_cons_self .., fun k u ts hk => ?_, fun x hx => ?_⟩
  · obtain ⟨hts, hold⟩ := h.cache k u ts hk
    exact ⟨hts.trans hnow, hold.mono hpast⟩
  · obtain ⟨t, hle, hlife, hold⟩ := h.answers x hx
    exact ⟨t, hle, hlife, hold.mono hpast⟩

lemma Honest.shrink (h : w.Honest isAlphanumeric expiry) {cache : HandleCacheBi}
    (hcache : ∀ k x, cache.handleToId k = some x → w.cache.handleToId k = some x)
    (threads : List Thread) :
    ({ w with cache, threads } : Node).Honest isAlphanumeric expiry :=
  ⟨h.current, fun k u ts hk => h.cache k u ts (hcache k _ hk), h.answers⟩

lemma Honest.insert (h : w.Honest isAlphanumeric expiry)
    (howner : Reader.handleLookup isAlphanumeric w.chain handle = some userId)
    (threads : List Thread) :
    ({ w with cache := w.cache.insert handle userId w.now, threads } : Node).Honest isAlphanumeric
      expiry := by
  refine ⟨h.current, fun k u ts hk => ?_, h.answers⟩
  rcases HandleCacheBi.insert_handleToId hk with ⟨rfl, heq⟩ | hk
  · obtain ⟨rfl, rfl⟩ := Prod.mk.inj heq
    exact ⟨le_rfl, w.chain, h.current, oldestHolder_of_handleLookup howner⟩
  · exact h.cache k u ts hk

lemma Honest.answer (h : w.Honest isAlphanumeric expiry)
    (hle : t ≤ w.now) (hlife : w.now ≤ t + expiry)
    (hold : w.WasOldest isAlphanumeric t handle userId) :
    ({ w with answers := (w.now, handle, userId) :: w.answers } : Node).Honest isAlphanumeric
      expiry := by
  refine ⟨h.current, h.cache, fun x hx => ?_⟩
  rcases List.mem_cons.mp hx with rfl | hx
  · exact ⟨t, hle, hlife, hold⟩
  · exact h.answers x hx

lemma Honest.step (h : w.Honest isAlphanumeric expiry) (e : Event)
    (howner : w.EntersOwner isAlphanumeric e) :
    (w.step isAlphanumeric expiry e).Honest isAlphanumeric expiry := by
  cases e with
  | tick d => exact h.move (Nat.le_add_right ..) w.chain
  | chainMoves accounts => exact h.move le_rfl accounts
  | handleLookup handle =>
    have hcache : ∀ k x, (w.cache.getIdByHandle handle expiry w.now).1.handleToId k = some x →
        w.cache.handleToId k = some x := fun k x => HandleCacheBi.getIdByHandle_handleToId
    simp only [Node.step]
    split
    · rename_i cache userId heq
      obtain ⟨ts, hts, hlt⟩ :=
        HandleCacheBi.getIdByHandle_eq_some (congrArg Prod.snd heq)
      obtain ⟨hle, hold⟩ := h.cache handle userId ts hts
      rw [heq] at hcache
      exact (h.answer hle (by omega) hold).shrink hcache w.threads
    · rename_i cache heq
      rw [heq] at hcache
      exact h.shrink hcache _
  | handleLookupById userId =>
    have hcache : ∀ k x, (w.cache.getHandleById userId expiry w.now).1.handleToId k = some x →
        w.cache.handleToId k = some x := fun k x => HandleCacheBi.getHandleById_handleToId
    simp only [Node.step]
    split
    · rename_i cache handle heq
      rw [heq] at hcache
      exact h.shrink hcache w.threads
    · rename_i cache heq
      rw [heq] at hcache
      exact h.shrink hcache _
  | ask t =>
    have hthreads : ∀ threads, ({ w with threads } : Node).Honest isAlphanumeric expiry :=
      fun threads => h.shrink (fun _ _ hk => hk) threads
    simp only [Node.step]
    split_ifs
    · cases t with
      | askHandle handle =>
        dsimp only
        split
        · exact hthreads _
        · exact hthreads _
      | askId userId =>
        dsimp only
        split
        · exact hthreads _
        · exact hthreads _
      | enterHandle handle userId => exact h
      | enterId userId handle => exact h
    · exact h
  | askFails t =>
    cases t with
    | askHandle handle => exact h.shrink (fun _ _ hk => hk) _
    | askId userId => exact h.shrink (fun _ _ hk => hk) _
    | enterHandle handle userId => exact h
    | enterId userId handle => exact h
  | enter t =>
    simp only [Node.step]
    split_ifs
    · cases t with
      | askHandle handle => exact h
      | askId userId => exact h
      | enterHandle handle userId =>
        have hold : w.WasOldest isAlphanumeric w.now handle userId :=
          ⟨w.chain, h.current, oldestHolder_of_handleLookup howner⟩
        exact (h.answer le_rfl (Nat.le_add_right ..) hold).insert howner _
      | enterId userId handle => exact h.insert howner _
    · exact h
  | incoming sender senderHandle => exact h.insert howner w.threads

end Safety

/-- **A handle cannot be hijacked.**  For every chain and every interleaving of look-ups, inbound
messages and expiries: whatever `handle_lookup` returns was the oldest holder at a moment within the
cache's lifetime, as long as every pair entered in the cache is one the chain agrees with then. -/
theorem lookup_returns_oldest_holder (isAlphanumeric : Char → Bool) (expiry : ℕ)
    (chain : List ScannedAccount) (es : List Event)
    (howner : Along (step isAlphanumeric expiry) (EntersOwner isAlphanumeric) (init chain) es) :
    ∀ x ∈ (run (step isAlphanumeric expiry) (init chain) es).answers, ∃ t, t ≤ x.1 ∧
      x.1 ≤ t + expiry ∧ ∃ accounts, (t, accounts) ∈
        (run (step isAlphanumeric expiry) (init chain) es).past ∧
        OldestHolder isAlphanumeric accounts x.2.1 x.2.2 := by
  have h0 : (init chain).Honest isAlphanumeric expiry :=
    ⟨List.mem_singleton_self _, by simp [init], by simp [init]⟩
  exact (Lib.run_invariant (fun _ e h hp => h.step e hp) h0 howner).answers

def twoHolders : List ScannedAccount :=
  [⟨"ALICE", [("Handle", "alice"), ("HandleTime", "5")]⟩,
    ⟨"MALLORY", [("Handle", "alice"), ("HandleTime", "9")]⟩]

def honestRun : List Event :=
  [.handleLookup "alice", .ask (.askHandle "alice"), .enter (.enterHandle "alice" "ALICE"),
    .tick 500, .handleLookup "alice"]

theorem alice_resolved :
    (run (step Char.isAlphanum 600) (init twoHolders) honestRun).answers =
        [(500, "alice", "ALICE"), (0, "alice", "ALICE")] ∧
      ∀ x ∈ (run (step Char.isAlphanum 600) (init twoHolders) honestRun).answers, ∃ t, t ≤ x.1 ∧
        x.1 ≤ t + 600 ∧ ∃ accounts, (t, accounts) ∈
          (run (step Char.isAlphanum 600) (init twoHolders) honestRun).past ∧
          OldestHolder Char.isAlphanum accounts x.2.1 x.2.2 :=
  ⟨by decide, lookup_returns_oldest_holder Char.isAlphanum 600 twoHolders honestRun (by decide)⟩

def hijackRun : List Event :=
  [.handleLookupById "MALLORY", .ask (.askId "MALLORY"), .enter (.enterId "MALLORY" "alice"),
    .handleLookup "alice"]

/-- A look-up by account enters the pair both ways: the handle resolves to the younger holder, who
has never been the oldest. -/
theorem handle_hijacked :
    ¬ ∀ (isAlphanumeric : Char → Bool) (expiry : ℕ) (chain : List ScannedAccount)
      (es : List Event), ∀ x ∈ (run (step isAlphanumeric expiry) (init chain) es).answers,
        ∃ t, t ≤ x.1 ∧ x.1 ≤ t + expiry ∧ ∃ accounts, (t, accounts) ∈
          (run (step isAlphanumeric expiry) (init chain) es).past ∧
          OldestHolder isAlphanumeric accounts x.2.1 x.2.2 := by
  intro h
  obtain ⟨t, -, -, accounts, hpast, hold⟩ :=
    h Char.isAlphanum 600 twoHolders hijackRun (0, "alice", "MALLORY") (by decide)
  -- the chain has been in one state only
  have honly : (run (step Char.isAlphanum 600) (init twoHolders) hijackRun).past =
      [(0, twoHolders)] := by decide
  rw [honly, List.mem_singleton] at hpast
  obtain ⟨-, rfl⟩ := Prod.mk.inj hpast
  exact absurd hold (by decide)

end Node

end Bingle.Handle
