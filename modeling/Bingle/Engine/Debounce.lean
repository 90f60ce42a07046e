import Bingle.Engine.Listening

/-!
# Changes of the public address

`stun_consistent_process` (`bingle_core/src/engine/mod.rs`) commits a new IP, with a reset, when it
was seen `PENDING_IP_CHANGE_POLLS` times in a row, and a new port at once.  Each observation has a
thread of its own; nobody comes between its steps until the address is committed, and what follows
overlaps as it likes.
-/

namespace Bingle

open List Option

namespace Engine

open Lib.Code

/-! ## One observation -/

/-- An address that STUN has found, or none, with what the outside answers to what follows. -/
structure Observation where
  publicAddr : Option Stun.SocketAddr
  answers : ℕ → Answer := fun _ => {}

def Observation.ip (o : Observation) : Option (List UInt8) := o.publicAddr.map (·.ip)

def publicIp (e : Engine) : Option (List UInt8) := e.lastPublicAddr.map (·.ip)

def pendingCount (e : Engine) (ip : List UInt8) : ℕ :=
  match e.pendingIpChange with
  | some (candidate, n) => if candidate = ip then n else 0
  | none => 0

def reset : Run Unit := do
  write (.stateField .trianglePing)
  write (.natType .unknown)
  write (.notifyListening false)

/-- `stun_consistent_process` until the address is committed. -/
def commit (publicAddr : Option Stun.SocketAddr) : Run PublicAddrChange := do
  let prevAddr ← look fun e _ => e.lastPublicAddr
  let change ← classifyPublicAddrChange prevAddr publicAddr
  if change = .reset then reset
  if change ≠ .pendingIpDebounce then write (.lastPublicAddr publicAddr)
  return change

/-- The rest of it: a new registration, or a new search for a relay. -/
def followUp (appId : Bool) (publicAddr : Option Stun.SocketAddr) (change : PublicAddrChange) :
    Run Unit := do
  if change = .reset then
    if let some relay ← look fun e _ => e.lastRegisteredRelay then
      if ← reregisterOrSwitch appId relay then return
  else
    if ← triangleTestInProgress then return
  write (.stateField .trianglePing)
  update fun _ i => (some (.registerAttemptAt i.now), ())
  searchRelay appId publicAddr

lemma stunConsistentProcess_eq (appId : Bool) (publicAddr : Option Stun.SocketAddr) :
    stunConsistentProcess appId publicAddr = commit publicAddr >>= followUp appId publicAddr := by
  simp only [commit, bind_bind]
  refine congrArg (look _ >>= ·) (funext fun prevAddr => ?_)
  refine congrArg (classifyPublicAddrChange prevAddr publicAddr >>= ·) (funext fun change => ?_)
  cases change <;> rfl

section

variable (e : Engine) (o : Observation)

def committed : Outcome Engine Write Answer PublicAddrChange :=
  (commit o.publicAddr).exec apply e o.answers

def observe : Engine := (committed e o).state

/-- The engine resets: it forgets what it knows of its NAT. -/
def Resets : Prop := Write.natType .unknown ∈ (committed e o).writes

/-- What the thread of the observation goes on with. -/
def rest (appId : Bool) : Run Unit := followUp appId o.publicAddr (committed e o).result

end

/-- A write that is part of no reset and registers the node with no relay. -/
def Write.Keeps : Write → Prop
  | .natType .unknown | .lastRegisteredRelay _ => False
  | _ => True

/-- A thread starts with an observation and gets as far as the commit, or one that is past it takes
its next step. -/
inductive Move
  | observed (o : Observation)
  | go (thread : ℕ) (answer : Answer)

def Move.observation? : Move → Option Observation
  | observed o => some o
  | go _ _ => none

def move (appId : Bool) (s : Lib.Threads Engine Write Answer) :
    Move → Lib.Threads Engine Write Answer
  | .observed o => ⟨observe s.shared o, s.threads ++ [rest s.shared o appId]⟩
  | .go thread answer => s.step apply (code appId) (.go thread answer)

/-- A move is a run of the engine's threads. -/
lemma exists_run_eq_move (appId : Bool) (s : Lib.Threads Engine Write Answer) (m : Move) :
    ∃ es, move appId s m = Lib.run (Lib.Threads.step apply (code appId)) s es := by
  cases m with
  | observed o =>
    have hthread : (s.step apply (code appId) (.start (.stunConsistent o.publicAddr))).threads[
        s.threads.length]? = some (commit o.publicAddr >>= followUp appId o.publicAddr) := by
      rw [← stunConsistentProcess_eq]
      exact getElem?_concat_length
    obtain ⟨answers, hrun⟩ := Lib.Threads.run_bind apply (code appId) hthread o.answers
    refine ⟨.start (.stunConsistent o.publicAddr) :: answers.map (.go s.threads.length), ?_⟩
    rw [Lib.run_cons, hrun]
    simp [move, Lib.Threads.step, observe, rest, committed]
  | go thread answer => exact ⟨[.go thread answer], rfl⟩

/-! ## What it writes -/

def classified (e : Engine) (newAddr : Option Stun.SocketAddr) :
    Option (List UInt8 × ℕ) × PublicAddrChange :=
  match e.lastPublicAddr, newAddr with
  | none, _ => (none, .unchanged)
  | some _, none => (none, .reset)
  | some prev, some new =>
    if new = prev then (none, .unchanged)
    else if new.ip = prev.ip then (none, .portOnly)
    else if e.pendingCount new.ip + 1 ≥ pendingIpChangePolls then (none, .reset)
    else (some (new.ip, e.pendingCount new.ip + 1), .pendingIpDebounce)

variable {appId : Bool} {e : Engine}

lemma exec_classifyPublicAddrChange (newAddr : Option Stun.SocketAddr) (answers : ℕ → Answer) :
    (classifyPublicAddrChange e.lastPublicAddr newAddr).exec apply e answers =
      ⟨e.apply (.pendingIpChange (e.classified newAddr).1),
        [.pendingIpChange (e.classified newAddr).1], (e.classified newAddr).2,
        fun n => answers (n + 1)⟩ := by
  cases hprev : e.lastPublicAddr with
  | none => simp only [classified, hprev]; rfl
  | some prev =>
    cases newAddr with
    | none => simp only [classified, hprev]; rfl
    | some new =>
      simp only [classified, hprev, classifyPublicAddrChange]
      by_cases hsame : new = prev
      · rw [if_pos hsame, if_pos hsame]
        rfl
      rw [if_neg hsame, if_neg hsame]
      by_cases hip : new.ip = prev.ip
      · rw [if_pos hip, if_pos hip]
        rfl
      rw [if_neg hip, if_neg hip]
      rcases hpending : e.pendingIpChange with _ | ⟨candidate, n⟩
      · simp only [update, exec, pendingCount, hpending]
        split_ifs <;> rfl
      · by_cases hcandidate : candidate = new.ip
        · simp only [update, exec, pendingCount, hpending, if_pos hcandidate]
          split_ifs <;> rfl
        · simp only [update, exec, pendingCount, hpending, if_neg hcandidate]
          split_ifs <;> rfl

def PublicAddrChange.writes (publicAddr : Option Stun.SocketAddr) : PublicAddrChange → List Write
  | .unchanged | .portOnly => [.lastPublicAddr publicAddr]
  | .pendingIpDebounce => []
  | .reset => [.stateField .trianglePing, .natType .unknown, .notifyListening false,
      .lastPublicAddr publicAddr]

lemma committed_eq (e : Engine) (o : Observation) :
    (committed e o).writes = .pendingIpChange (e.classified o.publicAddr).1 ::
        (e.classified o.publicAddr).2.writes o.publicAddr ∧
      (committed e o).result = (e.classified o.publicAddr).2 ∧
      (observe e o).pendingIpChange = (e.classified o.publicAddr).1 ∧
      (observe e o).lastPublicAddr =
        if (e.classified o.publicAddr).2 = .pendingIpDebounce then e.lastPublicAddr
        else o.publicAddr := by
  have hlook (k : Option Stun.SocketAddr → Run PublicAddrChange) (answers : ℕ → Answer) :
      ((look fun e _ => e.lastPublicAddr : Run _) >>= k).exec apply e answers =
        (k e.lastPublicAddr).exec apply e fun n => answers (n + 1) := rfl
  rw [observe, committed, commit, hlook, exec_bind, exec_classifyPublicAddrChange]
  cases (e.classified o.publicAddr).2 with
  | unchanged => exact ⟨rfl, rfl, rfl, rfl⟩
  | portOnly => exact ⟨rfl, rfl, rfl, rfl⟩
  | pendingIpDebounce => exact ⟨rfl, rfl, rfl, rfl⟩
  | reset => exact ⟨rfl, rfl, rfl, rfl⟩

/-! ## What follows writes nothing of that -/

def Write.Follows (change : PublicAddrChange) : Write → Prop
  | .stateField _ | .natType .noConnection | .notifyListening _ | .registerAttemptAt _
  | .relayFinder => True
  | .registered _ | .lastRegisteredRelay _ => change = .reset
  | _ => False

section FollowUp

variable {P : Write → Prop} {change : PublicAddrChange}

lemma writes_getState : getState.Writes P := by
  refine (writes_look _).bind fun registered => writes_ite trivial ?_
  refine (writes_look _).bind fun ready => writes_ite trivial ?_
  exact (writes_look _).bind fun restricted => writes_ite trivial (writes_look _)

lemma writes_sendRelayListen : ∀ attempts, (sendRelayListen attempts).Writes P
  | 0 => writes_pure _
  | attempts + 1 => by
      refine (writes_look _).bind fun reply => ?_
      cases reply with
      | listenResponse => exact writes_pure _
      | unexpected => exact writes_pure _
      | failed => exact writes_sendRelayListen attempts

lemma writes_triangleTestInProgress : triangleTestInProgress.Writes P := by
  refine (writes_look _).bind fun state => writes_ite (writes_pure _) ?_
  exact writes_getState.bind fun state => (writes_look _).bind fun stale => writes_pure _

lemma writes_registerWithRelay (o : Option RelayInfo) :
    (registerWithRelay appId o).Writes (Write.Follows .reset) := by
  have hregister (info : RelayInfo) :
      (registerWithRelay appId (some info)).Writes (Write.Follows .reset) := by
    have hflag : Write.Follows .reset (.registered true) := rfl
    have hsaid : Write.Follows .reset (.notifyListening true) := trivial
    have hrelay : Write.Follows .reset (.lastRegisteredRelay info) := rfl
    refine (writes_sendRelayListen 3).bind fun listens => writes_ite (writes_pure _) ?_
    refine (writes_look _).bind fun registered => writes_ite (writes_pure _) ?_
    refine (writes_write hflag).bind fun _ => (writes_write hsaid).bind fun _ => ?_
    exact (writes_write hrelay).bind fun _ => writes_pure _
  cases o with
  | some info => exact hregister info
  | none =>
    refine (writes_look _).bind fun relayInfo => ?_
    cases relayInfo with
    | none => exact writes_pure _
    | some info => exact hregister info

lemma writes_reregisterOrSwitch (relay : RelayInfo) :
    (reregisterOrSwitch appId relay).Writes (Write.Follows .reset) :=
  (writes_registerWithRelay _).bind fun _ =>
    writes_ite (writes_pure _) (writes_registerWithRelay _)

lemma writes_noConnection : noConnection.Writes (Write.Follows change) :=
  (writes_write trivial).bind fun _ => (writes_write trivial).bind fun _ => writes_write trivial

lemma writes_searchRelay (publicAddr : Option Stun.SocketAddr) :
    (searchRelay appId publicAddr).Writes (Write.Follows change) := by
  cases publicAddr with
  | none => exact writes_noConnection
  | some addr =>
    refine (writes_look _).bind fun finder => writes_ite (writes_pure _) ?_
    refine (writes_look _).bind fun relay => ?_
    cases relay with
    | none => exact writes_noConnection
    | some relay => exact writes_write trivial

lemma writes_followUp (publicAddr : Option Stun.SocketAddr) (change : PublicAddrChange) :
    (followUp appId publicAddr change).Writes (Write.Follows change) := by
  have hsearch : (do
      write (.stateField .trianglePing)
      update fun _ i => (some (.registerAttemptAt i.now), ())
      searchRelay appId publicAddr : Run Unit).Writes (Write.Follows change) := by
    refine (writes_write trivial).bind fun _ => ?_
    refine (writes_update ?_).bind fun _ => writes_searchRelay publicAddr
    rintro s i a ⟨⟩
    trivial
  unfold followUp
  by_cases hreset : change = .reset
  · subst hreset
    refine (writes_look _).bind fun relay => ?_
    cases relay with
    | none => exact hsearch
    | some relay =>
      exact (writes_reregisterOrSwitch relay).bind fun done =>
        writes_ite (writes_pure _) hsearch
  · rw [if_neg hreset]
    exact writes_triangleTestInProgress.bind fun busy => writes_ite (writes_pure _) hsearch

end FollowUp

variable {o : Observation} {a b : List UInt8} {n : ℕ} {seen : List (Option (List UInt8))}
  {s : Lib.Threads Engine Write Answer}

lemma resets_iff : Resets e o ↔ (e.classified o.publicAddr).2 = .reset := by
  rw [Resets, (committed_eq e o).1]
  cases (e.classified o.publicAddr).2 <;> simp [PublicAddrChange.writes]

lemma writes_rest (h : ¬ Resets e o) : (rest e o appId).Writes Write.Keeps := by
  rw [resets_iff] at h
  rw [rest, (committed_eq e o).2.1]
  refine (writes_followUp _ _).mono fun w hw => ?_
  cases w with
  | lastRegisteredRelay relay => exact h hw
  | natType t => cases t <;> trivial
  | _ => trivial

/-! ## Counting -/

def Counting (e : Engine) (ip : Option (List UInt8)) : Prop :=
  ∃ a b, e.publicIp = some a ∧ ip = some b ∧ a ≠ b ∧ e.pendingCount b + 1 < pendingIpChangePolls

lemma publicIp_eq_some_iff :
    e.publicIp = some a ↔ ∃ prev, e.lastPublicAddr = some prev ∧ prev.ip = a :=
  map_eq_some_iff

variable {addr : Option Stun.SocketAddr}

lemma classified_of_counting (ha : e.publicIp = some a)
    (hb : addr.map (·.ip) = some b) (hab : a ≠ b)
    (hcount : e.pendingCount b + 1 < pendingIpChangePolls) :
    e.classified addr = (some (b, e.pendingCount b + 1), .pendingIpDebounce) := by
  obtain ⟨prev, hprev, rfl⟩ := publicIp_eq_some_iff.mp ha
  obtain ⟨new, rfl, rfl⟩ := map_eq_some_iff.mp hb
  have hne : new ≠ prev := fun h => hab (h ▸ rfl)
  simp only [classified, hprev]
  rw [if_neg hne, if_neg hab.symm, if_neg (by omega)]

lemma classified_of_not_counting (h : ¬ e.Counting (addr.map (·.ip))) :
    (e.classified addr).1 = none ∧ (e.classified addr).2 ≠ .pendingIpDebounce := by
  unfold classified
  cases hprev : e.lastPublicAddr with
  | none => simp
  | some prev =>
    cases addr with
    | none => simp
    | some new =>
      simp only
      split_ifs with hsame hip hcount
      · simp
      · simp
      · simp
      · refine absurd ⟨prev.ip, new.ip, ?_, rfl, Ne.symm hip, by omega⟩ h
        exact publicIp_eq_some_iff.mpr ⟨prev, hprev, rfl⟩

lemma classified_eq_reset_iff :
    (e.classified addr).2 = .reset ↔ ∃ a, e.publicIp = some a ∧ addr.map (·.ip) ≠ some a ∧
      ¬ e.Counting (addr.map (·.ip)) := by
  unfold classified Counting publicIp
  cases hprev : e.lastPublicAddr with
  | none => simp
  | some prev =>
    cases addr with
    | none => simp
    | some new =>
      simp only [map_some, some.injEq]
      split_ifs with hsame hip hcount
      · simp [hsame]
      · simp [hip]
      · refine iff_of_true rfl ⟨prev.ip, rfl, fun h => hip (some.inj h), ?_⟩
        rintro ⟨_, _, rfl, rfl, -, hlt⟩
        omega
      · refine iff_of_false nofun ?_
        rintro ⟨_, rfl, -, hcounting⟩
        exact hcounting ⟨_, _, rfl, rfl, Ne.symm hip, by omega⟩

lemma observe_of_counting (ha : e.publicIp = some a) (hb : o.ip = some b) (hab : a ≠ b)
    (hcount : e.pendingCount b + 1 < pendingIpChangePolls) :
    (observe e o).publicIp = some a ∧
      (observe e o).pendingIpChange = some (b, e.pendingCount b + 1) := by
  obtain ⟨-, -, hpending, haddr⟩ := committed_eq e o
  rw [classified_of_counting ha hb hab hcount] at hpending haddr
  rw [publicIp, haddr, hpending, if_pos rfl]
  exact ⟨ha, rfl⟩

lemma observe_of_not_counting (h : ¬ e.Counting o.ip) :
    (observe e o).publicIp = o.ip ∧ (observe e o).pendingIpChange = none := by
  obtain ⟨-, -, hpending, haddr⟩ := committed_eq e o
  obtain ⟨hnone, hchange⟩ := classified_of_not_counting h
  rw [publicIp, haddr, hpending, if_neg hchange, hnone]
  exact ⟨rfl, rfl⟩

lemma pendingCount_of_none (h : e.pendingIpChange = none) (b : List UInt8) :
    e.pendingCount b = 0 := by
  rw [pendingCount, h]

lemma pendingCount_of_some (h : e.pendingIpChange = some (b, n))
    (c : List UInt8) : e.pendingCount c = if b = c then n else 0 := by
  rw [pendingCount, h]

lemma pendingCount_observe_of_ne (h : o.ip ≠ some b) :
    (observe e o).pendingCount b = 0 := by
  by_cases hcounting : e.Counting o.ip
  · obtain ⟨a, c, ha, hc, hac, hcount⟩ := hcounting
    obtain ⟨-, hpending⟩ := observe_of_counting ha hc hac hcount
    rw [pendingCount_of_some hpending, if_neg]
    rintro rfl
    exact h hc
  · exact pendingCount_of_none (observe_of_not_counting hcounting).2 b

/-! ## Histories -/

def Tracks (e : Engine) (seen : List (Option (List UInt8))) : Prop :=
  ∀ a b, e.publicIp = some a → a ≠ b →
    e.pendingCount b < pendingIpChangePolls ∧
      ∀ n, List.replicate n (some b) <:+ seen ↔ n ≤ e.pendingCount b

lemma replicate_suffix_concat {α : Type*} {x y : α} {l : List α} :
    List.replicate (n + 1) x <:+ l ++ [y] ↔ y = x ∧ List.replicate n x <:+ l := by
  rw [suffix_concat_iff, replicate_succ']
  constructor
  · rintro (h | ⟨t, h, ht⟩)
    · simp at h
    · obtain ⟨rfl, hy⟩ := append_inj' h rfl
      exact ⟨(singleton_inj.mp hy).symm, ht⟩
  · rintro ⟨rfl, h⟩
    exact Or.inr ⟨_, rfl, h⟩

lemma tracks_nil (h : e.lastPublicAddr = none ∨ e.pendingIpChange = none) : e.Tracks [] := by
  intro a b ha hab
  obtain ⟨prev, hprev, -⟩ := publicIp_eq_some_iff.mp ha
  have hnone : e.pendingIpChange = none := h.resolve_left (by simp [hprev])
  rw [pendingCount_of_none hnone]
  exact ⟨by decide, fun n => by simp [suffix_nil]⟩

lemma Tracks.observe (h : e.Tracks seen) (o : Observation) :
    (observe e o).Tracks (seen ++ [o.ip]) := by
  intro a b ha hab
  have hother (hne : o.ip ≠ some b) : (Engine.observe e o).pendingCount b <
      pendingIpChangePolls ∧ ∀ n, List.replicate n (some b) <:+ seen ++ [o.ip] ↔
        n ≤ (Engine.observe e o).pendingCount b := by
    rw [pendingCount_observe_of_ne hne]
    refine ⟨by decide, fun n => ?_⟩
    cases n with
    | zero => simp
    | succ n => simp [replicate_suffix_concat, hne]
  by_cases hcounting : e.Counting o.ip
  · obtain ⟨a', c, ha', hc, hac, hcount⟩ := hcounting
    obtain ⟨haddr, hpending⟩ := observe_of_counting ha' hc hac hcount
    obtain rfl : a' = a := some.inj (haddr.symm.trans ha)
    by_cases hcb : c = b
    · subst hcb
      rw [pendingCount_of_some hpending, if_pos rfl]
      refine ⟨hcount, fun n => ?_⟩
      cases n with
      | zero => simp
      | succ n => rw [replicate_suffix_concat, (h a' c ha' hac).2, and_iff_right hc]; omega
    · exact hother fun hb => hcb (some.inj (hc.symm.trans hb))
  · obtain ⟨haddr, -⟩ := observe_of_not_counting hcounting
    refine hother fun hb => hab ?_
    rw [haddr, hb] at ha
    exact (some.inj ha).symm

lemma Tracks.congr {e' : Engine} (h : e.Tracks seen) (haddr : e'.lastPublicAddr = e.lastPublicAddr)
    (hpending : e'.pendingIpChange = e.pendingIpChange) : e'.Tracks seen := by
  have hcount (b : List UInt8) : e'.pendingCount b = e.pendingCount b := by
    rw [pendingCount, hpending, pendingCount]
  intro a b ha hab
  rw [hcount]
  exact h a b (by rwa [publicIp, ← haddr]) hab

/-- Past the commit no thread writes to the address or to the count. -/
def Past (s : Lib.Threads Engine Write Answer) : Prop :=
  ∀ c ∈ s.threads, ∃ change, c.Writes (Write.Follows change)

lemma Past.go (appId : Bool) (h : Past s) (thread : ℕ) (answer : Answer) :
    let s' := move appId s (.go thread answer)
    Past s' ∧ s'.shared.lastPublicAddr = s.shared.lastPublicAddr ∧
      s'.shared.pendingIpChange = s.shared.pendingIpChange := by
  simp only [move, Lib.Threads.step]
  split
  · next write next hthread =>
      obtain ⟨change, hc⟩ := h _ (mem_of_getElem? hthread)
      obtain ⟨hwrite, hnext⟩ := hc s.shared answer
      refine ⟨fun c hmem => ?_, ?_⟩
      · rcases mem_or_eq_of_mem_set hmem with hmem | rfl
        · exact h c hmem
        · exact ⟨change, hnext⟩
      · cases hw : write s.shared answer with
        | none => exact ⟨rfl, rfl⟩
        | some w =>
          have hfollows := hwrite w hw
          cases w with
          | lastPublicAddr a => exact hfollows.elim
          | pendingIpChange p => exact hfollows.elim
          | _ => exact ⟨rfl, rfl⟩
  · exact ⟨h, rfl, rfl⟩

lemma Past.observed (h : Past s) (o : Observation) :
    Past (move appId s (.observed o)) := by
  intro c hc
  rcases mem_append.mp hc with hc | hc
  · exact h c hc
  · exact mem_singleton.mp hc ▸ ⟨_, writes_followUp _ _⟩

lemma tracks_run {e₀ : Engine} (h₀ : e₀.lastPublicAddr = none ∨ e₀.pendingIpChange = none)
    (moves : List Move) :
    Past (Lib.run (move appId) ⟨e₀, []⟩ moves) ∧
      (Lib.run (move appId) ⟨e₀, []⟩ moves).shared.Tracks
        ((moves.filterMap Move.observation?).map Observation.ip) := by
  induction moves using List.reverseRecOn with
  | nil => exact ⟨forall_mem_nil _, tracks_nil h₀⟩
  | append_singleton moves m ih =>
    rw [Lib.run_append, filterMap_append, map_append]
    cases m with
    | observed o => exact ⟨ih.1.observed o, ih.2.observe o⟩
    | go thread answer =>
      obtain ⟨hpast, haddr, hpending⟩ := ih.1.go appId thread answer
      have hnone : [Move.go thread answer].filterMap Move.observation? = [] := rfl
      rw [hnone, map_nil, append_nil]
      exact ⟨hpast, ih.2.congr haddr hpending⟩

/-- **The debounce.**  After every history, with the threads of earlier observations anywhere past
their commits, and for every further observation `o`:

* the committed IP changes from `a` to a different `b` exactly when `o` and the two observations
  before it all had the IP `b`;
* an observation of the committed IP, at whatever port, neither resets nor registers anew, now or
  in any of the steps that its thread still takes;
* the loss of the address resets at once;
* an observation of another IP, or of none, ends the count of `b`. -/
theorem public_addr_debounced (appId : Bool) {e₀ : Engine}
    (h₀ : e₀.lastPublicAddr = none ∨ e₀.pendingIpChange = none) (moves : List Move)
    (o : Observation) :
    let e := (Lib.run (move appId) ⟨e₀, []⟩ moves).shared
    let e' := (Lib.run (move appId) ⟨e₀, []⟩ (moves ++ [Move.observed o])).shared
    (∀ a b, e.publicIp = some a → a ≠ b → (e'.publicIp = some b ↔ List.replicate 3 (some b) <:+
      ((moves ++ [Move.observed o]).filterMap Move.observation?).map Observation.ip)) ∧
    (∀ a, e.publicIp = some a → o.ip = some a →
      ¬ Resets e o ∧ (rest e o appId).Writes Write.Keeps) ∧
    (∀ a, e.publicIp = some a → o.ip = none → Resets e o ∧ e'.publicIp = none) ∧
    ∀ b, o.ip ≠ some b → e'.pendingCount b = 0 := by
  intro e e'
  have htracks : e.Tracks ((moves.filterMap Move.observation?).map Observation.ip) :=
    (tracks_run h₀ moves).2
  have he' : e' = observe e o := by
    simp only [e', Lib.run_append]
    rfl
  rw [he']
  refine ⟨fun a b ha hab => ?_, fun a ha hip => ?_, fun a ha hip => ?_,
    fun b hb => pendingCount_observe_of_ne hb⟩
  · rw [filterMap_append, map_append]
    change _ ↔ List.replicate 3 (some b) <:+ _ ++ [o.ip]
    rw [replicate_suffix_concat, (htracks a b ha hab).2]
    by_cases hcounting : e.Counting o.ip
    · obtain ⟨a', c, ha', hc, hac, hcount⟩ := hcounting
      obtain ⟨haddr, -⟩ := observe_of_counting ha' hc hac hcount
      obtain rfl : a' = a := some.inj (ha'.symm.trans ha)
      refine iff_of_false (fun hb => hab (some.inj (haddr.symm.trans hb))) ?_
      rintro ⟨hb, htwo⟩
      obtain rfl : c = b := some.inj (hc.symm.trans hb)
      simp only [pendingIpChangePolls] at hcount
      omega
    · obtain ⟨haddr, -⟩ := observe_of_not_counting hcounting
      rw [haddr]
      refine (and_iff_left_of_imp fun hb => ?_).symm
      by_contra htwo
      exact hcounting ⟨a, b, ha, hb, hab, by simp only [pendingIpChangePolls]; omega⟩
  · have hreset : ¬ Resets e o := by
      rw [resets_iff, classified_eq_reset_iff]
      rintro ⟨a', ha', hne, -⟩
      exact hne (hip.trans (ha.symm.trans ha'))
    exact ⟨hreset, writes_rest hreset⟩
  · have hcounting : ¬ e.Counting o.ip := by
      rintro ⟨_, b, -, hb, -⟩
      exact some_ne_none b (hb.symm.trans hip)
    refine ⟨?_, (observe_of_not_counting hcounting).1.trans hip⟩
    rw [resets_iff, classified_eq_reset_iff]
    exact ⟨a, ha, fun h => some_ne_none a (h.symm.trans hip), hcounting⟩

def seenAt9 (port : UInt16) : Move := .observed { publicAddr := some ⟨[192, 0, 2, 9], port⟩ }

/-- The second observation comes before the thread of the first has gone on. -/
theorem third_observation_commits :
    let e₀ : Engine := { lastPublicAddr := some ⟨[192, 0, 2, 1], 4000⟩ }
    let moves := [seenAt9 1, seenAt9 2, .go 0 {}, .go 1 {}]
    (Lib.run (move true) ⟨e₀, []⟩ moves).shared.publicIp = some [192, 0, 2, 1] ∧
      (Lib.run (move true) ⟨e₀, []⟩ (moves ++ [seenAt9 2])).shared.publicIp =
        some [192, 0, 2, 9] := by
  intro e₀ moves
  have hip : (Lib.run (move true) ⟨e₀, []⟩ moves).shared.publicIp = some [192, 0, 2, 1] := by
    decide
  refine ⟨hip, ((public_addr_debounced true (Or.inr rfl) moves _).1 _ _ hip (by decide)).mpr ?_⟩
  exact ⟨[], rfl⟩

end Engine

end Bingle
