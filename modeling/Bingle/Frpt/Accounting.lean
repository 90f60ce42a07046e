import Bingle.Frpt.Desk
import Bingle.Lib.Waiting

/-!
# What a send leaves behind

A call of `send` that returns `Ok` should have been acknowledged, and no call should leave its entry
among the pending acknowledgements.  An acknowledgement is matched by the key of its call, which
ends in a transaction id of 16 bits.
-/

namespace Bingle.Frpt

open List Option
open Function (update_eq_self update_of_ne update_self)
open Lib (run Along Always Waiting)

variable {κ : Type*}

namespace Desk

/-! ## Who is told -/

def view (d : Desk κ) : Waiting ℕ (TxKey κ) := ⟨d.pendingAcks, fun n => (d.call n).running⟩

def Told (d : Desk κ) (n : ℕ) : Prop := d.flag n = true ∨ ∃ thread, d.acking thread = .matched n

structure Honest (d : Desk κ) : Prop where
  owned : d.view.Owned
  registered : ∀ key n, d.pendingAcks key = some n → (d.call n).registered = true
  told : ∀ n, d.Told n → (d.call n).registered = true ∧ (∀ key, d.pendingAcks key ≠ some n) ∧
    ∃ key ∈ d.dispatched, (d.call n).key? = some key
  parsed : ∀ thread key, d.acking thread = .parsed key → key ∈ d.dispatched
  ok : ∀ n key, d.call n = .returned (some key) (.ok ()) → key ∈ d.dispatched

variable {d d' : Desk κ} {n : ℕ} {p : CallPhase κ}

lemma Honest.goOn (h : d.Honest) (hcall : d'.call = Function.update d.call n p)
    (htable : ∀ key m, d'.pendingAcks key = some m → d.pendingAcks key = some m)
    (hflag : d'.flag = d.flag) (hacking : d'.acking = d.acking)
    (hdispatched : d'.dispatched = d.dispatched)
    (hkey : (d.call n).registered = true → p.key? = (d.call n).key? ∧ p.registered = true)
    (hrunning : ∀ key, d'.pendingAcks key = some n → p.running = some key)
    (hok : ∀ key, p = .returned (some key) (.ok ()) → key ∈ d.dispatched) : d'.Honest := by
  have hself : d'.call n = p := by rw [hcall, update_self]
  have hother : ∀ m, m ≠ n → d'.call m = d.call m := fun m hm => by
    rw [hcall, update_of_ne hm]
  have htold : ∀ m, d'.Told m → d.Told m := fun m hm => by rwa [Told, hflag, hacking] at hm
  refine ⟨fun key m hentry => ?_, fun key m hentry => ?_, fun m hm => ?_, fun t key ht => ?_,
    fun m key hm => ?_⟩
  · by_cases hmn : m = n
    · subst hmn
      show (d'.call m).running = some key
      rw [hself]
      exact hrunning key hentry
    · show (d'.call m).running = some key
      rw [hother m hmn]
      exact h.owned key m (htable key m hentry)
  · have hreg := h.registered key m (htable key m hentry)
    by_cases hmn : m = n
    · subst hmn
      rw [hself]
      exact (hkey hreg).2
    · rwa [hother m hmn]
  · obtain ⟨hreg, hgone, key, hmem, hk⟩ := h.told m (htold m hm)
    refine ⟨?_, fun key hentry => hgone key (htable key m hentry), key, hdispatched ▸ hmem, ?_⟩
    · by_cases hmn : m = n
      · subst hmn
        rw [hself]
        exact (hkey hreg).2
      · rwa [hother m hmn]
    · by_cases hmn : m = n
      · subst hmn
        rw [hself, (hkey hreg).1, hk]
      · rw [hother m hmn, hk]
  · rw [hacking] at ht
    rw [hdispatched]
    exact h.parsed t key ht
  · rw [hdispatched]
    by_cases hmn : m = n
    · subst hmn
      rw [hself] at hm
      exact hok key hm
    · rw [hother m hmn] at hm
      exact h.ok m key hm

lemma Honest.shrink (h : d.Honest)
    (htable : ∀ key m, d'.pendingAcks key = some m → d.pendingAcks key = some m)
    (hcall : d'.call = d.call) (hflag : d'.flag = d.flag) (hacking : d'.acking = d.acking)
    (hdispatched : d'.dispatched = d.dispatched) : d'.Honest :=
  h.goOn (n := 0) (hcall.trans (update_eq_self 0 d.call).symm) htable hflag hacking
    hdispatched (fun hreg => ⟨rfl, hreg⟩) (fun key hentry => h.owned key 0 (htable key 0 hentry))
    (fun key hp => h.ok 0 key hp)

lemma acking_setAcking {thread t : ℕ} {a a' : AckPhase κ}
    (h : (d.setAcking thread a).acking t = a') :
    t = thread ∧ a = a' ∨ d.acking t = a' := by
  rcases Lib.of_update_eq h with hself | ⟨-, hother⟩
  · exact .inl hself
  · exact .inr hother

lemma Honest.parse (h : d.Honest) {thread : ℕ} (key : TxKey κ) :
    Honest { d.setAcking thread (.parsed key) with dispatched := key :: d.dispatched } := by
  have htold : ∀ m, Told { d.setAcking thread (.parsed key) with
      dispatched := key :: d.dispatched } m → d.Told m := by
    rintro m (hflag | ⟨t, ht⟩)
    · exact .inl hflag
    · rcases acking_setAcking ht with ⟨-, hnew⟩ | hold
      · cases hnew
      · exact .inr ⟨t, hold⟩
  refine ⟨h.owned, h.registered, fun m hm => ?_, fun t key' ht => ?_, fun m key' hm =>
    mem_cons_of_mem _ (h.ok m key' hm)⟩
  · obtain ⟨hreg, hgone, key', hmem, hk⟩ := h.told m (htold m hm)
    exact ⟨hreg, hgone, key', mem_cons_of_mem _ hmem, hk⟩
  · rcases acking_setAcking ht with ⟨-, hnew⟩ | hold
    · cases hnew
      exact mem_cons_self
    · exact mem_cons_of_mem _ (h.parsed t key' hold)

lemma Honest.tell (h : d.Honest) {thread : ℕ} (hmatched : d.acking thread = .matched n) :
    Honest { d.setAcking thread .idle with flag := Function.update d.flag n true } := by
  have htold : ∀ m, Told { d.setAcking thread .idle with flag := Function.update d.flag n true } m →
      d.Told m := by
    rintro m (hflag | ⟨t, ht⟩)
    · rcases Lib.of_update_eq hflag with ⟨rfl, -⟩ | ⟨-, hflag⟩
      · exact .inr ⟨thread, hmatched⟩
      · exact .inl hflag
    · rcases acking_setAcking ht with ⟨-, hnew⟩ | hold
      · cases hnew
      · exact .inr ⟨t, hold⟩
  refine ⟨h.owned, h.registered, fun m hm => h.told m (htold m hm), fun t key ht => ?_, h.ok⟩
  rcases acking_setAcking ht with ⟨-, hnew⟩ | hold
  · cases hnew
  · exact h.parsed t key hold

lemma honest_init (mtu : ℕ) : (init mtu : Desk κ).Honest where
  owned _ _ h := by cases h
  registered _ _ h := by cases h
  told n h := by rcases h with h | ⟨_, h⟩ <;> cases h
  parsed _ _ h := by cases h
  ok _ _ h := by cases h

lemma distinct_init (mtu : ℕ) : (init mtu : Desk κ).view.Distinct := fun _ _ _ h => by cases h

lemma Honest.setCall (h : d.Honest) {q : CallPhase κ} (hphase : d.call n = q)
    (hrunning : p.running = q.running) (hkey : p.key? = q.key?)
    (hreg : q.registered = true → p.registered = true)
    (hok : ∀ key, p ≠ .returned (some key) (.ok ())) : (d.setCall n p).Honest := by
  subst hphase
  refine h.goOn (n := n) rfl (fun _ _ hentry => hentry) rfl rfl rfl (fun hr => ⟨hkey, hreg hr⟩)
    (fun key hentry => ?_) fun key hp => absurd hp (hok key)
  rw [hrunning]
  exact h.owned key n hentry

section Step

variable [DecidableEq κ]

variable {key key' : TxKey κ} {m : ℕ} {e : DeskEvent κ}

lemma pendingAcks_update_none (h : Function.update d.pendingAcks key none key' = some m) :
    key' ≠ key ∧ d.pendingAcks key' = some m := by
  rcases Lib.of_update_eq h with ⟨-, hnew⟩ | hold
  · cases hnew
  · exact hold

lemma pendingAcks_update_some (h : Function.update d.pendingAcks key (some n) key' = some m) :
    m = n ∨ d.pendingAcks key' = some m := by
  rcases Lib.of_update_eq h with ⟨-, hnew⟩ | ⟨-, hold⟩
  · exact .inl (some.inj hnew).symm
  · exact .inr hold

lemma Honest.register (h : d.Honest) {block : Bytes} (hphase : d.call n = .numbered key block) :
    Honest { d.setCall n (.due key block none) with
      pendingAcks := Function.update d.pendingAcks key (some n) } := by
  -- the call is not told: nobody is before they are registered
  have hnew : ¬ d.Told n := fun hn => by
    have hreg := (h.told n hn).1
    rw [hphase] at hreg
    exact absurd hreg Bool.false_ne_true
  have hdue : (d.setCall n (.due key block none)).Honest :=
    h.setCall hphase rfl rfl (fun _ => rfl) fun key' hp => by cases hp
  refine ⟨hdue.owned.enter (i := n) (k := key) ?_, fun key' m hentry => ?_, fun m hm => ?_,
    hdue.parsed, hdue.ok⟩
  · simp [view, Desk.setCall, CallPhase.running]
  · rcases pendingAcks_update_some hentry with rfl | hentry
    · simp [Desk.setCall, CallPhase.registered]
    · exact hdue.registered key' m hentry
  · obtain ⟨hreg, hgone, hdispatched⟩ := hdue.told m hm
    refine ⟨hreg, fun key' hentry => ?_, hdispatched⟩
    rcases pendingAcks_update_some hentry with rfl | hentry
    · exact hnew hm
    · exact hgone key' hentry

lemma Honest.failCall (h : d.Honest) (hrunning : (d.call n).running = some key)
    (e : String) : (d.failCall n key e).Honest := by
  refine h.goOn (n := n) rfl (fun _ _ hentry => (pendingAcks_update_none hentry).2) rfl rfl rfl
    (fun _ => ⟨(CallPhase.key?_of_running hrunning).symm, rfl⟩) (fun key' hentry => ?_)
    fun key' hp => by cases hp
  obtain ⟨hne, hentry⟩ := pendingAcks_update_none hentry
  have howned : (d.call n).running = some key' := h.owned key' n hentry
  exact absurd (some.inj (howned.symm.trans hrunning)) hne

lemma Honest.matchAck (h : d.Honest) {thread : ℕ} (hparsed : d.acking thread = .parsed key) :
    Honest { d.setAcking thread ((d.pendingAcks key).elim .idle .matched) with
      pendingAcks := Function.update d.pendingAcks key none } := by
  refine ⟨h.owned.mono (fun _ _ hentry => (pendingAcks_update_none hentry).2) fun _ _ _ => rfl,
    fun key' m hentry => h.registered key' m (pendingAcks_update_none hentry).2, fun m hm => ?_,
    fun t key' ht => ?_, h.ok⟩
  · -- told before, or taken out now
    have hcases : d.Told m ∨ d.pendingAcks key = some m := by
      rcases hm with hflag | ⟨t, ht⟩
      · exact .inl (.inl hflag)
      · rcases acking_setAcking ht with ⟨-, hnew⟩ | hold
        · cases hentry : d.pendingAcks key with
          | none => simp [hentry] at hnew
          | some m' =>
            simp only [hentry, elim_some, AckPhase.matched.injEq] at hnew
            exact .inr (congrArg some hnew)
        · exact .inl (.inr ⟨t, hold⟩)
    rcases hcases with htold | hentry
    · obtain ⟨hreg, hgone, hdispatched⟩ := h.told m htold
      exact ⟨hreg, fun key' hentry => hgone key' (pendingAcks_update_none hentry).2, hdispatched⟩
    · have hrunning : (d.call m).running = some key := h.owned key m hentry
      refine ⟨h.registered key m hentry, fun key' hentry' => ?_, key, h.parsed thread key hparsed,
        CallPhase.key?_of_running hrunning⟩
      obtain ⟨hne, hentry'⟩ := pendingAcks_update_none hentry'
      have hrunning' : (d.call m).running = some key' := h.owned key' m hentry'
      exact hne (some.inj (hrunning'.symm.trans hrunning))
  · rcases acking_setAcking ht with ⟨-, hnew⟩ | hold
    · cases hentry : d.pendingAcks key <;> simp [hentry] at hnew
    · exact h.parsed t key' hold

lemma Honest.moves (h : d.Honest) (hm : d.Moves e d') : d'.Honest := by
  cases hm with
  | rest htable hcall hflag hacking hdispatched =>
    exact h.shrink htable hcall hflag hacking hdispatched
  | refuse n e hphase =>
    exact h.setCall hphase rfl rfl (fun _ => rfl) fun key hp => by cases hp
  | begin n to_ generation block hphase =>
    exact h.setCall hphase rfl rfl (fun hreg => absurd hreg Bool.false_ne_true)
      fun key hp => by cases hp
  | number n to_ generation block hphase =>
    refine h.goOn (n := n) rfl (fun _ _ hentry => hentry) rfl rfl rfl (fun hreg => ?_)
      (fun key hentry => ?_) fun key hp => by cases hp
    · rw [hphase] at hreg
      exact absurd hreg Bool.false_ne_true
    · have howned : (d.call n).running = some key := h.owned key n hentry
      rw [hphase] at howned
      exact absurd howned (some_ne_none key).symm
  | register n key block hphase => exact h.register hphase
  | transmit n key block before attempt waits hphase =>
    have hwait : (d.setCall n (.waiting key block attempt waits)).Honest :=
      h.setCall hphase rfl rfl (fun _ => rfl) fun key hp => by cases hp
    exact hwait.shrink (fun _ _ hentry => hentry) rfl rfl rfl rfl
  | retry n key block attempt waits hphase =>
    exact h.setCall hphase rfl rfl (fun _ => rfl) fun key hp => by cases hp
  | lastWait n key block attempt waits hphase =>
    exact h.setCall hphase rfl rfl (fun _ => rfl) fun key hp => by cases hp
  | fail n key e hrunning => exact h.failCall hrunning e
  | finish n key block attempt waits hphase hflag =>
    obtain ⟨-, hgone, key', hmem, hkey⟩ := h.told n (.inl hflag)
    rw [hphase] at hkey
    obtain rfl := some.inj hkey
    refine h.goOn (n := n) rfl (fun _ _ hentry => hentry) rfl rfl rfl
      (fun _ => by rw [hphase]; exact ⟨rfl, rfl⟩) (fun key' hentry => ?_) fun key' hp => ?_
    · exact absurd hentry (hgone key')
    · cases hp
      exact hmem
  | acknowledge txId => exact h.shrink (fun _ _ hentry => hentry) rfl rfl rfl rfl
  | parse thread key hidle => exact h.parse key
  | matchAck thread key hparsed => exact h.matchAck hparsed
  | tell thread n hmatched => exact h.tell hmatched

/-! ## What is left under a key -/

def FreshKey (d : Desk κ) : DeskEvent κ → Prop
  | .number n =>
    match d.call n with
    | .generationRead to_ generation _ =>
      ∀ m, (d.call m).running ≠ some ⟨to_, generation, d.nextTxId⟩
    | _ => True
  | _ => True

def Accounted (d : Desk κ) (e : DeskEvent κ) : Prop :=
  ∀ n key result, (d.call n).outstanding = true →
    (d.step e).call n = .returned (some key) result →
      (result = .ok () → key ∈ d.dispatched) ∧ (d.step e).pendingAcks key = none

omit [DecidableEq κ] in
lemma distinct_setCall (h : d.view.Distinct)
    (hp : ∀ key, p.running = some key → (d.call n).running = some key) :
    (d.setCall n p).view.Distinct := by
  refine h.mono fun m key hm => ?_
  by_cases hmn : m = n
  · subst hmn
    simp only [view, setCall, update_self] at hm
    exact hp key hm
  · simpa only [view, setCall, update_of_ne hmn] using hm

lemma distinct_moves (h : d.view.Distinct) (he : d.FreshKey e)
    (hm : d.Moves e d') : d'.view.Distinct := by
  cases hm with
  | rest htable hcall =>
    refine h.mono fun n key hn => ?_
    rwa [show d'.view.key n = d.view.key n from congrArg (fun c => (c n).running) hcall] at hn
  | refuse n e hphase => exact distinct_setCall h fun key hp => by cases hp
  | begin n to_ generation block hphase => exact distinct_setCall h fun key hp => by cases hp
  | number n to_ generation block hphase =>
    simp only [FreshKey, hphase] at he
    have htake : Waiting.Distinct { d.view with
        key := Function.update d.view.key n (some ⟨to_, generation, d.nextTxId⟩) } := h.take he
    refine htake.mono fun m key hm => ?_
    by_cases hmn : m = n
    · subst hmn
      simpa [view, setCall, CallPhase.running] using hm
    · simpa [view, setCall, update_of_ne hmn] using hm
  | register n key block hphase =>
    exact distinct_setCall h fun key' hp => by rw [hphase]; exact hp
  | transmit n key block before attempt waits hphase =>
    exact distinct_setCall h fun key' hp => by rw [hphase]; exact hp
  | retry n key block attempt waits hphase =>
    exact distinct_setCall h fun key' hp => by rw [hphase]; exact hp
  | lastWait n key block attempt waits hphase =>
    exact distinct_setCall h fun key' hp => by rw [hphase]; exact hp
  | fail n key e hrunning => exact distinct_setCall h fun key' hp => by cases hp
  | finish n key block attempt waits hphase hflag =>
    exact distinct_setCall h fun key' hp => by cases hp
  | acknowledge txId => exact h
  | parse thread key hidle => exact h
  | matchAck thread key hparsed => exact h
  | tell thread n hmatched => exact h

omit [DecidableEq κ] in
lemma returned_of_setCall {result : Except String Unit} (hout : (d.call m).outstanding = true)
    (h : Function.update d.call n p m = .returned (some key) result) :
    m = n ∧ p = .returned (some key) result := by
  rcases Lib.of_update_eq h with hself | ⟨-, hreturned⟩
  · exact hself
  · rw [hreturned] at hout
    exact absurd hout Bool.false_ne_true

lemma accounted (h : d.Honest) (hdistinct : d.view.Distinct) (e : DeskEvent κ) : d.Accounted e := by
  intro m key result hout hreturned
  have hstays : (d.step e).call = d.call → False := fun hcall => by
    rw [hcall] at hreturned
    rw [hreturned] at hout
    exact absurd hout Bool.false_ne_true
  have hm := moves_step d e
  generalize d.step e = d' at *
  cases hm with
  | rest htable hcall => exact (hstays hcall).elim
  | fail n key' e hrunning =>
    obtain ⟨rfl, hp⟩ := returned_of_setCall hout hreturned
    obtain ⟨rfl, rfl⟩ : key' = key ∧ .error e = result := by cases hp; exact ⟨rfl, rfl⟩
    exact ⟨fun hok => (by cases hok), update_self ..⟩
  | finish n key' block attempt waits hphase hflag =>
    obtain ⟨rfl, hp⟩ := returned_of_setCall hout hreturned
    obtain rfl : key' = key := by cases hp; rfl
    have hrunning : d.view.key m = some key' := congrArg CallPhase.running hphase
    obtain ⟨-, hgone, key, hmem, hkey⟩ := h.told m (.inl hflag)
    rw [hphase] at hkey
    obtain rfl := some.inj hkey
    exact ⟨fun _ => hmem, Waiting.table_eq_none h.owned hdistinct hrunning (hgone key')⟩
  | acknowledge txId => exact (hstays rfl).elim
  | parse thread key hidle => exact (hstays rfl).elim
  | matchAck thread key hparsed => exact (hstays rfl).elim
  | tell thread n hmatched => exact (hstays rfl).elim
  -- the other steps of a call do not return with a key
  | _ => cases (returned_of_setCall hout hreturned).2

/-! ## Every run -/

/-- **Every send is accounted for.**  Section by section in any order: a call that has returned `Ok`
has had an acknowledgement of its own endpoint, generation and transaction id dispatched; and as
long as no call is given the key of one still on its way, no call leaves an entry under its key. -/
theorem send_accounted (mtu : ℕ) (es : List (DeskEvent κ)) :
    Always step (fun d => ∀ n key, d.call n = .returned (some key) (.ok ()) → key ∈ d.dispatched)
        (init mtu) es ∧
      (Along step FreshKey (init mtu) es → Along step Accounted (init mtu) es) := by
  constructor
  · have hany : Along step (fun _ _ => True) (init mtu : Desk κ) es :=
      Lib.along_of_forall_mem (Q := fun _ => True) (fun _ _ => trivial) _
    have halways := Lib.always_of_along (I := Honest) (fun d e h _ => h.moves (moves_step d e))
      (honest_init mtu) hany
    exact halways.mono fun d h => h.ok
  · exact Lib.Along.of_invariant (I := fun d => d.Honest ∧ d.view.Distinct)
      (fun d e h he => ⟨h.1.moves (moves_step d e), distinct_moves h.2 he (moves_step d e)⟩)
      (fun d e h _ => accounted h.1 h.2 e) ⟨honest_init mtu, distinct_init mtu⟩

end Step

def answered : List (DeskEvent Unit) :=
  [.begin 0 () [1], .number 0, .register 0, .transmit 0,
    .packet 0 () (ackCompletePacket 0) true, .matchAck 0, .tell 0, .wake 0]

theorem answered_accounted : Along step Accounted (init 1500 : Desk Unit) answered := by
  refine (send_accounted 1500 answered).2 ?_
  simp only [answered, Lib.along_cons, Lib.along_nil, FreshKey, and_true, true_and]
  intro m
  by_cases hm : m = 0 <;> simp [step, init, setCall, hm, frptHeaderLen, CallPhase.running]

/-! ## Transaction ids that come round -/

/-- Fewer sends are outstanding than there are transaction ids. -/
def FewOutstanding (d : Desk κ) : Prop :=
  ∃ s : Finset ℕ, s.card < 2 ^ 16 ∧ ∀ n, (d.call n).outstanding = true → n ∈ s

def firstTold : List (DeskEvent Unit) :=
  [.begin 0 () [], .number 0, .register 0, .transmit 0, .packet 0 () (ackCompletePacket 0) true,
    .matchAck 0, .tell 0]

def refused (n : ℕ) : List (DeskEvent Unit) :=
  [.begin n () [], .number n, .register n, .sendFails n "unreachable"]

def refusals : ℕ → ℕ → List (DeskEvent Unit)
  | _, 0 => []
  | n, count + 1 => refused n ++ refusals (n + 1) count

def wrapped : List (DeskEvent Unit) :=
  firstTold ++ (refusals 1 65535 ++ [.begin 65536 () [], .number 65536, .register 65536, .wake 0])

structure Between (n : ℕ) (d : Desk Unit) : Prop where
  pos : 0 < n
  mtu : d.mtu = 1500
  first : d.call 0 = .waiting ⟨(), 0, 0⟩ [] 0 3
  flag : d.flag 0 = true
  next : d.nextTxId = UInt16.ofNat n
  session : d.endpointSessions () = 0
  later : ∀ m, n ≤ m → d.call m = .idle
  alone : ∀ m, m ≠ 0 → (d.call m).outstanding = false

section Wrapped

variable {d d' : Desk Unit} {n : ℕ}

lemma Between.few (h : Between n d) (hcall : ∀ m, m ≠ 0 → m ≠ n → d'.call m = d.call m) :
    d'.FewOutstanding := by
  refine ⟨{0, n}, (Finset.card_le_two).trans_lt (by decide), fun m hm => ?_⟩
  by_contra hnot
  simp only [Finset.mem_insert, Finset.mem_singleton, not_or] at hnot
  rw [hcall m hnot.1 hnot.2, h.alone m hnot.1] at hm
  exact absurd hm Bool.false_ne_true

lemma Between.start (h : Between n d) :
    run step d [.begin n () [], .number n, .register n] =
      { d.setCall n (.due ⟨(), 0, UInt16.ofNat n⟩ [] none) with
        nextTxId := UInt16.ofNat n + 1
        pendingAcks := Function.update d.pendingAcks ⟨(), 0, UInt16.ofNat n⟩ (some n) } := by
  simp [step, setCall, h.later n le_rfl, h.mtu, h.session, h.next, frptHeaderLen]

lemma Between.always_few_start (h : Between n d) :
    Always step FewOutstanding d [.begin n () [], .number n, .register n] := by
  have hidle := h.later n le_rfl
  simp only [Lib.always_cons, Lib.always_nil]
  refine ⟨h.few fun _ _ _ => rfl, h.few ?_, h.few ?_, h.few ?_⟩ <;>
  · intro m _ hmn
    simp [step, setCall, hidle, h.mtu, frptHeaderLen, update_of_ne hmn]

lemma Between.run_refused (h : Between n d) :
    run step d (refused n) =
      { d.setCall n (.returned (some ⟨(), 0, UInt16.ofNat n⟩) (.error "unreachable")) with
        nextTxId := UInt16.ofNat n + 1
        pendingAcks := Function.update d.pendingAcks ⟨(), 0, UInt16.ofNat n⟩ none } := by
  have hsplit : refused n =
      [.begin n () [], .number n, .register n] ++ [.sendFails n "unreachable"] := rfl
  rw [hsplit, Lib.run_append, h.start]
  simp [step, setCall, failCall]

lemma Between.refused (h : Between n d) :
    Between (n + 1) (run step d (refused n)) ∧ Always step FewOutstanding d (refused n) := by
  have hsplit : Desk.refused n =
      [.begin n () [], .number n, .register n] ++ [.sendFails n "unreachable"] := rfl
  have hother : ∀ m, m ≠ n → (run step d (Desk.refused n)).call m = d.call m := fun m hm => by
    rw [h.run_refused]
    exact update_of_ne hm _ _
  have hpos := h.pos
  constructor
  · refine ⟨n.succ_pos, ?_, ?_, ?_, ?_, ?_, fun m hm => ?_, fun m hm => ?_⟩
    · rw [h.run_refused]
      exact h.mtu
    · rw [hother 0 (by omega)]
      exact h.first
    · rw [h.run_refused]
      exact h.flag
    · rw [h.run_refused]
      exact (UInt16.ofNat_add n 1).symm
    · rw [h.run_refused]
      exact h.session
    · rw [hother m (by omega)]
      exact h.later m (by omega)
    · by_cases hmn : m = n
      · rw [h.run_refused]
        simp [setCall, hmn, CallPhase.outstanding]
      · rw [hother m hmn]
        exact h.alone m hm
  · have hlast : FewOutstanding (run step d (Desk.refused n)) :=
      h.few fun m _ hmn => hother m hmn
    rw [hsplit, Lib.run_append] at hlast
    rw [hsplit, Lib.always_append]
    refine ⟨h.always_few_start, ?_, hlast⟩
    rw [h.start]
    exact h.few fun m _ hmn => update_of_ne hmn _ _

lemma Between.refusals (h : Between n d) (count : ℕ) :
    Between (n + count) (run step d (refusals n count)) ∧
      Always step FewOutstanding d (refusals n count) := by
  induction count generalizing n d with
  | zero => exact ⟨h, h.few fun _ _ _ => rfl⟩
  | succ count ih =>
    obtain ⟨hnext, hfew⟩ := h.refused
    obtain ⟨hbetween, halways⟩ := ih hnext
    rw [Desk.refusals, Lib.run_append, Lib.always_append]
    refine ⟨?_, hfew, halways⟩
    rw [Nat.add_succ, ← Nat.succ_add]
    exact hbetween

lemma Between.left (h : Between n d) (hwrap : UInt16.ofNat n = 0) :
    Always step FewOutstanding d [.begin n () [], .number n, .register n, .wake 0] ∧
      ¬ Along step Accounted d [.begin n () [], .number n, .register n, .wake 0] := by
  have hsplit : [.begin n () [], .number n, .register n, .wake 0] =
      [.begin n () [], .number n, .register n] ++ [(.wake 0 : DeskEvent Unit)] := rfl
  have hne : (0 : ℕ) ≠ n := h.pos.ne
  rw [hsplit, Lib.always_append, Lib.along_append, h.start]
  refine ⟨⟨h.always_few_start, ?_⟩, fun ⟨_, hwake⟩ => ?_⟩
  · rw [Lib.always_cons, Lib.always_nil]
    refine ⟨h.few fun m _ hmn => update_of_ne hmn _ _, h.few fun m hm0 hmn => ?_⟩
    simp [step, setCall, h.first, h.flag, update_of_ne hne, update_of_ne hm0,
      update_of_ne hmn]
  · rw [Lib.along_cons] at hwake
    have hleft := (hwake.1 0 ⟨(), 0, 0⟩ (.ok ()) ?_ ?_).2
    · simp [step, setCall, h.first, h.flag, update_of_ne hne, hwrap] at hleft
    · simp [setCall, h.first, update_of_ne hne, CallPhase.outstanding]
    · simp [step, setCall, h.first, h.flag, update_of_ne hne]

lemma between_firstTold :
    Between 1 (run step (init 1500) firstTold) ∧
      Always step FewOutstanding (init 1500) firstTold := by
  have hcall : (run step (init 1500 : Desk Unit) firstTold).call =
      Function.update (fun _ => .idle) 0 (.waiting ⟨(), 0, 0⟩ [] 0 3) := by
    simp [firstTold, step, init, setCall, setAcking, receive, frptHeaderLen]
  constructor
  · refine ⟨Nat.one_pos, ?_, by rw [hcall, update_self], ?_, ?_, ?_, fun m hm => ?_,
      fun m hm => ?_⟩
    · simp [firstTold, step, init, setCall, setAcking, receive, frptHeaderLen]
    · simp [firstTold, step, init, setCall, setAcking, receive, frptHeaderLen]
    · simp [firstTold, step, init, setCall, setAcking, receive, frptHeaderLen]
    · simp [firstTold, step, init, setCall, setAcking, receive, frptHeaderLen]
    · rw [hcall, update_of_ne (by omega)]
    · rw [hcall, update_of_ne hm]
      rfl
  · simp only [firstTold, Lib.always_cons, Lib.always_nil]
    refine ⟨?_, ?_, ?_, ?_, ?_, ?_, ?_, ?_⟩ <;>
    · refine ⟨{0}, by decide, fun m hm => ?_⟩
      by_contra hnot
      rw [Finset.mem_singleton] at hnot
      simp [step, init, setCall, setAcking, receive, frptHeaderLen, update_of_ne hnot,
        CallPhase.outstanding] at hm

theorem entry_left_after_wrap :
    Always step FewOutstanding (init 1500) wrapped ∧
      ¬ Along step Accounted (init 1500) wrapped := by
  obtain ⟨hfirst, hfew₁⟩ := between_firstTold
  obtain ⟨hbetween, hfew₂⟩ := hfirst.refusals 65535
  obtain ⟨hfew₃, hleft⟩ := hbetween.left (by decide)
  rw [wrapped, Lib.always_append, Lib.always_append]
  refine ⟨⟨hfew₁, hfew₂, hfew₃⟩, fun h => hleft ?_⟩
  exact ((Lib.along_append ..).mp ((Lib.along_append ..).mp h).2).2

end Wrapped

end Desk

end Bingle.Frpt
