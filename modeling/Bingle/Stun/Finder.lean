import Bingle.Lib.Checked
import Bingle.Lib.Run

/-!
# The STUN endpoint finder

`StunEndpointFinderImpl` (`bingle_core/src/stun/stun_endpoint_finder_impl.rs`) polls STUN servers
for the node's public address: a tick ten times a second, and whatever packets arrive.  The three
handlers are taken to be set.  Ticks are counted in `u64`, which does not overflow; `u8` counters
saturate.
-/

namespace Bingle.Stun

open Lib Lib.Checked

/-- An address: four or sixteen bytes, and a port. -/
structure SocketAddr where
  ip : List UInt8
  port : UInt16
deriving DecidableEq, Repr

inductive StunState
  | none
  | single
  | consistent
  | inconsistent
  | blocked
deriving DecidableEq, Repr

structure ServerStatus where
  addr : SocketAddr
  failures : ℕ := 0
  responded : Bool := false
  everResponded : Bool := false
  endpoint : Option SocketAddr := none
  lastPolledTick : Option ℕ := none
deriving DecidableEq, Repr

def saturatingSucc (n : ℕ) : ℕ := min (n + 1) 255

def ServerStatus.forget (s : ServerStatus) : ServerStatus :=
  { s with responded := false, failures := 0, endpoint := none }

def ServerStatus.ask (now : ℕ) (s : ServerStatus) : ServerStatus :=
  { s with
    lastPolledTick := some now
    failures := saturatingSucc s.failures
    responded := false
    endpoint := none }

def ServerStatus.answer (endpoint : Option SocketAddr) (s : ServerStatus) : ServerStatus :=
  { s with
    responded := true
    everResponded := true
    failures := 0
    endpoint := endpoint.or s.endpoint }

def modifyServer (addr : SocketAddr) (g : ServerStatus → ServerStatus) :
    List ServerStatus → List ServerStatus
  | [] => []
  | s :: rest => if s.addr = addr then g s :: rest else s :: modifyServer addr g rest

structure Finder where
  servers : List ServerStatus := []
  state : StunState := .none
  endpoint : Option SocketAddr := none
  searchTicks : ℕ := 10
  repeatTicks : ℕ := 100
  intervalsWithoutTwo : ℕ := 0
  errorReported : Bool := false
  lastResponseTick : Option ℕ := none
  lastRequestTick : Option ℕ := none
  noResponseTicks : ℕ := 300
  currentTick : ℕ := 0
  lastPollTick : Option ℕ := none
deriving DecidableEq, Repr

inductive Output
  | sendPacket (addr : SocketAddr) (packet : List UInt8)
  | stateChange (state : StunState) (endpoint : Option SocketAddr)
  | error (text : String)
deriving DecidableEq, Repr

/-! ## Packets -/

def buildBindingRequest (tick : ℕ) : List UInt8 :=
  let next (seed : UInt64) : UInt64 := seed * 6364136223846793005 + 1
  let head (seed : UInt64) : List UInt8 :=
    [(seed >>> 56).toUInt8, (seed >>> 48).toUInt8, (seed >>> 40).toUInt8, (seed >>> 32).toUInt8]
  let s1 := next (UInt64.ofNat tick)
  let s2 := next s1
  [0x00, 0x01, 0x00, 0x00, 0x21, 0x12, 0xA4, 0x42] ++ head s1 ++ head s2 ++ head (next s2)

def be16 (a b : UInt8) : UInt16 := a.toUInt16 <<< 8 ||| b.toUInt16

def magicCookie : List UInt8 := [0x21, 0x12, 0xA4, 0x42]

/-- The loop of `parse_xor_mapped_address`, which goes round less often than the datagram has
bytes. -/
def readAttributes (data : List UInt8) (stop : ℕ) : ℕ → ℕ → Checked (Option SocketAddr)
  | 0, _ => return none
  | n + 1, idx => do
    if ¬ (idx + 4 ≤ data.length ∧ idx + 4 ≤ stop) then return none
    let atype := be16 (← index data idx) (← index data (idx + 1))
    let alen := (be16 (← index data (idx + 2)) (← index data (idx + 3))).toNat
    if idx + 4 + alen > data.length then return none
    if atype = 0x0020 ∨ atype = 0x0001 then
      if alen < 8 then return none
      if (← index data (idx + 5)) = 0x01 then
        let xport := be16 (← index data (idx + 6)) (← index data (idx + 7))
        let addr ← slice data (idx + 8) (idx + 12)
        if atype = 0x0020 then
          return some ⟨List.zipWith (· ^^^ ·) addr magicCookie, xport ^^^ 0x2112⟩
        return some ⟨addr, xport⟩
    -- attributes are padded to a multiple of four
    readAttributes data stop n (idx + 4 + (alen + (4 - alen % 4) % 4))

def readXorMappedAddress (data : List UInt8) : Checked (Option SocketAddr) := do
  if data.length < 20 then return none
  if (← slice data 4 8) ≠ magicCookie then return none
  readAttributes data (20 + (be16 (← index data 2) (← index data 3)).toNat) data.length 20

/-- What the finder takes of a datagram; no read of it panics. -/
def parseXorMappedAddress (data : List UInt8) : Option SocketAddr :=
  (readXorMappedAddress data).toOption.join

/-! ## The sections -/

namespace Finder

variable (f : Finder)

def chooseInterval : ℕ :=
  match f.state with
  | .none | .single | .blocked => f.searchTicks
  | .consistent | .inconsistent => f.repeatTicks

def tracking : Bool :=
  match f.state with
  | .consistent | .inconsistent => true
  | .none | .single | .blocked => false

def assess (endpoints : List SocketAddr) : StunState × Option SocketAddr :=
  match endpoints with
  | [] => (.none, none)
  | [_] => (.single, none)
  | first :: _ :: _ =>
    if endpoints.all (· = first) then (.consistent, some first) else (.inconsistent, none)

def recomputeStateAndNotify : Finder × List Output :=
  let (newState, endpoint) := assess (f.servers.filterMap ServerStatus.endpoint)
  let endpointChanged := newState = .consistent ∧ endpoint ≠ f.endpoint
  if newState ≠ f.state ∨ endpointChanged then
    ({ f with state := newState, endpoint }, [.stateChange newState endpoint])
  else ({ f with endpoint }, [])

def silent (now : ℕ) : Bool :=
  match f.lastRequestTick, f.lastResponseTick with
  | some reqT, some respT => now - reqT > f.noResponseTicks ∧ respT < reqT
  | some reqT, none => now - reqT > f.noResponseTicks
  | none, _ => false

def revertIfSilent (now : ℕ) : Finder × List Output :=
  if f.tracking ∧ f.silent now then
    { f with
      lastResponseTick := none
      lastRequestTick := none
      intervalsWithoutTwo := 0
      servers := f.servers.map ServerStatus.forget }.recomputeStateAndNotify
  else (f, [])

def toPoll : List SocketAddr :=
  match f.state with
  | .none | .single => (f.servers.filter fun s => !s.responded).map ServerStatus.addr
  | .blocked | .consistent | .inconsistent => f.servers.map ServerStatus.addr

def askAll (now : ℕ) : List SocketAddr → Finder × List Output → Finder × List Output
  | [], fo => fo
  | addr :: rest, (f, out) =>
    let f := { f with servers := modifyServer addr (ServerStatus.ask now) f.servers }
    let f :=
      if f.tracking ∧ f.lastRequestTick = none then { f with lastRequestTick := some now } else f
    askAll now rest (f, out ++ [.sendPacket addr (buildBindingRequest now)])

def checkBlocked : Finder × List Output :=
  if f.tracking then (f, [])
  else
    let f := { f with intervalsWithoutTwo := saturatingSucc f.intervalsWithoutTwo }
    if f.intervalsWithoutTwo < 3 then (f, [])
    else
      let responders := f.servers.countP ServerStatus.responded
      let (f, out) : Finder × List Output :=
        if responders = 0 then
          if f.state ≠ .blocked then
            ({ f with state := .blocked, endpoint := none }, [.stateChange .blocked none])
          else (f, [])
        else if responders < 2 ∧ f.errorReported = false then
          ({ f with errorReported := true },
            [.error "Fewer than 2 STUN servers responded after 3 tries"])
        else (f, [])
      if f.state ≠ .blocked then
        ({ f with
            servers := f.servers.map fun s =>
              if s.everResponded then { s with responded := false } else s
            intervalsWithoutTwo := 0 }, out)
      else (f, out)

def prune : Finder :=
  if f.state = .blocked then { f with servers := f.servers.map fun s => { s with failures := 0 } }
  else { f with servers := f.servers.filter fun s => s.failures < 3 || s.everResponded }

def pollDue (now : ℕ) : Bool :=
  match f.lastPollTick with
  | none => true
  | some last => now - last ≥ f.chooseInterval

def poll (now : ℕ) : Finder × List Output :=
  let f := { f with lastPollTick := some now }
  let (f, out) :=
    if f.toPoll ≠ [] then
      let (f, sent) := askAll now f.toPoll (f, [])
      let (f, out) := f.checkBlocked
      (f, sent ++ out)
    else (f, [])
  (f.prune, out)

def stunProcessTick : Finder × List Output :=
  let f := { f with currentTick := f.currentTick + 1 }
  let now := f.currentTick
  let (f, out) := f.revertIfSilent now
  if f.pollDue now then
    let (f, out') := f.poll now
    (f, out ++ out')
  else (f, out)

def processPacket (src : SocketAddr) (data : List UInt8) : Finder × List Output :=
  { f with
    servers := modifyServer src (ServerStatus.answer (parseXorMappedAddress data)) f.servers
    lastResponseTick := some f.currentTick
    lastRequestTick := none }.recomputeStateAndNotify

def resetState : Finder :=
  { f with
    state := .none
    endpoint := none
    intervalsWithoutTwo := 0
    errorReported := false
    lastResponseTick := none
    lastRequestTick := none
    currentTick := 0
    servers := f.servers.map ServerStatus.forget }

def init (servers : List SocketAddr) (searchTimeMs repeatTimeMs : ℕ) : Finder :=
  { servers := servers.map fun addr => { addr }
    searchTicks := max (searchTimeMs / 100) 1
    repeatTicks := max (repeatTimeMs / 100) 1 }

/-! ## Runs -/

inductive Event
  | tick
  | packet (src : SocketAddr) (data : List UInt8)
  | reset
  | init (server : SocketAddr) (others : List SocketAddr) (searchTimeMs repeatTimeMs : ℕ)
deriving DecidableEq, Repr

def step (f : Finder) : Event → Finder
  | .tick => f.stunProcessTick.1
  | .packet src data => (f.processPacket src data).1
  | .reset => f.resetState
  | .init server others searchTimeMs repeatTimeMs =>
    .init (server :: others) searchTimeMs repeatTimeMs

/-! ## One tick -/

lemma askAll_eq (now : ℕ) (addrs : List SocketAddr) (f : Finder) (out : List Output) :
    askAll now addrs (f, out) =
      ({ f with
          servers := addrs.foldl (fun ss a => modifyServer a (ServerStatus.ask now) ss) f.servers
          lastRequestTick :=
            if addrs ≠ [] ∧ f.tracking ∧ f.lastRequestTick = none then some now
            else f.lastRequestTick },
        out ++ addrs.map fun a => .sendPacket a (buildBindingRequest now)) := by
  induction addrs generalizing f out with
  | nil => simp [askAll]
  | cons a addrs ih =>
    obtain ⟨servers, state, endpoint, search, rep, iwt, err, resp, req, noResp, cur, last⟩ := f
    cases state <;> cases req <;> simp [askAll, tracking, ih]

def reverted (f : Finder) : Finder :=
  { f with
    lastResponseTick := none
    lastRequestTick := none
    intervalsWithoutTwo := 0
    servers := f.servers.map ServerStatus.forget
    state := .none
    endpoint := none }

lemma filterMap_endpoint_forget (servers : List ServerStatus) :
    (servers.map ServerStatus.forget).filterMap ServerStatus.endpoint = [] := by
  rw [List.filterMap_eq_nil_iff]
  intro s hs
  obtain ⟨s', -, rfl⟩ := List.mem_map.mp hs
  rfl

lemma revertIfSilent_of_silent (f : Finder) {now : ℕ} (htrack : f.tracking = true)
    (hsilent : f.silent now = true) :
    f.revertIfSilent now = (f.reverted, [.stateChange .none none]) := by
  rw [revertIfSilent, if_pos ⟨htrack, hsilent⟩, recomputeStateAndNotify]
  have hne : StunState.none ≠ f.state := by
    intro hstate
    rw [tracking, ← hstate] at htrack
    exact Bool.false_ne_true htrack
  simp only [filterMap_endpoint_forget, assess]
  rw [if_pos (Or.inl hne)]
  rfl

def beforePoll (f : Finder) : Finder :=
  let f' := { f with currentTick := f.currentTick + 1 }
  if f.tracking ∧ f.silent (f.currentTick + 1) then f'.reverted else f'

def notice (f : Finder) : List Output :=
  if f.tracking ∧ f.silent (f.currentTick + 1) then [.stateChange .none none] else []

lemma stunProcessTick_eq (f : Finder) :
    f.stunProcessTick =
      if f.beforePoll.pollDue (f.currentTick + 1) then
        ((f.beforePoll.poll (f.currentTick + 1)).1,
          f.notice ++ (f.beforePoll.poll (f.currentTick + 1)).2)
      else (f.beforePoll, f.notice) := by
  by_cases h : f.tracking = true ∧ f.silent (f.currentTick + 1) = true
  · have hrevert := ({ f with currentTick := f.currentTick + 1 } : Finder).revertIfSilent_of_silent
      h.1 h.2
    rw [stunProcessTick, beforePoll, notice, if_pos h, if_pos h]
    simp only [hrevert]
  · have hkeep : ({ f with currentTick := f.currentTick + 1 } : Finder).revertIfSilent
        (f.currentTick + 1) = ({ f with currentTick := f.currentTick + 1 }, []) := if_neg h
    rw [stunProcessTick, beforePoll, notice, if_neg h, if_neg h]
    simp only [hkeep]

lemma stunProcessTick_fst (f : Finder) :
    f.stunProcessTick.1 =
      if f.beforePoll.pollDue (f.currentTick + 1) then (f.beforePoll.poll (f.currentTick + 1)).1
      else f.beforePoll := by
  rw [stunProcessTick_eq]
  split_ifs <;> rfl

lemma chooseInterval_of_searching {f : Finder} (hsearch : f.tracking = false) :
    f.chooseInterval = f.searchTicks := by
  rw [tracking] at hsearch
  rw [chooseInterval]
  cases hstate : f.state <;> simp_all

lemma chooseInterval_of_tracking {f : Finder} (htrack : f.tracking = true) :
    f.chooseInterval = f.repeatTicks := by
  rw [tracking] at htrack
  rw [chooseInterval]
  cases hstate : f.state <;> simp_all

lemma pollDue_eq_true_iff {f : Finder} (hpos : 0 < f.chooseInterval) (now : ℕ) :
    f.pollDue now = true ↔ ∀ last ∈ f.lastPollTick, last + f.chooseInterval ≤ now := by
  rw [pollDue]
  cases f.lastPollTick with
  | none => simp
  | some last =>
    simp only [ge_iff_le, decide_eq_true_eq, Option.mem_def, Option.some.injEq, forall_eq']
    omega

end Finder

end Bingle.Stun
