import Mathlib
import Bingle.Dtls.Peers
import Bingle.Lib.Run

/-!
# Two nodes that dial each other

Each of two nodes receives the other's `ClientHello` while its own handshake is running.  The node
with the lower public endpoint keeps its handshake and the other yields.  A node compares its own
public endpoint with the address that the packet comes from; over a relay channel there is none.
-/

namespace Bingle.Dtls

open Lib (run Along)

/-! ## Endpoints -/

inductive IpAddr
  | v4 (octets : BitVec 32)
  | v6 (octets : BitVec 128)
deriving DecidableEq, Repr

def IpAddr.lt : IpAddr → IpAddr → Bool
  | v4 a, v4 b => a < b
  | v4 _, v6 _ => true
  | v6 _, v4 _ => false
  | v6 a, v6 b => a < b

inductive SocketAddr
  | v4 (ip : BitVec 32) (port : UInt16)
  | v6 (ip : BitVec 128) (port : UInt16) (flowinfo scopeId : UInt32)
deriving DecidableEq, Repr

namespace SocketAddr

def ip : SocketAddr → IpAddr
  | v4 ip _ => .v4 ip
  | v6 ip _ _ _ => .v6 ip

def port : SocketAddr → UInt16
  | v4 _ port => port
  | v6 _ port _ _ => port

end SocketAddr

def isDesignatedClient (own remote : SocketAddr) : Bool :=
  own.port < remote.port || (own.port == remote.port && own.ip.lt remote.ip)

lemma IpAddr.lt_eq_not {a b : IpAddr} (h : a ≠ b) : b.lt a = !a.lt b := by
  have hbits : ∀ {w : ℕ} {x y : BitVec w}, x ≠ y → decide (y < x) = !decide (x < y) := by
    intro w x y hne
    have hnat : x.toNat ≠ y.toNat := fun heq => hne (BitVec.eq_of_toNat_eq heq)
    rw [← decide_not, decide_eq_decide, BitVec.lt_def, BitVec.lt_def]
    omega
  cases a with
  | v4 a =>
    cases b with
    | v4 b => exact hbits fun heq => h (congrArg v4 heq)
    | v6 b => rfl
  | v6 a =>
    cases b with
    | v4 b => rfl
    | v6 b => exact hbits fun heq => h (congrArg v6 heq)

lemma isDesignatedClient_eq_not {a b : SocketAddr} (h : a.port ≠ b.port ∨ a.ip ≠ b.ip) :
    isDesignatedClient b a = !isDesignatedClient a b := by
  unfold isDesignatedClient
  by_cases hport : a.port = b.port
  · have hip : a.ip ≠ b.ip := h.resolve_left (not_not.mpr hport)
    simp [hport, IpAddr.lt_eq_not hip]
  · have hnat : a.port.toNat ≠ b.port.toNat := fun heq => hport (UInt16.toNat_inj.mp heq)
    have hlt : decide (b.port < a.port) = !decide (a.port < b.port) := by
      rw [← decide_not, decide_eq_decide, UInt16.lt_iff_toNat_lt, UInt16.lt_iff_toNat_lt]
      omega
    simp [hlt, beq_false_of_ne hport, beq_false_of_ne (Ne.symm hport)]

structure NetworkEndpoint where
  inetSocketAddress : Option SocketAddr := none
  relayChannel : Option UInt16 := none
  relayAddress : Option SocketAddr := none
  relayId : Option String := none
deriving DecidableEq, Repr

namespace NetworkEndpoint

def newDirect (addr : SocketAddr) : NetworkEndpoint := { inetSocketAddress := some addr }

def newRelay (relayId : String) (relayAddress : Option SocketAddr) (relayChannel : Option UInt16) :
    NetworkEndpoint :=
  { relayId := some relayId, relayAddress, relayChannel }

def isRelay (ep : NetworkEndpoint) : Bool := ep.relayId.isSome

end NetworkEndpoint

/-! ## One packet at one node -/

def isClientHello (data : List UInt8) : Bool :=
  decide (14 ≤ data.length) && data[0]? == some 0x16 && data[3]? == some 0 && data[4]? == some 0 &&
    data[13]? == some 0x01

def clientHello : List UInt8 := [0x16, 0xfe, 0xfd, 0, 0, 0, 0, 0, 0, 0, 0, 0, 1, 0x01]

structure Node where
  localAddr : SocketAddr
  publicEndpoint : Option SocketAddr
  peer : NetworkEndpoint

namespace Node

def loopback (n : Node) : Bool := !n.peer.isRelay && n.peer.inetSocketAddress == some n.localAddr

/-- The node finds that it is the designated client; over a relay it never does. -/
def designated (n : Node) : Bool :=
  match n.peer.inetSocketAddress with
  | some remote => isDesignatedClient (n.publicEndpoint.getD n.localAddr) remote
  | none => false

def accept (n : Node) (entry : Option PeerState) (data : List UInt8) (s : SessionId) (queue : ℕ) :
    Option PeerState :=
  if n.loopback then entry
  else (handleDtlsAcceptPacket entry (isClientHello data) n.designated s queue).entry

end Node

def PeerState.Dialling (ps : PeerState) : Prop :=
  ps.isConnectingPeer = true ∧ ps.writer.isSome = true

def PeerState.Accepting (ps : PeerState) : Prop :=
  ps.isConnectingPeer = false ∧ ps.writer.isSome = true

lemma claimForAccept_of_writer {ps : PeerState} (h : ps.writer.isSome = true) (s : SessionId)
    (newSession : Bool) : (claimForAccept ps s newSession).entry = some ps := by
  rw [claimForAccept, if_neg (Option.isSome_iff_ne_none.mp h)]

lemma exists_accepting_claimForAccept (generation queue : ℕ) (s : SessionId) (newSession : Bool) :
    ∃ ps, (claimForAccept (newPeerState generation queue) s newSession).entry = some ps ∧
      ps.Accepting :=
  ⟨_, rfl, rfl, rfl⟩

section Accept

variable {n : Node} {ps : PeerState} {data : List UInt8} {s : SessionId} {queue : ℕ}

lemma accept_of_keeps (hps : ps.Dialling)
    (h : isClientHello data = false ∨ n.designated = true ∨ ps.handshakeLogged = true) :
    n.accept (some ps) data s queue = some ps := by
  have hclaim := claimForAccept_of_writer hps.2 s false
  unfold Node.accept handleDtlsAcceptPacket
  rcases h with h | h | h
  · simp [h, hclaim]
  · simp only [h, hps.1]
    split_ifs <;> simp_all
  · simp [h, hps.1, hclaim]

lemma accept_of_yields (hloop : n.loopback = false) (hps : ps.Dialling)
    (hhello : isClientHello data = true) (hdesignated : n.designated = false)
    (hlogged : ps.handshakeLogged = false) :
    ∃ ps', n.accept (some ps) data s queue = some ps' ∧ ps'.Accepting := by
  have heq : n.accept (some ps) data s queue =
      (claimForAccept (newPeerState (nextPeerGeneration ps.generation) queue) s false).entry := by
    simp [Node.accept, hloop, handleDtlsAcceptPacket, hhello, hps.1, hlogged, hdesignated]
  rw [heq]
  exact exists_accepting_claimForAccept _ _ _ _

lemma accept_of_accepting (hps : ps.Accepting) :
    ∃ ps', n.accept (some ps) data s queue = some ps' ∧ ps'.Accepting := by
  have hclaim := claimForAccept_of_writer hps.2 s false
  rw [Node.accept]
  split_ifs with hloop
  · exact ⟨ps, rfl, hps⟩
  · by_cases hhello : isClientHello data = true
    · have heq : (handleDtlsAcceptPacket (some ps) (isClientHello data) n.designated s queue).entry =
          (claimForAccept (newPeerState (nextPeerGeneration ps.generation) queue) s true).entry := by
        simp [handleDtlsAcceptPacket, hhello, hps.1, hps.2]
      rw [heq]
      exact exists_accepting_claimForAccept _ _ _ _
    · refine ⟨ps, ?_, hps⟩
      simp [handleDtlsAcceptPacket, hhello, hclaim]

end Accept

/-! ## The two nodes -/

structure Side where
  entry : Option PeerState
  helloed : Bool := false
  yielded : Bool := false

/-- The nodes are given by `false` and `true`. -/
structure Pair where
  side : Bool → Side
  completed : Bool := false
  next : ℕ := 1

inductive Exchange
  /-- a packet of the other node arrives; it may be late, or a copy -/
  | packet (to_ : Bool) (data : List UInt8)
  | complete (of : Bool)

namespace Pair

def dial (entries : Bool → Option PeerState) : Pair where
  side x := { entry := some (startConnect (entries x) 0 0).1 }

def drops (before after : Option PeerState) : Bool :=
  before.any PeerState.isConnectingPeer && !after.any PeerState.isConnectingPeer

def step (nodes : Bool → Node) (p : Pair) : Exchange → Pair
  | .packet x data =>
    let entry := (nodes x).accept (p.side x).entry data p.next p.next
    { p with
      side := Function.update p.side x
        { entry
          helloed := (p.side x).helloed || isClientHello data
          yielded := (p.side x).yielded || drops (p.side x).entry entry }
      next := p.next + 1 }
  | .complete x =>
    if (p.side (!x)).yielded && !(p.side x).yielded then
      let entry := (p.side x).entry.map fun ps => { ps with handshakeLogged := true }
      { p with side := Function.update p.side x { p.side x with entry }, completed := true }
    else p

structure SideSane (designated ended : Bool) (s : Side) : Prop where
  yielded : s.yielded = true → designated = false ∧ ∃ ps, s.entry = some ps ∧ ps.Accepting
  /-- it goes on with its handshake, and has reason to if it has seen a `ClientHello` -/
  dialling : s.yielded = false → ∃ ps, s.entry = some ps ∧ ps.Dialling ∧
    (ps.handshakeLogged = true → ended = true) ∧
    (s.helloed = true → designated = true ∨ ps.handshakeLogged = true)

def Sane (nodes : Bool → Node) (p : Pair) : Prop :=
  ∀ x, SideSane (nodes x).designated ((p.side (!x)).yielded && p.completed) (p.side x)

section Step

variable {nodes : Bool → Node} {p : Pair}

lemma SideSane.packet {n : Node} {ended : Bool} {s : Side} {data : List UInt8} {k : ℕ}
    (h : SideSane n.designated ended s) (hloop : n.loopback = false) :
    SideSane n.designated ended
      { entry := n.accept s.entry data k k
        helloed := s.helloed || isClientHello data
        yielded := s.yielded || drops s.entry (n.accept s.entry data k k) } := by
  cases hyielded : s.yielded with
  | true =>
    obtain ⟨hdesignated, ps, hentry, hps⟩ := h.yielded hyielded
    exact ⟨fun _ => ⟨hdesignated, hentry ▸ accept_of_accepting hps⟩, fun hfalse => nomatch hfalse⟩
  | false =>
    obtain ⟨ps, hentry, hps, hended, hreason⟩ := h.dialling hyielded
    by_cases hkeeps : isClientHello data = false ∨ n.designated = true ∨ ps.handshakeLogged = true
    · have hsame : n.accept s.entry data k k = some ps := by
        rw [hentry]
        exact accept_of_keeps hps hkeeps
      have hdrops : drops s.entry (some ps) = false := by simp [drops, hps.1]
      rw [hsame, hdrops]
      refine ⟨fun htrue => (nomatch htrue), fun _ => ⟨ps, rfl, hps, hended, fun hhelloed => ?_⟩⟩
      rcases hkeeps with hhello | hkeeps
      · exact hreason (by simpa [hhello] using hhelloed)
      · exact hkeeps
    · simp only [not_or, Bool.not_eq_false, Bool.not_eq_true] at hkeeps
      obtain ⟨hhello, hdesignated, hlogged⟩ := hkeeps
      obtain ⟨ps', hentry', hps'⟩ : ∃ ps', n.accept (some ps) data k k = some ps' ∧ ps'.Accepting :=
        accept_of_yields hloop hps hhello hdesignated hlogged
      have hdrops : drops s.entry (n.accept s.entry data k k) = true := by
        rw [hentry, hentry']
        simp [drops, hps.1, hps'.1]
      rw [hdrops]
      exact ⟨fun _ => ⟨hdesignated, ps', hentry ▸ hentry', hps'⟩, fun hfalse => nomatch hfalse⟩

lemma SideSane.mono {designated ended ended' : Bool} {s : Side} (h : SideSane designated ended s)
    (hmono : ended = true → ended' = true) : SideSane designated ended' s := by
  refine ⟨h.yielded, fun hyielded => ?_⟩
  obtain ⟨ps, hentry, hps, hended, hreason⟩ := h.dialling hyielded
  exact ⟨ps, hentry, hps, fun hlogged => hmono (hended hlogged), hreason⟩

lemma Sane.step (h : p.Sane nodes) (hloop : ∀ x, (nodes x).loopback = false) (e : Exchange) :
    (p.step nodes e).Sane nodes := by
  cases e with
  | packet x data =>
    intro y
    by_cases hy : y = x
    · subst hy
      have hother : (!y) ≠ y := by cases y <;> decide
      simp only [Pair.step, Function.update_self, Function.update_of_ne hother]
      exact (h y).packet (hloop y)
    · have hx : (!y) = x := by cases y <;> cases x <;> simp_all
      simp only [Pair.step, Function.update_of_ne hy, hx, Function.update_self]
      refine SideSane.mono (hx ▸ h y) fun hended => ?_
      obtain ⟨hyielded, hcompleted⟩ := Bool.and_eq_true_iff.mp hended
      simp [hyielded, hcompleted]
  | complete x =>
    rw [Pair.step]
    split_ifs with hcan
    · obtain ⟨hother, hown⟩ := by simpa using hcan
      intro y
      by_cases hy : y = x
      · subst hy
        have hne : (!y) ≠ y := by cases y <;> decide
        simp only [Function.update_self, Function.update_of_ne hne]
        obtain ⟨ps, hentry, hps, -, -⟩ := (h y).dialling hown
        refine ⟨fun htrue => absurd htrue (by simp [hown]), fun _ => ?_⟩
        exact ⟨{ ps with handshakeLogged := true }, by simp [hentry], hps, fun _ => by simp [hother],
          fun _ => .inr rfl⟩
      · have hx : (!y) = x := by cases y <;> cases x <;> simp_all
        simp only [Function.update_of_ne hy, hx, Function.update_self]
        refine SideSane.mono (hx ▸ h y) fun hended => ?_
        simp [(Bool.and_eq_true_iff.mp hended).1]
    · exact h

end Step

lemma exists_dialling_startConnect {entry : Option PeerState}
    (h : (startConnect entry 0 0).2.isSome = true) :
    (startConnect entry 0 0).1.Dialling ∧ (startConnect entry 0 0).1.handshakeLogged = false := by
  unfold startConnect at h ⊢
  dsimp only at h ⊢
  split_ifs at h ⊢
  · cases h
  · exact ⟨⟨rfl, rfl⟩, rfl⟩

lemma sane_dial {nodes : Bool → Node} {entries : Bool → Option PeerState}
    (h : ∀ x, (startConnect (entries x) 0 0).2.isSome = true) : (dial entries).Sane nodes := by
  intro x
  obtain ⟨hps, hlogged⟩ := exists_dialling_startConnect (h x)
  refine ⟨fun htrue => (nomatch htrue), fun _ => ⟨_, rfl, hps, fun htrue => ?_, fun hfalse => ?_⟩⟩
  · rw [hlogged] at htrue
    cases htrue
  · cases hfalse

lemma Sane.of_helloed {nodes : Bool → Node} {p : Pair} (h : p.Sane nodes) {x : Bool}
    (hhelloed : (p.side x).helloed = true) :
    ((p.side x).yielded = true → (nodes x).designated = false) ∧
      ((p.side x).yielded = false → (nodes x).designated = true ∨
        ((p.side (!x)).yielded = true ∧ p.completed = true)) := by
  refine ⟨fun hyielded => ((h x).yielded hyielded).1, fun hyielded => ?_⟩
  obtain ⟨ps, -, -, hended, hreason⟩ := (h x).dialling hyielded
  exact (hreason hhelloed).imp_right fun hlogged => Bool.and_eq_true_iff.mp (hended hlogged)

end Pair

/-! ## Every interleaving -/

/-- **Which one is designated.**  Of two nodes that each compare its own endpoint with the other's,
exactly one is designated, unless the endpoints agree in port and IP. -/
theorem designated_ne_iff {nodes : Bool → Node} {endpoint : Bool → SocketAddr}
    (hown : ∀ x, (nodes x).publicEndpoint.getD (nodes x).localAddr = endpoint x)
    (hseen : ∀ x, (nodes x).peer = .newDirect (endpoint (!x))) :
    (nodes true).designated ≠ (nodes false).designated ↔
      (endpoint false).port ≠ (endpoint true).port ∨ (endpoint false).ip ≠ (endpoint true).ip := by
  have hdesignated (x : Bool) :
      (nodes x).designated = isDesignatedClient (endpoint x) (endpoint (!x)) := by
    simp [Node.designated, hseen x, hown x, NetworkEndpoint.newDirect]
  rw [hdesignated, hdesignated]
  constructor
  · intro hne
    by_contra hsame
    rw [not_or, not_not, not_not] at hsame
    exact hne (by simp [isDesignatedClient, hsame])
  · intro hdiffer
    rw [Bool.not_true, Bool.not_false, isDesignatedClient_eq_not hdiffer]
    exact Bool.not_ne_self _

section Run

variable {nodes : Bool → Node} {entries : Bool → Option PeerState}

lemma sane_run (hdial : ∀ x, (startConnect (entries x) 0 0).2.isSome = true)
    (hloop : ∀ x, (nodes x).loopback = false) (es : List Exchange) :
    (run (Pair.step nodes) (.dial entries) es).Sane nodes :=
  Lib.run_invariant (P := fun _ _ => True) (fun _ e h _ => h.step hloop e) (Pair.sane_dial hdial)
    (Lib.along_of_forall_mem (fun _ _ => trivial) _)

lemma Pair.Sane.yielded_eq {p : Pair} (h : p.Sane nodes) (hcompleted : p.completed = false)
    {x : Bool} (hhelloed : (p.side x).helloed = true) : (p.side x).yielded = !(nodes x).designated := by
  obtain ⟨hyields, hkeeps⟩ := h.of_helloed hhelloed
  cases hyielded : (p.side x).yielded with
  | true => rw [hyields hyielded, Bool.not_false]
  | false =>
    rcases hkeeps hyielded with hdesignated | ⟨-, hended⟩
    · rw [hdesignated, Bool.not_true]
    · rw [hcompleted] at hended
      cases hended

end Run

/-- **Simultaneous connect.**  Two nodes dial each other.  In every interleaving in which a
`ClientHello` of each has arrived at the other, among any other packets, exactly one of them has
yielded, if and only if exactly one of them finds that it is the designated client. -/
theorem simultaneous_connect_one_yields_iff (nodes : Bool → Node)
    (entries : Bool → Option PeerState)
    (hdial : ∀ x, (startConnect (entries x) 0 0).2.isSome = true)
    (hloop : ∀ x, (nodes x).loopback = false) :
    (∀ es : List Exchange,
      (∀ x, ((run (Pair.step nodes) (.dial entries) es).side x).helloed = true) →
        ((run (Pair.step nodes) (.dial entries) es).side true).yielded ≠
          ((run (Pair.step nodes) (.dial entries) es).side false).yielded) ↔
      (nodes true).designated ≠ (nodes false).designated := by
  have hsane := sane_run hdial hloop
  constructor
  · intro hone
    -- each receives one `ClientHello`, and no handshake ends
    have hhelloed : ∀ x, ((run (Pair.step nodes) (.dial entries)
        [.packet false clientHello, .packet true clientHello]).side x).helloed = true := by
      intro x
      cases x <;> rfl
    have hyielded := fun x => (hsane _).yielded_eq rfl (hhelloed x)
    have hne := hone _ hhelloed
    rw [hyielded, hyielded] at hne
    exact fun heq => hne (congrArg _ heq)
  · intro hone es hboth
    have hfalse := (hsane es).of_helloed (hboth false)
    have htrue := (hsane es).of_helloed (hboth true)
    -- the designated one does not yield, and then the other one has no reason to go on
    generalize run (Pair.step nodes) (.dial entries) es = p at hfalse htrue ⊢
    cases hd : (nodes false).designated <;> cases hyf : (p.side false).yielded <;>
      cases hyt : (p.side true).yielded <;> simp_all

def directNodes (x : Bool) : Node where
  localAddr := .v4 (if x then 0x0a000002 else 0x0a000001) 5000
  publicEndpoint := some (.v4 (if x then 0xcb007102 else 0xcb007101) 5000)
  peer := .newDirect (.v4 (if x then 0xcb007101 else 0xcb007102) 5000)

theorem direct_one_yields :
    let p := run (Pair.step directNodes) (.dial fun _ => none)
      [.packet false clientHello, .packet true clientHello, .packet true clientHello]
    (p.side true).yielded ≠ (p.side false).yielded := by
  refine (simultaneous_connect_one_yields_iff directNodes (fun _ => none) (by decide)
    (by decide)).mpr (by decide) _ (by decide)

def relayNodes (x : Bool) : Node :=
  { directNodes x with peer := .newRelay "RELAY" none (some (if x then 0x4001 else 0x4002)) }

theorem relay_both_yield :
    let p := run (Pair.step relayNodes) (.dial fun _ => none)
      [.packet false clientHello, .packet true clientHello]
    (p.side false).yielded = true ∧ (p.side true).yielded = true := by
  decide

end Bingle.Dtls
