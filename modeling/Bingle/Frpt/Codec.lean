import Bingle.Frpt.Desk

/-!
# The packets of the transport

A packet is a header of four bytes and, for a block, the block.  The first byte has the version in
its upper half, which tells FRPT from the JSON objects of older peers.  `send` refuses a block that
does not fit into the MTU with its header; an acknowledgement is sent without a check.
-/

namespace Bingle.Frpt

open Lib (run Always)

def openBrace : UInt8 := 0x7B

lemma parsePacket_openBrace (rest : Bytes) : parsePacket (openBrace :: rest) = none := by
  have hversion : openBrace >>> 4 ≠ frptVersion := by decide
  match rest with
  | [] | [_] | [_, _] => rfl
  | _ :: _ :: _ :: _ =>
    rw [parsePacket]
    exact if_pos hversion

lemma Party.receive_of_parse_eq_none {κ : Type*} [DecidableEq κ] {p : Party κ} {dg : Datagram}
    (hhandler : p.handleMessage = true) (hparse : parsePacket dg.bytes = none) (from_ : κ)
    (ackSent : Bool) :
    p.receive from_ dg ackSent =
      ({ p with handed := p.handed ++ [(dg.origin, dg.bytes)] }, none) := by
  rw [Party.receive, hparse]
  exact if_pos hhandler

@[simp] lemma length_buildDataSinglePacket (txId : UInt16) (payload : Bytes) :
    (buildDataSinglePacket txId payload).length = payload.length + frptHeaderLen := by
  rw [buildDataSinglePacket, List.length_append, Nat.add_comm]
  rfl

variable {κ : Type*}

def CallPhase.block? : CallPhase κ → Option Bytes
  | generationRead _ _ block | numbered _ block | due _ block _ | waiting _ block _ _ => some block
  | idle | returned _ _ => none

namespace Desk

variable {d d' : Desk κ}

structure Fits (d : Desk κ) : Prop where
  blocks : ∀ n block, (d.call n).block? = some block → block.length + frptHeaderLen ≤ d.mtu
  emitted : ∀ packet ∈ d.emitted, packet.length ≤ d.mtu

lemma Fits.setCall (h : d.Fits) {n : ℕ} {p : CallPhase κ}
    (hp : ∀ block, p.block? = some block → block.length + frptHeaderLen ≤ d.mtu) :
    (d.setCall n p).Fits where
  blocks m block hm := by
    by_cases hmn : m = n
    · subst hmn
      simp only [Desk.setCall, Function.update_self] at hm
      exact hp block hm
    · simp only [Desk.setCall, Function.update_of_ne hmn] at hm
      exact h.blocks m block hm
  emitted := h.emitted

variable [DecidableEq κ]

lemma Fits.moves (h : d.Fits) (hmtu : frptHeaderLen ≤ d.mtu) {e : DeskEvent κ}
    (hm : d.Moves e d') : d'.Fits ∧ d'.mtu = d.mtu := by
  -- a call that keeps its block
  have hsame : ∀ {n : ℕ} {p : CallPhase κ}, p.block? = (d.call n).block? → (d.setCall n p).Fits :=
    fun {n p} hp => h.setCall fun block hblock => h.blocks n block (hp ▸ hblock)
  cases hm with
  | rest htable hcall hflag hacking hdispatched hemitted hmtu' =>
    refine ⟨⟨fun n block hn => ?_, fun packet hp => ?_⟩, hmtu'⟩
    · rw [hcall] at hn
      exact hmtu' ▸ h.blocks n block hn
    · rw [hemitted] at hp
      exact hmtu' ▸ h.emitted packet hp
  | refuse n e hphase => exact ⟨h.setCall fun block hp => (by cases hp), rfl⟩
  | begin n to_ generation block hphase hlength =>
    exact ⟨h.setCall fun block' hp => Option.some.inj hp ▸ hlength, rfl⟩
  | number n to_ generation block hphase =>
    have hfits : (d.setCall n (.numbered ⟨to_, generation, d.nextTxId⟩ block)).Fits :=
      hsame (by rw [hphase]; rfl)
    exact ⟨⟨hfits.blocks, hfits.emitted⟩, rfl⟩
  | register n key block hphase =>
    have hfits : (d.setCall n (.due key block none)).Fits := hsame (by rw [hphase]; rfl)
    exact ⟨⟨hfits.blocks, hfits.emitted⟩, rfl⟩
  | transmit n key block before attempt waits hphase =>
    have hfits : (d.setCall n (.waiting key block attempt waits)).Fits :=
      hsame (by rw [hphase]; rfl)
    refine ⟨⟨hfits.blocks, fun packet hp => ?_⟩, rfl⟩
    rcases List.mem_cons.mp hp with rfl | hp
    · rw [length_buildDataSinglePacket]
      exact h.blocks n block (by rw [hphase]; rfl)
    · exact h.emitted packet hp
  | retry n key block attempt waits hphase => exact ⟨hsame (by rw [hphase]; rfl), rfl⟩
  | lastWait n key block attempt waits hphase => exact ⟨hsame (by rw [hphase]; rfl), rfl⟩
  | fail n key e hrunning =>
    have hfits : (d.setCall n (.returned (some key) (.error e))).Fits :=
      h.setCall fun block hp => by cases hp
    exact ⟨⟨hfits.blocks, hfits.emitted⟩, rfl⟩
  | finish n key block attempt waits hphase hflag =>
    exact ⟨h.setCall fun block hp => (by cases hp), rfl⟩
  | acknowledge txId =>
    refine ⟨⟨h.blocks, fun packet hp => ?_⟩, rfl⟩
    rcases List.mem_cons.mp hp with rfl | hp
    · exact hmtu
    · exact h.emitted packet hp
  | parse thread key hidle => exact ⟨⟨h.blocks, h.emitted⟩, rfl⟩
  | matchAck thread key hparsed => exact ⟨⟨h.blocks, h.emitted⟩, rfl⟩
  | tell thread n hmatched => exact ⟨⟨h.blocks, h.emitted⟩, rfl⟩

end Desk

/-! ## What the codec is for -/

/-- **The codec is sound** for an MTU: packets are read back as they were built, messages that begin
with `{` reach the handler as they are, and no packet is longer than the MTU. -/
structure CodecSound (κ : Type*) [DecidableEq κ] (mtu : ℕ) : Prop where
  data : ∀ txId payload,
    parsePacket (buildDataSinglePacket txId payload) = some (.dataSingle txId payload)
  ack : ∀ txId, parsePacket (ackCompletePacket txId) = some (.ackComplete txId)
  legacy : ∀ rest, parsePacket (openBrace :: rest) = none
  handed : ∀ (p : Party κ) (from_ : κ) (rest : Bytes) (origin : Option Origin) (ackSent : Bool),
    p.handleMessage = true →
      p.receive from_ ⟨openBrace :: rest, origin⟩ ackSent =
        ({ p with handed := p.handed ++ [(origin, openBrace :: rest)] }, none)
  emitted : ∀ es : List (DeskEvent κ),
    Always Desk.step (fun d => ∀ packet ∈ d.emitted, packet.length ≤ mtu) (Desk.init mtu) es

/-- **The codec is sound exactly if the MTU has room for a header.** -/
theorem codecSound_iff (κ : Type*) [DecidableEq κ] [Inhabited κ] (mtu : ℕ) :
    CodecSound κ mtu ↔ frptHeaderLen ≤ mtu := by
  constructor
  · intro h
    -- a block arrives and is acknowledged
    have hack := h.emitted [.packet 0 default (buildDataSinglePacket 0 []) true]
    have hlength := hack.2 (ackCompletePacket 0) (by
      simp [Desk.step, Desk.init, Desk.receive])
    exact hlength
  · intro hmtu
    refine ⟨parsePacket_buildDataSinglePacket, parsePacket_ackCompletePacket,
      parsePacket_openBrace, fun p from_ rest origin ackSent hhandler => ?_, fun es => ?_⟩
    · exact Party.receive_of_parse_eq_none hhandler (parsePacket_openBrace rest) from_ ackSent
    · have hany : Lib.Along Desk.step (fun _ _ => True) (Desk.init mtu : Desk κ) es :=
        Lib.along_of_forall_mem (Q := fun _ => True) (fun _ _ => trivial) _
      have hfits := Lib.always_of_along (I := fun d : Desk κ => d.Fits ∧ d.mtu = mtu)
        (fun d e h _ => by
          obtain ⟨hf, hm⟩ := h.1.moves (h.2 ▸ hmtu) (Desk.moves_step d e)
          exact ⟨hf, hm.trans h.2⟩)
        ⟨⟨fun _ _ hn => (by cases hn), fun _ hp => absurd hp List.not_mem_nil⟩, rfl⟩ hany
      exact hfits.mono fun d h packet hp => h.2 ▸ h.1.emitted packet hp

end Bingle.Frpt
