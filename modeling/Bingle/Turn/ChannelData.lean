import Bingle.Lib.MsgPack
import Bingle.Turn.Mux

/-!
# ChannelData messages

`build_channel_data` and `parse_channel_data_header` stand three times in the source, word for word
the same: for the relay (`bingle_core/src/turn/turn_relay_handler_impl.rs`), for the client
(`turn_client_handler_impl.rs`) and in `turn_handler.rs`, whose parser is there for tests only.  The
parser is translated with what could go wrong in it: it indexes the packet, and it rounds the length
up with the mask `!3`, which is as wide as a `usize` of the machine.
-/

namespace Bingle.Turn

open List Option
open Messages (Id SocketAddr)
open Outgoing (NetworkEndpoint)
open Lib (Checked)
open Lib.MsgPack (be ofBe ofBe_be length_be)

/-! ## Rounding up -/

def usizeNot (w n : ℕ) : ℕ := 2 ^ w - 1 - n

lemma and_shiftLeft (n m s : ℕ) : n &&& (m <<< s) = ((n >>> s) &&& m) <<< s := by
  refine Nat.eq_of_testBit_eq fun i => ?_
  by_cases hi : s ≤ i
  · simp [Nat.testBit_shiftLeft, hi]
  · simp [Nat.testBit_shiftLeft, hi]

lemma and_usizeNot_three {w n : ℕ} (hw : 2 ≤ w) (hn : n < 2 ^ w) :
    n &&& usizeNot w 3 = n / 4 * 4 := by
  obtain ⟨v, rfl⟩ := Nat.exists_eq_add_of_le' hw
  have hmask : usizeNot (v + 2) 3 = (2 ^ v - 1) <<< 2 := by
    rw [usizeNot, Nat.shiftLeft_eq, Nat.pow_add]
    omega
  have hfits : n >>> 2 < 2 ^ v := by
    rw [Nat.shiftRight_eq_div_pow, Nat.div_lt_iff_lt_mul (by decide), ← Nat.pow_add]
    exact hn
  rw [hmask, and_shiftLeft, Nat.and_two_pow_sub_one_eq_mod, Nat.mod_eq_of_lt hfits,
    Nat.shiftLeft_eq, Nat.shiftRight_eq_div_pow]

/-! ## The two functions -/

def getRange (packet : List UInt8) (i j : ℕ) : Option (List UInt8) :=
  if i ≤ j ∧ j ≤ packet.length then some ((packet.drop i).take (j - i)) else none

namespace ChannelData

def build (channel : UInt16) (data : List UInt8) : Option (List UInt8) :=
  if data.length > 65535 then none
  else
    let pad := (4 - data.length % 4) % 4
    some (be 2 channel.toNat ++ be 2 (data.length % 65536) ++ data ++ List.replicate pad 0)

def parseHeader (w : ℕ) (packet : List UInt8) : Checked (Option (ℕ × ℕ × ℕ)) :=
  if packet.length < 4 then return none
  else do
    let b0 ← Checked.index packet 0
    let b1 ← Checked.index packet 1
    let b2 ← Checked.index packet 2
    let b3 ← Checked.index packet 3
    let ch := ofBe [b0, b1]
    let len := ofBe [b2, b3]
    let total := packet.length
    let paddedLen := (len + 3) &&& usizeNot w 3
    return if total < 4 + len then none
      else if total < 4 + paddedLen then none
      else some (ch, len, paddedLen - len)

/-- How `handle_turn_incoming` begins, for a relay and for a client: the channel, and the payload
`packet.get(4..4 + len)`. -/
def payload (w : ℕ) (packet : List UInt8) : Checked (Option (ℕ × List UInt8)) := do
  match ← parseHeader w packet with
  | none => return none
  | some (ch, len, _) => return (getRange packet 4 (4 + len)).map fun data => (ch, data)

end ChannelData

/-! ## The copies -/

def buildChannelData (channel : UInt16) (data : List UInt8) : Option (List UInt8) :=
  ChannelData.build channel data

namespace TurnRelayHandlerImpl

def buildChannelData (channel : UInt16) (data : List UInt8) : Option (List UInt8) :=
  ChannelData.build channel data

def parseChannelDataHeader (w : ℕ) (packet : List UInt8) : Checked (Option (ℕ × ℕ × ℕ)) :=
  ChannelData.parseHeader w packet

end TurnRelayHandlerImpl

namespace TurnClientHandlerImpl

def buildChannelData (channel : UInt16) (data : List UInt8) : Option (List UInt8) :=
  ChannelData.build channel data

def parseChannelDataHeader (w : ℕ) (packet : List UInt8) : Checked (Option (ℕ × ℕ × ℕ)) :=
  ChannelData.parseHeader w packet

end TurnClientHandlerImpl

/-! ## The parser -/

namespace ChannelData

variable {w : ℕ} {channel : UInt16} {data packet : List UInt8}

lemma ofBe_pair (b c : UInt8) : ofBe [b, c] = b.toNat * 256 + c.toNat := by
  simp [ofBe]

lemma paddedLen_eq (hw : 32 ≤ w) (b c : UInt8) :
    (b.toNat * 256 + c.toNat + 3) &&& usizeNot w 3 = (b.toNat * 256 + c.toNat + 3) / 4 * 4 := by
  have hb : b.toNat < 256 := b.toNat_lt
  have hc : c.toNat < 256 := c.toNat_lt
  have hpow : 2 ^ 32 ≤ 2 ^ w := Nat.pow_le_pow_right (by decide) hw
  exact and_usizeNot_three (by omega) (by omega)

lemma length_of_parseChannelDataHeader {ch len pad : ℕ}
    (h : parseChannelDataHeader packet = some (ch, len, pad)) : 4 + len ≤ packet.length := by
  match packet, h with
  | b0 :: b1 :: b2 :: b3 :: rest, h =>
    simp only [parseChannelDataHeader, ite_none_left_eq_some, some.injEq,
      Prod.mk.injEq] at h
    obtain ⟨hlen, -, -, rfl, -⟩ := h
    simp only [length_cons]
    omega

/-- **Parsing stays in bounds**, and returns what the handlers' models read. -/
theorem parseHeader_eq (hw : 32 ≤ w) (packet : List UInt8) :
    parseHeader w packet = .ok (parseChannelDataHeader packet) := by
  match packet with
  | [] | [_] | [_, _] | [_, _, _] => rfl
  | b0 :: b1 :: b2 :: b3 :: rest =>
    have hlong : ¬ (b0 :: b1 :: b2 :: b3 :: rest).length < 4 := by simp
    have hlen : ∀ n, (b0 :: b1 :: b2 :: b3 :: rest).length < 4 + n ↔ rest.length < n := by
      intro n
      simp only [length_cons]
      omega
    rw [parseHeader, if_neg hlong]
    change Except.ok (if _ < 4 + ofBe [b2, b3] then _ else if _ < 4 + (_ &&& _) then _ else _) = _
    simp only [hlen, paddedLen_eq hw, ofBe_pair, parseChannelDataHeader]

lemma payload_eq (hw : 32 ≤ w) (packet : List UInt8) :
    payload w packet = .ok ((parseChannelDataHeader packet).map fun header =>
      (header.1, (packet.drop 4).take header.2.1)) := by
  rw [payload, parseHeader_eq hw]
  cases h : parseChannelDataHeader packet with
  | none => rfl
  | some header =>
    obtain ⟨ch, len, pad⟩ := header
    have hlong : 4 + len ≤ packet.length := length_of_parseChannelDataHeader h
    change Except.ok ((getRange packet 4 (4 + len)).map _) = _
    rw [getRange, if_pos ⟨by omega, hlong⟩, Nat.add_sub_cancel_left]
    rfl

/-! ## What is built -/

lemma exists_build (h : data.length ≤ 65535) (channel : UInt16) :
    ∃ packet, build channel data = some packet := ⟨_, if_neg (by omega)⟩

lemma build_eq_none (h : 65535 < data.length) (channel : UInt16) : build channel data = none :=
  if_pos h

lemma be_two (n : ℕ) : be 2 n = [UInt8.ofNat (n / 256), UInt8.ofNat n] := rfl

lemma ofBe_be_two {n : ℕ} (h : n < 65536) :
    (UInt8.ofNat (n / 256)).toNat * 256 + (UInt8.ofNat n).toNat = n := by
  rw [← ofBe_pair, ← be_two, ofBe_be (by simpa using h)]

lemma parseChannelDataHeader_be {ch : ℕ} (hch : ch < 65536) (hdata : data.length < 65536)
    {padding : List UInt8} (hpad : (data.length + 3) / 4 * 4 = data.length + padding.length) :
    parseChannelDataHeader (be 2 ch ++ be 2 data.length ++ data ++ padding) =
      some (ch, data.length, padding.length) := by
  simp only [be_two, cons_append, nil_append, parseChannelDataHeader,
    ofBe_be_two hch, ofBe_be_two hdata, hpad, length_append]
  simp

lemma payload_build (hw : 32 ≤ w) (h : build channel data = some packet) :
    payload w packet = .ok (some (channel.toNat, data)) := by
  rw [build, ite_none_left_eq_some, some.injEq] at h
  obtain ⟨hle, rfl⟩ := h
  have hmod : data.length % 65536 = data.length := Nat.mod_eq_of_lt (by omega)
  have hpad : (data.length + 3) / 4 * 4 =
      data.length + (List.replicate ((4 - data.length % 4) % 4) (0 : UInt8)).length := by
    rw [length_replicate]
    omega
  rw [hmod, payload_eq hw,
    parseChannelDataHeader_be channel.toNat_lt (by omega) hpad]
  simp [be_two]

lemma length_of_build (h : build channel data = some packet) :
    packet.length = 4 + (data.length + 3) / 4 * 4 := by
  rw [build, ite_none_left_eq_some, some.injEq] at h
  obtain ⟨-, rfl⟩ := h
  simp only [length_append, length_be, length_replicate]
  omega

lemma four_dvd_length_of_build (h : build channel data = some packet) : 4 ∣ packet.length := by
  have := length_of_build h
  omega

/-! ## Telling a message by its first byte -/

lemma muxTypeFor_cons {first : UInt8} (rest : List UInt8) (hmin : 0x40 ≤ first.toNat)
    (hmax : first.toNat ≤ 0x7f) : muxTypeFor (first :: rest) = .turnChannelData := by
  simp only [muxTypeFor, UInt8.le_iff_toNat_le, UInt8.reduceToNat]
  rw [if_neg (by omega), if_neg (by omega), if_neg (by omega), if_pos ⟨hmin, hmax⟩]

lemma muxTypeFor_build (hmin : minCh ≤ channel.toNat) (hmax : channel.toNat ≤ maxCh)
    (h : build channel data = some packet) : muxTypeFor packet = .turnChannelData := by
  rw [build, ite_none_left_eq_some, some.injEq] at h
  obtain ⟨-, rfl⟩ := h
  simp only [minCh, maxCh] at hmin hmax
  have hfirst : (UInt8.ofNat (channel.toNat / 256)).toNat = channel.toNat / 256 :=
    Lib.MsgPack.toNat_ofNat_of_lt (by omega)
  simp only [be_two, cons_append]
  exact muxTypeFor_cons _ (by omega) (by omega)

end ChannelData

/-! ## The codec -/

/-- **The ChannelData codec**, on a machine of at least 32 bits.  A payload of at most 65535 bytes
is built into a multiple of four bytes and read back exactly, with its channel; a longer one is
refused.  The three builders agree, and so do the parsers, which never panic.  A message for a
channel that a relay allocates is ChannelData to the mux. -/
theorem channel_data_codec {w : ℕ} (hw : 32 ≤ w) (channel : UInt16) (data : List UInt8) :
    (data.length ≤ 65535 →
      ∃ packet, buildChannelData channel data = some packet ∧
        ChannelData.payload w packet = .ok (some (channel.toNat, data)) ∧ 4 ∣ packet.length) ∧
    (65535 < data.length → buildChannelData channel data = none) ∧
    (TurnRelayHandlerImpl.buildChannelData channel data = buildChannelData channel data ∧
      TurnClientHandlerImpl.buildChannelData channel data = buildChannelData channel data) ∧
    (∀ packet, ∃ header,
      TurnRelayHandlerImpl.parseChannelDataHeader w packet = .ok header ∧
        TurnClientHandlerImpl.parseChannelDataHeader w packet = .ok header) ∧
    ((∃ (t : RelayHandler) (seed : ℕ), t.allocChannel seed = some channel.toNat) →
      ∀ packet, buildChannelData channel data = some packet →
        muxTypeFor packet = .turnChannelData) := by
  refine ⟨fun h => ?_, fun h => ?_, ⟨rfl, rfl⟩, fun packet => ?_, ?_⟩
  · obtain ⟨packet, hbuild⟩ := ChannelData.exists_build h channel
    exact ⟨_, hbuild, ChannelData.payload_build hw hbuild,
      ChannelData.four_dvd_length_of_build hbuild⟩
  · exact ChannelData.build_eq_none h channel
  · have hparse := ChannelData.parseHeader_eq hw packet
    exact ⟨_, hparse, hparse⟩
  · rintro ⟨t, seed, halloc⟩ packet hbuild
    obtain ⟨hmin, hmax⟩ := (RelayHandler.of_allocChannel halloc).1
    exact ChannelData.muxTypeFor_build hmin hmax hbuild

theorem channel_data_of_first_channel :
    ∃ packet, buildChannelData 0x4000 [1, 2, 3, 4, 5] = some packet ∧
      ChannelData.payload 64 packet = .ok (some (0x4000, [1, 2, 3, 4, 5])) ∧
        4 ∣ packet.length ∧ muxTypeFor packet = .turnChannelData := by
  have hw : 32 ≤ 64 := by decide
  have hlen : [1, 2, 3, 4, (5 : UInt8)].length ≤ 65535 := by decide
  have halloc : RelayHandler.new.allocChannel 0 = some (0x4000 : UInt16).toNat := rfl
  obtain ⟨hbuilt, -, -, -, hmux⟩ := channel_data_codec hw 0x4000 [1, 2, 3, 4, 5]
  obtain ⟨packet, hbuild, hpayload, hdvd⟩ := hbuilt hlen
  exact ⟨packet, hbuild, hpayload, hdvd, hmux ⟨_, _, halloc⟩ packet hbuild⟩

/-! ## Through a relay and back -/

/-- `UdpNetworkMux::write` on an open socket: the datagram that goes out, and for whom. -/
def Mux.write (m : Mux) (to_ : NetworkEndpoint) (buf : List UInt8) :
    Checked (Except String (SocketAddr × List UInt8)) :=
  match to_.relayChannel, to_.relayAddress with
  | some ch, some relayAddr =>
    return match buildChannelData (UInt16.ofNat ch) buf with
      | some wrapped => .ok (relayAddr, wrapped)
      | none => .error "TURN build_channel_data failed (payload too large)"
  | _, _ => do
    let toAddr ← Checked.expect to_.inetSocketAddress
      "UdpNetworkMux::write: NetworkSourceKey missing inet_socket_address (and no relay_address)"
    if muxTypeFor buf = .dtls then
      let _ ← Dtls.dtlsUdpToJson m.traceEnabled buf
    return .ok (toAddr, buf)

lemma Mux.receive_eq {m : Mux} {sender : SocketAddr} {datagram : List UInt8}
    (hpos : 0 < datagram.length) (hfits : datagram.length ≤ 2048)
    (hsender : sender.toList.head? ≠ some '[') :
    m.receive sender datagram = m.processPacket (.newDirect sender) datagram := by
  rw [receive, if_neg (not_or.mpr ⟨ne_nil_of_length_pos hpos, hsender⟩), take_of_length_le hfits]

/-- **A channel carries datagrams both ways.**  What one of two nodes that share a channel of a relay
writes to its endpoint, up to what fits the buffer of a receive loop, the relay passes on to the
other, which takes in exactly what was written, as come from the channel's endpoint: what it writes
there goes the same way back. -/
theorem channel_carries_both_ways {relay x y : Mux} {t : RelayHandler} {ch : ℕ}
    {a b s d : SocketAddr} (hrelay : relay.handleTurn = some (.relay t))
    (hpublic : relay.lastPublicAddr.isSome) (hpair : t.chToPair ch = some (a, b)) (hab : a ≠ b)
    (hreg : (t.allowedAddrToId b).isSome) (hch : minCh ≤ ch ∧ ch ≤ maxCh)
    (hends : s = a ∧ d = b ∨ s = b ∧ d = a) {ids : SocketAddr → Option Id}
    (hclient : y.handleTurn = some (.client ids)) (hpublic' : y.lastPublicAddr.isSome)
    {addr : SocketAddr} {relayId : Id} (hid : ids addr = some relayId) (own : Option Id)
    (hs : s.toList.head? ≠ some '[') (haddr : addr.toList.head? ≠ some '[')
    {data : List UInt8} (hdata : data.length ≤ 2044) :
    ∃ packet, x.write ⟨none, some ch, some addr, own⟩ data = .ok (.ok (addr, packet)) ∧
      relay.receive s packet = .ok [.forward d packet] ∧
      y.receive addr packet = y.processPacket ⟨none, some ch, some addr, some relayId⟩ data := by
  obtain ⟨hmin, hmax⟩ := hch
  have hnat : (UInt16.ofNat ch).toNat = ch := UInt16.toNat_ofNat_of_lt (hmax.trans_lt (by decide))
  obtain ⟨packet, hbuild⟩ :=
    ChannelData.exists_build (hdata.trans (by decide)) (UInt16.ofNat ch)
  have hmux : muxTypeFor packet = .turnChannelData :=
    ChannelData.muxTypeFor_build (hnat.symm ▸ hmin) (hnat.symm ▸ hmax) hbuild
  -- what the handlers read of the packet
  have hread := ChannelData.payload_build le_rfl hbuild
  rw [ChannelData.payload_eq le_rfl, hnat, Except.ok.injEq, map_eq_some_iff] at hread
  obtain ⟨⟨ch', len, padding⟩, hparse, hheader⟩ := hread
  obtain ⟨rfl, rfl⟩ := Prod.mk.inj hheader
  have hlength := ChannelData.length_of_build hbuild
  refine ⟨packet, ?_, ?_, ?_⟩
  · simp only [Mux.write, buildChannelData, hbuild]
    rfl
  · have hdest : d = if s ≠ a then a else b := by
      rcases hends with ⟨rfl, rfl⟩ | ⟨rfl, rfl⟩
      · simp
      · simp [hab.symm]
    have hwrite := (RelayHandler.relayTurn_eq_write_iff hparse hpair relay.lastPublicAddr s d
      packet).mpr ⟨isSome_iff_ne_none.mp hpublic, hreg, hab, hdest, rfl⟩
    rw [Mux.receive_eq (by omega) (by omega) hs,
      Mux.processPacket_turn (p := (.newDirect s, packet)) hrelay hmux rfl]
    simp only [TurnHandler.turn, hwrite]
    rfl
  · obtain ⟨pub, hpub⟩ := isSome_iff_exists.mp hpublic'
    rw [Mux.receive_eq (by omega) (by omega) haddr]
    refine Mux.processPacket_of_unwraps (p := (.newDirect addr, packet))
      (q := (⟨none, some ch', some addr, some relayId⟩, _)) ⟨_, addr, hclient, hmux, rfl, ?_⟩
    simp [TurnHandler.turn, turnHandler, clientTurnIncoming, hparse, hid, hpub]

theorem bob_takes_in_what_alice_writes :
    ∃ packet, (Mux.client "R").write ⟨none, some 0x4000, some "R", none⟩ [22] =
        .ok (.ok ("R", packet)) ∧
      ({ Mux.client "R" with handleTurn := some (.relay (RelayHandler.reached
          RelayHandler.bobCalled)) } : Mux).receive "192.0.2.10:1000" packet =
        .ok [.forward "192.0.2.20:2000" packet] ∧
      (Mux.client "R").receive "R" packet =
        (Mux.client "R").processPacket ⟨none, some 0x4000, some "R", some "R"⟩ [22] :=
  channel_carries_both_ways rfl rfl rfl (by decide) rfl (by decide) (.inl ⟨rfl, rfl⟩) rfl rfl
    (by rfl) none (by decide) (by decide) (by decide)

end Bingle.Turn
