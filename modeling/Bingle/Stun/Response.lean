import Bingle.Stun.Finder

/-!
# Reading what a STUN server answers

`parse_xor_mapped_address` over a datagram that may hold anything, against the attributes that the
datagram holds, and the answer that `SimpleStunServer` builds (`stun/simple_stun_server.rs`).
-/

namespace Bingle.Stun

open List
open Lib Lib.Checked

/-! ## The attributes of a message

A STUN message is a header of twenty bytes and then attributes: a type, a length and as many bytes,
padded to a multiple of four.
-/

/-- An attribute that begins at `offset` of its message. -/
structure Attribute where
  offset : ℕ
  atype : UInt16
  value : List UInt8

namespace Attribute

def stop (a : Attribute) : ℕ := a.offset + 4 + a.value.length

/-- An address attribute of IPv4, or one too short to be an address at all. -/
def Decisive (a : Attribute) : Prop :=
  (a.atype = 0x0020 ∨ a.atype = 0x0001) ∧ (a.value.length < 8 ∨ a.value[1]? = some 0x01)

instance : DecidablePred Decisive := fun a => by unfold Decisive; infer_instance

/-- The address in the value, in the clear or masked with the cookie. -/
def address (a : Attribute) : Option SocketAddr :=
  match a.value with
  | _ :: _ :: p0 :: p1 :: a0 :: a1 :: a2 :: a3 :: _ =>
    if a.atype = 0x0020 then
      some ⟨List.zipWith (· ^^^ ·) [a0, a1, a2, a3] magicCookie, be16 p0 p1 ^^^ 0x2112⟩
    else some ⟨[a0, a1, a2, a3], be16 p0 p1⟩
  | _ => none

end Attribute

/-- The attributes whose whole value is in `bytes`, up to the first of which it is not. -/
def attributes (offset : ℕ) : List UInt8 → List Attribute
  | t0 :: t1 :: l0 :: l1 :: rest =>
    let len := (be16 l0 l1).toNat
    let size := len + (4 - len % 4) % 4
    if rest.length < len then []
    else ⟨offset, be16 t0 t1, rest.take len⟩ :: attributes (offset + 4 + size) (rest.drop size)
  | _ => []
termination_by bytes => bytes.length

/-- **The address of a message**, wherever in the datagram it stands: the first attribute with an
address of IPv4, unless one that is too short comes before it. -/
def addressAttribute (data : List UInt8) : Option Attribute :=
  if 20 ≤ data.length ∧ (data.drop 4).take 4 = magicCookie then
    ((attributes 20 (data.drop 20)).find? (·.Decisive)).filter (8 ≤ ·.value.length)
  else none

def declaredEnd (data : List UInt8) : ℕ := 20 + (be16 (data.getD 2 0) (data.getD 3 0)).toNat

section Walk

variable {offset stop : ℕ} {bytes : List UInt8} {a : Attribute} {as : List Attribute}

lemma length_lt_four_or (l : List UInt8) :
    l.length < 4 ∨ ∃ a b c d t, l = a :: b :: c :: d :: t := by
  rcases l with _ | ⟨_, _ | ⟨_, _ | ⟨_, _ | ⟨_, _⟩⟩⟩⟩
  all_goals simp

lemma exists_eight {l : List UInt8} (h : 8 ≤ l.length) :
    ∃ a b c d e f g k t, l = a :: b :: c :: d :: e :: f :: g :: k :: t := by
  rcases l with _ | ⟨_, _ | ⟨_, _ | ⟨_, _ | ⟨_, _ | ⟨_, _ | ⟨_, _ | ⟨_, _ | ⟨_, _⟩⟩⟩⟩⟩⟩⟩⟩
  all_goals simp at h ⊢

lemma attributes_of_length_lt (h : bytes.length < 4) : attributes offset bytes = [] := by
  rw [attributes.eq_def]
  split
  · simp at h
    omega
  · rfl

lemma offset_le_of_mem (h : a ∈ attributes offset bytes) : offset ≤ a.offset := by
  fun_induction attributes offset bytes with
  | case1 => simp at h
  | case2 _ _ _ _ _ _ _ _ _ ih =>
    rcases mem_cons.mp h with rfl | h
    · rfl
    · have := ih h
      omega
  | case3 => simp at h

lemma pairwise_attributes :
    (attributes offset bytes).Pairwise fun a b => a.stop ≤ b.offset := by
  fun_induction attributes offset bytes with
  | case1 => exact .nil
  | case2 _ _ _ _ _ _ _ _ _ ih =>
    refine pairwise_cons.mpr ⟨fun b hb => ?_, ih⟩
    have := offset_le_of_mem hb
    simp only [Attribute.stop, length_take]
    omega
  | case3 => exact .nil

lemma attributes_take_eq_nil {t0 t1 l0 l1 : UInt8} {rest : List UInt8}
    (h : rest.length < (be16 l0 l1).toNat ∨ stop < offset + 4 + (be16 l0 l1).toNat) :
    attributes offset ((t0 :: t1 :: l0 :: l1 :: rest).take (stop - offset)) = [] := by
  by_cases hstop : stop < offset + 4
  · exact attributes_of_length_lt (by rw [length_take]; omega)
  · rw [show stop - offset = stop - offset - 4 + 4 by omega]
    simp only [take_succ_cons, attributes, length_take]
    exact if_pos (by omega)

/-- A message that is cut off has the attributes that end before the cut. -/
lemma attributes_take :
    attributes offset (bytes.take (stop - offset)) =
      (attributes offset bytes).takeWhile (·.stop ≤ stop) := by
  fun_induction attributes offset bytes with
  | case1 offset t0 t1 l0 l1 rest len hlong => exact attributes_take_eq_nil (.inl hlong)
  | case2 offset t0 t1 l0 l1 rest len size hlong ih =>
    by_cases hover : stop < offset + 4 + len
    · rw [attributes_take_eq_nil (.inr hover), takeWhile_cons_of_neg]
      simp [Attribute.stop]
      omega
    · rw [takeWhile_cons_of_pos, ← ih, show stop - offset = stop - offset - 4 + 4 by omega]
      · simp only [take_succ_cons, attributes, length_take]
        rw [if_neg (by omega), take_take, min_eq_left (by omega), drop_take,
          show stop - offset - 4 - size = stop - (offset + 4 + size) by omega]
      · simp [Attribute.stop]
        omega
  | case3 offset bytes h =>
    rcases length_lt_four_or bytes with hfew | ⟨t0, t1, l0, l1, rest, rfl⟩
    · exact attributes_of_length_lt (by rw [length_take]; omega)
    · exact absurd rfl (h t0 t1 l0 l1 rest)

/-- Where no element that passes stands behind one that fails, a search goes on as before up to the
first that fails. -/
lemma find?_takeWhile {α : Type*} {p q : α → Bool} {l : List α}
    (h : l.Pairwise fun a b => q b → q a) :
    (l.takeWhile q).find? p = (l.find? p).filter q := by
  induction l with
  | nil => rfl
  | cons a l ih =>
    obtain ⟨ha, hl⟩ := pairwise_cons.mp h
    by_cases hq : q a
    · rw [takeWhile_cons_of_pos hq, find?_cons, find?_cons, ih hl]
      split <;> simp [hq, Option.filter]
    · rw [takeWhile_cons_of_neg hq]
      refine (Option.filter_eq_none_iff.mpr fun b hb hqb => hq ?_).symm
      rcases mem_cons.mp (mem_of_find?_eq_some hb) with rfl | hb
      exacts [hqb, ha b hb hqb]

/-! ## The parser -/

/-- What the finder makes of the attributes, where the header declares a length up to `stop`. -/
def pick (stop : ℕ) (as : List Attribute) : Option SocketAddr :=
  (as.find? (·.Decisive)).bind fun a => if a.offset + 4 ≤ stop then a.address else none

lemma address_isSome_iff : a.address.isSome ↔ 8 ≤ a.value.length := by
  rw [Attribute.address]
  split
  · split_ifs <;> simp_all
  · rename_i h
    simp only [Option.isSome_none, Bool.false_eq_true, false_iff]
    intro hlong
    obtain ⟨_, _, _, _, _, _, _, _, _, heq⟩ := exists_eight hlong
    exact h _ _ _ _ _ _ _ _ _ heq

lemma pick_of_stop (has : ∀ a ∈ as, offset ≤ a.offset) (h : stop < offset + 4) :
    pick stop as = none := by
  refine Option.bind_eq_none_iff.mpr fun a ha => if_neg ?_
  have := has a (mem_of_find?_eq_some ha)
  omega

lemma pick_cons (hstop : a.offset + 4 ≤ stop) :
    pick stop (a :: as) = if a.Decisive then a.address else pick stop as := by
  by_cases h : a.Decisive <;> simp [pick, h, hstop]

lemma pick_eq_pick_takeWhile_iff :
    pick stop (attributes offset bytes) =
        pick stop ((attributes offset bytes).takeWhile (·.stop ≤ stop)) ↔
      ∀ a ∈ ((attributes offset bytes).find? (·.Decisive)).filter (8 ≤ ·.value.length),
        a.offset + 4 ≤ stop → a.stop ≤ stop := by
  rw [pick, pick, find?_takeWhile]
  · cases (attributes offset bytes).find? (·.Decisive) with
    | none => simp
    | some a =>
      by_cases hwithin : a.stop ≤ stop
      · simp [Option.filter, hwithin]
      by_cases hbegins : a.offset + 4 ≤ stop
      · simp [Option.filter, hwithin, hbegins, ← address_isSome_iff]
      · simp [Option.filter, hwithin, hbegins]
  · refine pairwise_attributes.imp fun {a b} h hb => ?_
    have hb := of_decide_eq_true hb
    refine decide_eq_true ?_
    simp only [Attribute.stop] at h hb ⊢
    omega

end Walk

section Read

variable {data : List UInt8} {stop idx : ℕ}

variable {a : UInt8} {l : List UInt8}

lemma index_of_drop (h : data.drop idx = a :: l) :
    index data idx = .ok a := by
  have hget : data[idx]? = some a := by rw [← List.head?_drop, h]; rfl
  rw [index, hget]

lemma drop_succ_of_drop (h : data.drop idx = a :: l) :
    data.drop (idx + 1) = l := by
  rw [← drop_drop, h]
  rfl

/-- **The whole loop.**  No access is out of range, and it comes to the address of the attributes
from there on. -/
lemma readAttributes_eq (n idx : ℕ) (hn : data.length ≤ n + idx) :
    readAttributes data stop n idx = .ok (pick stop (attributes idx (data.drop idx))) := by
  induction n generalizing idx with
  | zero =>
    rw [attributes_of_length_lt (by rw [length_drop]; omega)]
    rfl
  | succ n ih =>
    rw [readAttributes]
    rcases length_lt_four_or (data.drop idx) with hfew | ⟨t0, t1, l0, l1, rest, h⟩
    · rw [attributes_of_length_lt hfew, if_pos]
      · rfl
      · rw [length_drop] at hfew
        omega
    by_cases hstop : stop < idx + 4
    · rw [pick_of_stop (fun _ => offset_le_of_mem) hstop, if_pos (by omega)]
      rfl
    have h1 := drop_succ_of_drop h
    have h2 := drop_succ_of_drop h1
    have h3 := drop_succ_of_drop h2
    have h4 := drop_succ_of_drop h3
    have hlen : idx + 4 + rest.length = data.length := by
      have := congrArg List.length h
      simp at this
      omega
    have hbound : idx + 4 + (be16 l0 l1).toNat > data.length ↔
        rest.length < (be16 l0 l1).toNat := by
      omega
    rw [if_neg (by omega), h, attributes]
    simp only [index_of_drop h, index_of_drop h1, index_of_drop h2, index_of_drop h3, bind,
      Except.bind, pure, Except.pure, hbound]
    generalize (be16 l0 l1).toNat = len
    generalize be16 t0 t1 = atype
    by_cases hlong : rest.length < len
    · simp [hlong, pick]
    rw [if_neg hlong, if_neg hlong, pick_cons (by dsimp only; omega)]
    rw [ih _ (by omega), ← drop_drop, h4]
    by_cases haddr : atype = 0x0020 ∨ atype = 0x0001
    · by_cases hshort : len < 8
      · have hdecisive : Attribute.Decisive ⟨idx, atype, rest.take len⟩ :=
          ⟨haddr, .inl (by simp; omega)⟩
        have hnone : Attribute.address ⟨idx, atype, rest.take len⟩ = none := by
          rw [← Option.not_isSome_iff_eq_none, address_isSome_iff]
          simp
          omega
        rw [if_pos haddr, if_pos hshort, if_pos hdecisive, hnone]
      · obtain ⟨r0, r1, r2, r3, r4, r5, r6, r7, tail, rfl⟩ := exists_eight (l := rest) (by omega)
        obtain ⟨k, rfl⟩ := Nat.exists_eq_add_of_le' (not_lt.mp hshort)
        have h5 := drop_succ_of_drop h4
        have h6 := drop_succ_of_drop h5
        have h7 := drop_succ_of_drop h6
        have h8 := drop_succ_of_drop h7
        have hslice : slice data (idx + 8) (idx + 12) = .ok [r4, r5, r6, r7] := by
          rw [length_cons] at hlen
          rw [slice, if_pos ⟨by omega, by simp at hlen; omega⟩, h8]
          simp
        simp only [haddr, hshort, if_true, if_false, index_of_drop h5, index_of_drop h6,
          index_of_drop h7, hslice]
        by_cases hfamily : r1 = 0x01
        · simp [Attribute.Decisive, Attribute.address, haddr, hfamily]
          split_ifs <;> rfl
        · simp [Attribute.Decisive, hfamily]
    · rw [if_neg haddr, if_neg fun h => haddr h.1]

end Read

section Datagram

variable {b0 b1 l0 l1 : UInt8} {data rest : List UInt8}

lemma exists_header (h : 20 ≤ data.length) :
    ∃ b0 b1 l0 l1 rest, data = b0 :: b1 :: l0 :: l1 :: rest ∧ 16 ≤ rest.length := by
  obtain hfew | ⟨b0, b1, l0, l1, rest, rfl⟩ := length_lt_four_or data
  · omega
  · exact ⟨b0, b1, l0, l1, rest, rfl, by simpa using h⟩

lemma readXorMappedAddress_of_short (h : data.length < 20) :
    readXorMappedAddress data = .ok none := by
  rw [readXorMappedAddress, if_pos h]
  rfl

lemma readXorMappedAddress_cons (h : 16 ≤ rest.length) :
    readXorMappedAddress (b0 :: b1 :: l0 :: l1 :: rest) =
      .ok (if rest.take 4 = magicCookie then
        pick (20 + (be16 l0 l1).toNat) (attributes 20 (rest.drop 16)) else none) := by
  have hslice : slice (b0 :: b1 :: l0 :: l1 :: rest) 4 8 = .ok (rest.take 4) :=
    if_pos ⟨by omega, by simp; omega⟩
  rw [readXorMappedAddress, if_neg (by simp; omega), hslice]
  simp only [bind, Except.bind]
  by_cases hcookie : rest.take 4 = magicCookie
  · rw [if_neg (not_not.mpr hcookie), if_pos hcookie]
    exact readAttributes_eq _ 20 (Nat.le_add_right _ _)
  · rw [if_pos hcookie, if_neg hcookie]
    rfl

lemma readXorMappedAddress_eq (data : List UInt8) :
    readXorMappedAddress data = .ok (parseXorMappedAddress data) := by
  have h : ∃ r, readXorMappedAddress data = .ok r := by
    rcases lt_or_ge data.length 20 with hshort | hlong
    · exact ⟨none, readXorMappedAddress_of_short hshort⟩
    · obtain ⟨b0, b1, l0, l1, rest, rfl, hlen⟩ := exists_header hlong
      exact ⟨_, readXorMappedAddress_cons hlen⟩
  obtain ⟨r, h⟩ := h
  rw [parseXorMappedAddress, h]
  rfl

lemma parseXorMappedAddress_cons (h : 16 ≤ rest.length) :
    parseXorMappedAddress (b0 :: b1 :: l0 :: l1 :: rest) =
      if rest.take 4 = magicCookie then
        pick (20 + (be16 l0 l1).toNat) (attributes 20 (rest.drop 16)) else none := by
  rw [parseXorMappedAddress, readXorMappedAddress_cons h]
  rfl

lemma parseXorMappedAddress_take_iff (data : List UInt8) :
    parseXorMappedAddress data = parseXorMappedAddress (data.take (declaredEnd data)) ↔
      ∀ a ∈ addressAttribute data, a.offset + 4 ≤ declaredEnd data →
        a.stop ≤ declaredEnd data := by
  rcases lt_or_ge data.length 20 with hshort | hlong
  · rw [parseXorMappedAddress, parseXorMappedAddress, readXorMappedAddress_of_short hshort,
      readXorMappedAddress_of_short (by rw [length_take]; omega), addressAttribute,
      if_neg (by omega)]
    simp
  obtain ⟨b0, b1, l0, l1, rest, rfl, hlen⟩ := exists_header hlong
  generalize hstop : declaredEnd (b0 :: b1 :: l0 :: l1 :: rest) = stop
  have hend : 20 + (be16 l0 l1).toNat = stop := hstop
  have htake : (b0 :: b1 :: l0 :: l1 :: rest).take stop =
      b0 :: b1 :: l0 :: l1 :: rest.take (stop - 4) := by
    rw [show stop = stop - 4 + 4 by omega]
    rfl
  have htake4 : (rest.take (stop - 4)).take 4 = rest.take 4 := by
    rw [take_take, min_eq_left (by omega)]
  rw [htake, parseXorMappedAddress_cons hlen, parseXorMappedAddress_cons
    (by rw [length_take]; omega), htake4, hend]
  by_cases hcookie : rest.take 4 = magicCookie
  · rw [if_pos hcookie, if_pos hcookie, addressAttribute, if_pos ⟨hlong, hcookie⟩, drop_take,
      show stop - 4 - 16 = stop - 20 by omega, attributes_take]
    exact pick_eq_pick_takeWhile_iff
  · rw [if_neg hcookie, if_neg hcookie, addressAttribute, if_neg fun h => hcookie h.2]
    simp

end Datagram

/-! ## The server -/

def toBe16 (x : UInt16) : List UInt8 := [(x >>> 8).toUInt8, x.toUInt8]

def respond (request ip : List UInt8) (port : UInt16) : Option (List UInt8) :=
  if request.length < 20 then none
  else if request.take 2 = [0x00, 0x01] ∧ (request.drop 4).take 4 = magicCookie then
    let resp := [0x01, 0x01, 0x00, 0x00] ++ magicCookie ++ (request.drop 8).take 12 ++
      [0x00, 0x20] ++ [0x00, 0x08] ++ [0x00, 0x01] ++ toBe16 (port ^^^ 0x2112) ++
      List.zipWith (· ^^^ ·) ip magicCookie
    let len := toBe16 (.ofNat (resp.length - 20))
    some ((resp.set 2 (len.getD 0 0)).set 3 (len.getD 1 0))
  else none

lemma be16_toBe16 (x : UInt16) : be16 (x >>> 8).toUInt8 x.toUInt8 = x := by
  have hx : x.toNat < 65536 := x.toNat_lt
  apply UInt16.toNat_inj.mp
  have hhi : x.toNat >>> 8 % 256 < 256 := Nat.mod_lt _ (by omega)
  simp only [be16, UInt16.toNat_or, UInt16.toNat_shiftLeft, UInt8.toNat_toUInt16,
    UInt16.toNat_toUInt8, UInt16.toNat_shiftRight, show UInt16.toNat 8 % 16 = 8 from rfl]
  -- the two bytes do not overlap, so the `or` is a sum
  rw [Nat.shiftLeft_eq, Nat.shiftRight_eq_div_pow, Nat.mod_eq_of_lt (by omega), ← Nat.shiftLeft_eq,
    ← Nat.shiftLeft_add_eq_or_of_lt (by omega), Nat.shiftLeft_eq]
  omega

lemma parse_respond {request ip response : List UInt8} {port : UInt16} (hip : ip.length = 4)
    (h : respond request ip port = some response) :
    parseXorMappedAddress response = some ⟨ip, port⟩ := by
  rw [respond] at h
  split_ifs at h with hshort hvalid
  obtain ⟨a, b, c, d, rfl⟩ := length_eq_four.mp hip
  have htxn : ((request.drop 8).take 12).length = 12 := by
    rw [length_take, length_drop]
    omega
  generalize (request.drop 8).take 12 = txn at h htxn
  generalize hattr : [0x00, 0x20, 0x00, 0x08, 0x00, 0x01] ++ toBe16 (port ^^^ 0x2112) ++
    List.zipWith (· ^^^ ·) [a, b, c, d] magicCookie = attr
  have hresponse : response = 0x01 :: 0x01 :: 0x00 :: 0x0C :: (magicCookie ++ txn ++ attr) := by
    simp [magicCookie, toBe16, htxn] at h
    rw [← h, ← hattr]
    simp [magicCookie, toBe16]
    decide
  have hrest : (magicCookie ++ txn ++ attr).drop 16 = attr :=
    drop_left' (by simp [htxn, magicCookie])
  rw [hresponse, parseXorMappedAddress_cons (by simp [magicCookie, htxn]), hrest,
    if_pos (by simp [magicCookie]), ← hattr]
  have hport : (port ^^^ 0x2112) ^^^ 0x2112 = port := by simp
  generalize port ^^^ 0x2112 = xport at hport ⊢
  simp [attributes, toBe16, magicCookie, show be16 0x00 0x20 = 0x0020 by decide,
    show (be16 0x00 0x08).toNat = 8 by decide, show (be16 0x00 0x0C).toNat = 12 by decide, pick,
    Attribute.Decisive, Attribute.address, be16_toBe16, hport]

/-- **Reading a datagram.**  For every byte string: no access is out of range, and what is read is
what the finder takes.  The bytes behind the declared length make no difference exactly where the
address attribute of the datagram, if its header stands within that length, ends within it.  And the
server's answer to any request gives back its address and port. -/
theorem mapped_address_iff (data request ip : List UInt8) (port : UInt16) (hip : ip.length = 4) :
    readXorMappedAddress data = .ok (parseXorMappedAddress data) ∧
      (parseXorMappedAddress data = parseXorMappedAddress (data.take (declaredEnd data)) ↔
        ∀ a ∈ addressAttribute data, a.offset + 4 ≤ declaredEnd data →
          a.stop ≤ declaredEnd data) ∧
      ∀ response ∈ respond request ip port,
        parseXorMappedAddress response = some ⟨ip, port⟩ :=
  ⟨readXorMappedAddress_eq data, parseXorMappedAddress_take_iff data,
    fun _ h => parse_respond hip h⟩

def exampleAnswer (len : UInt8) : List UInt8 :=
  [0x01, 0x01, 0x00, len] ++ magicCookie ++ List.replicate 12 0 ++
    [0x00, 0x20, 0x00, 0x08, 0x00, 0x01, 0x31, 0x43, 0xE1, 0x12, 0xA6, 0x43]

theorem mapped_address_of_answer :
    (∀ a ∈ addressAttribute (exampleAnswer 12), a.offset + 4 ≤ 32 → a.stop ≤ 32) ∧
      ∃ response, respond (buildBindingRequest 1) [192, 0, 2, 1] 4177 = some response ∧
        parseXorMappedAddress response = some ⟨[192, 0, 2, 1], 4177⟩ := by
  obtain ⟨-, hiff, hresponse⟩ :=
    mapped_address_iff (exampleAnswer 12) (buildBindingRequest 1) [192, 0, 2, 1] 4177 rfl
  exact ⟨hiff.mp (by decide), _, rfl, hresponse _ rfl⟩

/-- **A value behind the declared length is used.**  The header declares four bytes, which end with
the header of the attribute. -/
theorem value_behind_declared_length :
    parseXorMappedAddress (exampleAnswer 4) = some ⟨[192, 0, 2, 1], 4177⟩ ∧
      parseXorMappedAddress ((exampleAnswer 4).take (declaredEnd (exampleAnswer 4))) = none := by
  decide

end Bingle.Stun
