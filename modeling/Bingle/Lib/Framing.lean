import Bingle.Lib.MsgPack

/-!
# Frames

Byte strings made of fields of fixed widths, and a last part that takes what is left, can be cut up
in one way only.

* `Field` — a value in a fixed number of bytes: that many bytes are always one.
* `Frame` — a value in a whole byte string.  **A frame is exact**: it is read from the string that
  is written for it, and from no other.
* `Field.before` — a field in front of a frame makes a frame.
-/

namespace Lib

open List Option
open MsgPack (be ofBe)

/-! ## Numbers -/

lemma ofBe_concat (bytes : List UInt8) (b : UInt8) :
    ofBe (bytes ++ [b]) = ofBe bytes * 256 + b.toNat := by
  rw [ofBe, foldl_append]
  rfl

lemma ofBe_lt (bytes : List UInt8) : ofBe bytes < 256 ^ bytes.length := by
  induction bytes using List.reverseRecOn with
  | nil => exact Nat.one_pos
  | append_singleton bytes b ih =>
    have hb : b.toNat < 256 := b.toNat_lt
    rw [ofBe_concat, length_append, length_singleton, pow_succ]
    omega

lemma be_ofBe (bytes : List UInt8) : be bytes.length (ofBe bytes) = bytes := by
  induction bytes using List.reverseRecOn with
  | nil => rfl
  | append_singleton bytes b ih =>
    have hb : b.toNat < 256 := b.toNat_lt
    have hdiv : (ofBe bytes * 256 + b.toNat) / 256 = ofBe bytes := by omega
    have hlow : UInt8.ofNat (ofBe bytes * 256 + b.toNat) = b := by
      apply UInt8.toNat_inj.mp
      rw [UInt8.toNat_ofNat']
      omega
    rw [ofBe_concat, length_append, length_singleton, be, hdiv, ih, hlow]

/-! ## Fields -/

structure Field (α : Type*) where
  width : ℕ
  enc : α → List UInt8
  dec : List UInt8 → α
  length_enc : ∀ a, (enc a).length = width
  dec_enc : ∀ a, dec (enc a) = a
  enc_dec : ∀ bytes, bytes.length = width → enc (dec bytes) = bytes

namespace Field

def block (n : ℕ) : Field (List.Vector UInt8 n) where
  width := n
  enc := List.Vector.toList
  dec bytes := ⟨(bytes ++ List.replicate n 0).take n, by simp⟩
  length_enc := List.Vector.toList_length
  dec_enc v := by
    refine Subtype.ext ?_
    have h : v.toList.length = n := v.toList_length
    change (v.toList ++ List.replicate n 0).take n = v.toList
    rw [take_append_of_le_length h.ge, take_of_length_le h.le]
  enc_dec bytes h := by
    change (bytes ++ List.replicate n 0).take n = bytes
    rw [take_append_of_le_length h.ge, take_of_length_le h.le]

def number {α : Type*} (width : ℕ) (toNat : α → ℕ) (ofNat : ℕ → α)
    (hlt : ∀ a, toNat a < 256 ^ width) (hof : ∀ a, ofNat (toNat a) = a)
    (hto : ∀ n, n < 256 ^ width → toNat (ofNat n) = n) : Field α where
  width := width
  enc a := be width (toNat a)
  dec bytes := ofNat (ofBe bytes)
  length_enc a := MsgPack.length_be width (toNat a)
  dec_enc a := by rw [MsgPack.ofBe_be (hlt a), hof]
  enc_dec bytes h := by
    subst h
    rw [hto _ (ofBe_lt bytes), be_ofBe]

def u8 : Field UInt8 :=
  number 1 UInt8.toNat UInt8.ofNat UInt8.toNat_lt (fun _ => UInt8.ofNat_toNat)
    fun _ h => UInt8.toNat_ofNat_of_lt' h

def u16 : Field UInt16 :=
  number 2 UInt16.toNat UInt16.ofNat UInt16.toNat_lt (fun _ => UInt16.ofNat_toNat)
    fun _ h => UInt16.toNat_ofNat_of_lt' h

def u64 : Field (Fin (2 ^ 64)) :=
  number 8 Fin.val (Fin.ofNat (2 ^ 64)) Fin.isLt (fun n => Fin.ext (Nat.mod_eq_of_lt n.isLt))
    fun _ h => Nat.mod_eq_of_lt h

def i64 : Field Int64 :=
  number 8 (fun t => t.toUInt64.toNat) (fun n => (UInt64.ofNat n).toInt64)
    (fun t => t.toUInt64.toNat_lt) (fun t => by simp) fun n h => by
      rw [UInt64.toUInt64_toInt64]
      exact UInt64.toNat_ofNat_of_lt' h

@[simp] lemma width_block (n : ℕ) : (block n).width = n := rfl

@[simp] lemma width_u8 : u8.width = 1 := rfl

@[simp] lemma width_u16 : u16.width = 2 := rfl

@[simp] lemma width_u64 : u64.width = 8 := rfl

@[simp] lemma width_i64 : i64.width = 8 := rfl

end Field

/-! ## Frames -/

structure Frame (α : Type*) where
  enc : α → List UInt8
  dec : List UInt8 → Option α
  dec_eq_some_iff : ∀ bytes a, dec bytes = some a ↔ enc a = bytes

namespace Frame

variable {α β : Type*}

lemma enc_injective (G : Frame α) : Function.Injective G.enc := by
  intro a b h
  have ha : G.dec (G.enc b) = some a := (G.dec_eq_some_iff _ _).mpr h
  have hb : G.dec (G.enc b) = some b := (G.dec_eq_some_iff _ _).mpr rfl
  exact some.inj (ha.symm.trans hb)

def rest : Frame (List UInt8) where
  enc := id
  dec := some
  dec_eq_some_iff _ _ := by simp [eq_comm]

def text : Frame String where
  enc s := s.toUTF8.data.toList
  dec bytes := String.fromUTF8? ⟨bytes.toArray⟩
  dec_eq_some_iff bytes s := by
    have hbytes : s.toByteArray = ⟨bytes.toArray⟩ ↔ s.toUTF8.data.toList = bytes := by
      rw [ByteArray.ext_iff, ← Array.toList_inj, String.toUTF8]
    rw [← hbytes, String.fromUTF8?]
    split_ifs with h
    · rw [some.injEq, ← String.toByteArray_inj, eq_comm]
      rfl
    · refine iff_of_false (by simp) fun heq => h ?_
      exact heq ▸ s.isValidUTF8

def map (G : Frame α) (e : α ≃ β) : Frame β where
  enc b := G.enc (e.symm b)
  dec bytes := (G.dec bytes).map e
  dec_eq_some_iff bytes b := by
    rw [← G.dec_eq_some_iff, map_eq_some_iff]
    constructor
    · rintro ⟨a, ha, rfl⟩
      rwa [e.symm_apply_apply]
    · exact fun h => ⟨e.symm b, h, e.apply_symm_apply b⟩

lemma map_dec (G : Frame α) (e : α ≃ β) (bytes : List UInt8) :
    (G.map e).dec bytes = (G.dec bytes).map e := rfl

lemma read_eq_ok_iff {ε : Type*} (G : Frame α) {read : List UInt8 → Except ε α} {least : ℕ}
    (henc : ∀ a, least ≤ (G.enc a).length)
    (hshort : ∀ bytes, bytes.length < least → ∀ a, read bytes ≠ .ok a)
    (hread : ∀ bytes, least ≤ bytes.length → G.dec bytes = (read bytes).toOption)
    (bytes : List UInt8) (a : α) : read bytes = .ok a ↔ G.enc a = bytes := by
  by_cases h : bytes.length < least
  · refine iff_of_false (hshort bytes h a) ?_
    rintro rfl
    exact absurd (henc a) (not_le.mpr h)
  · rw [← G.dec_eq_some_iff, hread bytes (not_lt.mp h)]
    cases read bytes with
    | error e => simp [Except.toOption]
    | ok b => simp [Except.toOption]

end Frame

namespace Field

variable {α β : Type*}

def before (F : Field α) (G : Frame β) : Frame (α × β) where
  enc ab := F.enc ab.1 ++ G.enc ab.2
  dec bytes :=
    if F.width ≤ bytes.length then
      (G.dec (bytes.drop F.width)).map fun b => (F.dec (bytes.take F.width), b)
    else none
  dec_eq_some_iff bytes ab := by
    obtain ⟨a, b⟩ := ab
    constructor
    · intro h
      split_ifs at h with hle
      obtain ⟨b', hb', heq⟩ := map_eq_some_iff.mp h
      obtain ⟨rfl, rfl⟩ := Prod.mk.inj heq
      have htake : (bytes.take F.width).length = F.width := length_take_of_le hle
      rw [F.enc_dec _ htake, (G.dec_eq_some_iff _ _).mp hb', take_append_drop]
    · rintro rfl
      have hlen : (F.enc a).length = F.width := F.length_enc a
      have hle : F.width ≤ (F.enc a ++ G.enc b).length := by
        rw [length_append, hlen]
        exact Nat.le_add_right _ _
      rw [if_pos hle, drop_left' hlen, take_left' hlen, F.dec_enc,
        (G.dec_eq_some_iff _ _).mpr rfl]
      rfl

lemma before_dec (F : Field α) (G : Frame β) {bytes : List UInt8} (h : F.width ≤ bytes.length) :
    (F.before G).dec bytes =
      (G.dec (bytes.drop F.width)).map fun b => (F.dec (bytes.take F.width), b) :=
  if_pos h

/-! ### Lists of fields -/

def pack (F : Field α) (as : List α) : List UInt8 := as.flatMap F.enc

def chunk (F : Field α) (bytes : List UInt8) (i : ℕ) : List UInt8 :=
  (bytes.drop (i * F.width)).take F.width

def unpack (F : Field α) (bytes : List UInt8) : List α :=
  (List.range (bytes.length / F.width)).map fun i => F.dec (F.chunk bytes i)

variable (F : Field α)

lemma length_pack (as : List α) : (F.pack as).length = as.length * F.width := by
  simp [pack, length_flatMap, F.length_enc]

lemma pack_append (as bs : List α) : F.pack (as ++ bs) = F.pack as ++ F.pack bs :=
  flatMap_append

lemma pack_singleton (a : α) : F.pack [a] = F.enc a := by simp [pack]

lemma length_chunk {bytes : List UInt8} {i : ℕ} (h : i < bytes.length / F.width) :
    (F.chunk bytes i).length = F.width := by
  have hend : (i + 1) * F.width ≤ bytes.length :=
    (Nat.mul_le_mul_right _ h).trans (Nat.div_mul_le_self _ _)
  rw [Nat.add_mul, Nat.one_mul] at hend
  rw [chunk, length_take, length_drop]
  omega

lemma unpack_pack (hwidth : 0 < F.width) (as : List α) : F.unpack (F.pack as) = as := by
  induction as with
  | nil => simp [pack, unpack]
  | cons a as ih =>
    have hlen : (F.enc a).length = F.width := F.length_enc a
    have hpack : F.pack (a :: as) = F.enc a ++ F.pack as := rfl
    have hcount : (F.pack (a :: as)).length / F.width = (F.pack as).length / F.width + 1 := by
      rw [hpack, length_append, hlen, Nat.add_div_left _ hwidth]
    have hfirst : F.chunk (F.pack (a :: as)) 0 = F.enc a := by
      rw [chunk, hpack, Nat.zero_mul, drop_zero, take_left' hlen]
    have hrest : ∀ i, F.chunk (F.pack (a :: as)) (i + 1) = F.chunk (F.pack as) i := by
      intro i
      rw [chunk, chunk, hpack, Nat.add_mul, Nat.one_mul, Nat.add_comm, ← drop_drop,
        drop_left' hlen]
    rw [unpack, hcount, range_succ_eq_map, map_cons, List.map_map, hfirst, F.dec_enc]
    simp only [Function.comp_def, hrest]
    exact congrArg (a :: ·) ih

end Field

end Lib
