import Mathlib

/-!
# MessagePack

Values and their shortest encoding, and a reader, which reads it back whatever follows it
(`unpack_pack`).  Negative integers, floating-point numbers and extensions are values that the
reader here does not read (`other`).
-/

namespace Lib.MsgPack

open List Option

/-! ## Numbers -/

def be : ℕ → ℕ → List UInt8
  | 0, _ => []
  | width + 1, n => be width (n / 256) ++ [UInt8.ofNat n]

def ofBe (bytes : List UInt8) : ℕ := bytes.foldl (fun n b => n * 256 + b.toNat) 0

@[simp] lemma length_be (width n : ℕ) : (be width n).length = width := by
  induction width generalizing n with
  | zero => rfl
  | succ width ih => simp [be, ih]

variable {width n : ℕ}

lemma ofBe_be (h : n < 256 ^ width) : ofBe (be width n) = n := by
  induction width generalizing n with
  | zero =>
    rw [pow_zero, Nat.lt_one_iff] at h
    exact h.symm
  | succ width ih =>
    have hdiv : n / 256 < 256 ^ width :=
      Nat.div_lt_of_lt_mul (by rwa [pow_succ, mul_comm] at h)
    have hhigh : ofBe (be width (n / 256)) = n / 256 := ih hdiv
    rw [ofBe] at hhigh
    rw [be, ofBe, foldl_append, hhigh]
    simp only [foldl_cons, foldl_nil, UInt8.toNat_ofNat']
    omega

def take? (n : ℕ) (bytes : List UInt8) : Option (List UInt8 × List UInt8) :=
  if n ≤ bytes.length then some (bytes.take n, bytes.drop n) else none

lemma take?_append {bytes : List UInt8} (h : bytes.length = n) (rest : List UInt8) :
    take? n (bytes ++ rest) = some (bytes, rest) := by
  subst h
  simp [take?]

/-! ## Heads -/

/-- What the first bytes of a value say: the value, or how long it is. -/
inductive Head
  | nil
  | bool (b : Bool)
  | uint (n : ℕ)
  | str (n : ℕ)
  | bin (n : ℕ)
  | arr (n : ℕ)
  | map (n : ℕ)
deriving DecidableEq, Repr

def Head.Fits : Head → Prop
  | .nil | .bool _ => True
  | .uint n => n < 256 ^ 8
  | .str n | .bin n | .arr n | .map n => n < 256 ^ 4

def packHead : Head → List UInt8
  | .nil => [0xc0]
  | .bool b => [if b then 0xc3 else 0xc2]
  | .uint n =>
    if n < 128 then [UInt8.ofNat n]
    else if n < 256 ^ 1 then 0xcc :: be 1 n
    else if n < 256 ^ 2 then 0xcd :: be 2 n
    else if n < 256 ^ 4 then 0xce :: be 4 n
    else 0xcf :: be 8 n
  | .str n =>
    if n < 32 then [UInt8.ofNat (0xa0 + n)]
    else if n < 256 ^ 1 then 0xd9 :: be 1 n
    else if n < 256 ^ 2 then 0xda :: be 2 n
    else 0xdb :: be 4 n
  | .bin n =>
    if n < 256 ^ 1 then 0xc4 :: be 1 n
    else if n < 256 ^ 2 then 0xc5 :: be 2 n
    else 0xc6 :: be 4 n
  | .arr n =>
    if n < 16 then [UInt8.ofNat (0x90 + n)]
    else if n < 256 ^ 2 then 0xdc :: be 2 n
    else 0xdd :: be 4 n
  | .map n =>
    if n < 16 then [UInt8.ofNat (0x80 + n)]
    else if n < 256 ^ 2 then 0xde :: be 2 n
    else 0xdf :: be 4 n

def readNumber (width : ℕ) (head : ℕ → Head) (bytes : List UInt8) : Option (Head × List UInt8) :=
  (take? width bytes).map fun read => (head (ofBe read.1), read.2)

def readHead : List UInt8 → Option (Head × List UInt8)
  | [] => none
  | b :: rest =>
    if b.toNat < 0x80 then some (.uint b.toNat, rest)
    else if b.toNat < 0x90 then some (.map (b.toNat - 0x80), rest)
    else if b.toNat < 0xa0 then some (.arr (b.toNat - 0x90), rest)
    else if b.toNat < 0xc0 then some (.str (b.toNat - 0xa0), rest)
    else
      match b.toNat with
      | 0xc0 => some (.nil, rest)
      | 0xc2 => some (.bool false, rest)
      | 0xc3 => some (.bool true, rest)
      | 0xc4 => readNumber 1 .bin rest
      | 0xc5 => readNumber 2 .bin rest
      | 0xc6 => readNumber 4 .bin rest
      | 0xcc => readNumber 1 .uint rest
      | 0xcd => readNumber 2 .uint rest
      | 0xce => readNumber 4 .uint rest
      | 0xcf => readNumber 8 .uint rest
      | 0xd9 => readNumber 1 .str rest
      | 0xda => readNumber 2 .str rest
      | 0xdb => readNumber 4 .str rest
      | 0xdc => readNumber 2 .arr rest
      | 0xdd => readNumber 4 .arr rest
      | 0xde => readNumber 2 .map rest
      | 0xdf => readNumber 4 .map rest
      | _ => none

lemma readNumber_be (h : n < 256 ^ width) (head : ℕ → Head) (rest : List UInt8) :
    readNumber width head (be width n ++ rest) = some (head n, rest) := by
  rw [readNumber, take?_append (length_be width n), map_some, ofBe_be h]

lemma toNat_ofNat_of_lt (h : n < 256) : (UInt8.ofNat n).toNat = n := by
  rw [UInt8.toNat_ofNat', Nat.mod_eq_of_lt h]

lemma readHead_packHead (head : Head) (h : head.Fits) (rest : List UInt8) :
    readHead (packHead head ++ rest) = some (head, rest) := by
  cases head with
  | nil => rfl
  | bool b => cases b <;> rfl
  | uint n =>
    rw [packHead]
    split_ifs with h1 h2 h3 h4
    · simp [readHead, toNat_ofNat_of_lt (show n < 256 by omega), h1]
    · exact readNumber_be h2 _ rest
    · exact readNumber_be h3 _ rest
    · exact readNumber_be h4 _ rest
    · exact readNumber_be h _ rest
  | str n =>
    rw [packHead]
    split_ifs with h1 h2 h3
    · simp only [singleton_append, readHead, toNat_ofNat_of_lt (show 0xa0 + n < 256 by omega)]
      rw [if_neg (by omega), if_neg (by omega), if_neg (by omega), if_pos (by omega),
        Nat.add_sub_cancel_left]
    · exact readNumber_be h2 _ rest
    · exact readNumber_be h3 _ rest
    · exact readNumber_be h _ rest
  | bin n =>
    rw [packHead]
    split_ifs with h1 h2
    · exact readNumber_be h1 _ rest
    · exact readNumber_be h2 _ rest
    · exact readNumber_be h _ rest
  | arr n =>
    rw [packHead]
    split_ifs with h1 h2
    · simp only [singleton_append, readHead, toNat_ofNat_of_lt (show 0x90 + n < 256 by omega)]
      rw [if_neg (by omega), if_neg (by omega), if_pos (by omega), Nat.add_sub_cancel_left]
    · exact readNumber_be h2 _ rest
    · exact readNumber_be h _ rest
  | map n =>
    rw [packHead]
    split_ifs with h1 h2
    · simp only [singleton_append, readHead, toNat_ofNat_of_lt (show 0x80 + n < 256 by omega)]
      rw [if_neg (by omega), if_pos (by omega), Nat.add_sub_cancel_left]
    · exact readNumber_be h2 _ rest
    · exact readNumber_be h _ rest

/-! ## Values -/

inductive Value
  | nil
  | bool (b : Bool)
  | uint (n : ℕ)
  | str (s : List UInt8)
  | bin (b : List UInt8)
  | arr (l : List Value)
  | map (l : List (Value × Value))
  | other (bytes : List UInt8)

mutual

def pack : Value → List UInt8
  | .nil => packHead .nil
  | .bool b => packHead (.bool b)
  | .uint n => packHead (.uint n)
  | .str s => packHead (.str s.length) ++ s
  | .bin b => packHead (.bin b.length) ++ b
  | .arr l => packHead (.arr l.length) ++ packAll l
  | .map l => packHead (.map l.length) ++ packEntries l
  | .other bytes => bytes

def packAll : List Value → List UInt8
  | [] => []
  | v :: l => pack v ++ packAll l

def packEntries : List (Value × Value) → List UInt8
  | [] => []
  | e :: l => packEntry e ++ packEntries l

def packEntry : Value × Value → List UInt8
  | (k, v) => pack k ++ pack v

end

mutual

/-- Values whose numbers and lengths can be written, and that the reader reads. -/
def Value.Fits : Value → Prop
  | .nil | .bool _ => True
  | .uint n => n < 256 ^ 8
  | .str s => s.length < 256 ^ 4
  | .bin b => b.length < 256 ^ 4
  | .arr l => l.length < 256 ^ 4 ∧ FitAll l
  | .map l => l.length < 256 ^ 4 ∧ FitEntries l
  | .other _ => False

def FitAll : List Value → Prop
  | [] => True
  | v :: l => v.Fits ∧ FitAll l

def FitEntries : List (Value × Value) → Prop
  | [] => True
  | e :: l => FitEntry e ∧ FitEntries l

def FitEntry : Value × Value → Prop
  | (k, v) => k.Fits ∧ v.Fits

end

mutual

def Value.decFits : (v : Value) → Decidable v.Fits
  | .nil | .bool _ => .isTrue trivial
  | .uint n => inferInstanceAs (Decidable (n < 256 ^ 8))
  | .str s => inferInstanceAs (Decidable (s.length < 256 ^ 4))
  | .bin b => inferInstanceAs (Decidable (b.length < 256 ^ 4))
  | .arr l => @instDecidableAnd _ _ _ (decFitAll l)
  | .map l => @instDecidableAnd _ _ _ (decFitEntries l)
  | .other _ => .isFalse id

def decFitAll : (l : List Value) → Decidable (FitAll l)
  | [] => .isTrue trivial
  | v :: l => @instDecidableAnd _ _ v.decFits (decFitAll l)

def decFitEntries : (l : List (Value × Value)) → Decidable (FitEntries l)
  | [] => .isTrue trivial
  | e :: l => @instDecidableAnd _ _ (decFitEntry e) (decFitEntries l)

def decFitEntry : (e : Value × Value) → Decidable (FitEntry e)
  | (k, v) => @instDecidableAnd _ _ k.decFits v.decFits

end

instance : DecidablePred Value.Fits := Value.decFits

def unpackMany {α : Type} (item : List UInt8 → Option (α × List UInt8)) :
    ℕ → List UInt8 → Option (List α × List UInt8)
  | 0, bytes => some ([], bytes)
  | n + 1, bytes => do
      let (a, bytes) ← item bytes
      let (l, bytes) ← unpackMany item n bytes
      return (a :: l, bytes)

/-- The value at the start, nested as deep as the first argument allows, and what follows it. -/
def unpackValue : ℕ → List UInt8 → Option (Value × List UInt8)
  | 0, _ => none
  | depth + 1, bytes =>
    let entry bytes := do
      let (k, bytes) ← unpackValue depth bytes
      let (v, bytes) ← unpackValue depth bytes
      return ((k, v), bytes)
    match readHead bytes with
    | none => none
    | some (.nil, rest) => some (.nil, rest)
    | some (.bool b, rest) => some (.bool b, rest)
    | some (.uint n, rest) => some (.uint n, rest)
    | some (.str n, rest) => (take? n rest).map fun read => (.str read.1, read.2)
    | some (.bin n, rest) => (take? n rest).map fun read => (.bin read.1, read.2)
    | some (.arr n, rest) =>
      (unpackMany (unpackValue depth) n rest).map fun read => (.arr read.1, read.2)
    | some (.map n, rest) => (unpackMany entry n rest).map fun read => (.map read.1, read.2)

def unpack (bytes : List UInt8) : Option Value := (unpackValue bytes.length bytes).map Prod.fst

lemma unpackMany_flatMap {α : Type} {item : List UInt8 → Option (α × List UInt8)}
    (enc : α → List UInt8) {l : List α}
    (h : ∀ a ∈ l, ∀ rest, item (enc a ++ rest) = some (a, rest)) (rest : List UInt8) :
    unpackMany item l.length (l.flatMap enc ++ rest) = some (l, rest) := by
  induction l with
  | nil => rfl
  | cons a l ih =>
    rw [forall_mem_cons] at h
    rw [length_cons, unpackMany, flatMap_cons, append_assoc, h.1]
    simp [ih h.2]

lemma packAll_eq (l : List Value) : packAll l = l.flatMap pack := by
  induction l with
  | nil => rfl
  | cons v l ih => rw [packAll, ih, flatMap_cons]

lemma packEntries_eq (l : List (Value × Value)) : packEntries l = l.flatMap packEntry := by
  induction l with
  | nil => rfl
  | cons e l ih => rw [packEntries, ih, flatMap_cons]

variable {l : List Value} {v : Value}

lemma fitAll_iff : FitAll l ↔ ∀ v ∈ l, v.Fits := by
  induction l with
  | nil => simp [FitAll]
  | cons v l ih => rw [FitAll, ih, forall_mem_cons]

lemma fitEntries_iff {l : List (Value × Value)} : FitEntries l ↔ ∀ e ∈ l, FitEntry e := by
  induction l with
  | nil => simp [FitEntries]
  | cons e l ih => rw [FitEntries, ih, forall_mem_cons]

lemma packHead_length_pos (head : Head) : 0 < (packHead head).length := by
  rw [length_pos_iff]
  cases head <;> simp only [packHead] <;> try split_ifs
  all_goals exact cons_ne_nil _ _

lemma pack_length_pos (h : v.Fits) : 0 < (pack v).length := by
  cases v with
  | other bytes => exact absurd h id
  | _ =>
    simp only [pack, length_append]
    have := packHead_length_pos
    first
    | exact this _
    | exact Nat.add_pos_left (this _) _

lemma length_le_length_flatMap {α : Type} (enc : α → List UInt8) {l : List α} {a : α} (ha : a ∈ l) :
    (enc a).length ≤ (l.flatMap enc).length := by
  induction l with
  | nil => exact absurd ha not_mem_nil
  | cons b l ih =>
    rw [flatMap_cons, length_append]
    rcases mem_cons.mp ha with rfl | ha
    · exact Nat.le_add_right _ _
    · exact (ih ha).trans (Nat.le_add_left _ _)

lemma length_pack_lt_arr (hv : v ∈ l) :
    (pack v).length < (pack (.arr l)).length := by
  have hle := length_le_length_flatMap pack hv
  have hpos := packHead_length_pos (.arr l.length)
  rw [pack, packAll_eq, length_append]
  omega

lemma length_packEntry_lt_map {l : List (Value × Value)} {e : Value × Value} (he : e ∈ l) :
    (packEntry e).length < (pack (.map l)).length := by
  have hle := length_le_length_flatMap packEntry he
  have hpos := packHead_length_pos (.map l.length)
  rw [pack, packEntries_eq, length_append]
  omega

/-- **The reader reads an encoding back**, at any depth that its length allows, whatever follows. -/
theorem unpackValue_pack {depth : ℕ} (h : v.Fits) (hdepth : (pack v).length ≤ depth)
    (rest : List UInt8) : unpackValue depth (pack v ++ rest) = some (v, rest) := by
  induction depth generalizing v rest with
  | zero => exact absurd (pack_length_pos h) (Nat.not_lt.mpr hdepth)
  | succ depth ih =>
    cases v with
    | nil => rw [pack, unpackValue, readHead_packHead .nil trivial]
    | bool b => rw [pack, unpackValue, readHead_packHead (.bool b) trivial]
    | uint n => rw [pack, unpackValue, readHead_packHead (.uint n) h]
    | str s =>
      rw [pack, unpackValue, append_assoc, readHead_packHead (.str s.length) h]
      simp only [take?_append, map_some]
    | bin b =>
      rw [pack, unpackValue, append_assoc, readHead_packHead (.bin b.length) h]
      simp only [take?_append, map_some]
    | arr l =>
      have hitem : ∀ v ∈ l, ∀ rest, unpackValue depth (pack v ++ rest) = some (v, rest) := by
        intro v hv rest
        have hlt := length_pack_lt_arr hv
        exact ih (fitAll_iff.mp h.2 v hv) (by omega) rest
      rw [pack, unpackValue, append_assoc, readHead_packHead (.arr l.length) h.1,
        packAll_eq]
      simp only [unpackMany_flatMap pack hitem, map_some]
    | map l =>
      rw [pack, unpackValue, append_assoc, readHead_packHead (.map l.length) h.1,
        packEntries_eq]
      simp only
      rw [unpackMany_flatMap packEntry, map_some]
      rintro ⟨k, v⟩ he rest
      have hlt := length_packEntry_lt_map he
      obtain ⟨hk, hv⟩ := fitEntries_iff.mp h.2 _ he
      rw [packEntry, length_append] at hlt
      rw [packEntry, append_assoc, ih hk (by omega)]
      simp [ih hv (show (pack v).length ≤ depth by omega)]
    | other bytes => exact absurd h id

theorem unpack_pack (h : v.Fits) : unpack (pack v) = some v := by
  have hread := unpackValue_pack h le_rfl []
  rw [append_nil] at hread
  rw [unpack, hread, map_some]

theorem pack_injective {w : Value} (hv : v.Fits) (hw : w.Fits) (h : pack v = pack w) : v = w := by
  have := unpack_pack hv
  rw [h, unpack_pack hw] at this
  exact (some.inj this).symm

end Lib.MsgPack
