import Bingle.Lib.Framing

/-!
# Base64

Three bytes in four characters of the standard alphabet, the last group filled up with `=`.  The
reader refuses bits that the bytes do not have, so it is **exact**: bytes are read from the text
that is written for them and from no other (`Base64Engine`).
-/

namespace Lib

open List Option
open MsgPack (be)

def encodeSextet (n : ℕ) : Char :=
  let n := n % 64
  if n < 26 then Char.ofNat (n + 65)
  else if n < 52 then Char.ofNat (n + 71)
  else if n < 62 then Char.ofNat (n - 4)
  else if n = 62 then '+'
  else '/'

def decodeSextet (c : Char) : Option ℕ :=
  if c.isUpper then some (c.toNat - 65)
  else if c.isLower then some (c.toNat - 71)
  else if c.isDigit then some (c.toNat + 4)
  else if c = '+' then some 62
  else if c = '/' then some 63
  else none

def base64Chars : List UInt8 → List Char
  | [] => []
  | [a] => [encodeSextet (a.toNat / 4), encodeSextet (a.toNat * 16), '=', '=']
  | [a, b] =>
    let n := a.toNat * 256 + b.toNat
    [encodeSextet (n / 1024), encodeSextet (n / 16), encodeSextet (n * 4), '=']
  | a :: b :: c :: rest =>
    let n := (a.toNat * 256 + b.toNat) * 256 + c.toNat
    [encodeSextet (n / 262144), encodeSextet (n / 4096), encodeSextet (n / 64), encodeSextet n] ++
      base64Chars rest

def base64Bytes : List Char → Option (List UInt8)
  | [] => some []
  | [a, b, '=', '='] => do
      let n := (← decodeSextet a) * 64 + (← decodeSextet b)
      if n % 16 = 0 then some (be 1 (n / 16)) else none
  | [a, b, c, '='] => do
      let n := ((← decodeSextet a) * 64 + (← decodeSextet b)) * 64 + (← decodeSextet c)
      if n % 4 = 0 then some (be 2 (n / 4)) else none
  | a :: b :: c :: d :: rest => do
      let n := (((← decodeSextet a) * 64 + (← decodeSextet b)) * 64 + (← decodeSextet c)) * 64 +
        (← decodeSextet d)
      let bytes ← base64Bytes rest
      return be 3 n ++ bytes
  | _ => none

/-! ## One character -/

lemma encodeSextet_congr {m n : ℕ} (h : m % 64 = n % 64) : encodeSextet m = encodeSextet n := by
  rw [encodeSextet, encodeSextet, h]

lemma encodeSextet_ne_pad (n : ℕ) : encodeSextet n ≠ '=' := by
  have hall : ∀ k < 64, encodeSextet k ≠ '=' := by decide +kernel
  rw [encodeSextet_congr (Nat.mod_mod n 64).symm]
  exact hall _ (Nat.mod_lt n (by decide))

@[simp] lemma decodeSextet_encodeSextet (n : ℕ) : decodeSextet (encodeSextet n) = some (n % 64) := by
  have hall : ∀ k < 64, decodeSextet (encodeSextet k) = some k := by decide +kernel
  rw [encodeSextet_congr (Nat.mod_mod n 64).symm]
  exact hall _ (Nat.mod_lt n (by decide))

lemma encodeSextet_of_decodeSextet {c : Char} {n : ℕ} (h : decodeSextet c = some n) :
    n < 64 ∧ encodeSextet n = c := by
  have hascii : c.toNat < 128 := by
    rw [decodeSextet] at h
    split_ifs at h with h₁ h₂ h₃ h₄ h₅
    · simp [Char.isUpper, UInt32.le_iff_toNat_le] at h₁
      omega
    · simp [Char.isLower, UInt32.le_iff_toNat_le] at h₂
      omega
    · simp [Char.isDigit, UInt32.le_iff_toNat_le] at h₃
      omega
    · subst h₄; decide
    · subst h₅; decide
  have hall : ∀ k < 128, ∀ m ∈ decodeSextet (Char.ofNat k),
      m < 64 ∧ encodeSextet m = Char.ofNat k := by
    decide +kernel
  simpa using hall c.toNat hascii n (by simpa using h)

/-! ## The whole text -/

lemma be_one (n : ℕ) : be 1 n = [UInt8.ofNat n] := rfl

lemma be_two (n : ℕ) : be 2 n = [UInt8.ofNat (n / 256), UInt8.ofNat n] := rfl

lemma be_three (n : ℕ) :
    be 3 n = [UInt8.ofNat (n / 256 / 256), UInt8.ofNat (n / 256), UInt8.ofNat n] := rfl

lemma ofNat_eq {n : ℕ} {b : UInt8} (h : n % 256 = b.toNat) : UInt8.ofNat n = b :=
  UInt8.toNat_inj.mp (by rw [UInt8.toNat_ofNat', h])

lemma base64Bytes_base64Chars (bytes : List UInt8) :
    base64Bytes (base64Chars bytes) = some bytes := by
  fun_induction base64Chars bytes with
  | case1 => rfl
  | case2 a =>
    have ha := a.toNat_lt
    simp only [base64Bytes, decodeSextet_encodeSextet, bind_eq_bind, bind_some]
    rw [if_pos (by omega), be_one, ofNat_eq (b := a) (by omega)]
  | case3 a b n =>
    have ha := a.toNat_lt
    have hb := b.toNat_lt
    rw [base64Bytes]
    · simp only [decodeSextet_encodeSextet, bind_eq_bind, bind_some]
      rw [if_pos (by omega), be_two, ofNat_eq (b := a) (by omega), ofNat_eq (b := b) (by omega)]
    · exact encodeSextet_ne_pad _
  | case4 a b c rest n ih =>
    have ha := a.toNat_lt
    have hb := b.toNat_lt
    have hc := c.toNat_lt
    simp only [cons_append, nil_append]
    rw [base64Bytes]
    · simp only [decodeSextet_encodeSextet, bind_eq_bind, bind_some, ih]
      rw [be_three, ofNat_eq (b := a) (by omega), ofNat_eq (b := b) (by omega),
        ofNat_eq (b := c) (by omega)]
      rfl
    · exact fun _ h => (encodeSextet_ne_pad _ h).elim
    · exact fun h => (encodeSextet_ne_pad _ h).elim

lemma base64Chars_of_base64Bytes {text : List Char} {bytes : List UInt8}
    (h : base64Bytes text = some bytes) : base64Chars bytes = text := by
  fun_induction base64Bytes text generalizing bytes with
  | case1 =>
    obtain rfl := some.inj h
    rfl
  | case2 a b =>
    simp only [bind_eq_bind, bind_eq_some_iff] at h
    obtain ⟨x, ha, y, hb, hbytes⟩ := h
    obtain ⟨hx, rfl⟩ := encodeSextet_of_decodeSextet ha
    obtain ⟨hy, rfl⟩ := encodeSextet_of_decodeSextet hb
    split_ifs at hbytes with hbits
    obtain rfl := some.inj hbytes
    set n := (x * 64 + y) / 16 with hn
    have hnumber : (UInt8.ofNat n).toNat = n := by
      rw [UInt8.toNat_ofNat']
      omega
    rw [be_one, base64Chars, hnumber, encodeSextet_congr (m := n / 4) (n := x) (by omega),
      encodeSextet_congr (m := n * 16) (n := y) (by omega)]
  | case3 a b c hc =>
    simp only [bind_eq_bind, bind_eq_some_iff] at h
    obtain ⟨x, ha, y, hb, z, hc', hbytes⟩ := h
    obtain ⟨hx, rfl⟩ := encodeSextet_of_decodeSextet ha
    obtain ⟨hy, rfl⟩ := encodeSextet_of_decodeSextet hb
    obtain ⟨hz, rfl⟩ := encodeSextet_of_decodeSextet hc'
    split_ifs at hbytes with hbits
    obtain rfl := some.inj hbytes
    set n := ((x * 64 + y) * 64 + z) / 4 with hn
    have hnumber : (UInt8.ofNat (n / 256)).toNat * 256 + (UInt8.ofNat n).toNat = n := by
      rw [UInt8.toNat_ofNat', UInt8.toNat_ofNat']
      omega
    rw [be_two, base64Chars, hnumber, encodeSextet_congr (m := n / 1024) (n := x) (by omega),
      encodeSextet_congr (m := n / 16) (n := y) (by omega),
      encodeSextet_congr (m := n * 4) (n := z) (by omega)]
  | case4 a b c d rest _ _ ih =>
    simp only [bind_eq_bind, bind_eq_some_iff] at h
    obtain ⟨x, ha, y, hb, z, hc, w, hd, bytes', hrest, hbytes⟩ := h
    obtain ⟨hx, rfl⟩ := encodeSextet_of_decodeSextet ha
    obtain ⟨hy, rfl⟩ := encodeSextet_of_decodeSextet hb
    obtain ⟨hz, rfl⟩ := encodeSextet_of_decodeSextet hc
    obtain ⟨hw, rfl⟩ := encodeSextet_of_decodeSextet hd
    obtain rfl := some.inj hbytes
    set n := ((x * 64 + y) * 64 + z) * 64 + w with hn
    have hnumber : ((UInt8.ofNat (n / 256 / 256)).toNat * 256 +
        (UInt8.ofNat (n / 256)).toNat) * 256 + (UInt8.ofNat n).toNat = n := by
      rw [UInt8.toNat_ofNat', UInt8.toNat_ofNat', UInt8.toNat_ofNat']
      omega
    rw [be_three, cons_append, cons_append, cons_append, nil_append,
      base64Chars, hnumber, ih hrest, encodeSextet_congr (m := n / 262144) (n := x) (by omega),
      encodeSextet_congr (m := n / 4096) (n := y) (by omega),
      encodeSextet_congr (m := n / 64) (n := z) (by omega),
      encodeSextet_congr (m := n) (n := w) (by omega)]
    rfl
  | case5 => cases h

/-- What is used of an engine of the base64 crate: it reads bytes from the text that it writes for
them, and from no other. -/
structure Base64Engine where
  encode : List UInt8 → String
  decode : String → Option (List UInt8)
  decode_eq_some_iff : ∀ text bytes, decode text = some bytes ↔ encode bytes = text

/-- The standard alphabet with padding. -/
def Base64Engine.standard : Base64Engine where
  encode bytes := String.ofList (base64Chars bytes)
  decode text := base64Bytes text.toList
  decode_eq_some_iff text bytes := by
    constructor
    · intro h
      rw [base64Chars_of_base64Bytes h, String.ofList_toList]
    · rintro rfl
      rw [String.toList_ofList, base64Bytes_base64Chars]

end Lib
