import Bingle.Lib.SocketText

/-!
# A price in Algos

`parse_algos_decimal_to_microalgos` (`bingle_core/src/util/config_utils.rs`) reads a decimal text
with at most six places as a number of microalgos.
-/

namespace Bingle.Dapp

open List
open Lib (intercalate_pair)

variable (isWhitespace : Char → Bool)

def trim (s : String) : List Char :=
  ((s.toList.dropWhile isWhitespace).reverse.dropWhile isWhitespace).reverse

def invalidPrice (s e : String) : String := "invalid price '" ++ s ++ "': " ++ e

def digitsValue (digits : List Char) : ℕ := Nat.ofDigitChars 10 digits 0

/-- What it makes of the texts before and behind the point.  The number of no digits is 0. -/
def parseParts (s : String) (whole frac : List Char) : Except String ℕ :=
  if 6 < (frac.map Char.utf8Size).sum then
    .error (invalidPrice s "more than 6 fractional digits")
  else if ¬ (whole.all Char.isDigit ∧ frac.all Char.isDigit) then
    .error (invalidPrice s "non-digit characters")
  else if 2 ^ 128 ≤ digitsValue whole then
    .error (invalidPrice s "number too large to fit in target type")
  else
    let micro := digitsValue whole * 1000000 + digitsValue ((frac.rightpad 6 '0').take 6)
    -- a product or a sum beyond `u128` is refused with the same text
    if 2 ^ 64 ≤ micro then .error (invalidPrice s "overflow") else .ok micro

def parseAlgosDecimalToMicroalgos (s : String) : Except String ℕ :=
  let t := trim isWhitespace s
  if t = [] then .error "price must not be empty"
  else if t.head? = some '-' then .error "price must be non-negative"
  else
    match t.splitOn '.' with
    | [whole] => parseParts s whole []
    | [whole, frac] => parseParts s whole frac
    | _ => .error (invalidPrice s "too many decimal points")

/-! ## What is a price -/

structure Numeral (t whole frac : List Char) : Prop where
  text : t = whole ∧ frac = [] ∨ t = whole ++ '.' :: frac
  whole : ∀ c ∈ whole, c.isDigit = true
  frac : ∀ c ∈ frac, c.isDigit = true

/-- **A decimal numeral** with at most six places, whose value is so many millionths, and they fit
in 64 bits. -/
def Reads (t : List Char) (micro : ℕ) : Prop :=
  ∃ whole frac, Numeral t whole frac ∧ frac.length ≤ 6 ∧
    (digitsValue whole + digitsValue frac / 10 ^ frac.length : ℚ) * 10 ^ 6 = micro ∧ micro < 2 ^ 64

def HasDigit (t : List Char) : Prop := ∃ c ∈ t, c.isDigit = true

lemma sum_utf8Size {cs : List Char} (h : ∀ c ∈ cs, c.isDigit = true) :
    (cs.map Char.utf8Size).sum = cs.length := by
  induction cs with
  | nil => rfl
  | cons c cs ih =>
    have hc : c.utf8Size = 1 := by
      obtain ⟨-, hhigh⟩ := Char.isDigit_iff_toNat.mp (h c mem_cons_self)
      exact Char.utf8Size_eq_one_iff.mpr (UInt32.le_iff_toNat_le.mpr (by
        have : c.val.toNat = c.toNat := rfl
        simp at hhigh ⊢
        omega))
    rw [map_cons, sum_cons, hc, ih fun c' hc' => h c' (mem_cons_of_mem c hc'), length_cons,
      Nat.add_comm]

variable {frac whole t : List Char}

lemma digitsValue_rightpad (h : frac.length ≤ 6) :
    digitsValue ((frac.rightpad 6 '0').take 6) = 10 ^ (6 - frac.length) * digitsValue frac := by
  rw [take_of_length_le (by simp; omega), rightpad, digitsValue, Nat.ofDigitChars_append,
    Nat.ofDigitChars_replicate_zero, digitsValue]

lemma value_eq_iff (h : frac.length ≤ 6) (micro : ℕ) :
    (digitsValue whole + digitsValue frac / 10 ^ frac.length : ℚ) * 10 ^ 6 = micro ↔
      digitsValue whole * 1000000 + 10 ^ (6 - frac.length) * digitsValue frac = micro := by
  have hpow : (10 : ℚ) ^ 6 = 10 ^ (6 - frac.length) * 10 ^ frac.length := by
    rw [← pow_add, Nat.sub_add_cancel h]
  rw [← Nat.cast_inj (R := ℚ), add_mul, hpow, div_mul_eq_mul_div, mul_div_assoc, mul_div_assoc,
    div_self (by positivity), mul_one, ← hpow]
  push_cast
  constructor <;> intro h <;> linarith

lemma parseParts_eq_ok_iff (s : String) (whole frac : List Char) (micro : ℕ) :
    parseParts s whole frac = .ok micro ↔
      (∀ c ∈ whole, c.isDigit = true) ∧ (∀ c ∈ frac, c.isDigit = true) ∧ frac.length ≤ 6 ∧
        (digitsValue whole + digitsValue frac / 10 ^ frac.length : ℚ) * 10 ^ 6 = micro ∧
          micro < 2 ^ 64 := by
  by_cases hdigits : whole.all Char.isDigit = true ∧ frac.all Char.isDigit = true
  · obtain ⟨hw, hf⟩ := hdigits
    rw [all_eq_true] at hw hf
    rw [parseParts, sum_utf8Size hf]
    by_cases hlen : frac.length ≤ 6
    · simp only [value_eq_iff hlen, digitsValue_rightpad hlen]
      split_ifs <;> simp_all <;> omega
    · simp [hlen, Nat.lt_of_not_le hlen]
  · refine iff_of_false (fun h => ?_) fun h => hdigits (by simpa using ⟨h.1, h.2.1⟩)
    rw [parseParts, if_pos hdigits] at h
    split_ifs at h

lemma Numeral.mem (h : Numeral t whole frac) {c : Char} (hc : c ∈ t) :
    c.isDigit = true ∨ c = '.' := by
  rcases h.text with ⟨rfl, -⟩ | rfl
  · exact .inl (h.whole c hc)
  · rcases mem_append.mp hc with hc | hc
    · exact .inl (h.whole c hc)
    · exact (mem_cons.mp hc).symm.imp_left (h.frac c)

lemma Numeral.splitOn (h : Numeral t whole frac) :
    t.splitOn '.' = [whole] ∧ frac = [] ∨ t.splitOn '.' = [whole, frac] := by
  have hw : '.' ∉ whole := fun hc => nomatch h.whole '.' hc
  have hf : '.' ∉ frac := fun hc => nomatch h.frac '.' hc
  rcases h.text with ⟨rfl, hnil⟩ | rfl
  · have hone : (['.'].intercalate [t]).splitOn '.' = [t] :=
      splitOn_intercalate '.' (by simpa using hw) (by simp)
    rw [intercalate_singleton] at hone
    exact .inl ⟨hone, hnil⟩
  · rw [← intercalate_pair]
    exact .inr (splitOn_intercalate '.' (by simpa using ⟨hw, hf⟩) (by simp))

lemma parse_eq_ok_iff (s : String) (micro : ℕ) :
    parseAlgosDecimalToMicroalgos isWhitespace s = .ok micro ↔
      trim isWhitespace s ≠ [] ∧ Reads (trim isWhitespace s) micro := by
  rw [parseAlgosDecimalToMicroalgos]
  set t := trim isWhitespace s
  have hjoin : ['.'].intercalate (t.splitOn '.') = t := intercalate_splitOn '.'
  constructor
  · intro h
    split_ifs at h with hne hhead
    split at h
    · rename_i whole hsplit
      obtain ⟨hw, hf, hrest⟩ := (parseParts_eq_ok_iff ..).mp h
      rw [hsplit, intercalate_singleton] at hjoin
      exact ⟨hne, whole, [], ⟨.inl ⟨hjoin.symm, rfl⟩, hw, hf⟩, hrest⟩
    · rename_i whole frac hsplit
      obtain ⟨hw, hf, hrest⟩ := (parseParts_eq_ok_iff ..).mp h
      rw [hsplit, intercalate_pair] at hjoin
      exact ⟨hne, whole, frac, ⟨.inr hjoin.symm, hw, hf⟩, hrest⟩
    · cases h
  · rintro ⟨hne, whole, frac, hnum, hrest⟩
    have hhead : t.head? ≠ some '-' := fun h =>
      absurd (hnum.mem (mem_of_mem_head? h)) (by decide)
    have hparts := (parseParts_eq_ok_iff s whole frac micro).mpr ⟨hnum.whole, hnum.frac, hrest⟩
    simp only [if_neg hne, if_neg hhead]
    rcases hnum.splitOn with ⟨hsplit, rfl⟩ | hsplit
    · rw [hsplit]
      exact hparts
    · rw [hsplit]
      exact hparts

lemma Numeral.hasDigit_iff (h : Numeral t whole frac) (ht : t ≠ ['.']) :
    HasDigit t ↔ t ≠ [] := by
  refine ⟨fun ⟨c, hc, _⟩ => ne_nil_of_mem hc, fun hne => ?_⟩
  rcases h.text with ⟨rfl, -⟩ | rfl
  · obtain ⟨c, hc⟩ := exists_mem_of_ne_nil t hne
    exact ⟨c, hc, h.whole c hc⟩
  · rcases whole with _ | ⟨c, whole⟩
    · rcases frac with _ | ⟨c, frac⟩
      · exact absurd rfl ht
      · exact ⟨c, by simp, h.frac c mem_cons_self⟩
    · exact ⟨c, by simp, h.whole c mem_cons_self⟩

/-- **Prices are read exactly**, the text of a lone point apart: what is accepted, and as which
number, is every decimal numeral with a digit and at most six places that fits. -/
theorem price_exact_iff (s : String) :
    (∀ micro, parseAlgosDecimalToMicroalgos isWhitespace s = .ok micro ↔
      HasDigit (trim isWhitespace s) ∧ Reads (trim isWhitespace s) micro) ↔
        trim isWhitespace s ≠ ['.'] := by
  simp only [parse_eq_ok_iff]
  generalize trim isWhitespace s = t
  constructor
  · rintro h rfl
    have hpoint : Reads ['.'] 0 := ⟨[], [], ⟨.inr rfl, nofun, nofun⟩, by simp [digitsValue]⟩
    obtain ⟨⟨c, hc, hdigit⟩, -⟩ := (h 0).mp ⟨by simp, hpoint⟩
    obtain rfl := mem_singleton.mp hc
    exact nomatch hdigit
  · intro ht micro
    exact and_congr_left fun ⟨_, _, hnum, _⟩ => (hnum.hasDigit_iff ht).symm

theorem point_accepted :
    parseAlgosDecimalToMicroalgos Char.isWhitespace " ." = .ok 0 ∧
      ¬ HasDigit (trim Char.isWhitespace " .") := by
  refine ⟨by decide, ?_⟩
  rintro ⟨c, hc, hdigit⟩
  obtain rfl : c = '.' := mem_singleton.mp hc
  exact nomatch hdigit

end Bingle.Dapp
