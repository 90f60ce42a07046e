import Mathlib

/-!
# IPv4 addresses as text

Decimal numbers, IPv4 addresses and IPv4 socket addresses as the standard library writes and reads
them.  A number between dots has no zeros in front, so an address is read from the text it is
written as and from no other; a port may have zeros in front.
-/

namespace Lib

open List Option

/-! ## Parts of a text -/

lemma intercalate_pair {α : Type*} (x : α) (l m : List α) :
    [x].intercalate [l, m] = l ++ x :: m := by
  simp [List.intercalate]

lemma eq_false_of_mem_splitOnP {α : Type*} {p : α → Bool} {xs part : List α}
    (h : part ∈ xs.splitOnP p) {c : α} (hc : c ∈ part) : p c = false := by
  induction xs generalizing part with
  | nil =>
    obtain rfl : part = [] := by simpa using h
    cases hc
  | cons x xs ih =>
    rw [splitOnP_cons_eq_if_modifyHead] at h
    split_ifs at h with hx
    · rcases mem_cons.mp h with rfl | h
      · cases hc
      · exact ih h hc
    · cases hrest : xs.splitOnP p with
      | nil => simp [hrest] at h
      | cons part' parts =>
        rw [hrest] at h
        rcases mem_cons.mp h with rfl | h
        · rcases mem_cons.mp hc with rfl | hc
          · exact Bool.eq_false_of_not_eq_true hx
          · exact ih (by simp [hrest]) hc
        · exact ih (by simp [hrest, h]) hc

lemma not_mem_of_mem_splitOn {α : Type*} [BEq α] [LawfulBEq α] {x : α} {xs part : List α}
    (h : part ∈ xs.splitOn x) : x ∉ part := by
  intro hx
  simpa using eq_false_of_mem_splitOnP h hx

/-! ## Decimal numbers -/

def decimal (n : ℕ) : List Char := Nat.toDigits 10 n

def readNumber (zeroPrefix : Bool) (limit : ℕ) (cs : List Char) : Option ℕ :=
  if cs ≠ [] ∧ (cs.all Char.isDigit = true) ∧ (zeroPrefix ∨ cs.head? ≠ some '0' ∨ cs.length = 1) ∧
      Nat.ofDigitChars 10 cs 0 < limit then
    some (Nat.ofDigitChars 10 cs 0)
  else none

variable {n limit : ℕ} {c : Char} {cs : List Char} {zeroPrefix : Bool}

lemma isDigit_of_mem_decimal (h : c ∈ decimal n) : c.isDigit = true :=
  Nat.isDigit_of_mem_toDigits (by decide) (by decide) h

lemma not_mem_decimal (h : c.isDigit = false) (n : ℕ) : c ∉ decimal n :=
  fun hc => by simp [isDigit_of_mem_decimal hc] at h

lemma digitChar_of_isDigit (h : c.isDigit = true) :
    ∃ d < 10, c = Nat.digitChar d ∧ c.toNat - '0'.toNat = d := by
  obtain ⟨hlow, hhigh⟩ := Char.isDigit_iff_toNat.mp h
  have hlow' : 48 ≤ c.toNat := hlow
  have hhigh' : c.toNat ≤ 57 := hhigh
  have hd : c.toNat - 48 < 10 := by omega
  refine ⟨c.toNat - 48, hd, ?_, rfl⟩
  apply Char.toNat_inj.mp
  rw [Nat.toNat_digitChar_of_lt_ten hd]
  omega

lemma decimal_ne_nil (n : ℕ) : decimal n ≠ [] := Nat.toDigits_ne_nil

lemma decimal_of_lt (h : n < 10) : decimal n = [Nat.digitChar n] :=
  Nat.toDigits_of_lt_base h

lemma digitChar_ne_zero (hn : n < 10) (h : 0 < n) : Nat.digitChar n ≠ '0' := by
  intro heq
  have hval := Nat.toNat_digitChar_of_lt_ten hn
  rw [heq, show '0'.toNat = 48 from rfl] at hval
  omega

lemma head?_decimal (h : 0 < n) : (decimal n).head? ≠ some '0' := by
  induction n using Nat.strong_induction_on with
  | _ n ih =>
    by_cases hn : n < 10
    · rw [decimal_of_lt hn, List.head?_cons]
      exact fun heq => digitChar_ne_zero hn h (some.inj heq)
    · have hdec : decimal n = decimal (n / 10) ++ [Nat.digitChar (n % 10)] :=
        Nat.toDigits_of_base_le (by decide) (by omega)
      rw [hdec, List.head?_append_of_ne_nil _ (decimal_ne_nil (n / 10))]
      exact ih (n / 10) (by omega) (by omega)

lemma decimal_ofDigitChars (hne : cs ≠ []) (hdigits : ∀ c ∈ cs, c.isDigit = true)
    (hzero : cs.head? ≠ some '0' ∨ cs.length = 1) : decimal (Nat.ofDigitChars 10 cs 0) = cs := by
  induction cs using List.reverseRecOn with
  | nil => exact absurd rfl hne
  | append_singleton cs c ih =>
    obtain ⟨d, hd, hc, hval⟩ := digitChar_of_isDigit (hdigits c (by simp))
    have hvalue : Nat.ofDigitChars 10 (cs ++ [c]) 0 = 10 * Nat.ofDigitChars 10 cs 0 + d := by
      rw [Nat.ofDigitChars_append, Nat.ofDigitChars_cons, hval]
      rfl
    cases cs with
    | nil =>
      rw [hvalue, hc]
      exact (congrArg decimal (by simp)).trans (decimal_of_lt hd)
    | cons c' cs =>
      have hhead : (c' :: cs).head? ≠ some '0' := by simpa using hzero
      have hfront : ∀ d ∈ c' :: cs, d.isDigit = true :=
        fun d hd => hdigits d (mem_append_left _ hd)
      have hrest := ih (by simp) hfront (Or.inl hhead)
      have hpos : 0 < Nat.ofDigitChars 10 (c' :: cs) 0 := by
        refine Nat.pos_of_ne_zero fun hz => ?_
        rw [hz, decimal_of_lt (by decide)] at hrest
        exact hhead (hrest ▸ rfl)
      rw [hvalue, decimal, ← Nat.toDigits_append_toDigits (by decide) hpos hd, hc,
        Nat.toDigits_of_lt_base hd]
      exact congrArg (· ++ [Nat.digitChar d]) hrest

lemma readNumber_decimal (h : n < limit) (zeroPrefix : Bool) :
    readNumber zeroPrefix limit (decimal n) = some n := by
  have hvalue : Nat.ofDigitChars 10 (decimal n) 0 = n :=
    Nat.ofDigitChars_toDigits (by decide) (by decide)
  have hhead : (decimal n).head? ≠ some '0' ∨ (decimal n).length = 1 := by
    rcases Nat.eq_zero_or_pos n with rfl | hpos
    · exact Or.inr rfl
    · exact Or.inl (head?_decimal hpos)
  rw [readNumber, hvalue, if_pos]
  exact ⟨decimal_ne_nil n, List.all_eq_true.mpr fun _ => isDigit_of_mem_decimal, Or.inr hhead, h⟩

lemma readNumber_eq_some_iff :
    readNumber false limit cs = some n ↔ n < limit ∧ cs = decimal n := by
  constructor
  · intro h
    rw [readNumber, ite_none_right_eq_some] at h
    obtain ⟨⟨hne, hdigits, hzero, hlimit⟩, hvalue⟩ := h
    obtain rfl := some.inj hvalue
    refine ⟨hlimit, (decimal_ofDigitChars hne (List.all_eq_true.mp hdigits) ?_).symm⟩
    simpa using hzero
  · rintro ⟨hlimit, rfl⟩
    exact readNumber_decimal hlimit false

lemma lt_of_readNumber_decimal {m : ℕ}
    (h : readNumber zeroPrefix limit (decimal n) = some m) : n < limit := by
  rw [readNumber, ite_none_right_eq_some] at h
  have hvalue : Nat.ofDigitChars 10 (decimal n) 0 = n :=
    Nat.ofDigitChars_toDigits (by decide) (by decide)
  exact hvalue ▸ h.1.2.2.2

lemma not_mem_of_readNumber
    (h : readNumber zeroPrefix limit cs = some n) (hc : c.isDigit = false) : c ∉ cs := by
  rw [readNumber, ite_none_right_eq_some] at h
  intro hmem
  rw [List.all_eq_true.mp h.1.2.1 c hmem] at hc
  cases hc

/-! ## Addresses -/

structure Ipv4 where
  a : Fin 256
  b : Fin 256
  c : Fin 256
  d : Fin 256
deriving DecidableEq

namespace Ipv4

def parts (ip : Ipv4) : List (List Char) := [decimal ip.a, decimal ip.b, decimal ip.c, decimal ip.d]

def print (ip : Ipv4) : List Char := ['.'].intercalate ip.parts

def octet (cs : List Char) : Option (Fin 256) :=
  (readNumber false 256 cs).bind fun n => if h : n < 256 then some ⟨n, h⟩ else none

def parse (cs : List Char) : Option Ipv4 :=
  match cs.splitOn '.' with
  | [a, b, c, d] => return ⟨← octet a, ← octet b, ← octet c, ← octet d⟩
  | _ => none

lemma octet_eq_some_iff {cs : List Char} {o : Fin 256} :
    octet cs = some o ↔ cs = decimal o := by
  rw [octet, bind_eq_some_iff]
  constructor
  · rintro ⟨n, hn, ho⟩
    obtain ⟨hlt, rfl⟩ := readNumber_eq_some_iff.mp hn
    rw [dif_pos hlt] at ho
    rw [← some.inj ho]
  · rintro rfl
    exact ⟨o, readNumber_decimal o.isLt false, by simp⟩

lemma not_mem_of_mem_parts {ip : Ipv4} {part : List Char} (h : part ∈ ip.parts) {c : Char}
    (hc : c.isDigit = false) : c ∉ part := by
  simp only [parts, mem_cons, not_mem_nil, or_false] at h
  rcases h with rfl | rfl | rfl | rfl <;> exact not_mem_decimal hc _

lemma splitOn_print (ip : Ipv4) : ip.print.splitOn '.' = ip.parts :=
  splitOn_intercalate '.' (fun _ hpart => not_mem_of_mem_parts hpart (by decide))
    (by simp [parts])

/-- **An address is read from its own text only.** -/
theorem parse_eq_some_iff {cs : List Char} {ip : Ipv4} : parse cs = some ip ↔ cs = ip.print := by
  constructor
  · intro h
    rw [parse] at h
    split at h
    · next a b c d hsplit =>
        simp only [bind_eq_bind, bind_eq_some_iff, octet_eq_some_iff, Option.pure_def,
          some.injEq] at h
        obtain ⟨a', rfl, b', rfl, c', rfl, d', rfl, rfl⟩ := h
        have hjoin : ['.'].intercalate (cs.splitOn '.') = cs := intercalate_splitOn '.'
        rw [← hjoin, hsplit, print, parts]
    · cases h
  · rintro rfl
    have hoctet : ∀ o : Fin 256, octet (decimal o) = some o := fun o => octet_eq_some_iff.mpr rfl
    simp only [parse, splitOn_print, parts, hoctet]
    rfl

lemma not_mem_print (ip : Ipv4) {c : Char} (hdigit : c.isDigit = false) (hdot : c ≠ '.') :
    c ∉ ip.print := by
  have hparts : ∀ part ∈ ip.parts, c ∉ part := fun _ hpart => not_mem_of_mem_parts hpart hdigit
  simp only [parts, forall_mem_cons] at hparts
  simp [print, parts, List.intercalate, hdot, hparts]

end Ipv4

/-- A socket address as it is read: an IPv4 address, a colon and a port.  The standard library reads
IPv6 addresses as well, which begin with a bracket. -/
def parseSocketAddrV4 (cs : List Char) : Option (Ipv4 × ℕ) :=
  match cs.splitOn ':' with
  | [ip, port] => return (← Ipv4.parse ip, ← readNumber true 65536 port)
  | _ => none

/-- **A host with a port behind it** is read as a socket address exactly if it is the text of an
address, and the port fits. -/
theorem parseSocketAddrV4_eq_some_iff {host : List Char} {port : ℕ} {ip : Ipv4} {port' : ℕ} :
    parseSocketAddrV4 (host ++ ':' :: decimal port) = some (ip, port') ↔
      host = ip.print ∧ port' = port ∧ port < 65536 := by
  have hcolon : ':' ∉ ip.print := ip.not_mem_print (by decide) (by decide)
  rw [parseSocketAddrV4]
  constructor
  · intro h
    split at h
    · next ipText portText hsplit =>
        simp only [bind_eq_bind, bind_eq_some_iff, Option.pure_def, some.injEq,
          Ipv4.parse_eq_some_iff, Prod.mk.injEq] at h
        obtain ⟨ip', rfl, n, hn, rfl, rfl⟩ := h
        have htext : ip'.print ++ ':' :: portText = host ++ ':' :: decimal port := by
          rw [← intercalate_pair, ← hsplit, intercalate_splitOn]
        obtain ⟨hhost, -, hportText⟩ :=
          (append_cons_inj_of_notMem hcolon (not_mem_of_readNumber hn (by decide))).mp htext
        have hport : port < 65536 := lt_of_readNumber_decimal (hportText ▸ hn)
        rw [hportText, readNumber_decimal hport] at hn
        exact ⟨hhost.symm, (some.inj hn).symm, hport⟩
    · cases h
  · rintro ⟨rfl, rfl, hport⟩
    have hsplit : (ip.print ++ ':' :: decimal port').splitOn ':' = [ip.print, decimal port'] := by
      rw [← intercalate_pair]
      exact splitOn_intercalate ':'
        (by simpa using ⟨hcolon, not_mem_decimal (by decide) port'⟩) (by simp)
    rw [hsplit]
    simp only [Ipv4.parse_eq_some_iff.mpr rfl, readNumber_decimal hport]
    rfl

end Lib
