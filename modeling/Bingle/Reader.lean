import Mathlib

/-!
# Who owns a handle: the off-chain reader

`AlgoBingle` (`bingle_core/src/blockchain/algo_bingle.rs`) scans the accounts opted in to the app,
collects those whose handle matches after normalisation, and takes the oldest, the least in the
order `older`.  Which characters are alphanumeric is a parameter.
-/

namespace Bingle.Reader

open List

/-- `ScannedAccount`: an opted-in account with the decoded key/values of its local state. -/
structure ScannedAccount where
  address : String
  localState : List (String × String)
deriving DecidableEq, Repr

def normalizeHandle (isAlphanumeric : Char → Bool) (handle : String) : String :=
  String.ofList ((handle.toList.filter isAlphanumeric).map Char.toLower)

/-- `str::parse::<u64>`: one or more decimal digits, with an optional `+` before them, within
range. -/
def parseU64 (s : String) : Option ℕ :=
  let digits := match s.toList with
    | '+' :: rest => rest
    | cs => cs
  if digits ≠ [] ∧ digits.all Char.isDigit ∧ Nat.ofDigitChars 10 digits 0 < 2 ^ 64 then
    some (Nat.ofDigitChars 10 digits 0)
  else none

def ScannedAccount.get (acct : ScannedAccount) (key : String) : Option String :=
  (acct.localState.find? fun kv => kv.1 = key).map Prod.snd

/-- `extract_handle_match`: append the account with its HandleTime (0 when it is missing or does
not parse) if its handle matches. -/
def extractHandleMatch (isAlphanumeric : Char → Bool) (acct : ScannedAccount) (handle : String)
    (found : List (String × ℕ)) : List (String × ℕ) :=
  match acct.get "Handle" with
  | some h =>
    if normalizeHandle isAlphanumeric h = normalizeHandle isAlphanumeric handle then
      found ++ [(acct.address, ((acct.get "HandleTime").bind parseU64).getD 0)]
    else found
  | none => found

def older (a b : String × ℕ) : Prop := a.2 < b.2 ∨ a.2 = b.2 ∧ a.1 ≤ b.1

instance (a b : String × ℕ) : Decidable (older a b) := inferInstanceAs (Decidable (_ ∨ _))

def pickOldestMatch (found : List (String × ℕ)) : Option String :=
  ((found.insertionSort older).head?).map Prod.fst

def handleLookup (isAlphanumeric : Char → Bool) (accounts : List ScannedAccount) (handle : String) :
    Option String :=
  pickOldestMatch
    (accounts.foldl (fun found acct => extractHandleMatch isAlphanumeric acct handle found) [])

/-! ## The oldest match -/

instance : IsTrans (String × ℕ) older :=
  ⟨fun a b c hab hbc => by
    rcases hab with hab | ⟨hab, hab'⟩ <;> rcases hbc with hbc | ⟨hbc, hbc'⟩
    · exact Or.inl (hab.trans hbc)
    · exact Or.inl (hbc ▸ hab)
    · exact Or.inl (hab ▸ hbc)
    · exact Or.inr ⟨hab.trans hbc, hab'.trans hbc'⟩⟩

instance : Std.Total (α := String × ℕ) older :=
  ⟨fun a b => by
    rcases lt_trichotomy a.2 b.2 with h | h | h
    · exact Or.inl (Or.inl h)
    · exact (le_total a.1 b.1).imp (fun h' => Or.inr ⟨h, h'⟩) (fun h' => Or.inr ⟨h.symm, h'⟩)
    · exact Or.inr (Or.inl h)⟩

lemma older_antisymm {a b : String × ℕ} (hab : older a b) (hba : older b a) : a = b := by
  rcases hab with hab | ⟨hab, hab'⟩ <;> rcases hba with hba | ⟨hba, hba'⟩
  · omega
  · omega
  · omega
  · exact Prod.ext (le_antisymm hab' hba') hab

lemma least_of_head?_insertionSort {α : Type*} {r : α → α → Prop} [DecidableRel r] [IsTrans α r]
    [Std.Total r] {l : List α} {m : α} (h : (l.insertionSort r).head? = some m) :
    m ∈ l ∧ ∀ n ∈ l, r m n := by
  have hperm := perm_insertionSort r l
  have hsorted := pairwise_insertionSort r l
  generalize l.insertionSort r = sorted at h hperm hsorted
  cases sorted with
  | nil => cases h
  | cons m' rest =>
    obtain rfl : m' = m := Option.some.inj h
    refine ⟨hperm.subset mem_cons_self, fun n hn => ?_⟩
    rcases mem_cons.mp (hperm.symm.subset hn) with rfl | hn
    · exact (Std.Total.total n n).elim id id
    · exact (pairwise_cons.mp hsorted).1 n hn

lemma exists_head?_insertionSort {α : Type*} (r : α → α → Prop) [DecidableRel r] {l : List α}
    {a : α} (ha : a ∈ l) : ∃ m, (l.insertionSort r).head? = some m := by
  cases hl : l.insertionSort r with
  | nil => exact absurd ((perm_insertionSort r l).symm.subset ha) (by simp [hl])
  | cons m rest => exact ⟨m, rfl⟩

lemma pickOldestMatch_eq_some_iff (found : List (String × ℕ)) (x : String) :
    pickOldestMatch found = some x ↔ ∃ t, (x, t) ∈ found ∧ ∀ m ∈ found, older (x, t) m := by
  rw [pickOldestMatch, Option.map_eq_some_iff]
  constructor
  · rintro ⟨m, hm, rfl⟩
    exact ⟨m.2, least_of_head?_insertionSort hm⟩
  · rintro ⟨t, ht, hmin⟩
    obtain ⟨m, hm⟩ := exists_head?_insertionSort older ht
    obtain ⟨hmem, hleast⟩ := least_of_head?_insertionSort hm
    exact ⟨m, hm, congrArg Prod.fst (older_antisymm (hleast _ ht) (hmin m hmem))⟩

lemma pickOldestMatch_map_eq_some_iff (xs : List String) (u : String → ℕ) (x : String) :
    pickOldestMatch (xs.map fun x => (x, u x)) = some x ↔
      x ∈ xs ∧ ∀ y ∈ xs, older (x, u x) (y, u y) := by
  rw [pickOldestMatch_eq_some_iff]
  constructor
  · rintro ⟨v, hv, hmin⟩
    obtain ⟨y, hy, he⟩ := mem_map.mp hv
    obtain ⟨rfl, rfl⟩ := Prod.mk.inj he
    exact ⟨hy, fun z hz => hmin _ (mem_map_of_mem hz)⟩
  · rintro ⟨hx, hmin⟩
    refine ⟨u x, mem_map_of_mem hx, fun m hm => ?_⟩
    obtain ⟨y, hy, rfl⟩ := mem_map.mp hm
    exact hmin y hy

/-! ## What a scan collects -/

lemma foldl_eq_append_flatMap {α β : Type*} {f : List β → α → List β} {g : α → List β}
    (h : ∀ found a, f found a = found ++ g a) (as : List α) (found : List β) :
    as.foldl f found = found ++ as.flatMap g := by
  induction as generalizing found with
  | nil => simp
  | cons a as ih => rw [foldl_cons, ih, h, flatMap_cons, append_assoc]

lemma foldl_extractHandleMatch (isAlphanumeric : Char → Bool) (accounts : List ScannedAccount)
    (handle : String) (found : List (String × ℕ)) :
    accounts.foldl (fun found acct => extractHandleMatch isAlphanumeric acct handle found) found =
      found ++ accounts.flatMap (fun acct => extractHandleMatch isAlphanumeric acct handle []) := by
  refine foldl_eq_append_flatMap (fun found acct => ?_) accounts found
  unfold extractHandleMatch
  split
  · split_ifs <;> simp
  · simp

lemma parseU64_repr {n : ℕ} (h : n < 2 ^ 64) : parseU64 (Nat.repr n) = some n := by
  have hdigit : ∀ c ∈ Nat.toDigits 10 n, c.isDigit = true :=
    fun c hc => Nat.isDigit_of_mem_toDigits (by decide) (by decide) hc
  have hplus : (match Nat.toDigits 10 n with
      | '+' :: rest => rest
      | cs => cs) = Nat.toDigits 10 n := by
    split
    case h_1 rest heq =>
        have := hdigit '+' (by rw [heq]; exact mem_cons_self)
        exact absurd this (by decide)
    case h_2 => rfl
  have hval : Nat.ofDigitChars 10 (Nat.toDigits 10 n) 0 = n :=
    Nat.ofDigitChars_toDigits (by decide) (by decide)
  unfold parseU64
  rw [Nat.toList_repr, hplus]
  exact (if_pos ⟨Nat.toDigits_ne_nil, all_eq_true.mpr hdigit, hval.symm ▸ h⟩).trans
    (congrArg some hval)

end Bingle.Reader
