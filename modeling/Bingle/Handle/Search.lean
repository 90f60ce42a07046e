import Bingle.Reader

/-!
# Searching handles by their beginning

The client searches the registered handles by the beginning of their normal form
(`bingle_core/src/blockchain/algo_bingle.rs`).  Exact matches come first, and within each group the
order is by HandleTime and address.
-/

namespace Bingle.Reader

def ScannedAccount.time (acct : ScannedAccount) : ℕ :=
  ((acct.get "HandleTime").bind parseU64).getD 0

/-- `handle_prefix_match`: append address, handle and HandleTime of an account whose normalised
handle begins with the normalised text.  An empty one never matches. -/
def handlePrefixMatch (isAlphanumeric : Char → Bool) (acct : ScannedAccount) (start : String)
    (found : List (String × String × ℕ)) : List (String × String × ℕ) :=
  if normalizeHandle isAlphanumeric start = "" then found
  else
    match acct.get "Handle" with
    | some h =>
      if (normalizeHandle isAlphanumeric start).toList <+:
          (normalizeHandle isAlphanumeric h).toList then
        found ++ [(acct.address, h, acct.time)]
      else found
    | none => found

structure Ranked where
  exact : Bool
  address : String
  handle : String
  time : ℕ
deriving DecidableEq, Repr

def Ranked.before (a b : Ranked) : Prop :=
  b.exact < a.exact ∨ a.exact = b.exact ∧ older (a.address, a.time) (b.address, b.time)

instance : DecidableRel Ranked.before := fun _ _ => inferInstanceAs (Decidable (_ ∨ _))

def Ranked.mark (isAlphanumeric : Char → Bool) (start : String) (m : String × String × ℕ) :
    Ranked :=
  ⟨normalizeHandle isAlphanumeric m.2.1 = normalizeHandle isAlphanumeric start, m.1, m.2.1, m.2.2⟩

def rankPrefixMatches (isAlphanumeric : Char → Bool) (found : List (String × String × ℕ))
    (start : String) (limit : ℕ) : List (String × String × Bool) :=
  (((found.map (Ranked.mark isAlphanumeric start)).insertionSort Ranked.before).take limit).map
    fun m => (m.address, m.handle, m.exact)

def prefixScan (isAlphanumeric : Char → Bool) (accounts : List ScannedAccount) (start : String) :
    List (String × String × ℕ) :=
  accounts.foldl (fun found acct => handlePrefixMatch isAlphanumeric acct start found) []

def handleLookupMatches (isAlphanumeric : Char → Bool) (accounts : List ScannedAccount)
    (start : String) (limit : ℕ) : List (String × String × Bool) :=
  rankPrefixMatches isAlphanumeric (prefixScan isAlphanumeric accounts start) start limit

def handleLookupPartial (isAlphanumeric : Char → Bool) (accounts : List ScannedAccount)
    (start : String) : Option (String × String) :=
  (rankPrefixMatches isAlphanumeric (prefixScan isAlphanumeric accounts start) start 1).head?.map
    fun m => (m.1, m.2.1)

/-! ## The order -/

instance : IsTrans Ranked Ranked.before :=
  ⟨fun a b c hab hbc => by
    rcases hab with hab | ⟨hab, hab'⟩ <;> rcases hbc with hbc | ⟨hbc, hbc'⟩
    · exact Or.inl (hbc.trans hab)
    · exact Or.inl (hbc ▸ hab)
    · exact Or.inl (hab ▸ hbc)
    · exact Or.inr ⟨hab.trans hbc, trans_of older hab' hbc'⟩⟩

instance : Std.Total Ranked.before :=
  ⟨fun a b => by
    rcases lt_trichotomy a.exact b.exact with h | h | h
    · exact Or.inr (Or.inl h)
    · exact (Std.Total.total (a.address, a.time) (b.address, b.time)).imp
        (fun h' => Or.inr ⟨h, h'⟩) (fun h' => Or.inr ⟨h.symm, h'⟩)
    · exact Or.inl (Or.inl h)⟩

lemma Ranked.before_exact {a b : Ranked} (h : a.before b) (hb : b.exact = true) :
    a.exact = true ∧ older (a.address, a.time) (b.address, b.time) := by
  rcases h with h | ⟨h, h'⟩
  · rw [hb] at h
    exact absurd h (by cases a.exact <;> decide)
  · exact ⟨h.trans hb, h'⟩

/-! ## What the scans collect -/

section Scan

variable {isAlphanumeric : Char → Bool} {accounts : List ScannedAccount} {handle : String}

variable {acct : ScannedAccount} {x h : String} {t : ℕ}

lemma mem_extractHandleMatch :
    (x, t) ∈ extractHandleMatch isAlphanumeric acct handle [] ↔
      ∃ h, acct.get "Handle" = some h ∧
        normalizeHandle isAlphanumeric h = normalizeHandle isAlphanumeric handle ∧
        x = acct.address ∧ t = acct.time := by
  unfold extractHandleMatch
  cases acct.get "Handle" with
  | none => simp
  | some h =>
    by_cases hh : normalizeHandle isAlphanumeric h = normalizeHandle isAlphanumeric handle <;>
      simp [hh, ScannedAccount.time]

lemma mem_handlePrefixMatch :
    (x, h, t) ∈ handlePrefixMatch isAlphanumeric acct handle [] ↔
      normalizeHandle isAlphanumeric handle ≠ "" ∧ acct.get "Handle" = some h ∧
        (normalizeHandle isAlphanumeric handle).toList <+:
          (normalizeHandle isAlphanumeric h).toList ∧
        x = acct.address ∧ t = acct.time := by
  unfold handlePrefixMatch
  by_cases hempty : normalizeHandle isAlphanumeric handle = ""
  · simp [hempty]
  · cases acct.get "Handle" with
    | none => simp [hempty]
    | some h' =>
      by_cases hh : (normalizeHandle isAlphanumeric handle).toList <+:
          (normalizeHandle isAlphanumeric h').toList
      · simp only [hempty, hh, if_false, if_true, List.nil_append, List.mem_singleton,
          Prod.mk.injEq, Option.some.injEq, ne_eq, not_false_eq_true, true_and]
        constructor
        · rintro ⟨rfl, rfl, rfl⟩
          exact ⟨rfl, hh, rfl, rfl⟩
        · rintro ⟨rfl, -, rfl, rfl⟩
          exact ⟨rfl, rfl, rfl⟩
      · simp only [hempty, hh, if_false, List.not_mem_nil, false_iff]
        rintro ⟨-, heq, hpre, -⟩
        exact hh (Option.some.inj heq ▸ hpre)

lemma mem_scan_iff :
    (x, t) ∈ accounts.foldl (fun found acct => extractHandleMatch isAlphanumeric acct handle found)
        [] ↔
      ∃ acct ∈ accounts, ∃ h, acct.get "Handle" = some h ∧
        normalizeHandle isAlphanumeric h = normalizeHandle isAlphanumeric handle ∧
        x = acct.address ∧ t = acct.time := by
  simp only [foldl_extractHandleMatch, List.nil_append, List.mem_flatMap, mem_extractHandleMatch]

lemma mem_prefixScan_iff :
    (x, h, t) ∈ prefixScan isAlphanumeric accounts handle ↔
      ∃ acct ∈ accounts, normalizeHandle isAlphanumeric handle ≠ "" ∧ acct.get "Handle" = some h ∧
        (normalizeHandle isAlphanumeric handle).toList <+:
          (normalizeHandle isAlphanumeric h).toList ∧
        x = acct.address ∧ t = acct.time := by
  have hscan : prefixScan isAlphanumeric accounts handle =
      accounts.flatMap fun acct => handlePrefixMatch isAlphanumeric acct handle [] := by
    refine (foldl_eq_append_flatMap (fun found acct => ?_) accounts []).trans (List.nil_append _)
    unfold handlePrefixMatch
    split
    · simp
    · split
      · split_ifs <;> simp
      · simp
  simp only [hscan, List.mem_flatMap, mem_handlePrefixMatch]

lemma mem_scan_iff_marked (hne : normalizeHandle isAlphanumeric handle ≠ "") :
    (x, t) ∈ accounts.foldl (fun found acct => extractHandleMatch isAlphanumeric acct handle found)
        [] ↔
      ∃ m ∈ (prefixScan isAlphanumeric accounts handle).map (Ranked.mark isAlphanumeric handle),
        m.exact = true ∧ m.address = x ∧ m.time = t := by
  rw [mem_scan_iff]
  constructor
  · rintro ⟨acct, hacct, h, hget, hnorm, rfl, rfl⟩
    have hmem : (acct.address, h, acct.time) ∈ prefixScan isAlphanumeric accounts handle :=
      mem_prefixScan_iff.mpr ⟨acct, hacct, hne, hget, by rw [hnorm], rfl, rfl⟩
    exact ⟨_, List.mem_map_of_mem hmem, decide_eq_true hnorm, rfl, rfl⟩
  · rintro ⟨m, hm, hexact, rfl, rfl⟩
    obtain ⟨⟨x, h, t⟩, hmem, rfl⟩ := List.mem_map.mp hm
    obtain ⟨acct, hacct, -, hget, -, hx, ht⟩ := mem_prefixScan_iff.mp hmem
    exact ⟨acct, hacct, h, hget, of_decide_eq_true hexact, hx, ht⟩

end Scan

/-! ## The first of the ranking -/

section First

variable (isAlphanumeric : Char → Bool) (accounts : List ScannedAccount) {handle : String}

def ranking (handle : String) : List Ranked :=
  ((prefixScan isAlphanumeric accounts handle).map
    (Ranked.mark isAlphanumeric handle)).insertionSort Ranked.before

lemma head?_handleLookupMatches (handle : String) {limit : ℕ} (hlimit : 1 ≤ limit) :
    (handleLookupMatches isAlphanumeric accounts handle limit).head? =
      (ranking isAlphanumeric accounts handle).head?.map fun m =>
        (m.address, m.handle, m.exact) := by
  rw [handleLookupMatches, rankPrefixMatches, List.head?_map, List.head?_take,
    if_neg (Nat.one_le_iff_ne_zero.mp hlimit)]
  rfl

lemma handleLookup_eq_some_iff_ranking (hne : normalizeHandle isAlphanumeric handle ≠ "")
    (a : String) :
    handleLookup isAlphanumeric accounts handle = some a ↔
      ∃ m, (ranking isAlphanumeric accounts handle).head? = some m ∧ m.exact = true ∧
        m.address = a := by
  rw [handleLookup, pickOldestMatch_eq_some_iff]
  constructor
  · rintro ⟨t, ht, hmin⟩
    obtain ⟨n, hn, hexact, rfl, rfl⟩ := (mem_scan_iff_marked hne).mp ht
    obtain ⟨m, hm⟩ := exists_head?_insertionSort Ranked.before hn
    obtain ⟨hmem, hleast⟩ := least_of_head?_insertionSort hm
    -- the first of the ranking comes before this exact match, so it is one, and no younger
    obtain ⟨hmexact, holder⟩ := Ranked.before_exact (hleast n hn) hexact
    have hmscan := (mem_scan_iff_marked hne).mpr ⟨m, hmem, hmexact, rfl, rfl⟩
    exact ⟨m, hm, hmexact, congrArg Prod.fst (older_antisymm holder (hmin _ hmscan))⟩
  · rintro ⟨m, hm, hexact, rfl⟩
    obtain ⟨hmem, hleast⟩ := least_of_head?_insertionSort hm
    refine ⟨m.time, (mem_scan_iff_marked hne).mpr ⟨m, hmem, hexact, rfl, rfl⟩, ?_⟩
    rintro ⟨x, t⟩ hxt
    obtain ⟨n, hn, hnexact, rfl, rfl⟩ := (mem_scan_iff_marked hne).mp hxt
    exact (Ranked.before_exact (hleast n hn) hnexact).2

end First

/-- **Exact lookup and search agree.**  For a handle whose normal form is not empty and any limit
that lets one through, the exact lookup returns an account exactly when the first entry of the
search is an exact match with its address; and the partial lookup then returns it too. -/
theorem exact_and_partial_agree (isAlphanumeric : Char → Bool) (accounts : List ScannedAccount)
    {handle : String} (hne : normalizeHandle isAlphanumeric handle ≠ "") {limit : ℕ}
    (hlimit : 1 ≤ limit) (a : String) :
    (handleLookup isAlphanumeric accounts handle = some a ↔
        ∃ h, (handleLookupMatches isAlphanumeric accounts handle limit).head? = some (a, h, true)) ∧
      (handleLookup isAlphanumeric accounts handle = some a →
        ∃ h, handleLookupPartial isAlphanumeric accounts handle = some (a, h)) := by
  rw [handleLookup_eq_some_iff_ranking isAlphanumeric accounts hne,
    head?_handleLookupMatches isAlphanumeric accounts handle hlimit]
  constructor
  · constructor
    · rintro ⟨m, hm, hexact, rfl⟩
      exact ⟨m.handle, by rw [hm, Option.map_some, hexact]⟩
    · rintro ⟨h, hh⟩
      obtain ⟨m, hm, heq⟩ := Option.map_eq_some_iff.mp hh
      obtain ⟨haddr, -, hexact⟩ := Prod.mk.inj heq |>.imp_right Prod.mk.inj
      exact ⟨m, hm, hexact, haddr⟩
  · rintro ⟨m, hm, -, rfl⟩
    refine ⟨m.handle, ?_⟩
    have hfirst := head?_handleLookupMatches isAlphanumeric accounts handle le_rfl
    rw [hm] at hfirst
    rw [handleLookupPartial]
    exact congrArg (Option.map _) hfirst

theorem exact_match_comes_first :
    let accounts : List ScannedAccount :=
      [⟨"OLD", [("Handle", "alice2"), ("HandleTime", "1")]⟩,
        ⟨"NEW", [("Handle", "Al_ice"), ("HandleTime", "5")]⟩]
    (∃ h, (handleLookupMatches Char.isAlphanum accounts "alice" 3).head? = some ("NEW", h, true)) ∧
      ∃ h, handleLookupPartial Char.isAlphanum accounts "alice" = some ("NEW", h) := by
  intro accounts
  have hlookup : handleLookup Char.isAlphanum accounts "alice" = some "NEW" := by decide
  obtain ⟨hiff, hpartial⟩ := exact_and_partial_agree Char.isAlphanum accounts
    (by decide : normalizeHandle Char.isAlphanum "alice" ≠ "") (by decide : 1 ≤ 3) "NEW"
  exact ⟨hiff.mp hlookup, hpartial hlookup⟩

end Bingle.Reader
