import Mathlib

/-!
# Keeping the first of each key

Things arrive one after another and each may have a key.  One that has the key of a thing already
held is dropped; one without a key is always held.
-/

namespace Lib

open List

variable {α κ : Type*} [DecidableEq κ] {key : α → Option κ}

def isHeld (key : α → Option κ) (held : List α) (a : α) : Bool :=
  (key a).isSome && held.any fun b => key b = key a

def keep (key : α → Option κ) (held : List α) (a : α) : List α :=
  if isHeld key held a then held else held ++ [a]

def keepFirst (key : α → Option κ) (l : List α) : List α := l.foldl (keep key) []

lemma keepFirst_concat (l : List α) (a : α) :
    keepFirst key (l ++ [a]) = keep key (keepFirst key l) a := by
  simp [keepFirst]

lemma find?_keepFirst (l : List α) (c : κ) :
    (keepFirst key l).find? (fun a => key a = some c) = l.find? fun a => key a = some c := by
  induction l using List.reverseRecOn with
  | nil => rfl
  | append_singleton l a ih =>
    rw [keepFirst_concat, keep, List.find?_append, ← ih]
    split_ifs with hheld
    · by_cases hc : key a = some c
      · -- something with this key is held, so it has been found already
        obtain ⟨b, hb, hbc⟩ := any_eq_true.mp (Bool.and_eq_true_iff.mp hheld).2
        have hsome : ((keepFirst key l).find? fun a => key a = some c).isSome := by
          rw [List.find?_isSome]
          exact ⟨b, hb, by simpa [hc] using hbc⟩
        rw [Option.or_of_isSome hsome]
      · simp [hc]
    · rw [List.find?_append]

lemma exists_mem_keepFirst_iff (l : List α) (c : κ) :
    (∃ a ∈ keepFirst key l, key a = some c) ↔ ∃ a ∈ l, key a = some c := by
  have hfind : ((keepFirst key l).find? fun a => key a = some c).isSome =
      (l.find? fun a => key a = some c).isSome := by
    rw [find?_keepFirst]
  rw [Bool.eq_iff_iff, List.find?_isSome, List.find?_isSome] at hfind
  simpa only [decide_eq_true_eq] using hfind

lemma prefix_foldl_keep (held l : List α) : held <+: l.foldl (keep key) held := by
  induction l generalizing held with
  | nil => exact prefix_rfl
  | cons a l ih =>
    refine List.IsPrefix.trans ?_ (ih (keep key held a))
    unfold keep
    split_ifs
    · exact prefix_rfl
    · exact prefix_append _ _

lemma head?_keepFirst_cons (a : α) (l : List α) : (keepFirst key (a :: l)).head? = some a := by
  have hfirst : keep key [] a = [a] := by simp [keep, isHeld]
  obtain ⟨rest, hrest⟩ : [a] <+: l.foldl (keep key) [a] := prefix_foldl_keep _ _
  rw [keepFirst, foldl_cons, hfirst, ← hrest]
  rfl

lemma nodup_keys_keepFirst (l : List α) : ((keepFirst key l).filterMap key).Nodup := by
  induction l using List.reverseRecOn with
  | nil => exact nodup_nil
  | append_singleton l a ih =>
    rw [keepFirst_concat, keep]
    split_ifs with hheld
    · exact ih
    · rw [filterMap_append, nodup_append]
      refine ⟨ih, ?_, ?_⟩
      · cases hkey : key a <;> simp [hkey]
      · rintro c hc d hd rfl
        obtain ⟨b, hb, hbc⟩ := mem_filterMap.mp hc
        have hac : key a = some c := by simpa using hd
        refine hheld (Bool.and_eq_true_iff.mpr ⟨by rw [hac]; rfl, ?_⟩)
        exact any_eq_true.mpr ⟨b, hb, by simp [hbc, hac]⟩

variable {l : List α}

lemma keepFirst_of_nodup_keys (hnodup : (l.filterMap key).Nodup) :
    keepFirst key l = l := by
  induction l using List.reverseRecOn with
  | nil => rfl
  | append_singleton l a ih =>
    rw [filterMap_append, nodup_append] at hnodup
    obtain ⟨hl, -, hdisjoint⟩ := hnodup
    rw [keepFirst_concat, ih hl, keep, if_neg]
    intro hheld
    obtain ⟨hkey, hany⟩ := Bool.and_eq_true_iff.mp hheld
    obtain ⟨c, hc⟩ := Option.isSome_iff_exists.mp hkey
    obtain ⟨b, hb, hbc⟩ := any_eq_true.mp hany
    have hbc : key b = some c := by simpa [hc] using hbc
    exact hdisjoint c (mem_filterMap.mpr ⟨b, hb, hbc⟩) c (by simp [hc]) rfl

lemma find?_eq_some_iff_of_nodup_keys (hnodup : (l.filterMap key).Nodup) {c : κ}
    {a : α} : (l.find? fun b => key b = some c) = some a ↔ a ∈ l ∧ key a = some c := by
  constructor
  · intro h
    exact ⟨mem_of_find?_eq_some h, by simpa using List.find?_some h⟩
  · rintro ⟨ha, hac⟩
    obtain ⟨l₁, l₂, rfl⟩ := append_of_mem ha
    rw [filterMap_append, filterMap_cons_some hac, nodup_append] at hnodup
    -- whatever is before it has another key
    have hbefore : ∀ b ∈ l₁, key b ≠ some c := fun b hb hbc =>
      hnodup.2.2 c (mem_filterMap.mpr ⟨b, hb, hbc⟩) c mem_cons_self rfl
    rw [List.find?_append, List.find?_eq_none.mpr (by simpa using hbefore), Option.none_or,
      List.find?_cons_of_pos (by simpa using hac)]

lemma length_eq_one_iff_existsUnique_key (hkeys : ∀ a ∈ l, (key a).isSome)
    (hnodup : (l.filterMap key).Nodup) : l.length = 1 ↔ ∃! c, ∃ a ∈ l, key a = some c := by
  have hlength : (l.filterMap key).length = l.length := by
    rw [length_filterMap_eq_countP, countP_eq_length]
    exact hkeys
  rw [← hlength, ← toFinset_card_of_nodup hnodup, Finset.card_eq_one,
    Finset.singleton_iff_unique_mem]
  simp only [mem_toFinset, mem_filterMap]

lemma countP_keepFirst_eq_one_iff {p : α → Bool} (hp : ∀ a, p a → (key a).isSome) (l : List α) :
    (keepFirst key l).countP p = 1 ↔
      ∃! c, (l.find? fun a => key a = some c).any p := by
  have hkeys : ∀ a ∈ (keepFirst key l).filter p, (key a).isSome :=
    fun a ha => hp a (mem_filter.mp ha).2
  have hnodup : (((keepFirst key l).filter p).filterMap key).Nodup :=
    (nodup_keys_keepFirst l).sublist (filter_sublist.filterMap key)
  rw [countP_eq_length_filter, length_eq_one_iff_existsUnique_key hkeys hnodup]
  refine existsUnique_congr fun c => ?_
  rw [← find?_keepFirst, Option.any_eq_true]
  constructor
  · rintro ⟨a, ha, hac⟩
    obtain ⟨ha, hpa⟩ := mem_filter.mp ha
    exact ⟨a, (find?_eq_some_iff_of_nodup_keys (nodup_keys_keepFirst l)).mpr ⟨ha, hac⟩, hpa⟩
  · rintro ⟨a, ha, hpa⟩
    obtain ⟨ha, hac⟩ := (find?_eq_some_iff_of_nodup_keys (nodup_keys_keepFirst l)).mp ha
    exact ⟨a, mem_filter.mpr ⟨ha, hpa⟩, hac⟩

end Lib
