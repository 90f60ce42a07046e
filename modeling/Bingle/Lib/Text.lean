import Mathlib

/-!
# Searching and trimming text

The operations on text that a program's checks are made of, on strings as lists of characters, so
that they compute:

* `contains` — one text occurs in another.
* `endsWith` — one text ends another.
* `trimEndMatches` — a text without the repetitions of a suffix at its end.
-/

namespace Lib

def contains (text word : String) : Bool := decide (word.toList <:+: text.toList)

def endsWith (text suffix : String) : Bool := decide (suffix.toList <:+ text.toList)

/-- Take a word off the front of a list as often as it stands there, at most `n` times. -/
def dropWord (word : List Char) : ℕ → List Char → List Char
  | 0, cs => cs
  | n + 1, cs => if word ≠ [] ∧ word <+: cs then dropWord word n (cs.drop word.length) else cs

def trimEndMatches (text suffix : String) : String :=
  String.ofList (dropWord suffix.toList.reverse text.length text.toList.reverse).reverse

lemma mem_of_contains {text word : String} (h : contains text word) {c : Char}
    (hc : c ∈ word.toList) : c ∈ text.toList :=
  (of_decide_eq_true h).subset hc

lemma endsWith_append (text suffix : String) : endsWith (text ++ suffix) suffix := by
  simp [endsWith]

lemma dropWord_append {word cs : List Char} (hw : word ≠ []) (hcs : ¬ word <+: cs) (n : ℕ) :
    dropWord word (n + 1) (word ++ cs) = cs := by
  have hstop : ∀ m, dropWord word m cs = cs := by
    intro m
    cases m with
    | zero => rfl
    | succ m => simp [dropWord, hcs]
  simp [dropWord, hw, hstop]

lemma trimEndMatches_append {text : String} {c : Char} (h : c ∉ text.toList) :
    trimEndMatches (text ++ String.singleton c) (String.singleton c) = text := by
  have hlen : (text ++ String.singleton c).length = text.length + 1 := by simp
  have hcs : ¬ [c] <+: text.toList.reverse := by
    intro hp
    exact h (by simpa using hp.subset (List.mem_singleton_self c))
  have hdrop : dropWord [c] (text.length + 1) (c :: text.toList.reverse) = text.toList.reverse :=
    dropWord_append (by simp) hcs _
  unfold trimEndMatches
  rw [hlen]
  simp [hdrop]

end Lib
