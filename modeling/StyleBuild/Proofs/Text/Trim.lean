import Mathlib.Data.List.DropRight
import Mathlib.Tactic.Lemma
import StyleBuild.Text.Basic

/-!
# Trimming

`Text.trimBoth` removes the characters of a class at both ends.  What is left is `Text.Trimmed`, and
a trimmed text is left as it is (`trimBoth_eq_self_iff`); so whatever is trimmed when it is read can
be read again.

Trimming does not see characters of the class that are put around a text (`trimBoth_append`), and it
does not reach past any other character (`dropTrailing_append`).
-/

namespace StyleBuild.Text

variable {p : Char → Bool} {t before after : Text}

/-! ## The end -/

lemma dropTrailing_append_of_pos (h : ∀ c ∈ after, p c = true) :
    dropTrailing p (t ++ after) = dropTrailing p t := by
  have hreverse : ∀ c ∈ after.reverse, p c = true := fun c hc => h c (List.mem_reverse.1 hc)
  rw [dropTrailing, List.reverse_append, List.dropWhile_append_of_pos hreverse, dropTrailing]

/-- Nothing is removed before a character that stays. -/
lemma dropTrailing_append (h : dropTrailing p after ≠ []) :
    dropTrailing p (before ++ after) = before ++ dropTrailing p after := by
  have hne : (after.reverse.dropWhile p).isEmpty = false := by
    rw [List.isEmpty_eq_false_iff]
    exact fun hnil => h (by rw [dropTrailing, hnil, List.reverse_nil])
  rw [dropTrailing, List.reverse_append, List.dropWhile_append, hne]
  simp [dropTrailing]

lemma dropTrailing_ne_nil {c : Char} (hc : c ∈ t) (h : p c = false) : dropTrailing p t ≠ [] := by
  intro hnil
  have hall := List.rdropWhile_eq_nil_iff.1 hnil c hc
  rw [h] at hall
  cases hall

/-! ## Both ends -/

/-- A text that neither begins nor ends with a character of the class. -/
structure Trimmed (p : Char → Bool) (t : Text) : Prop where
  front : ∀ c ∈ t.head?, p c = false
  back : ∀ c ∈ t.getLast?, p c = false

/-- **What is left is trimmed.** -/
theorem trimmed_trimBoth (p : Char → Bool) (t : Text) : Trimmed p (trimBoth p t) := by
  have hfront : ∀ c ∈ (t.dropWhile p).head?, p c = false := by
    intro c hc
    have hnot := List.head?_dropWhile_not p t
    rw [Option.mem_def.1 hc] at hnot
    simpa using hnot
  constructor
  · intro c hc
    obtain ⟨rest, hrest⟩ := List.rdropWhile_prefix p (t.dropWhile p)
    refine hfront c ?_
    rw [← hrest]
    exact List.mem_head?_append_of_mem_head? hc
  · intro c hc
    have hne : trimBoth p t ≠ [] := by
      rintro hnil
      rw [hnil] at hc
      cases hc
    rw [List.getLast?_eq_some_getLast hne] at hc
    obtain rfl := Option.some.inj hc
    exact Bool.eq_false_iff.2 (List.rdropWhile_last_not p (t.dropWhile p) hne)

lemma Trimmed.trimBoth_eq (h : Trimmed p t) : trimBoth p t = t := by
  have hfront : t.dropWhile p = t := by
    cases t with
    | nil => rfl
    | cons c t => rw [List.dropWhile_cons_of_neg (by rw [h.front c rfl]; simp)]
  rw [trimBoth, hfront]
  refine List.rdropWhile_eq_self_iff.2 fun hne hlast => ?_
  rw [h.back _ (List.getLast?_eq_some_getLast hne)] at hlast
  cases hlast

/-- **A text is left as it is exactly when it is trimmed.** -/
theorem trimBoth_eq_self_iff : trimBoth p t = t ↔ Trimmed p t := by
  refine ⟨fun h => ?_, Trimmed.trimBoth_eq⟩
  rw [← h]
  exact trimmed_trimBoth p t

/-- **What is put around a text is trimmed off with the rest.** -/
theorem trimBoth_append (hbefore : ∀ c ∈ before, p c = true) (hafter : ∀ c ∈ after, p c = true) :
    trimBoth p (before ++ (t ++ after)) = trimBoth p t := by
  rw [trimBoth, List.dropWhile_append_of_pos hbefore, List.dropWhile_append]
  cases ht : (t.dropWhile p).isEmpty with
  | true =>
    have hdrop : after.dropWhile p = [] := List.dropWhile_eq_nil_iff.2 hafter
    rw [if_pos rfl, hdrop, trimBoth, List.isEmpty_iff.1 ht]
  | false =>
    rw [if_neg (by simp), dropTrailing_append_of_pos hafter, trimBoth]

end StyleBuild.Text
