import Mathlib.Data.List.Basic
import Mathlib.Tactic.Lemma
import StyleBuild.Path.Strip

/-!
# What is left of a text without a token

A token that is longer than one character may overlap itself, and then the two ends of a text
compete for the same characters: of `ababa`, the token `aba` can be taken off in front or at the
end, but not at both.  So it matters that the front comes first, and three things have to be said
for every token.

**The front.**  As many repetitions are removed as there are (`exists_repeated_append_allFront`),
and not because the rounds come to an end: what is left does not begin with the token
(`not_isPrefix_allFront`).

**The end.**  It is the front of the reversed text.  Whatever is removed there leaves a front of
what was there before, so it cannot bring the token back in front (`bare_strip`).

**Counting.**  How often a token is repeated in front of a text can be read off any way to write
the text as repetitions and something that does not begin with the token
(`repeated_isPrefix_append_iff`).
-/

namespace StyleBuild.Strip

variable {token t rest : Text}

/-! ## Repetitions -/

/-- A token, written a number of times. -/
def repeated (token : Text) (n : ℕ) : Text := (List.replicate n token).flatten

@[simp] lemma repeated_zero (token : Text) : repeated token 0 = [] := rfl

lemma repeated_succ (token : Text) (n : ℕ) :
    repeated token (n + 1) = token ++ repeated token n := by
  rw [repeated, List.replicate_succ, List.flatten_cons, repeated]

lemma reverse_repeated (token : Text) (n : ℕ) :
    (repeated token n).reverse = repeated token.reverse n := by
  rw [repeated, List.reverse_flatten, List.map_replicate, List.reverse_replicate, repeated]

/-- **The repetitions in front of a text** are those after which the token does not come again. -/
theorem repeated_isPrefix_append_iff (h : ¬ token <+: rest) {i k : ℕ} :
    repeated token k <+: repeated token i ++ rest ↔ k ≤ i := by
  induction i generalizing k with
  | zero =>
    rw [repeated_zero, List.nil_append, Nat.le_zero]
    cases k with
    | zero => simp
    | succ k =>
      rw [repeated_succ]
      exact iff_of_false (fun hk => h ((List.prefix_append _ _).trans hk)) (Nat.succ_ne_zero k)
  | succ i ih =>
    cases k with
    | zero => simp
    | succ k =>
      rw [repeated_succ, repeated_succ, List.append_assoc, List.prefix_append_right_inj, ih,
        Nat.succ_le_succ_iff]

/-! ## The front -/

/-- A text that does not begin with the token is left as it is. -/
lemma allFront_of_not_isPrefix (h : ¬ token <+: t) : allFront token t = t := by
  rw [allFront]
  cases t.length with
  | zero => rfl
  | succ n => rw [removeFront, Text.after?_eq_none_iff.2 h]

/-- Each round removes one token, and the rounds do not come to an end before the tokens do. -/
lemma removeFront_eq (hne : token ≠ []) {rounds : ℕ} (h : t.length ≤ rounds) :
    ¬ token <+: removeFront token rounds t ∧
      ∃ i, t = repeated token i ++ removeFront token rounds t := by
  induction rounds generalizing t with
  | zero =>
    obtain rfl : t = [] := List.length_eq_zero_iff.1 (Nat.le_zero.1 h)
    exact ⟨fun hbegins => hne (List.prefix_nil.1 hbegins), 0, rfl⟩
  | succ rounds ih =>
    cases hafter : Text.after? token t with
    | none =>
      rw [removeFront, hafter]
      exact ⟨Text.after?_eq_none_iff.1 hafter, 0, rfl⟩
    | some rest =>
      obtain rfl := Text.after?_eq_some_iff.1 hafter
      have hlength : rest.length ≤ rounds := by
        have hpos := List.length_pos_of_ne_nil hne
        rw [List.length_append] at h
        omega
      obtain ⟨hnot, i, hi⟩ := ih hlength
      rw [removeFront, hafter]
      refine ⟨hnot, i + 1, ?_⟩
      rw [repeated_succ, List.append_assoc, ← hi]

lemma not_isPrefix_allFront (hne : token ≠ []) (t : Text) : ¬ token <+: allFront token t :=
  (removeFront_eq hne (Nat.le_refl t.length)).1

/-- **Only repetitions of the token are removed in front.** -/
theorem exists_repeated_append_allFront (hne : token ≠ []) (t : Text) :
    ∃ i, t = repeated token i ++ allFront token t :=
  (removeFront_eq hne (Nat.le_refl t.length)).2

/-! ## The end -/

lemma allBack_of_not_isSuffix (h : ¬ token <:+ t) : allBack token t = t := by
  rw [allBack, allFront_of_not_isPrefix (by rwa [List.reverse_prefix]), List.reverse_reverse]

lemma not_isSuffix_allBack (hne : token ≠ []) (t : Text) : ¬ token <:+ allBack token t := by
  have hfront := not_isPrefix_allFront (List.reverse_ne_nil_iff.2 hne) t.reverse
  rwa [← List.reverse_prefix, allBack, List.reverse_reverse]

/-- **Only repetitions of the token are removed at the end.** -/
theorem exists_allBack_append_repeated (hne : token ≠ []) (t : Text) :
    ∃ j, t = allBack token t ++ repeated token j := by
  obtain ⟨j, hj⟩ := exists_repeated_append_allFront (List.reverse_ne_nil_iff.2 hne) t.reverse
  refine ⟨j, ?_⟩
  have hreverse := congrArg List.reverse hj
  rwa [List.reverse_reverse, List.reverse_append, reverse_repeated, List.reverse_reverse]
    at hreverse

/-! ## Both ends -/

/-- A text that neither begins nor ends with a token. -/
structure Bare (token t : Text) : Prop where
  front : ¬ token <+: t
  back : ¬ token <:+ t

/-- **What is left at the end does not begin with the token**, since it is a front of what was left
in front. -/
theorem bare_strip (hne : token ≠ []) (t : Text) :
    Bare token (allBack token (allFront token t)) where
  front hbegins := by
    obtain ⟨j, hj⟩ := exists_allBack_append_repeated hne (allFront token t)
    exact not_isPrefix_allFront hne t (hbegins.trans ⟨repeated token j, hj.symm⟩)
  back := not_isSuffix_allBack hne _

/-- A bare text is left as it is. -/
lemma Bare.strip_eq (h : Bare token t) : allBack token (allFront token t) = t := by
  rw [allFront_of_not_isPrefix h.front, allBack_of_not_isSuffix h.back]

/-- Only the empty token is refused. -/
lemma guarded_eq_error_iff {result : Text} {e : Refusal} :
    (if token = [] then Except.error Refusal.emptyToken else Except.ok result) = .error e ↔
      token = [] := by
  cases e
  split_ifs with h
  · exact iff_of_true rfl h
  · exact iff_of_false nofun h

/-- **A token is removed wherever it is repeated at an end**, however it overlaps itself: in front
first, as often as it is there, and then at the end.  What is left is left alone from then on.  The
empty token is refused, and no other one. -/
theorem strips_exactly (t token : Text) :
    (∀ e, (front t token = .error e ↔ token = []) ∧ (back t token = .error e ↔ token = []) ∧
      (both t token = .error e ↔ token = [])) ∧
    (token ≠ [] →
      (∃ i rest, front t token = .ok rest ∧ t = repeated token i ++ rest ∧ ¬ token <+: rest) ∧
      (∃ j rest, back t token = .ok rest ∧ t = rest ++ repeated token j ∧ ¬ token <:+ rest) ∧
      ∃ i j rest, both t token = .ok rest ∧ t = repeated token i ++ rest ++ repeated token j ∧
        (∀ k, repeated token k <+: t ↔ k ≤ i) ∧ Bare token rest ∧ both rest token = .ok rest) := by
  refine ⟨fun e => ⟨guarded_eq_error_iff, guarded_eq_error_iff, guarded_eq_error_iff⟩,
    fun hne => ?_⟩
  obtain ⟨i, hi⟩ := exists_repeated_append_allFront hne t
  have hfront := not_isPrefix_allFront hne t
  refine ⟨⟨i, _, if_neg hne, hi, hfront⟩, ?_, ?_⟩
  · obtain ⟨j, hj⟩ := exists_allBack_append_repeated hne t
    exact ⟨j, _, if_neg hne, hj, not_isSuffix_allBack hne t⟩
  · obtain ⟨j, hj⟩ := exists_allBack_append_repeated hne (allFront token t)
    have hbare := bare_strip hne t
    refine ⟨i, j, _, if_neg hne, ?_, fun k => ?_, hbare, ?_⟩
    · rw [List.append_assoc, ← hj]
      exact hi
    · rw [hi]
      exact repeated_isPrefix_append_iff hfront
    · rw [both, if_neg hne, hbare.strip_eq]

/-- At both ends the token overlaps itself, and only one of the two is whole. -/
theorem strips_exactly_overlapping :
    "aba".toList ≠ [] ∧ both "ababa-ababa".toList "aba".toList = .ok "ba-ab".toList ∧
      ∀ k, repeated "aba".toList k <+: "ababa-ababa".toList ↔ k ≤ 1 := by
  have hne : "aba".toList ≠ [] := by decide
  obtain ⟨i, -, -, -, -, hcount, -⟩ :=
    ((strips_exactly "ababa-ababa".toList "aba".toList).2 hne).2.2
  have hone : 1 ≤ i := (hcount 1).1 (by decide)
  have hnotTwo : ¬ 2 ≤ i := fun h => absurd ((hcount 2).2 h) (by decide)
  obtain rfl : i = 1 := by omega
  exact ⟨hne, by decide, hcount⟩

end StyleBuild.Strip
