import Mathlib.Data.List.Basic
import StyleBuild.Path.Basic

/-!
# What the extension of a path is

`Path.withoutExtension` looks at the last dot of the last segment.  This file says what that comes
to on whole paths.

**Locality.**  Nothing before the last segment matters: `withoutExtension_append_separator`.  So the
directory of a path never depends on its extension.

**The extension itself.**  `HasExtension p` says that `p` ends in a dot and something after it, in a
segment that begins before the dot.  `withoutExtension_append_extension` and
`withoutExtension_of_not_hasExtension` are the two cases of the function, and
`withoutExtension_eq_self_iff` tells them apart.  A path may have an extension again after one was
taken off (`a.b.c`), and a name that begins with its only dot has none (`.name`); both matter
wherever an extension is taken off more than once, or off a name that something was put in front of.
-/

namespace StyleBuild.Path

/-! ## The last dot -/

lemma cutLastDot?_eq_none_iff {t : Text} : cutLastDot? t = none ↔ '.' ∉ t := by
  induction t with
  | nil => simp [cutLastDot?]
  | cons c r ih =>
    cases hr : cutLastDot? r with
    | none =>
      have hdot : '.' ∉ r := ih.1 hr
      by_cases hc : c = '.'
      · simp [cutLastDot?, hr, hc]
      · simp [cutLastDot?, hr, hc, hdot, Ne.symm hc]
    | some ba =>
      have hdot : '.' ∈ r := by
        by_contra hno
        rw [ih.2 hno] at hr
        cases hr
      simp [cutLastDot?, hr, hdot]

/-- The last dot of a text is where it is cut. -/
lemma cutLastDot?_append {before after : Text} (h : '.' ∉ after) :
    cutLastDot? (before ++ '.' :: after) = some (before, after) := by
  induction before with
  | nil => simp [cutLastDot?, cutLastDot?_eq_none_iff.2 h]
  | cons c r ih => simp [cutLastDot?, ih]

lemma eq_append_of_cutLastDot? {t before after : Text}
    (h : cutLastDot? t = some (before, after)) : t = before ++ '.' :: after ∧ '.' ∉ after := by
  induction t generalizing before with
  | nil => simp [cutLastDot?] at h
  | cons c r ih =>
    unfold cutLastDot? at h
    split at h
    · next b a hr =>
      simp only [Option.some.injEq, Prod.mk.injEq] at h
      obtain ⟨rfl, rfl⟩ := h
      obtain ⟨rfl, hdot⟩ := ih hr
      exact ⟨rfl, hdot⟩
    · next hr =>
      split at h
      · next hc =>
        simp only [Option.some.injEq, Prod.mk.injEq] at h
        obtain ⟨rfl, rfl⟩ := h
        exact ⟨by rw [hc]; rfl, cutLastDot?_eq_none_iff.1 hr⟩
      · cases h

/-! ## Locality -/

/-- A path is a single segment, or a directory and a last segment. -/
lemma segment_or_append (p : Text) :
    separator ∉ p ∨ ∃ d n, separator ∉ n ∧ p = d ++ separator :: n := by
  induction p with
  | nil => exact Or.inl (by simp)
  | cons c r ih =>
    rcases ih with h | ⟨d, n, hn, rfl⟩
    · by_cases hc : c = separator
      · exact Or.inr ⟨[], r, h, by rw [hc]; rfl⟩
      · exact Or.inl (by simp [h, Ne.symm hc])
    · exact Or.inr ⟨c :: d, n, hn, rfl⟩

lemma name_append_separator (d n : Text) (h : separator ∉ n) :
    name (d ++ separator :: n) = n := by
  rw [name, cut_append_separator d n h]

lemma name_of_not_mem {n : Text} (h : separator ∉ n) : name n = n := by
  rw [name, cut_of_not_mem h]

/-- The case of `withoutExtension_append_separator` in which the path has one segment. -/
lemma withoutExtension_append_name (d n : Text) (h : separator ∉ n) :
    withoutExtension (d ++ separator :: n) = d ++ separator :: withoutExtension n := by
  simp only [withoutExtension, name_append_separator d n h, name_of_not_mem h,
    cut_append_separator d n h, cut_of_not_mem h]
  cases cutLastDot? n with
  | none => rfl
  | some ba =>
    simp only
    split <;> simp

/-- **Taking the extension off is local to the last segment.** -/
theorem withoutExtension_append_separator (d n : Text) :
    withoutExtension (d ++ separator :: n) = d ++ separator :: withoutExtension n := by
  rcases segment_or_append n with h | ⟨e, n, hn, rfl⟩
  · exact withoutExtension_append_name d n h
  · have hassoc : d ++ separator :: (e ++ separator :: n)
        = (d ++ separator :: e) ++ separator :: n := by simp
    rw [hassoc, withoutExtension_append_name _ n hn, withoutExtension_append_name e n hn]
    simp

lemma withoutExtension_cons_separator (p : Text) :
    withoutExtension (separator :: p) = separator :: withoutExtension p :=
  withoutExtension_append_separator [] p

/-! ## Paths with an extension -/

/-- A last `.e` with a non-empty `e`, after something in the same segment. -/
def HasExtension (p : Text) : Prop :=
  ∃ b e, p = b ++ '.' :: e ∧ e ≠ [] ∧ '.' ∉ e ∧ separator ∉ e ∧ b ≠ [] ∧
    b.getLast? ≠ some separator

lemma separator_ne_dot : separator ≠ '.' := by decide

/-- What is taken off is the extension. -/
lemma withoutExtension_append_extension {b e : Text} (he : e ≠ []) (hdot : '.' ∉ e)
    (hsep : separator ∉ e) (hb : b ≠ []) (hlast : b.getLast? ≠ some separator) :
    withoutExtension (b ++ '.' :: e) = b := by
  -- The part of `b` in the last segment is not empty, so the dot does not begin the segment.
  rcases segment_or_append b with h | ⟨d, n, hn, rfl⟩
  · have hmem : separator ∉ b ++ '.' :: e := by simp [h, hsep, separator_ne_dot]
    simp [withoutExtension, name_of_not_mem hmem, cut_of_not_mem hmem, cutLastDot?_append hdot,
      he, hb]
  · have hne : n ≠ [] := by
      rintro rfl
      simp at hlast
    have hmem : separator ∉ n ++ '.' :: e := by simp [hn, hsep, separator_ne_dot]
    have hassoc : (d ++ separator :: n) ++ '.' :: e = d ++ separator :: (n ++ '.' :: e) := by simp
    rw [hassoc, withoutExtension_append_name d _ hmem]
    simp [withoutExtension, name_of_not_mem hmem, cut_of_not_mem hmem, cutLastDot?_append hdot,
      he, hne]

lemma withoutExtension_of_not_hasExtension {p : Text} (h : ¬ HasExtension p) :
    withoutExtension p = p := by
  unfold withoutExtension
  split
  · next before after hcut =>
    split
    · rfl
    · next hne =>
      exfalso
      obtain ⟨hname, hdot⟩ := eq_append_of_cutLastDot? hcut
      have hsep := separator_not_mem_name p
      rw [not_or] at hne
      rw [hname] at hsep
      refine h ⟨(cut p).1 ++ before, after, ?_, hne.2, hdot, ?_, ?_, ?_⟩
      · have := cut_append p
        rw [name] at hname
        rw [hname] at this
        simp [this]
      · exact fun hmem => hsep (by simp [hmem])
      · simp [hne.1]
      · rw [List.getLast?_append_of_ne_nil _ hne.1]
        intro hlast
        exact hsep (List.mem_append_left _ (List.mem_of_getLast? hlast))
  · rfl

/-- An extension is taken off exactly where there is one. -/
theorem withoutExtension_eq_self_iff {p : Text} : withoutExtension p = p ↔ ¬ HasExtension p := by
  constructor
  · rintro h ⟨b, e, rfl, he, hdot, hsep, hb, hlast⟩
    rw [withoutExtension_append_extension he hdot hsep hb hlast] at h
    have := congrArg List.length h
    simp at this
  · exact withoutExtension_of_not_hasExtension

instance (p : Text) : Decidable (HasExtension p) :=
  decidable_of_iff (withoutExtension p ≠ p) (by rw [ne_eq, withoutExtension_eq_self_iff, not_not])

/-- A path without its extension is not empty, unless the path is. -/
lemma withoutExtension_eq_nil_iff {p : Text} : withoutExtension p = [] ↔ p = [] := by
  constructor
  · intro h
    by_contra hp
    by_cases hext : HasExtension p
    · obtain ⟨b, e, rfl, he, hdot, hsep, hb, hlast⟩ := hext
      rw [withoutExtension_append_extension he hdot hsep hb hlast] at h
      exact hb h
    · exact hp ((withoutExtension_of_not_hasExtension hext).symm.trans h)
  · rintro rfl
    rfl

/-- A path begins with what is left when its extension is taken off. -/
lemma exists_append_withoutExtension (p : Text) : ∃ r, p = withoutExtension p ++ r := by
  by_cases hext : HasExtension p
  · obtain ⟨b, e, rfl, he, hdot, hsep, hb, hlast⟩ := hext
    exact ⟨'.' :: e, by rw [withoutExtension_append_extension he hdot hsep hb hlast]⟩
  · exact ⟨[], by rw [withoutExtension_of_not_hasExtension hext, List.append_nil]⟩

/-- What is left begins as the path does. -/
lemma head?_withoutExtension_eq (p : Text) : (withoutExtension p).head? = p.head? := by
  cases hp : withoutExtension p with
  | nil => rw [withoutExtension_eq_nil_iff.1 hp]
  | cons c q =>
    obtain ⟨r, hr⟩ := exists_append_withoutExtension p
    rw [hr, hp]
    rfl

/-- Nothing is left to take off when taking off twice changes nothing. -/
lemma withoutExtension_of_twice {p : Text} (h : withoutExtension (withoutExtension p) = p) :
    withoutExtension p = p := by
  obtain ⟨r, hr⟩ := exists_append_withoutExtension p
  obtain ⟨r', hr'⟩ := exists_append_withoutExtension (withoutExtension p)
  rw [h] at hr'
  have hlength := congrArg List.length hr
  have hlength' := congrArg List.length hr'
  rw [List.length_append] at hlength hlength'
  obtain rfl : r = [] := List.eq_nil_of_length_eq_zero (by omega)
  rw [List.append_nil] at hr
  exact hr.symm

/-! ## Putting something in front -/

lemma HasExtension.cons {p : Text} (h : HasExtension p) (c : Char) : HasExtension (c :: p) := by
  obtain ⟨b, e, rfl, he, hdot, hsep, hb, hlast⟩ := h
  refine ⟨c :: b, e, rfl, he, hdot, hsep, List.cons_ne_nil c b, ?_⟩
  rwa [List.getLast?_cons_of_ne_nil hb]

/-- A single segment that begins with its only dot, such as `.name`. -/
def IsDotFile (p : Text) : Prop := ∃ e, p = '.' :: e ∧ e ≠ [] ∧ '.' ∉ e ∧ separator ∉ e

instance : (p : Text) → Decidable (IsDotFile p)
  | [] => isFalse (by rintro ⟨e, he, -⟩; cases he)
  | c :: e => decidable_of_iff (c = '.' ∧ e ≠ [] ∧ '.' ∉ e ∧ separator ∉ e) <| by
      constructor
      · rintro ⟨rfl, he⟩
        exact ⟨e, rfl, he⟩
      · rintro ⟨e', heq, he⟩
        obtain ⟨rfl, rfl⟩ := List.cons.inj heq
        exact ⟨rfl, he⟩

/-- The dot of a dot-file makes an extension as soon as a character stands in front of it. -/
lemma withoutExtension_cons_of_isDotFile {c : Char} {p : Text} (hc : c ≠ separator)
    (h : IsDotFile p) : withoutExtension (c :: p) = [c] := by
  obtain ⟨e, rfl, he, hdot, hsep⟩ := h
  exact withoutExtension_append_extension (b := [c]) he hdot hsep (by simp) (by simpa using hc)

/-- Otherwise a character in front does not matter. -/
lemma withoutExtension_cons {c : Char} {p : Text} (h : ¬ IsDotFile p) :
    withoutExtension (c :: p) = c :: withoutExtension p := by
  by_cases hext : HasExtension p
  · obtain ⟨b, e, rfl, he, hdot, hsep, hb, hlast⟩ := hext
    have hlast' : (c :: b).getLast? ≠ some separator := by
      rwa [List.getLast?_cons_of_ne_nil hb]
    rw [withoutExtension_append_extension he hdot hsep hb hlast]
    exact withoutExtension_append_extension he hdot hsep (List.cons_ne_nil c b) hlast'
  · rw [withoutExtension_of_not_hasExtension hext]
    refine withoutExtension_of_not_hasExtension ?_
    rintro ⟨b, e, heq, he, hdot, hsep, hb, hlast⟩
    cases b with
    | nil => exact hb rfl
    | cons a b =>
      simp only [List.cons_append, List.cons.injEq] at heq
      obtain ⟨rfl, rfl⟩ := heq
      -- Either the dot begins `p`, which makes it a dot-file, or `p` has the extension itself.
      by_cases hb' : b = []
      · subst hb'
        exact h ⟨e, rfl, he, hdot, hsep⟩
      · rw [List.getLast?_cons_of_ne_nil hb'] at hlast
        exact hext ⟨b, e, rfl, he, hdot, hsep, hb', hlast⟩

end StyleBuild.Path
