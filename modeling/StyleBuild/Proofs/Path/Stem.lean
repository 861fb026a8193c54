import StyleBuild.Proofs.Path.Extension

/-!
# Stems

`Path.stem` cuts a path at the same dot as `Path.withoutExtension`, the last one of its name, but
they do not leave the same dots alone.  A dot that ends the name makes no extension, and a stem is
cut there; dots that begin the name make no stem, and all but the first one make an extension.

`stem_eq_withoutExtension_iff` says that these are the only differences: the two agree on a path
unless it is `OddlyDotted`, such as `app.` or `..scss`.
-/

namespace StyleBuild.Path

/-- The last dot of the name ends it, after more than dots, or has only dots before it, at least one
of them, and more than dots behind it. -/
def OddlyDotted (p : Text) : Prop :=
  ∃ before after, name p = before ++ '.' :: after ∧ '.' ∉ after ∧ before ≠ [] ∧
    ((∀ c ∈ before, c = '.') ↔ after ≠ [])

variable {p before after : Text}

lemma not_oddlyDotted_of_cutLastDot? (h : cutLastDot? (name p) = none) : ¬ OddlyDotted p := by
  rintro ⟨before, after, hname, -⟩
  refine cutLastDot?_eq_none_iff.1 h ?_
  rw [hname]
  exact List.mem_append_right _ List.mem_cons_self

lemma oddlyDotted_iff_of_cutLastDot? (h : cutLastDot? (name p) = some (before, after)) :
    OddlyDotted p ↔ before ≠ [] ∧ ((∀ c ∈ before, c = '.') ↔ after ≠ []) := by
  obtain ⟨hname, hdot⟩ := eq_append_of_cutLastDot? h
  constructor
  · rintro ⟨before', after', hname', hdot', hodd⟩
    rw [hname', cutLastDot?_append hdot'] at h
    obtain ⟨rfl, rfl⟩ := Prod.mk.inj (Option.some.inj h)
    exact hodd
  · exact fun hodd => ⟨before, after, hname, hdot, hodd⟩

/-- A path is longer than what stands before its last dot. -/
lemma append_ne_of_cutLastDot? (h : cutLastDot? (name p) = some (before, after)) :
    (cut p).1 ++ before ≠ p := by
  intro heq
  have hpath := cut_append p
  rw [← name, (eq_append_of_cutLastDot? h).1, ← List.append_assoc, heq] at hpath
  exact absurd (List.append_right_eq_self.1 hpath) (List.cons_ne_nil _ _)

/-- **Where the stem of a path is what is left without its extension.** -/
theorem stem_eq_withoutExtension_iff : stem p = withoutExtension p ↔ ¬ OddlyDotted p := by
  cases hcut : cutLastDot? (name p) with
  | none =>
    have hsame : stem p = withoutExtension p := by simp only [stem, withoutExtension, hcut]
    exact iff_of_true hsame (not_oddlyDotted_of_cutLastDot? hcut)
  | some cutting =>
    obtain ⟨before, after⟩ := cutting
    have hne := append_ne_of_cutLastDot? hcut
    have hall : (before.all (· = '.') = true) ↔ ∀ c ∈ before, c = '.' := by simp
    rw [oddlyDotted_iff_of_cutLastDot? hcut]
    simp only [stem, withoutExtension, hcut, hall]
    by_cases hdots : ∀ c ∈ before, c = '.'
    · -- The stem is the whole path, so it agrees where there is no extension.
      rw [if_pos hdots]
      split
      · next hnone => exact iff_of_true rfl fun hodd => (hnone.elim hodd.1) (hodd.2.1 hdots)
      · next hsome =>
        rw [not_or] at hsome
        exact iff_of_false hne.symm fun hodd => hodd ⟨hsome.1, iff_of_true hdots hsome.2⟩
    · have hbefore : before ≠ [] := by
        rintro rfl
        exact hdots (by simp)
      rw [if_neg hdots]
      split
      · next hnone =>
        have hafter : after = [] := hnone.resolve_left hbefore
        exact iff_of_false hne fun hodd => hodd ⟨hbefore, iff_of_false hdots (not_not.2 hafter)⟩
      · next hsome => exact iff_of_true rfl fun hodd => hdots (hodd.2.2 (not_or.1 hsome).2)

instance (p : Text) : Decidable (OddlyDotted p) :=
  decidable_of_iff (stem p ≠ withoutExtension p)
    (by rw [ne_eq, stem_eq_withoutExtension_iff, not_not])

end StyleBuild.Path
