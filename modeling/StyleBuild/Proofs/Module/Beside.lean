import StyleBuild.Proofs.Module.Walk
import StyleBuild.Proofs.Settings.Accepted

/-!
# Imports from the own directory

A specifier with a single `./` in front looks beside the module that it stands in, so what it means
should be below the directory of that module, whatever follows the `./`.

What follows is put into the directory, and then the whole is read once more as an absolute path.
Extensions that are taken off on the way do not touch the directory (`Path.below_withoutExtension`),
and separators are only taken off in front of it.  But an absolute path stays as it is when it is put
into a directory, and what follows the `./` is absolute when it begins with a separator
(`resolveImport_hereMarker_append`).  Then the directory is gone, and `.//x` means `x` everywhere.

So `staysIn_iff` says that an import stays exactly when nothing but the `./` is in front, or when the
absolute path happens to lead back into the directory, and `not_forall_staysIn` is the import `.//x`.
-/

namespace StyleBuild

namespace Specifier

variable {directory p : Text}

/-- An absolute path stays as it is. -/
lemma within_of_head? (h : p.head? = some Path.separator) : within directory p = p := by
  rw [within, Path.join, if_pos (Or.inl h), ite_self]

lemma within_of_head?_ne (hd : directory ≠ []) (hlast : directory.getLast? ≠ some Path.separator)
    (h : p.head? ≠ some Path.separator) :
    within directory p = directory ++ Path.separator :: p := by
  rw [within, if_neg hd, Path.join, if_neg (by simp [h, hd]), if_neg hlast]

end Specifier

namespace Settings

variable {s : Settings} {directory r : Text}

/-- What an import from the own directory means: the directory is only there if what follows the
`./` is not absolute. -/
lemma resolveImport_hereMarker_append (aliases : s.aliases = .empty) (replace : s.replace = .empty)
    (relative : s.resolveRelative = true) (hd : directory ≠ [])
    (hfront : directory.head? ≠ some Path.separator)
    (hlast : directory.getLast? ≠ some Path.separator) (hr : ¬ Specifier.IsRelative r) :
    s.resolveImport (Specifier.hereMarker ++ r) directory =
      if r.head? = some Path.separator then
        Path.stripFront (Path.withoutExtension (Path.withoutExtension r))
      else directory ++ Path.separator :: Path.withoutExtension (Path.withoutExtension r) := by
  have hhead : (Path.withoutExtension (Path.withoutExtension r)).head? = r.head? := by
    rw [Path.head?_withoutExtension_eq, Path.head?_withoutExtension_eq]
  rw [resolveImport_of_no_tables aliases replace, relative, Specifier.settle_here_last hr,
    Path.stripFront_cons_separator]
  split_ifs with habsolute
  · rw [Specifier.within_of_head? (hhead.trans habsolute)]
  · rw [Specifier.within_of_head?_ne hd hlast (by rwa [hhead])]
    refine Path.stripFront_of_head?_ne ?_
    rwa [List.head?_append_of_ne_nil _ hd]

/-- The import `./r` means something below the directory that it is seen from. -/
def StaysIn (s : Settings) (directory r : Text) : Prop :=
  Path.Below directory (s.resolveImport (Specifier.hereMarker ++ r) directory)

/-- **An import from the own directory stays there exactly when no separator follows the `./`**, or
when what follows it leads into the directory from the module root. -/
theorem staysIn_iff (aliases : s.aliases = .empty) (replace : s.replace = .empty)
    (relative : s.resolveRelative = true) (hd : directory ≠ [])
    (hfront : directory.head? ≠ some Path.separator)
    (hlast : directory.getLast? ≠ some Path.separator) (hr : ¬ Specifier.IsRelative r) :
    s.StaysIn directory r ↔
      r.head? ≠ some Path.separator ∨ Path.Below directory (Path.stripFront r) := by
  rw [StaysIn, resolveImport_hereMarker_append aliases replace relative hd hfront hlast hr]
  by_cases habsolute : r.head? = some Path.separator
  · rw [if_pos habsolute, ← Path.withoutExtension_stripFront, ← Path.withoutExtension_stripFront,
      Path.below_withoutExtension, Path.below_withoutExtension]
    simp only [habsolute, ne_eq, not_true_eq_false, false_or]
  · rw [if_neg habsolute]
    exact iff_of_true ⟨_, rfl⟩ (Or.inl habsolute)

/-- A dot-file in a directory that looks like a marker, and a way back from the root. -/
theorem staysIn_dark :
    ¬ Specifier.IsRelative "~x/../.dark.min.scss".toList ∧
      default.StaysIn "..v1/~a.b".toList "~x/../.dark.min.scss".toList ∧
      ¬ Specifier.IsRelative "//..v1/~a.b/x.1.2.scss".toList ∧
      default.StaysIn "..v1/~a.b".toList "//..v1/~a.b/x.1.2.scss".toList := by
  have hplain : ¬ Specifier.IsRelative "~x/../.dark.min.scss".toList :=
    Specifier.run_fst_eq_nil_iff.1 rfl
  have hback : ¬ Specifier.IsRelative "//..v1/~a.b/x.1.2.scss".toList :=
    Specifier.run_fst_eq_nil_iff.1 rfl
  refine ⟨hplain, ?_, hback, ?_⟩
  · exact (staysIn_iff rfl rfl rfl (by decide) (by decide) (by decide) hplain).2
      (Or.inl (by decide))
  · exact (staysIn_iff rfl rfl rfl (by decide) (by decide) (by decide) hback).2
      (Or.inr (by decide))

/-- **An import from the own directory does not stay there in general.**  Seen from `lib`, `.//x`
means `x`. -/
theorem not_forall_staysIn :
    ¬ ∀ (s : Settings) (directory r : Text), s.Accepted → s.aliases = .empty →
      s.replace = .empty → s.resolveRelative = true → directory ≠ [] →
      directory.head? ≠ some Path.separator → directory.getLast? ≠ some Path.separator →
      ¬ Specifier.IsRelative r → s.StaysIn directory r := by
  intro h
  have stays := h default "lib".toList "/x".toList ⟨.scalar .null, rfl⟩ rfl rfl rfl (by decide)
    (by decide) (by decide) (Specifier.run_fst_eq_nil_iff.1 rfl)
  have hmeans : default.resolveImport (Specifier.hereMarker ++ "/x".toList) "lib".toList =
      "x".toList := by decide +kernel
  rw [StaysIn, hmeans] at stays
  exact absurd stays (by decide)

end Settings

end StyleBuild
