import StyleBuild.Build.Plan
import StyleBuild.Proofs.Module.Registry
import StyleBuild.Proofs.Path.Stem
import StyleBuild.Proofs.Settings.Accepted

/-!
# Targets that are compiled to one path

The outputs of two targets are at one path when their stems are the same.  Nothing looks for that,
but two stylesheets that only differ in their extension would also be one module, and that the
registry refuses.  So the question is how far the keys of a registry that could be built keep the
stems apart.

They nearly do.  A path without its extension determines the key (`moduleKey_congr`), unless the
path is the module base itself, whose key is empty.  And it is the stem, unless the path is oddly
dotted (`Path.stem_eq_withoutExtension_iff`).  A path with one of these two flaws is
`Settings.IsLoose`: its key says nothing about the path of its output.

`namesApart_iff` says that only loose paths have to be looked at, and `not_forall_namesApart` is a
pair of stylesheets that are two modules and have one output.
-/

namespace StyleBuild

namespace Settings

variable {s : Settings} {ts : List Target} {r : Registry} {p q : Text}

/-! ## Keys -/

/-- The path is the module base itself. -/
def IsBase (s : Settings) (p : Text) : Prop :=
  s.moduleBase ≠ [] ∧ Path.stripFront p = s.moduleBase

instance (s : Settings) (p : Text) : Decidable (s.IsBase p) :=
  inferInstanceAs (Decidable (_ ∧ _))

/-- The path relative to the base, if it is not the base itself. -/
lemma modulePath_cases (h : ¬ s.IsBase p) :
    (∃ rest, s.moduleBase ≠ [] ∧ Path.stripFront p = s.moduleBase ++ Path.separator :: rest ∧
      s.modulePath p = Path.stripFront rest) ∨
    (¬ (s.moduleBase ≠ [] ∧ Path.Below s.moduleBase (Path.stripFront p)) ∧
      s.modulePath p = Path.stripFront p) := by
  by_cases hbase : s.moduleBase = []
  · refine .inr ⟨fun hbelow => hbelow.1 hbase, ?_⟩
    rw [modulePath, if_pos hbase, Path.stripFront_stripFront]
  · rw [modulePath, if_neg hbase]
    by_cases hbelow : Path.Below s.moduleBase (Path.stripFront p)
    · obtain ⟨rest, hrest⟩ := hbelow
      refine .inl ⟨rest, hbase, hrest, ?_⟩
      rw [hrest, Path.anchored_append, List.nil_append, Path.stripFront_cons_separator]
    · refine .inr ⟨fun h => hbelow h.2, ?_⟩
      rw [Path.anchored_eq_of_not_append (fun heq => h ⟨hbase, heq⟩) fun rest heq =>
        hbelow ⟨rest, heq⟩, Path.stripFront_stripFront]

/-- **A path without its extension determines the key**, except for the base itself. -/
theorem moduleKey_congr (hp : ¬ s.IsBase p) (hq : ¬ s.IsBase q)
    (h : Path.withoutExtension p = Path.withoutExtension q) : s.moduleKey p = s.moduleKey q := by
  have hfront : Path.withoutExtension (Path.stripFront p) =
      Path.withoutExtension (Path.stripFront q) := by
    rw [Path.withoutExtension_stripFront, Path.withoutExtension_stripFront, h]
  -- An extension does not matter for what a path is below.
  have hbelow : Path.Below s.moduleBase (Path.stripFront p) ↔
      Path.Below s.moduleBase (Path.stripFront q) := by
    rw [← Path.below_withoutExtension, hfront, Path.below_withoutExtension]
  rw [moduleKey, moduleKey]
  rcases modulePath_cases hp with ⟨x, hne, hx, hpathp⟩ | ⟨hnp, hpathp⟩ <;>
    rcases modulePath_cases hq with ⟨y, hne', hy, hpathq⟩ | ⟨hnq, hpathq⟩
  · rw [hx, hy, Path.withoutExtension_append_separator, Path.withoutExtension_append_separator,
      List.append_cancel_left_eq, List.cons.injEq] at hfront
    rw [hpathp, hpathq, Path.withoutExtension_stripFront, Path.withoutExtension_stripFront,
      hfront.2]
  · exact absurd ⟨hne, hbelow.1 ⟨x, hx⟩⟩ hnq
  · exact absurd ⟨hne', hbelow.2 ⟨y, hy⟩⟩ hnp
  · rw [hpathp, hpathq, hfront]

/-! ## Outputs -/

lemma outputPath_eq_iff :
    s.outputPath p = s.outputPath q ↔
      if s.rename.getD [] = [] then p = q else Path.stem p = Path.stem q := by
  unfold outputPath
  rcases s.rename with _ | _ | ⟨c, suffix⟩
  · rfl
  · rfl
  · rw [Option.getD_some, if_neg (List.cons_ne_nil c suffix)]
    exact List.append_left_inj _

/-- The key of a path has nothing to do with the path of its output. -/
def IsLoose (s : Settings) (p : Text) : Prop := Path.OddlyDotted p ∨ s.IsBase p

instance (s : Settings) (p : Text) : Decidable (s.IsLoose p) :=
  inferInstanceAs (Decidable (_ ∨ _))

/-- No two of the targets are compiled to one path. -/
def NamesApart (s : Settings) (ts : List Target) : Prop :=
  ∀ t ∈ ts, ∀ u ∈ ts, s.outputPath t.path = s.outputPath u.path → t = u

/-- **The outputs of a registry are at different paths exactly when no loose path shares its stem
with another path**; and always without a suffix. -/
theorem namesApart_iff (built : Registry.build s ts = .ok r) :
    s.NamesApart ts ↔ (s.rename.getD [] ≠ [] → ∀ t ∈ ts, s.IsLoose t.path →
      ∀ u ∈ ts, Path.stem u.path = Path.stem t.path → u = t) := by
  constructor
  · intro apart suffix t ht _ u hu hstem
    refine apart u hu t ht (outputPath_eq_iff.2 ?_)
    rwa [if_neg suffix]
  · intro loose t ht u hu houtput
    rw [outputPath_eq_iff] at houtput
    split at houtput
    · exact Registry.eq_of_moduleKey_eq built ht hu (by rw [houtput])
    · next suffix =>
      by_cases htloose : s.IsLoose t.path
      · exact (loose suffix t ht htloose u hu houtput.symm).symm
      by_cases huloose : s.IsLoose u.path
      · exact loose suffix u hu huloose t ht houtput
      -- Of two paths that are not loose, equal stems make one key.
      rw [IsLoose, not_or] at htloose huloose
      rw [Path.stem_eq_withoutExtension_iff.2 htloose.1,
        Path.stem_eq_withoutExtension_iff.2 huloose.1] at houtput
      exact Registry.eq_of_moduleKey_eq built ht hu
        (moduleKey_congr htloose.2 huloose.2 houtput)

end Settings

/-! ### Stylesheets with two dots in front -/

namespace Naming

def settings (base : Text) : Settings :=
  { Settings.default with moduleBase := base, rename := some Settings.usualSuffix }

def sources (paths : List Text) : List Target := paths.map fun path => .fresh path [] false

/-- Each of the last three paths is loose. -/
def apart : List Target :=
  sources ["lib/app.scss".toList, "lib".toList, "app.".toList, "..sass".toList]

theorem namesApart_loose :
    (∃ r, Registry.build (settings "lib".toList) apart = .ok r) ∧
      (settings "lib".toList).NamesApart apart := by
  obtain ⟨r, built⟩ : ∃ r, Registry.build (settings "lib".toList) apart = .ok r :=
    Registry.exists_build_iff.2 (by decide +kernel)
  exact ⟨⟨r, built⟩, (Settings.namesApart_iff built).2 fun _ => by decide +kernel⟩

/-- **A registry does not keep outputs apart in general.**  The keys of `..scss` and `..scss.scss`
are `.` and `..scss`, and both are compiled to `..scss.css`. -/
theorem not_forall_namesApart :
    ¬ ∀ (s : Settings) (ts : List Target) (r : Registry), s.Accepted →
      (ts.map Target.path).Nodup → Registry.build s ts = .ok r → s.NamesApart ts := by
  intro h
  have accepted : (settings []).Accepted :=
    ⟨.map [(.text "rename".toList, .scalar (.bool true))], rfl⟩
  obtain ⟨r, built⟩ : ∃ r, Registry.build (settings [])
      (sources ["..scss".toList, "..scss.scss".toList]) = .ok r :=
    Registry.exists_build_iff.2 (by decide +kernel)
  have happart := h (settings []) _ r accepted (by decide +kernel) built
  exact absurd (happart _ List.mem_cons_self _ (List.mem_cons_of_mem _ List.mem_cons_self)
    (by decide +kernel)) (by decide +kernel)

end Naming

end StyleBuild
