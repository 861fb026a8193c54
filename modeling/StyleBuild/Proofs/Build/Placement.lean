import Mathlib.Data.List.Nodup
import StyleBuild.Proofs.Build.Completion

/-!
# Where outputs are placed

While targets are rendered, each output replaces its source in the table.  This file follows one
path through that: a target `Touches` a path when it has its source or its output there, and after
all targets were taken up the path is as the last one that touches it has left it
(`get?_concludeAll`).

The outputs of a pass may be `OutputsApart`: at different paths, and none at the path of another
target.  Then whoever writes at a path is the only one that touches it, and what is there in the end
is a matter of which targets were rendered and not of their order (`get?_concludeAll_iff`).  Without
a suffix outputs are always apart (`outputsApart_of_no_suffix`), since each one has the path of its
source.

The report says what was placed where: `find?_compiled_concludeAll` for the outputs, and
`mem_emptied_concludeAll` for the sources that were compiled to nothing.
-/

namespace StyleBuild

/-- What is at the path of an output: the output, unless the host declines to have it written. -/
def Setup.placed (setup : Setup) (path : Text) (output : Bytes) : Target :=
  if setup.declines path then .output path else (Target.output path).write output

lemma Setup.placed_of_writes {setup : Setup} (writes : ∀ path, setup.declines path = false)
    (path : Text) (output : Bytes) :
    setup.placed path output = ⟨path, output, false, some output, none⟩ := by
  simp only [placed, writes, Bool.false_eq_true, if_false]
  rfl

namespace Pass

variable {setup : Setup} {registry : Registry} {t : Target} {ts : List Target} {p p' : Progress}
  {c loaded : Context} {q : Text}

/-! ## One path -/

/-- The target is compiled to an output that is not empty, and it belongs at the path. -/
def Writes (setup : Setup) (registry : Registry) (t : Target) (q : Text) (output : Bytes) : Prop :=
  t.compiled registry setup.settings setup.compiler = .ok output ∧ output ≠ [] ∧
    setup.settings.outputPath t.path = q

/-- Rendering the target changes what is at the path. -/
def Touches (setup : Setup) (registry : Registry) (t : Target) (q : Text) : Prop :=
  t.path = q ∨ ∃ output, Writes setup registry t q output

/-- What is at a path when a target that touches it was rendered: its output, or nothing where its
source was. -/
def LeavesTarget (setup : Setup) (registry : Registry) (t : Target) (q : Text)
    (found : Option Target) : Prop :=
  (∃ output, Writes setup registry t q output ∧ found = some (setup.placed q output)) ∨
    ((∀ output, ¬ Writes setup registry t q output) ∧ t.path = q ∧ found = none)

lemma Writes.output_eq {output output' : Bytes} (h : Writes setup registry t q output)
    (h' : Writes setup registry t q output') : output = output' :=
  Except.ok.inj (h.1.symm.trans h'.1)

lemma get?_materialise (t : Target) (output : Bytes) (p : Progress) (q : Text) :
    (materialise setup t output p).context.get? q =
      if output ≠ [] ∧ setup.settings.outputPath t.path = q then some (setup.placed q output)
      else if t.path = q then none else p.context.get? q := by
  have hget : (materialise setup t output p).context.get? q =
      if output ≠ [] ∧ q = setup.settings.outputPath t.path then some (setup.placed q output)
      else if q = t.path then none else p.context.get? q := by
    by_cases hempty : output = []
    · rw [if_neg fun h : output ≠ [] ∧ _ => h.1 hempty, ← Context.get?_resolveOutput_none,
        materialise, if_pos hempty]
      rfl
    · rw [materialise, if_neg hempty]
      simp only [note, hempty, ne_eq, not_false_eq_true, true_and]
      split
      · next declined =>
        rw [Context.get?_resolveOutput_some]
        by_cases hq : q = setup.settings.outputPath t.path
        · rw [if_pos hq, if_pos hq, hq, Setup.placed, if_pos declined]
        · rw [if_neg hq, if_neg hq]
      · next declined =>
        rw [Context.get?_write_resolveOutput]
        by_cases hq : q = setup.settings.outputPath t.path
        · rw [if_pos hq, if_pos hq, hq, Setup.placed, if_neg declined]
        · rw [if_neg hq, if_neg hq]
  rw [hget]
  simp only [@eq_comm _ q]

/-- **What rendering a target leaves at a path.** -/
theorem get?_conclude (h : conclude setup t
    (t.compiled registry setup.settings setup.compiler) p = (none, p')) :
    (¬ Touches setup registry t q ∧ p'.context.get? q = p.context.get? q) ∨
      LeavesTarget setup registry t q (p'.context.get? q) := by
  obtain ⟨output, hok, rfl⟩ := conclude_eq_none h
  rw [get?_materialise]
  by_cases hplaced : output ≠ [] ∧ setup.settings.outputPath t.path = q
  · exact .inr (.inl ⟨output, ⟨hok, hplaced⟩, if_pos hplaced⟩)
  · have hnot : ∀ output', ¬ Writes setup registry t q output' := by
      rintro output' ⟨hok', hplaced'⟩
      obtain rfl := Except.ok.inj (hok.symm.trans hok')
      exact hplaced hplaced'
    rw [if_neg hplaced]
    by_cases hq : t.path = q
    · exact .inr (.inr ⟨hnot, hq, if_pos hq⟩)
    · refine .inl ⟨?_, if_neg hq⟩
      rintro (hpath | ⟨output', h'⟩)
      · exact hq hpath
      · exact hnot output' h'

/-- **What rendering all targets leaves at a path** is what the last one that touches it leaves. -/
theorem get?_concludeAll (h : concludeAll setup registry ts p = (none, p')) :
    ((∀ t ∈ ts, ¬ Touches setup registry t q) ∧ p'.context.get? q = p.context.get? q) ∨
      ∃ before t after, ts = before ++ t :: after ∧
        (∀ u ∈ after, ¬ Touches setup registry u q) ∧
          LeavesTarget setup registry t q (p'.context.get? q) := by
  induction ts generalizing p with
  | nil =>
    obtain rfl := congrArg Prod.snd h
    exact .inl ⟨fun t ht => absurd ht List.not_mem_nil, rfl⟩
  | cons t ts ih =>
    obtain ⟨p₁, hone, hrest⟩ := concludeAll_cons_eq_none h
    rcases ih hrest with ⟨huntouched, hget⟩ | ⟨before, u, after, rfl, hafter, hget⟩
    · rw [hget]
      rcases get?_conclude (q := q) hone with ⟨hnot, hsame⟩ | hlast
      · exact .inl ⟨List.forall_mem_cons.2 ⟨hnot, huntouched⟩, hsame⟩
      · exact .inr ⟨[], t, ts, rfl, huntouched, hlast⟩
    · exact .inr ⟨t :: before, u, after, rfl, hafter, hget⟩

/-- **If whoever writes at a path is the only one that touches it**, the path has the output in the
end, or what it had before if nobody touches it. -/
theorem get?_concludeAll_iff (h : concludeAll setup registry ts p = (none, p'))
    (sole : ∀ w ∈ ts, ∀ t ∈ ts, ∀ q output, Writes setup registry w q output →
      Touches setup registry t q → t = w) {u : Target} :
    p'.context.get? q = some u ↔
      (∃ w ∈ ts, ∃ output, Writes setup registry w q output ∧ u = setup.placed q output) ∨
        (∀ w ∈ ts, ¬ Touches setup registry w q) ∧ p.context.get? q = some u := by
  rcases get?_concludeAll (q := q) h with
    ⟨huntouched, hget⟩ | ⟨before, t, after, rfl, -, hleaves⟩
  · rw [hget, or_iff_right, and_iff_right huntouched]
    rintro ⟨w, hw, output, hwrites, -⟩
    exact huntouched w hw (.inr ⟨output, hwrites⟩)
  · have ht : t ∈ before ++ t :: after := List.mem_append_right _ List.mem_cons_self
    rcases hleaves with ⟨output, hwrites, hget⟩ | ⟨hnot, hpath, hget⟩
    · rw [hget, or_iff_left fun hu => hu.1 t ht (.inr ⟨output, hwrites⟩), Option.some.injEq]
      constructor
      · rintro rfl
        exact ⟨t, ht, output, hwrites, rfl⟩
      · rintro ⟨w, hw, output', hwrites', rfl⟩
        obtain rfl := sole w hw t ht q output' hwrites' (.inr ⟨output, hwrites⟩)
        rw [hwrites.output_eq hwrites']
    · rw [hget]
      constructor
      · exact fun hu => by cases hu
      · rintro (⟨w, hw, output, hwrites, -⟩ | ⟨huntouched, -⟩)
        · obtain rfl := sole w hw t ht q output hwrites (.inl hpath)
          exact absurd hwrites (hnot output)
        · exact absurd (.inl hpath) (huntouched t ht)

/-! ## The report -/

lemma compiled_materialise (t : Target) (output : Bytes) (p : Progress) :
    (materialise setup t output p).summary.compiled =
      if output = [] then p.summary.compiled
      else p.summary.compiled.insert t.path (setup.settings.outputPath t.path) := by
  unfold materialise
  split
  · rfl
  · rfl

lemma find?_compiled_materialise {output : Bytes}
    (ok : t.compiled registry setup.settings setup.compiler = .ok output)
    (outputs : ∀ source out, p.summary.compiled.find? source = some out →
      setup.settings.outputPath source = out) (source out : Text) :
    (materialise setup t output p).summary.compiled.find? source = some out ↔
      p.summary.compiled.find? source = some out ∨
        t.path = source ∧ ∃ output, Writes setup registry t out output := by
  have hwrites : (∃ output, Writes setup registry t out output) ↔
      output ≠ [] ∧ setup.settings.outputPath t.path = out := by
    constructor
    · rintro ⟨output', ok', hplaced⟩
      obtain rfl := Except.ok.inj (ok.symm.trans ok')
      exact hplaced
    · exact fun hplaced => ⟨output, ok, hplaced⟩
  rw [compiled_materialise, hwrites]
  by_cases hempty : output = []
  · rw [if_pos hempty, or_iff_left fun h => h.2.1 hempty]
  · rw [if_neg hempty, Table.find?_insert]
    by_cases hsource : source = t.path
    · rw [if_pos hsource, Option.some.injEq]
      constructor
      · exact fun hout => .inr ⟨hsource.symm, hempty, hout⟩
      · rintro (hold | ⟨-, -, hout⟩)
        · rw [← hsource]
          exact outputs source out hold
        · exact hout
    · rw [if_neg hsource, or_iff_left fun h => hsource h.1.symm]

/-- **What is reported is what was written.**  A source determines the path of its output, so a
report is never changed by a later one. -/
theorem find?_compiled_concludeAll (h : concludeAll setup registry ts p = (none, p'))
    (outputs : ∀ source out, p.summary.compiled.find? source = some out →
      setup.settings.outputPath source = out) (source out : Text) :
    p'.summary.compiled.find? source = some out ↔
      p.summary.compiled.find? source = some out ∨
        ∃ t ∈ ts, t.path = source ∧ ∃ output, Writes setup registry t out output := by
  induction ts generalizing p with
  | nil =>
    obtain rfl : p = p' := congrArg Prod.snd h
    simp
  | cons t ts ih =>
    obtain ⟨p₁, hone, hrest⟩ := concludeAll_cons_eq_none h
    obtain ⟨output, ok, rfl⟩ := conclude_eq_none hone
    have hfind := find?_compiled_materialise ok outputs
    rw [ih hrest, hfind]
    · rw [or_assoc]
      simp only [List.exists_mem_cons_iff]
    · intro source' out' hout'
      rcases (hfind source' out').1 hout' with hold | ⟨rfl, -, -, -, hpath⟩
      · exact outputs source' out' hold
      · exact hpath

lemma emptied_materialise (t : Target) (output : Bytes) (p : Progress) :
    (materialise setup t output p).summary.emptied =
      if output = [] then p.summary.emptied ++ [t.path] else p.summary.emptied := by
  unfold materialise
  split
  · rfl
  · rfl

/-- **What is reported as emptied is what was compiled to nothing.** -/
theorem mem_emptied_concludeAll (h : concludeAll setup registry ts p = (none, p')) (source : Text) :
    source ∈ p'.summary.emptied ↔
      source ∈ p.summary.emptied ∨
        ∃ t ∈ ts, t.path = source ∧
          t.compiled registry setup.settings setup.compiler = .ok [] := by
  induction ts generalizing p with
  | nil =>
    obtain rfl : p = p' := congrArg Prod.snd h
    simp
  | cons t ts ih =>
    obtain ⟨p₁, hone, hrest⟩ := concludeAll_cons_eq_none h
    obtain ⟨output, ok, rfl⟩ := conclude_eq_none hone
    have hone : source ∈ (materialise setup t output p).summary.emptied ↔
        source ∈ p.summary.emptied ∨
          t.path = source ∧ t.compiled registry setup.settings setup.compiler = .ok [] := by
      rw [emptied_materialise, ok, Except.ok.injEq]
      by_cases hempty : output = []
      · simp only [hempty, if_true, and_true, List.mem_append, List.mem_singleton,
          @eq_comm _ t.path]
      · simp only [hempty, if_false, and_false, or_false]
    rw [ih hrest, hone, or_assoc]
    simp only [List.exists_mem_cons_iff]

end Pass

/-! ## Outputs that are apart -/

namespace Settings

variable {s : Settings} {c : Context} {registry : Registry} {t u : Target}

/-- The outputs of the rendered targets are at different paths, and none is at the path of another
one of the given targets. -/
structure OutputsApart (s : Settings) (c : Context) (others : List Target) : Prop where
  distinct : ((s.rendered c).map fun t => s.outputPath t.path).Nodup
  free : ∀ t ∈ s.rendered c, ∀ u ∈ others, s.outputPath t.path = u.path → t.path = u.path

lemma OutputsApart.candidates (apart : s.OutputsApart c c.targets.values) :
    s.OutputsApart c (s.selectCandidates c) :=
  ⟨apart.distinct, fun t ht u hu => apart.free t ht u (List.mem_filter.1 hu).1⟩

/-- Loading moves no candidate. -/
lemma map_path_modules (s : Settings) (c : Context) :
    (s.modules c).map Target.path = (s.selectCandidates c).map Target.path := by
  rw [modules, List.map_map]
  exact List.map_congr_left fun t _ => t.path_load

/-- The paths of the candidates are different. -/
lemma nodup_paths_modules (keyed : c.Keyed) (s : Settings) :
    ((s.modules c).map Target.path).Nodup := by
  have hvalues : (c.targets.values.map Target.path).Nodup :=
    keyed.map_path_values ▸ c.targets.nodup
  rw [map_path_modules]
  exact hvalues.sublist (List.filter_sublist.map _)

/-- The paths of the rendered targets are different. -/
lemma nodup_paths_rendered (keyed : c.Keyed) (s : Settings) :
    ((s.rendered c).map Target.path).Nodup :=
  (nodup_paths_modules keyed s).sublist (List.filter_sublist.map _)

/-- **Without a suffix, outputs are apart from all other targets.** -/
theorem outputsApart_of_no_suffix (keyed : c.Keyed) (plain : s.rename = none) :
    s.OutputsApart c c.targets.values := by
  have hpath : ∀ path, s.outputPath path = path := fun path => by rw [outputPath, plain]
  constructor
  · simp only [hpath]
    exact nodup_paths_rendered keyed s
  · intro t _ u _ h
    rwa [hpath] at h

end Settings

namespace Pass

variable {setup : Setup} {registry : Registry} {t w : Target} {p : Progress} {c loaded : Context}
  {q : Text} {output : Bytes}

section Apart

variable (apart : setup.settings.OutputsApart c (setup.settings.selectCandidates c))
  (built : Registry.build setup.settings (setup.settings.modules c) = .ok registry)

include apart built

/-- An output is not at the path of another candidate. -/
lemma eq_of_writes_path (hw : w ∈ setup.settings.rendered c) (ht : t ∈ setup.settings.modules c)
    (writes : Writes setup registry w t.path output) : t = w := by
  have hmodule := ht
  obtain ⟨u, hu, rfl⟩ := List.mem_map.1 ht
  have hpath := apart.free w hw u hu (writes.2.2.trans u.path_load)
  exact Settings.eq_of_path_eq built hmodule (Settings.mem_rendered.1 hw).1
    (u.path_load.trans hpath.symm)

/-- **Whoever writes at a path is the only rendered target that touches it.** -/
theorem eq_of_touches (hw : w ∈ setup.settings.rendered c) (ht : t ∈ setup.settings.rendered c)
    (writes : Writes setup registry w q output) (touches : Touches setup registry t q) : t = w := by
  rcases touches with rfl | ⟨output', writes'⟩
  · exact eq_of_writes_path apart built hw (Settings.mem_rendered.1 ht).1 writes
  · exact List.inj_on_of_nodup_map apart.distinct ht hw (writes'.2.2.trans writes.2.2.symm)

end Apart

/-- A target that is no candidate has a path of its own. -/
lemma path_ne_of_not_isCandidate (keyed : c.Keyed) {u : Target} (hu : u ∈ c.targets.values)
    (hcandidate : setup.settings.isCandidate u = false)
    (ht : t ∈ setup.settings.modules c) : t.path ≠ u.path := by
  obtain ⟨w, hw, rfl⟩ := List.mem_map.1 ht
  obtain ⟨hvalue, hw⟩ := List.mem_filter.1 hw
  intro hpath
  rw [Target.path_load] at hpath
  obtain rfl := keyed.eq_of_path_eq hvalue hu hpath
  rw [hw] at hcandidate
  cases hcandidate

lemma get?_prune (us : List Target) (p : Progress) (q : Text) :
    (prune us p).context.get? q =
      if q ∈ (prune us p).summary.removed then none else p.context.get? q := by
  rw [context_prune, Context.get?_remove]

/-- The reports are about the outputs of the rendered targets. -/
lemma Completes.find?_compiled (completes : Completes setup c loaded registry p)
    {source out : Text} :
    (prune (setup.settings.spared c) p).summary.compiled.find? source = some out ↔
      ∃ t ∈ setup.settings.rendered c, t.path = source ∧
        ∃ output, Writes setup registry t out output := by
  obtain ⟨journal, q, hrender, same⟩ := completes.renders
  have hfind := find?_compiled_concludeAll hrender (fun source out h => by cases h) source out
  have hempty : ¬ (Summary.empty.compiled.find? source = some out) := fun h => by cases h
  rw [summary_prune, same.summary, hfind, or_iff_right hempty]
  simp only [Setup.mem_arrange]

/-- What is reported as emptied are the rendered targets that were compiled to nothing. -/
lemma Completes.mem_emptied (completes : Completes setup c loaded registry p) {source : Text} :
    source ∈ (prune (setup.settings.spared c) p).summary.emptied ↔
      ∃ t ∈ setup.settings.rendered c, t.path = source ∧
        t.compiled registry setup.settings setup.compiler = .ok [] := by
  obtain ⟨journal, q, hrender, same⟩ := completes.renders
  have hempty : ¬ source ∈ Summary.empty.emptied := List.not_mem_nil
  rw [summary_prune, same.summary, mem_emptied_concludeAll hrender, or_iff_right hempty]
  simp only [Setup.mem_arrange]

/-- **The table after pruning**, if outputs are apart from the other candidates: the outputs, and
what is neither touched by a rendered target nor removed. -/
theorem Completes.get?_iff (completes : Completes setup c loaded registry p)
    (apart : setup.settings.OutputsApart c (setup.settings.selectCandidates c)) {u : Target} :
    (prune (setup.settings.spared c) p).context.get? q = some u ↔
      (∃ w ∈ setup.settings.rendered c, ∃ output,
        Writes setup registry w q output ∧ u = setup.placed q output) ∨
      q ∉ (prune (setup.settings.spared c) p).summary.removed ∧
        (∀ w ∈ setup.settings.rendered c, ¬ Touches setup registry w q) ∧
          loaded.get? q = some u := by
  obtain ⟨journal, p', hrender, same⟩ := completes.renders
  have hget := get?_concludeAll_iff (q := q) (u := u) hrender fun w hw t ht q output =>
    eq_of_touches apart completes.built (Setup.mem_arrange.1 hw) (Setup.mem_arrange.1 ht)
  simp only [Setup.mem_arrange] at hget
  rw [get?_prune, same.get?]
  by_cases hremoved : q ∈ (prune (setup.settings.spared c) p).summary.removed
  · rw [if_pos hremoved, or_iff_left fun h => h.1 hremoved]
    -- A removed target is not rendered, so no output is at its path.
    refine iff_of_false (fun h => by cases h) ?_
    rintro ⟨w, hw, output, hwrites, -⟩
    obtain ⟨v, hspared, rfl, -⟩ := mem_removed_prune.1 hremoved
    obtain rfl := eq_of_writes_path apart completes.built hw (Settings.mem_spared.1 hspared).1
      hwrites
    exact Settings.notMem_spared hw hspared
  · rw [if_neg hremoved, hget]
    simp only [hremoved, not_false_eq_true, true_and]

end Pass

end StyleBuild
