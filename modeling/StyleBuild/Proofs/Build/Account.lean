import StyleBuild.Proofs.Build.Survival
import StyleBuild.Proofs.Host.Operations

/-!
# Every candidate is accounted for

A report has four lists of paths: the sources that were compiled to some output, those that were
compiled to nothing, and of the targets that were not compiled those that were retained and those
that were removed.  Put one after the other (`Summary.accounted`), they have the path of every
candidate once and no other path, whatever the compiler does and in whatever order it is done
(`Pass.count_accounted_run`).

The first two lists are made while targets are rendered.  `Pass.Accounts` is what holds of them
between two targets: they divide the sources so far by what these were compiled to.  For a source
that was not there before a step adds its path to one list (`accounts_conclude`), and since no path
belongs to two candidates, that is so for every step of the loop (`accounts_concludeAll`).  The
other two lists divide the targets that were not rendered, by whether they were used.
-/

namespace StyleBuild

/-- The paths in a report, list after list. -/
def Summary.accounted (s : Summary) : List Text :=
  s.compiled.keys ++ s.emptied ++ s.retained ++ s.removed

/-- Whether a target is compiled to an output that is not empty. -/
def Target.yields (registry : Registry) (settings : Settings) (compiler : Compiler) (t : Target) :
    Bool :=
  match t.compiled registry settings compiler with
  | .ok output => decide (output ≠ [])
  | .error _ => false

lemma Target.yields_of_compiled {registry : Registry} {settings : Settings} {compiler : Compiler}
    {t : Target} {output : Bytes} (ok : t.compiled registry settings compiler = .ok output) :
    t.yields registry settings compiler = decide (output ≠ []) := by
  rw [yields, ok]

/-- Loading does not change how a target is treated. -/
lemma Settings.isRendered_load (s : Settings) (t : Target) :
    s.isRendered t.load = s.isRendered t := by
  unfold Target.load
  split <;> rfl

/-- A candidate is rendered unless it is only there to be imported or the filter leaves it out. -/
lemma Settings.exists_rendered_iff {s : Settings} {c : Context} {q : Text} :
    q ∈ (s.rendered c).map Target.path ↔ ∃ t ∈ s.selectCandidates c, t.path = q ∧
      t.includeOnly = false ∧ s.isFilteredIn q = true := by
  have hrendered : ∀ t : Target, s.isRendered t = true ↔
      t.includeOnly = false ∧ s.isFilteredIn t.path = true := fun t => by
    rw [isRendered, Bool.and_eq_true, Bool.not_eq_true']
  simp only [List.mem_map, mem_rendered, modules]
  constructor
  · rintro ⟨_, ⟨⟨t, ht, rfl⟩, h⟩, rfl⟩
    rw [isRendered_load, hrendered] at h
    rw [t.path_load]
    exact ⟨t, ht, rfl, h⟩
  · rintro ⟨t, ht, rfl, h⟩
    refine ⟨t.load, ⟨⟨t, ht, rfl⟩, ?_⟩, t.path_load⟩
    rw [isRendered_load, hrendered]
    exact h

namespace Pass

variable {setup : Setup} {registry : Registry} {t : Target} {ts done : List Target}
  {p p' : Progress} {c loaded : Context}

/-! ## While targets are taken up -/

/-- What is reported when the given targets were taken up, in their order. -/
structure Accounts (setup : Setup) (registry : Registry) (done : List Target) (s : Summary) :
    Prop where
  compiled : s.compiled.keys =
    (done.filter (·.yields registry setup.settings setup.compiler)).map Target.path
  emptied : s.emptied =
    (done.filter (!·.yields registry setup.settings setup.compiler)).map Target.path

/-- A report has the paths of the targets that were rendered. -/
lemma Accounts.perm {s : Summary} (accounts : Accounts setup registry done s) :
    (s.compiled.keys ++ s.emptied).Perm (done.map Target.path) := by
  rw [accounts.compiled, accounts.emptied, ← List.map_append]
  exact (List.filter_append_perm _ done).map _

/-- **A target that is rendered is accounted for.** -/
theorem accounts_conclude (accounts : Accounts setup registry done p.summary)
    (new : t.path ∉ done.map Target.path)
    (h : conclude setup t (t.compiled registry setup.settings setup.compiler) p = (none, p')) :
    Accounts setup registry (done ++ [t]) p'.summary := by
  obtain ⟨output, ok, rfl⟩ := conclude_eq_none h
  have hnew : t.path ∉ p.summary.compiled.keys := fun hmem =>
    new (accounts.perm.subset (List.mem_append_left _ hmem))
  have hyields := Target.yields_of_compiled ok
  constructor
  · rw [compiled_materialise, List.filter_append, List.map_append, ← accounts.compiled]
    by_cases hempty : output = []
    · simp [hempty, hyields]
    · simp [hempty, hyields, Table.keys_insert, hnew]
  · rw [emptied_materialise, List.filter_append, List.map_append, ← accounts.emptied]
    by_cases hempty : output = []
    · simp [hempty, hyields]
    · simp [hempty, hyields]

/-- **All targets that are rendered are accounted for**, if their paths are different. -/
theorem accounts_concludeAll (accounts : Accounts setup registry done p.summary)
    (nodup : ((done ++ ts).map Target.path).Nodup)
    (h : concludeAll setup registry ts p = (none, p')) :
    Accounts setup registry (done ++ ts) p'.summary := by
  induction ts generalizing done p with
  | nil =>
    obtain rfl : p = p' := congrArg Prod.snd h
    rwa [List.append_nil]
  | cons t ts ih =>
    obtain ⟨p₁, hone, hrest⟩ := concludeAll_cons_eq_none h
    have hnew : t.path ∉ done.map Target.path := by
      rw [List.map_append, List.map_cons, List.nodup_append] at nodup
      exact fun hmem => nodup.2.2 _ hmem _ List.mem_cons_self rfl
    rw [List.append_cons] at nodup ⊢
    exact ih (accounts_conclude accounts hnew hone) nodup hrest

/-! ## The whole pass -/

section Completes

variable (keyed : c.Keyed) (completes : Completes setup c loaded registry p)

include keyed completes

/-- What a pass reports about the targets that it rendered. -/
lemma Completes.accounts :
    Accounts setup registry (setup.arrange (setup.settings.rendered c)) p.summary := by
  obtain ⟨journal, q, hrender, same⟩ := completes.renders
  have hstart : Accounts setup registry [] Summary.empty := ⟨rfl, rfl⟩
  rw [same.summary]
  refine accounts_concludeAll hstart ?_ hrender
  exact ((setup.perm_arrange _).map _).nodup_iff.2 (Settings.nodup_paths_rendered keyed _)

/-- What was compiled and what was emptied is what was rendered. -/
lemma Completes.perm_rendered :
    ((prune (setup.settings.spared c) p).summary.compiled.keys ++
      (prune (setup.settings.spared c) p).summary.emptied).Perm
        ((setup.settings.rendered c).map Target.path) := by
  rw [summary_prune]
  exact (completes.accounts keyed).perm.trans ((setup.perm_arrange _).map _)

/-- **A report has the path of every candidate once**, in one of its lists. -/
theorem Completes.perm_accounted :
    (prune (setup.settings.spared c) p).summary.accounted.Perm
      ((setup.settings.selectCandidates c).map Target.path) := by
  have hspared : ((prune (setup.settings.spared c) p).summary.retained ++
      (prune (setup.settings.spared c) p).summary.removed).Perm
        ((setup.settings.spared c).map Target.path) := by
    rw [summary_prune, ← List.map_append]
    exact (List.filter_append_perm _ _).map _
  rw [Summary.accounted, List.append_assoc, ← Settings.map_path_modules]
  refine ((completes.perm_rendered keyed).append hspared).trans ?_
  rw [← List.map_append]
  exact (List.filter_append_perm _ _).map _

/-- A rendered target is in the list that its output belongs to. -/
lemma Completes.mem_compiled_iff {output : Bytes} (ht : t ∈ setup.settings.rendered c)
    (ok : t.compiled registry setup.settings setup.compiler = .ok output) :
    (t.path ∈ (prune (setup.settings.spared c) p).summary.compiled.keys ↔ output ≠ []) ∧
      (t.path ∈ (prune (setup.settings.spared c) p).summary.emptied ↔ output = []) := by
  have accounts := completes.accounts keyed
  have hmem : ∀ keep : Target → Bool,
      t.path ∈ ((setup.arrange (setup.settings.rendered c)).filter keep).map Target.path ↔
        keep t = true := by
    intro keep
    simp only [List.mem_map, List.mem_filter, Setup.mem_arrange]
    constructor
    · rintro ⟨u, ⟨hu, hkeep⟩, hpath⟩
      obtain rfl := Settings.eq_of_path_eq completes.built (Settings.mem_rendered.1 hu).1
        (Settings.mem_rendered.1 ht).1 hpath
      exact hkeep
    · exact fun hkeep => ⟨t, ⟨ht, hkeep⟩, rfl⟩
  rw [summary_prune]
  dsimp only
  rw [accounts.compiled, accounts.emptied, hmem, hmem, Target.yields_of_compiled ok]
  simp

end Completes

/-- **Every candidate is accounted for exactly once.**  In the report of a successful pass over a
context that a host can come to, the path of each candidate occurs once, and nothing else occurs.
Those that were compiled or emptied are the candidates that are not there only to be imported and
that the filter lets in.  Which of the two it is depends on the output. -/
theorem count_accounted_run {summary : Summary} (reachable : c.Reachable)
    (success : (run setup c).result = .ok summary) :
    (∀ q, summary.accounted.count q =
      if q ∈ (setup.settings.selectCandidates c).map Target.path then 1 else 0) ∧
    (∀ q, q ∈ summary.compiled.keys ++ summary.emptied ↔
      ∃ t ∈ setup.settings.selectCandidates c, t.path = q ∧
        t.includeOnly = false ∧ setup.settings.isFilteredIn q = true) ∧
    ∃ registry, Registry.build setup.settings (setup.settings.modules c) = .ok registry ∧
      ∀ t ∈ setup.settings.rendered c, ∃ output,
        t.compiled registry setup.settings setup.compiler = .ok output ∧
        (t.path ∈ summary.compiled.keys ↔ output ≠ []) ∧
        (t.path ∈ summary.emptied ↔ output = []) := by
  have keyed := reachable.keyed
  obtain ⟨loaded, registry, p, completes, rfl, -⟩ := exists_completes success
  refine ⟨?_, ?_, registry, completes.built, ?_⟩
  · intro q
    have hnodup := Settings.nodup_paths_modules keyed setup.settings
    rw [Settings.map_path_modules] at hnodup
    rw [(completes.perm_accounted keyed).count_eq]
    split
    · next hq => exact List.count_eq_one_of_mem hnodup hq
    · next hq => exact List.count_eq_zero_of_not_mem hq
  · intro q
    rw [(completes.perm_rendered keyed).mem_iff, Settings.exists_rendered_iff]
  · intro t ht
    obtain ⟨output, ok⟩ := completes.exists_output ht
    exact ⟨output, ok, completes.mem_compiled_iff keyed ht ok⟩

end Pass

/-! ### A report with an entry of every kind

In the pass of `Survival.setup`, `app` is compiled, `print` is emptied, `colors` is retained and
`old` is removed.  The page is no candidate. -/

namespace Account

open Survival

theorem count_accounted_one_of_each :
    ∃ summary, (Pass.run setup context).result = .ok summary ∧
      summary.accounted.count "app.scss".toList = 1 ∧
      summary.accounted.count "print.scss".toList = 1 ∧
      summary.accounted.count "colors.scss".toList = 1 ∧
      summary.accounted.count "old.scss".toList = 1 ∧
      summary.accounted.count "index.html".toList = 0 ∧
      "print.scss".toList ∈ summary.compiled.keys ++ summary.emptied ∧
      "old.scss".toList ∉ summary.compiled.keys ++ summary.emptied := by
  have reachable : context.Reachable := Context.reachable_ofTargets _
  have hcandidates : (setup.settings.selectCandidates context).map Target.path =
      ["app.scss".toList, "print.scss".toList, "colors.scss".toList, "old.scss".toList] := by
    decide +kernel
  have hdone : (Pass.run setup context).result.isOk = true := by decide +kernel
  cases success : (Pass.run setup context).result with
  | error f =>
    rw [success] at hdone
    cases hdone
  | ok summary =>
    obtain ⟨hcount, hrendered, -⟩ := Pass.count_accounted_run reachable success
    rw [hcandidates] at hcount
    refine ⟨summary, rfl, hcount _, hcount _, hcount _, hcount _, hcount _, ?_, ?_⟩
    · refine (hrendered _).2 ?_
      decide +kernel
    · rw [hrendered]
      decide +kernel

end Account

end StyleBuild
