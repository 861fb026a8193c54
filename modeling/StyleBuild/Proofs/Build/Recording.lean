import StyleBuild.Proofs.Build.Completion

/-!
# What a pass records

Every hit of an importer is recorded twice: in the usage, by which it is decided what is retained,
and as an edge in the graph of the host.  This file says what both are after a successful pass, for
any compiler: it may ask for what it likes, in documents that it has made up, and swallow every
failure.

An edge is `Recorded` when it leads from a rendered target to something that its importer has found.
Such an edge leads to a registered module that is not in the indented syntax
(`Recorded.exists_module`), and it touches nothing that is removed, because a rendered target is no
candidate for removal and what is recorded is used (`Completes.not_touches_removed`).  So what
pruning severs are only edges from before the pass, and the graph in the end is known edge by edge
(`mem_graph_run_iff`).
-/

namespace StyleBuild

namespace Pass

variable {setup : Setup} {c loaded : Context} {registry : Registry} {p : Progress} {e : Edge}

/-- The edge leads from a rendered target to a module that the importer of the target has found. -/
def Recorded (setup : Setup) (c : Context) (registry : Registry) (e : Edge) : Prop :=
  ∃ t ∈ setup.settings.rendered c,
    ∃ u ∈ t.imports registry setup.settings setup.compiler, e = ⟨t.path, u.path⟩

/-- What a target imports is a candidate, and not in the indented syntax. -/
lemma mem_modules_of_mem_imports
    (built : Registry.build setup.settings (setup.settings.modules c) = .ok registry)
    {t u : Target} (h : u ∈ t.imports registry setup.settings setup.compiler) :
    u ∈ setup.settings.modules c ∧ u.isIndented = false := by
  obtain ⟨⟨key, hfind⟩, hindented⟩ := t.registered_of_mem_imports registry _ _ h
  exact ⟨((Registry.find?_build_iff built).1 hfind).1, hindented⟩

lemma Recorded.exists_module
    (built : Registry.build setup.settings (setup.settings.modules c) = .ok registry)
    (h : Recorded setup c registry e) :
    ∃ t ∈ setup.settings.rendered c, ∃ u ∈ setup.settings.modules c,
      u.isIndented = false ∧ e = ⟨t.path, u.path⟩ := by
  obtain ⟨t, ht, u, hu, rfl⟩ := h
  obtain ⟨hmodule, hindented⟩ := mem_modules_of_mem_imports built hu
  exact ⟨t, ht, u, hmodule, hindented, rfl⟩

/-- The order in which targets are compiled has no influence on what is recorded. -/
lemma mem_edges_compileOrder_iff :
    e ∈ edges setup registry (setup.compileOrder (setup.settings.rendered c)) ↔
      Recorded setup c registry e := by
  simp only [edges, List.mem_flatMap, Setup.mem_compileOrder, Target.edges,
    List.mem_map, Recorded, @eq_comm _ e]

/-! ## What is used, and what is severed -/

section Completes

variable (completes : Completes setup c loaded registry p)

include completes

/-- **What is used is what some importer has found.** -/
theorem Completes.wasUsed_iff_imported {u : Target} (hu : u ∈ setup.settings.modules c) :
    p.usage.wasUsed u.path = true ↔
      ∃ t ∈ setup.settings.rendered c, u ∈ t.imports registry setup.settings setup.compiler := by
  have husage : p.usage = p.ledger.usage := rfl
  have hempty : ¬ Usage.empty.wasUsed u.path = true := by simp [Usage.empty, Usage.wasUsed]
  rw [husage, completes.ledger, Ledger.wasUsed_recordAll, or_iff_right hempty]
  simp only [mem_edges_compileOrder_iff]
  constructor
  · rintro ⟨e, ⟨t, ht, w, hw, rfl⟩, hpath⟩
    obtain ⟨hmodule, -⟩ := mem_modules_of_mem_imports completes.built hw
    obtain rfl := Settings.eq_of_path_eq completes.built hmodule hu hpath
    exact ⟨t, ht, hw⟩
  · rintro ⟨t, ht, himported⟩
    exact ⟨⟨t.path, u.path⟩, ⟨t, ht, u, himported, rfl⟩, rfl⟩

/-- **A recorded edge touches nothing that is removed.** -/
theorem Completes.not_touches_removed (recorded : Recorded setup c registry e) {q : Text}
    (removed : q ∈ (prune (setup.settings.spared c) p).summary.removed) :
    e.consumer ≠ q ∧ e.dependency ≠ q := by
  obtain ⟨t, ht, u, hu, rfl⟩ := recorded
  obtain ⟨w, hspared, rfl, hunused⟩ := mem_removed_prune.1 removed
  have hmodule := (Settings.mem_spared.1 hspared).1
  constructor
  · intro hpath
    obtain rfl := Settings.eq_of_path_eq completes.built (Settings.mem_rendered.1 ht).1 hmodule
      hpath
    exact Settings.notMem_spared ht hspared
  · intro hpath
    obtain ⟨himported, -⟩ := mem_modules_of_mem_imports completes.built hu
    obtain rfl := Settings.eq_of_path_eq completes.built himported hmodule hpath
    have hused := (completes.wasUsed_iff_imported hmodule).2 ⟨t, ht, hu⟩
    rw [hused] at hunused
    cases hunused

/-- **The graph after pruning.** -/
theorem Completes.mem_graph_iff :
    e ∈ (prune (setup.settings.spared c) p).context.graph ↔
      (e ∈ c.graph ∨ Recorded setup c registry e) ∧
        ∀ q ∈ (prune (setup.settings.spared c) p).summary.removed,
          e.consumer ≠ q ∧ e.dependency ≠ q := by
  have hledger : p.context.graph = p.ledger.graph := rfl
  have hgraph : e ∈ p.context.graph ↔ e ∈ c.graph ∨ Recorded setup c registry e := by
    rw [hledger, completes.ledger, Ledger.mem_recordAll, mem_edges_compileOrder_iff]
  rw [context_prune, Context.remove, if_pos rfl, Context.mem_sever]
  exact and_congr_left fun _ => hgraph

end Completes

/-- **The graph after a successful pass is exact**, for any compiler.  What is recorded leads from a
rendered target to a candidate that is not in the indented syntax.  Of the candidates that are not
rendered, exactly those that some importer has found are retained.  The edges in the end are those
from before and the recorded ones, without the edges that touch something that was removed; none of
the recorded ones does. -/
theorem mem_graph_run_iff {summary : Summary} (success : (run setup c).result = .ok summary) :
    ∃ loaded registry p recorded, Completes setup c loaded registry p ∧
      p.ledger = Ledger.recordAll ⟨.empty, c.graph⟩ recorded ∧
      (∀ e, e ∈ recorded ↔ Recorded setup c registry e) ∧
      (∀ e ∈ recorded, ∃ t ∈ setup.settings.rendered c, ∃ u ∈ setup.settings.modules c,
        u.isIndented = false ∧ e = ⟨t.path, u.path⟩) ∧
      (∃ found : Target → Bool,
        (∀ u ∈ setup.settings.spared c, found u = true ↔
          ∃ t ∈ setup.settings.rendered c,
            u ∈ t.imports registry setup.settings setup.compiler) ∧
        summary.retained = ((setup.settings.spared c).filter found).map Target.path ∧
        summary.removed = ((setup.settings.spared c).filter (!found ·)).map Target.path) ∧
      (∀ e, e ∈ (run setup c).context.graph ↔
        (e ∈ c.graph ∨ e ∈ recorded) ∧
          ∀ q ∈ summary.removed, e.consumer ≠ q ∧ e.dependency ≠ q) ∧
      ∀ e ∈ recorded, ∀ q ∈ summary.removed, e.consumer ≠ q ∧ e.dependency ≠ q := by
  obtain ⟨loaded, registry, p, completes, rfl, hcontext⟩ := exists_completes success
  have hedges : ∀ e, e ∈ edges setup registry (setup.compileOrder (setup.settings.rendered c)) ↔
      Recorded setup c registry e := fun e => mem_edges_compileOrder_iff
  refine ⟨loaded, registry, p, _, completes, completes.ledger, hedges, ?_, ?_, ?_, ?_⟩
  · exact fun e he => ((hedges e).1 he).exists_module completes.built
  · refine ⟨fun u => p.usage.wasUsed u.path, ?_, ?_, ?_⟩
    · exact fun u hu => completes.wasUsed_iff_imported (Settings.mem_spared.1 hu).1
    · rw [summary_prune]
    · rw [summary_prune]
  · intro e
    rw [hcontext, completes.mem_graph_iff, hedges]
  · exact fun e he q hq => completes.not_touches_removed ((hedges e).1 he) hq

end Pass

/-! ### A compiler that swallows everything

Every stylesheet imports `base`, a module whose bytes are no text, and one that does not exist, and
nothing comes of any answer.  The hits are recorded all the same.  There are edges before the pass:
the one to `old` is severed, the one from a page of the host stays. -/

namespace Recording

def setup : Setup where
  settings := .default
  compiler r := .ask "./base".toList (some r.rootPath) fun _ =>
    .ask "./torn".toList (some r.rootPath) fun _ =>
      .ask "./missing".toList none fun _ => .done (Utf8.encode r.content)
  declines _ := false
  timing := .oneByOne .reverse

def context : Context where
  targets := (Context.ofTargets [
    .fresh "main.scss".toList (Utf8.encode "main".toList) false,
    .fresh "base.scss".toList [] true,
    .fresh "torn.scss".toList [255] true,
    .fresh "old.scss".toList [] true]).targets
  graph := ⟨[⟨"main.scss".toList, "old.scss".toList⟩, ⟨"index.html".toList, "main.scss".toList⟩]⟩

theorem mem_graph_run_of_swallowing :
    ∃ summary registry, (Pass.run setup context).result = .ok summary ∧
      Registry.build setup.settings (setup.settings.modules context) = .ok registry ∧
      summary.retained = ["base.scss".toList, "torn.scss".toList] ∧
      Pass.Recorded setup context registry ⟨"main.scss".toList, "torn.scss".toList⟩ ∧
      ⟨"index.html".toList, "main.scss".toList⟩ ∈ (Pass.run setup context).context.graph ∧
      ⟨"main.scss".toList, "old.scss".toList⟩ ∉ (Pass.run setup context).context.graph := by
  have hreport : (Pass.run setup context).result.toOption.map (fun s => (s.retained, s.removed))
      = some (["base.scss".toList, "torn.scss".toList], ["old.scss".toList]) := by decide +kernel
  cases success : (Pass.run setup context).result with
  | error f =>
    rw [success] at hreport
    cases hreport
  | ok summary =>
    rw [success] at hreport
    obtain ⟨hretained, hremoved⟩ := Prod.mk.inj (Option.some.inj hreport)
    obtain ⟨loaded, registry, p, recorded, completes, -, hrecorded, -, -, hgraph, -⟩ :=
      Pass.mem_graph_run_iff success
    have hedge : ⟨"main.scss".toList, "torn.scss".toList⟩
        ∈ (Pass.run setup context).context.graph := by decide +kernel
    have hnew : ⟨"main.scss".toList, "torn.scss".toList⟩ ∉ context.graph := by decide
    rw [hremoved] at hgraph
    refine ⟨summary, registry, rfl, completes.built, hretained, ?_,
      (hgraph _).2 ⟨.inl (by decide), by decide⟩, ?_⟩
    · exact (hrecorded _).1 (((hgraph _).1 hedge).1.resolve_left hnew)
    · exact fun h => (((hgraph _).1 h).2 _ List.mem_cons_self).2 rfl

end Recording

end StyleBuild
