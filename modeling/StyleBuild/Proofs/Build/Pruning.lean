import StyleBuild.Proofs.Build.Recording
import StyleBuild.Proofs.Compile.DepthFirst

/-!
# Pruning

Which targets a pass prunes comes out of what the compilations recorded.  With a compiler that works
depth-first this is a matter of the static graph: a target is kept when a rendered target reaches
it, and the edges in the graph of the host are the pairs of a rendered target and a module that it
reaches (`run_prunes_unreachable`).

The three steps are `mem_edges_iff` for the recorded edges, `wasUsed_iff` for what is kept, and
`not_touches_of_mem_removed`, by which pruning severs no edge that the same pass has recorded.
-/

namespace StyleBuild

namespace Settings

/-- An edge from a rendered target to a module that it reaches. -/
def IsStaticEdge (directives : Directives) (s : Settings) (c : Context) (registry : Registry)
    (e : Edge) : Prop :=
  ∃ t ∈ s.rendered c, ∃ u, registry.Reaches directives s t u ∧ e = ⟨t.path, u.path⟩

/-- A module that some rendered target reaches. -/
def IsNeeded (directives : Directives) (s : Settings) (c : Context) (registry : Registry)
    (u : Target) : Prop :=
  ∃ t ∈ s.rendered c, registry.Reaches directives s t u

end Settings

namespace Pass

open Settings

variable {setup : Setup} {directives : Directives} {c loaded : Context} {registry : Registry}
  {p : Progress}

section DepthFirst

variable (accepted : setup.settings.Accepted)
  (keys : ∀ t ∈ setup.settings.selectCandidates c, setup.settings.moduleKey t.path ≠ [])
  (depthFirst : setup.compiler.DepthFirst directives)
  (completes : Completes setup c loaded registry p)

include accepted keys depthFirst completes

/-- A rendered target imports what it reaches. -/
lemma mem_imports_iff {t u : Target} (ht : t ∈ setup.settings.rendered c) :
    u ∈ t.imports registry setup.settings setup.compiler ↔
      registry.Reaches directives setup.settings t u := by
  have hkeys : ∀ t ∈ setup.settings.modules c, setup.settings.moduleKey t.path ≠ [] := by
    intro t ht
    obtain ⟨u, hu, rfl⟩ := List.mem_map.1 ht
    rw [Target.path_load]
    exact keys u hu
  obtain ⟨output, hok⟩ := completes.exists_output ht
  exact Target.mem_imports_iff_reaches accepted completes.built hkeys (mem_rendered.1 ht).1
    depthFirst hok

/-- What is recorded is static. -/
lemma recorded_iff_isStaticEdge {e : Edge} :
    Recorded setup c registry e ↔ setup.settings.IsStaticEdge directives c registry e := by
  refine exists_congr fun t => and_congr_right fun ht => exists_congr fun u => ?_
  rw [mem_imports_iff accepted keys depthFirst completes ht]

/-- **The recorded edges are the static ones.** -/
theorem mem_edges_iff {e : Edge} :
    e ∈ edges setup registry (setup.compileOrder (setup.settings.rendered c)) ↔
      setup.settings.IsStaticEdge directives c registry e :=
  mem_edges_compileOrder_iff.trans
    (recorded_iff_isStaticEdge accepted keys depthFirst completes)

/-- **What is used is what is needed.** -/
theorem wasUsed_iff {u : Target} (hu : u ∈ setup.settings.modules c) :
    p.usage.wasUsed u.path = true ↔ setup.settings.IsNeeded directives c registry u := by
  rw [completes.wasUsed_iff_imported hu]
  refine exists_congr fun t => and_congr_right fun ht => ?_
  exact mem_imports_iff accepted keys depthFirst completes ht

/-- A static edge does not touch what is removed. -/
lemma not_touches_of_mem_removed {e : Edge}
    (static : setup.settings.IsStaticEdge directives c registry e) {q : Text}
    (removed : q ∈ (prune (setup.settings.spared c) p).summary.removed) :
    e.consumer ≠ q ∧ e.dependency ≠ q :=
  completes.not_touches_removed
    ((recorded_iff_isStaticEdge accepted keys depthFirst completes).2 static) removed

end DepthFirst

/-- **Pruning follows reachability.**  In a successful pass with a compiler that works depth-first,
the edges that are recorded are those from a rendered target to the modules that it reaches.  They
are in the graph afterwards, together with the edges from before that touch nothing that was
removed.  Of the targets that are not rendered, those that a rendered target reaches are retained,
and the others are removed, both in the order of the context. -/
theorem run_prunes_unreachable {summary : Summary} (accepted : setup.settings.Accepted)
    (keys : ∀ t ∈ setup.settings.selectCandidates c, setup.settings.moduleKey t.path ≠ [])
    (depthFirst : setup.compiler.DepthFirst directives)
    (success : (run setup c).result = .ok summary) :
    ∃ loaded registry p recorded, Completes setup c loaded registry p ∧
      p.ledger = Ledger.recordAll ⟨.empty, c.graph⟩ recorded ∧
      (∀ e, e ∈ recorded ↔ setup.settings.IsStaticEdge directives c registry e) ∧
      (∀ e, e ∈ (run setup c).context.graph ↔
        (e ∈ c.graph ∧ ∀ q ∈ summary.removed, e.consumer ≠ q ∧ e.dependency ≠ q) ∨
          setup.settings.IsStaticEdge directives c registry e) ∧
      ∃ needed : Target → Bool,
        (∀ u ∈ setup.settings.spared c,
          needed u = true ↔ setup.settings.IsNeeded directives c registry u) ∧
        summary.retained = ((setup.settings.spared c).filter needed).map Target.path ∧
        summary.removed = ((setup.settings.spared c).filter (!needed ·)).map Target.path := by
  obtain ⟨loaded, registry, p, completes, rfl, hcontext⟩ := exists_completes success
  have hedges : ∀ e, e ∈ edges setup registry (setup.compileOrder (setup.settings.rendered c)) ↔
      setup.settings.IsStaticEdge directives c registry e :=
    fun e => mem_edges_iff accepted keys depthFirst completes
  refine ⟨loaded, registry, p, _, completes, completes.ledger, hedges, ?_,
    fun u => p.usage.wasUsed u.path, ?_, ?_, ?_⟩
  · intro e
    have hgraph : e ∈ p.context.graph ↔
        e ∈ c.graph ∨ setup.settings.IsStaticEdge directives c registry e := by
      have hledger : p.context.graph = p.ledger.graph := rfl
      rw [hledger, completes.ledger, Ledger.mem_recordAll, hedges]
    have hstatic : setup.settings.IsStaticEdge directives c registry e →
        ∀ q ∈ (prune (setup.settings.spared c) p).summary.removed,
          e.consumer ≠ q ∧ e.dependency ≠ q :=
      fun hs q hq =>
        not_touches_of_mem_removed accepted keys depthFirst completes hs hq
    rw [hcontext, context_prune, Context.remove, if_pos rfl, Context.mem_sever]
    change e ∈ p.context.graph ∧ _ ↔ _
    rw [hgraph, or_and_right, and_iff_left_of_imp hstatic]
  · intro u hu
    exact wasUsed_iff accepted keys depthFirst completes (mem_spared.1 hu).1
  · rw [summary_prune]
  · rw [summary_prune]

end Pass

/-! ### Four stylesheets

`main` imports `card` through an alias, and `card` imports `icon` from its own directory.  Nothing
imports `unused`, although it imports `card`. -/

namespace Pruning

def settings : Settings :=
  { Settings.default with
    moduleBase := "src".toList
    aliases := ⟨[("@ui".toList, "ui".toList)], by decide⟩ }

/-- Every line of a stylesheet is a specifier. -/
def directives : Directives := fun _ content =>
  (Text.splitOn '\n' content).filter fun line => !line.isEmpty

def setup : Setup where
  settings := settings
  compiler r := .workOff directives (Utf8.encode r.content) 9 (r.pending directives)
  declines _ := false
  timing := .oneByOne id

def stylesheet (path content : String) (includeOnly : Bool) : Target :=
  .fresh path.toList (Utf8.encode content.toList) includeOnly

def context : Context := .ofTargets [
  stylesheet "src/main.scss" "@ui/card.scss" false,
  stylesheet "src/ui/card.scss" "./parts/icon" true,
  stylesheet "src/ui/parts/icon.scss" "" true,
  stylesheet "src/ui/unused.scss" "./card" true]

theorem run_prunes_unused :
    ∃ summary, (Pass.run setup context).result = .ok summary ∧
      summary.retained = ["src/ui/card.scss".toList, "src/ui/parts/icon.scss".toList] ∧
      summary.removed = ["src/ui/unused.scss".toList] ∧
      ∃ registry, settings.IsStaticEdge directives context registry
        ⟨"src/main.scss".toList, "src/ui/parts/icon.scss".toList⟩ := by
  have accepted : settings.Accepted :=
    ⟨.map [(.text "moduleBase".toList, .scalar (.text "src".toList)),
      (.text "alias".toList, .map [(.text "@ui".toList, .scalar (.text "ui".toList))])], rfl⟩
  have keys : ∀ t ∈ settings.selectCandidates context, settings.moduleKey t.path ≠ [] := by
    decide +kernel
  have depthFirst : setup.compiler.DepthFirst directives :=
    fun r => Dialogue.depthFirst_workOff directives _ _ _
  have hreport : (Pass.run setup context).result.toOption.map (fun s => (s.retained, s.removed))
      = some (["src/ui/card.scss".toList, "src/ui/parts/icon.scss".toList],
          ["src/ui/unused.scss".toList]) := by decide +kernel
  cases success : (Pass.run setup context).result with
  | error f =>
    rw [success] at hreport
    cases hreport
  | ok summary =>
    rw [success] at hreport
    obtain ⟨hretained, hremoved⟩ := Prod.mk.inj (Option.some.inj hreport)
    obtain ⟨loaded, registry, p, recorded, -, -, -, hgraph, -⟩ :=
      Pass.run_prunes_unreachable accepted keys depthFirst success
    have hedge : Edge.mk "src/main.scss".toList "src/ui/parts/icon.scss".toList
        ∈ (Pass.run setup context).context.graph := by decide +kernel
    have hnew : Edge.mk "src/main.scss".toList "src/ui/parts/icon.scss".toList
        ∉ context.graph := by decide
    refine ⟨summary, rfl, hretained, hremoved, registry, ?_⟩
    exact ((hgraph _).1 hedge).resolve_left fun h => hnew h.1

end Pruning

end StyleBuild
