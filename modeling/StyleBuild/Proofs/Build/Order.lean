import StyleBuild.Proofs.Build.Placement
import StyleBuild.Proofs.Build.Recording
import StyleBuild.Proofs.Module.Memory

/-!
# The order of targets

The workers of a host may compile the targets in any order, and the pass takes them up in any order.
This file compares two passes over the same context that differ in their timing only: if one of them
succeeds so does the other, and they leave the same behind (`run_agrees_of_perm`).

The two are never run side by side.  No stage before the first rendering depends on the timing when
it goes well, so both passes are `Prepared` with the same registry.  What a target is compiled to
depends on the registry alone (`Target.render_fst`), since an importer hands out candidates as they
were when the pass began (`exists_candidate_of_call`); so both get through (`Prepared.completes`).
And everything that a completed pass leaves behind was already described by which targets are
rendered, without a word on their order: the report and the table in `Placement`, the usage and the
graph in `Recording`.  The table is the only place where order could matter, and it does if outputs
are not apart.
-/

namespace StyleBuild

/-- The reports say the same of every target.  In which order sources are reported as compiled or
emptied does not matter. -/
structure Summary.Agrees (a b : Summary) : Prop where
  compiled : ∀ source, a.compiled.find? source = b.compiled.find? source
  emptied : ∀ source, source ∈ a.emptied ↔ source ∈ b.emptied
  retained : a.retained = b.retained
  removed : a.removed = b.removed

/-- The contexts have the same targets at the same paths, and the same edges. -/
structure Context.Agrees (a b : Context) : Prop where
  targets : ∀ q, a.get? q = b.get? q
  graph : ∀ e, e ∈ a.graph ↔ e ∈ b.graph

namespace Pass

variable {setup : Setup} {c loaded : Context} {registry : Registry} {p p' : Progress}
  {timing : Timing}

/-- **What is imported is the text of a candidate**, as it was when the pass began. -/
theorem exists_candidate_of_call
    (built : Registry.build setup.settings (setup.settings.modules c) = .ok registry)
    {t : Target} {memory : Memory} {specifier : Text} {previous : Option Text} {source : Source}
    (answered : ((Importer.mk registry setup.settings t).call memory specifier previous).answer
      = .ok source) :
    ∃ u ∈ setup.settings.selectCandidates c,
      setup.settings.moduleKey u.path = source.name ∧ u.load.text? = .ok source.text := by
  rcases Importer.call_cases ⟨registry, setup.settings, t⟩ memory specifier previous with
    ⟨⟨f, hfailed⟩, -, -⟩ | ⟨u, text, hfind, -, htext, hcall⟩
  · rw [answered] at hfailed
    cases hfailed
  · rw [hcall] at answered
    obtain rfl := Except.ok.inj answered
    obtain ⟨hmodule, hkey⟩ := (Registry.find?_build_iff built).1 hfind
    obtain ⟨w, hw, rfl⟩ := List.mem_map.1 hmodule
    rw [Target.path_load] at hkey
    exact ⟨w, hw, hkey, htext⟩

/-- A prepared pass completes if every target is compiled to something. -/
lemma Prepared.completes (setup : Setup) (prepared : Prepared setup.settings c loaded registry)
    (compiled : ∀ t ∈ setup.settings.rendered c,
      ∃ output, t.compiled registry setup.settings setup.compiler = .ok output) :
    ∃ p, Completes setup c loaded registry p ∧
      (run setup c).result = .ok (prune (setup.settings.spared c) p).summary ∧
      (run setup c).context = (prune (setup.settings.spared c) p).context := by
  rcases prepared.run_cases with hcompletes | ⟨_, t, _, f, _, interrupted, -, -⟩
  · exact hcompletes
  · have ht := interrupted.mem_rendered (List.mem_append_right _ List.mem_cons_self)
    obtain ⟨output, hok⟩ := compiled t ht
    rw [interrupted.fails] at hok
    cases hok

section Rearranged

variable (completes : Completes setup c loaded registry p)
  (completes' : Completes { setup with timing := timing } c loaded registry p')

include completes completes'

lemma Completes.wasUsed_eq {u : Target} (hu : u ∈ setup.settings.modules c) :
    p.usage.wasUsed u.path = p'.usage.wasUsed u.path :=
  Bool.eq_iff_iff.2
    ((completes.wasUsed_iff_imported hu).trans (completes'.wasUsed_iff_imported hu).symm)

/-- Passes that complete with different timing report the same. -/
theorem Completes.summary_agrees :
    (prune (setup.settings.spared c) p).summary.Agrees
      (prune (setup.settings.spared c) p').summary := by
  have hused : ∀ u ∈ setup.settings.spared c,
      p.usage.wasUsed u.path = p'.usage.wasUsed u.path := fun u hu =>
    completes.wasUsed_eq completes' (Settings.mem_spared.1 hu).1
  refine ⟨fun source => Option.ext fun out => ?_, fun source => ?_, ?_, ?_⟩
  · exact completes.find?_compiled.trans completes'.find?_compiled.symm
  · exact completes.mem_emptied.trans completes'.mem_emptied.symm
  · rw [summary_prune, summary_prune]
    exact congrArg (List.map Target.path) (List.filter_congr hused)
  · rw [summary_prune, summary_prune]
    exact congrArg (List.map Target.path)
      (List.filter_congr fun u hu => congrArg (!·) (hused u hu))

/-- Passes that complete with different timing leave the same behind, if outputs are apart. -/
theorem Completes.context_agrees
    (apart : setup.settings.OutputsApart c (setup.settings.selectCandidates c)) :
    (prune (setup.settings.spared c) p).context.Agrees
      (prune (setup.settings.spared c) p').context := by
  have hremoved := (completes.summary_agrees completes').removed
  refine ⟨fun q => Option.ext fun u => ?_, fun e => ?_⟩
  · rw [completes.get?_iff apart, hremoved]
    exact (completes'.get?_iff apart).symm
  · rw [completes.mem_graph_iff, hremoved]
    exact completes'.mem_graph_iff.symm

end Rearranged

/-- **The order of targets does not change a successful pass**, if outputs are apart from the other
candidates: with every other timing it succeeds as well, with a report that says the same, the same
targets at the same paths, and the same edges.  Whatever was rendered before, an import gives the
text of a candidate as it was when the pass began. -/
theorem run_agrees_of_perm {summary : Summary}
    (apart : setup.settings.OutputsApart c (setup.settings.selectCandidates c))
    (success : (run setup c).result = .ok summary) :
    (∀ timing : Timing,
      ∃ summary', (run { setup with timing := timing } c).result = .ok summary' ∧
        summary.Agrees summary' ∧
        (run setup c).context.Agrees (run { setup with timing := timing } c).context) ∧
      ∃ registry, Registry.build setup.settings (setup.settings.modules c) = .ok registry ∧
        ∀ t ∈ setup.settings.rendered c, ∀ memory specifier previous source,
          ((Importer.mk registry setup.settings t).call memory specifier previous).answer
              = .ok source →
            ∃ u ∈ setup.settings.selectCandidates c,
              setup.settings.moduleKey u.path = source.name ∧
                u.load.text? = .ok source.text := by
  obtain ⟨loaded, registry, prepared⟩ := exists_prepared success
  refine ⟨?_, registry, prepared.built, fun t _ memory specifier previous source =>
    exists_candidate_of_call prepared.built⟩
  intro timing
  rcases prepared.run_cases with ⟨p, completes, hresult, hcontext⟩ | ⟨-, -, -, f, -, -, hresult, -⟩
  · obtain ⟨p', completes', hresult', hcontext'⟩ :=
      prepared.completes { setup with timing := timing } fun t ht => completes.exists_output ht
    obtain rfl := Except.ok.inj (hresult.symm.trans success)
    rw [hcontext, hcontext']
    exact ⟨_, hresult', completes.summary_agrees completes',
      completes.context_agrees completes' apart⟩
  · rw [hresult] at success
    cases success

end Pass

/-! ### An import that was compiled before

`main` imports `base`, and both are rendered.  In the order of the table the output of `base` has
replaced its source when `main` is compiled; in the reverse order it has not.  An output is marked,
so that it would be seen if it were imported. -/

namespace Order

def setup (arrange : List Target → List Target) : Setup where
  settings := .default
  compiler r :=
    let mark (text : Text) : Bytes := Utf8.encode (text ++ ['!'])
    if r.rootPath = "/main.scss".toList then
      .ask "./base".toList none fun
        | .ok source => .done (mark (source.text ++ r.content))
        | .error f => .fail f
    else .done (mark r.content)
  declines _ := false
  timing := .oneByOne arrange

def context : Context := .ofTargets [
  .fresh "base.scss".toList (Utf8.encode "base ".toList) false,
  .fresh "main.scss".toList (Utf8.encode "main".toList) false]

theorem run_agrees_reverse :
    ∃ summary summary', (Pass.run (setup id) context).result = .ok summary ∧
      (Pass.run (setup .reverse) context).result = .ok summary' ∧ summary.Agrees summary' ∧
      (Pass.run (setup .reverse) context).context.dataAt "base.scss".toList
        = some (Utf8.encode "base !".toList) ∧
      (Pass.run (setup .reverse) context).context.dataAt "main.scss".toList
        = some (Utf8.encode "base main!".toList) := by
  have apart : (setup id).settings.OutputsApart context
      ((setup id).settings.selectCandidates context) := by
    constructor <;> decide +kernel
  have hsuccess : ((Pass.run (setup id) context).result.toOption).isSome = true := by
    decide +kernel
  cases success : (Pass.run (setup id) context).result with
  | error f =>
    rw [success] at hsuccess
    cases hsuccess
  | ok summary =>
    obtain ⟨summary', hresult, hsummary, hcontext⟩ :=
      (Pass.run_agrees_of_perm apart success).1 (.oneByOne .reverse)
    have hbase : (Pass.run (setup id) context).context.dataAt "base.scss".toList
        = some (Utf8.encode "base !".toList) := by decide +kernel
    have hmain : (Pass.run (setup id) context).context.dataAt "main.scss".toList
        = some (Utf8.encode "base main!".toList) := by decide +kernel
    rw [Context.dataAt, hcontext.targets] at hbase hmain
    exact ⟨summary, summary', rfl, hresult, hsummary, hbase, hmain⟩

end Order

end StyleBuild
