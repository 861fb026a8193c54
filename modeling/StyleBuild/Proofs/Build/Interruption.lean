import StyleBuild.Proofs.Build.Placement

/-!
# A pass that is cut short

When a target cannot be compiled, the pass fails as soon as that target is taken up.  Nothing is
undone and no output is put in its place any more: the outputs of the targets that were taken up
before it stay, the target itself and those after it stay as sources, and nothing is pruned, not
even what no target has imported.

`Interrupted` says how far the pass came.  What is in the table then is `Remains`, which knows
nothing of the target that failed or of those after it (`Interrupted.get?_iff`).  Since outputs are
apart, what was not taken up was not touched either (`Interrupted.not_touches`).

The ledger does not stop there.  Targets after the one that failed may have been compiled before it
was taken up, and workers that are busy are not interrupted.  So what these targets import is in the
graph, although their outputs are nowhere (`Interrupted.mem_graph_iff`).
-/

namespace StyleBuild

namespace Pass

variable {setup : Setup} {c loaded : Context} {registry : Registry} {before : List Target}
  {earlier later : List Turn} {t u : Target} {f : Failure} {p : Progress} {q : Text}

/-- What is in the table, and at which path, when some targets were rendered well and nothing was
pruned. -/
inductive Remains (setup : Setup) (c : Context) (registry : Registry) (before : List Target) :
    Text → Target → Prop
  /-- An output is a new target. -/
  | output {w : Target} {q : Text} {output : Bytes} : w ∈ before →
      Writes setup registry w q output →
      Remains setup c registry before q ⟨q, output, false, some output, none⟩
  /-- What was not touched is as it was, but candidates are loaded. -/
  | source {v : Target} {q : Text} : c.get? q = some v →
      (∀ w ∈ before, ¬ Touches setup registry w q) →
      Remains setup c registry before q (setup.settings.loadCandidate v)

section Interrupted

variable (interrupted : Interrupted setup c loaded registry earlier t later f p)

include interrupted

/-- The edges of all compilations are in the graph: of the targets that were compiled before the
failure was taken up, and of those that were begun by then. -/
lemma Interrupted.mem_graph_iff {e : Edge} :
    e ∈ p.context.graph ↔ e ∈ c.graph ∨ e ∈ edges setup registry
      (Turn.compiled earlier ++ (Turn.compiled later).filter setup.timing.compiles) := by
  have hgraph : p.context.graph = p.ledger.graph := rfl
  rw [hgraph, interrupted.ledger, Ledger.mem_recordAll]

/-- What was taken up was compiled before, also the target that failed. -/
lemma Interrupted.subset_compiled : t :: Turn.finished earlier ⊆ Turn.compiled earlier := by
  have ahead := (setup.timing.schedule (setup.settings.rendered c)).ahead
  rw [interrupted.turns] at ahead
  exact List.cons_subset.2 ⟨ahead _ _ _ rfl, ahead.of_append.finished_subset⟩

lemma Interrupted.mem_modules (hu : u ∈ t :: Turn.finished later ++ setup.settings.spared c) :
    u ∈ setup.settings.modules c := by
  rcases List.mem_append.1 hu with hlater | hspared
  · exact (Settings.mem_rendered.1
      (interrupted.mem_rendered (List.mem_append_right _ hlater))).1
  · exact (Settings.mem_spared.1 hspared).1

variable (keyed : c.Keyed)

include keyed

/-- What was not taken up before the failure is not among what was. -/
lemma Interrupted.notMem_earlier (hu : u ∈ t :: Turn.finished later ++ setup.settings.spared c) :
    u ∉ Turn.finished earlier := by
  intro hearlier
  have hrendered := interrupted.mem_rendered (List.mem_append_left _ hearlier)
  rcases List.mem_append.1 hu with hlater | hspared
  · have hnodup : (setup.arrange (setup.settings.rendered c)).Nodup :=
      (setup.perm_arrange _).nodup_iff.2
        (Settings.nodup_paths_rendered keyed setup.settings).of_map
    rw [interrupted.arrange_eq] at hnodup
    exact (List.nodup_append.1 hnodup).2.2 _ hearlier _ hlater rfl
  · exact Settings.notMem_spared hrendered hspared

variable (apart : setup.settings.OutputsApart c c.targets.values)

include apart

/-- **What was not taken up before the failure was not touched**: it is where it was, and an output
is not at the path of another target. -/
theorem Interrupted.not_touches (hu : u ∈ t :: Turn.finished later ++ setup.settings.spared c) :
    ∀ w ∈ Turn.finished earlier, ¬ Touches setup registry w u.path := by
  have built := interrupted.prepared.built
  have hmodule := interrupted.mem_modules hu
  intro w hw htouches
  have hrendered := interrupted.mem_rendered (List.mem_append_left _ hw)
  have hsame : u = w := by
    rcases htouches with hpath | ⟨output, hwrites⟩
    · exact Settings.eq_of_path_eq built hmodule (Settings.mem_rendered.1 hrendered).1 hpath.symm
    · exact eq_of_writes_path apart.candidates built hrendered hmodule hwrites
  rw [← hsame] at hw
  exact interrupted.notMem_earlier keyed hu hw

variable (writes : ∀ path, setup.declines path = false)

include writes

/-- **What is in the table after a failure** is what remains. -/
theorem Interrupted.get?_iff :
    p.context.get? q = some u ↔ Remains setup c registry (Turn.finished earlier) q u := by
  obtain ⟨journal, p', hrender, same⟩ := interrupted.renders
  have hearlier : ∀ w ∈ Turn.finished earlier, w ∈ setup.settings.rendered c :=
    fun w hw => interrupted.mem_rendered (List.mem_append_left _ hw)
  have hget := get?_concludeAll_iff (q := q) (u := u) hrender fun w hw t ht q output =>
    eq_of_touches apart.candidates interrupted.prepared.built (hearlier w hw) (hearlier t ht)
  rw [same.get?, hget]
  simp only [get?_loaded keyed (interrupted.prepared.loads setup.timing)]
  constructor
  · rintro (⟨w, hw, output, hwrites, rfl⟩ | ⟨huntouched, hu⟩)
    · rw [setup.placed_of_writes writes]
      exact .output hw hwrites
    · obtain ⟨v, hv, rfl⟩ := Option.map_eq_some_iff.1 hu
      exact .source hv huntouched
  · rintro (⟨hw, hwrites⟩ | ⟨hv, huntouched⟩)
    · exact .inl ⟨_, hw, _, hwrites, (setup.placed_of_writes writes _ _).symm⟩
    · exact .inr ⟨huntouched, by rw [hv, Option.map_some]⟩

end Interrupted

/-- **A pass stops at the first target that fails**, if outputs are apart from all other targets.
When the pass got as far as rendering, it fails exactly when some target cannot be compiled, and its
failure is that of the first such target that is taken up.  Then the table is as it was before the
pass, but for the outputs of the targets that were taken up before that one, which have replaced
their sources; those that were compiled to nothing are gone.  The target that failed, those after
it, and all candidates that are not rendered are there with their data, whether they were compiled
by then or not.  The graph has all edges from before and all edges that were recorded: those of the
targets that were compiled before the failure was taken up, which are all that were taken up and
possibly more, and those of the targets after it whose compilation was begun by then. -/
theorem run_stops_at_first_failure (keyed : c.Keyed) (writes : ∀ path, setup.declines path = false)
    (apart : setup.settings.OutputsApart c c.targets.values)
    (prepared : Prepared setup.settings c loaded registry) :
    ((∃ f, (run setup c).result = .error f) ↔ ∃ t ∈ setup.settings.rendered c,
      ∃ f, t.compiled registry setup.settings setup.compiler = .error f) ∧
    ∀ f, (run setup c).result = .error f →
      ∃ earlier t later,
        (setup.timing.schedule (setup.settings.rendered c)).turns =
          earlier ++ .finish t :: later ∧
        (∀ w ∈ Turn.finished earlier, ∃ output,
          w.compiled registry setup.settings setup.compiler = .ok output) ∧
        t.compiled registry setup.settings setup.compiler = .error f ∧
        (∀ q u, (run setup c).context.get? q = some u ↔
          Remains setup c registry (Turn.finished earlier) q u) ∧
        (∀ w ∈ Turn.finished earlier,
          w.compiled registry setup.settings setup.compiler = .ok [] →
            (run setup c).context.get? w.path = none) ∧
        (∀ u ∈ t :: Turn.finished later ++ setup.settings.spared c,
          (run setup c).context.get? u.path = some u ∧ c.dataAt u.path = some u.data) ∧
        t :: Turn.finished earlier ⊆ Turn.compiled earlier ∧
        ∀ e, e ∈ (run setup c).context.graph ↔ e ∈ c.graph ∨ e ∈ edges setup registry
          (Turn.compiled earlier ++ (Turn.compiled later).filter setup.timing.compiles) := by
  refine ⟨prepared.exists_error_iff, fun f failure => ?_⟩
  obtain ⟨earlier, t, later, p, interrupted, hcontext⟩ := prepared.exists_interrupted failure
  obtain ⟨journal, p', hrender, -⟩ := interrupted.renders
  rw [hcontext]
  have hget : ∀ q u, p.context.get? q = some u ↔
      Remains setup c registry (Turn.finished earlier) q u :=
    fun q u => interrupted.get?_iff keyed apart writes
  refine ⟨earlier, t, later, interrupted.turns, exists_output_of_concludeAll hrender,
    interrupted.fails, hget, ?_, ?_, interrupted.subset_compiled,
    fun e => interrupted.mem_graph_iff⟩
  · intro w hw hempty
    refine Option.eq_none_iff_forall_ne_some.2 fun u hu => ?_
    have hremains := (hget _ _).1 hu
    cases hremains with
    | @output v _ output hv hwrites =>
      have hrendered : ∀ w ∈ Turn.finished earlier, w ∈ setup.settings.rendered c :=
        fun w hw => interrupted.mem_rendered (List.mem_append_left _ hw)
      obtain rfl := eq_of_touches apart.candidates prepared.built (hrendered v hv)
        (hrendered w hw) hwrites (.inl rfl)
      exact hwrites.2.1 (Except.ok.inj (hwrites.1.symm.trans hempty))
    | source hv huntouched => exact huntouched w hw (.inl rfl)
  · intro u hu
    obtain ⟨v, hv, hload⟩ := Option.map_eq_some_iff.1
      (Settings.map_get?_of_mem_modules keyed (interrupted.mem_modules hu))
    have hremains := Remains.source hv (interrupted.not_touches keyed apart hu)
    rw [hload] at hremains
    refine ⟨(hget _ _).2 hremains, ?_⟩
    rw [Context.dataAt, hv, Option.map_some, ← hload, Settings.data_loadCandidate]

end Pass

/-! ### A failure between two targets

`broken` is empty, and nothing can be made of that.  The output of `app` is there already when it is
taken up, and a worker is busy with `late`, which imports `part`.  So `late` is recorded but not
replaced, `never` is not even recorded, and neither `old`, which nothing imports, nor an edge to it
is pruned. -/

namespace Interruption

def compiler : Compiler := fun r =>
  if r.content = [] then .fail (.ofFault (.report "no rule".toList))
  else if r.content = "app".toList then .done (Utf8.encode r.content)
  else .ask "./part".toList none fun _ => .done (Utf8.encode r.content)

def sheet (path content : String) (includeOnly : Bool) : Target :=
  .fresh path.toList (Utf8.encode content.toList) includeOnly

def setup (compiler : Compiler) : Setup where
  settings := { Settings.default with rename := some ".css".toList }
  compiler := compiler
  declines _ := false
  timing := { Timing.oneByOne id with compiles := fun t => t.path = "late.scss".toList }

def app : Target := sheet "app.scss" "app" false

def broken : Target := sheet "broken.scss" "" false

def late : Target := sheet "late.scss" "late" false

def never : Target := sheet "never.scss" "never" false

def old : Target := sheet "old.scss" "" true

def context : Context where
  targets := (Context.ofTargets
    [app, broken, late, never, sheet "part.scss" "part" true, old]).targets
  graph := ⟨[⟨"index.html".toList, "old.scss".toList⟩]⟩

theorem run_stops_at_broken :
    let final := (Pass.run (setup compiler) context).context
    let css := Utf8.encode "app".toList
    (∃ f, (Pass.run (setup compiler) context).result = .error f) ∧
      final.get? "app.css".toList = some ⟨"app.css".toList, css, false, some css, none⟩ ∧
      final.get? "late.scss".toList = some late.load ∧
      final.get? "old.scss".toList = some old.load ∧
      ⟨"index.html".toList, "old.scss".toList⟩ ∈ final.graph ∧
      ⟨"late.scss".toList, "part.scss".toList⟩ ∈ final.graph ∧
      ⟨"never.scss".toList, "part.scss".toList⟩ ∉ final.graph := by
  intro final css
  have keyed : context.Keyed := fun _ _ h => Context.keyed_ofTargets _ h
  have apart : (setup compiler).settings.OutputsApart context context.targets.values := by
    constructor <;> decide +kernel
  -- The stages before the failure do not depend on the compiler.
  have hsmooth : (Pass.run (setup fun _ => .done []) context).result.toOption.isSome = true := by
    decide +kernel
  obtain ⟨summary, smooth⟩ : ∃ summary,
      (Pass.run (setup fun _ => .done []) context).result = .ok summary := by
    cases hresult : (Pass.run (setup fun _ => .done []) context).result with
    | error f =>
      rw [hresult] at hsmooth
      cases hsmooth
    | ok summary => exact ⟨summary, rfl⟩
  obtain ⟨loaded, registry, prepared⟩ := Pass.exists_prepared smooth
  have hrendered : (setup compiler).settings.rendered context
      = [app.load, broken.load, late.load, never.load] := by decide +kernel
  have happ : app.load.compiled registry (setup compiler).settings compiler = .ok css := rfl
  obtain ⟨f', hbroken⟩ :
      ∃ f', broken.load.compiled registry (setup compiler).settings compiler = .error f' := ⟨_, rfl⟩
  obtain ⟨hfails, hstops⟩ :=
    Pass.run_stops_at_first_failure keyed (fun _ => rfl) apart prepared
  have hmem : broken.load ∈ (setup compiler).settings.rendered context := by
    rw [hrendered]
    exact List.mem_cons_of_mem _ List.mem_cons_self
  obtain ⟨f, failure⟩ := hfails.2 ⟨_, hmem, f', hbroken⟩
  obtain ⟨earlier, t, later, hturns, hearlier, ht, hget, -, hkept, -, hgraph⟩ := hstops f failure
  have hsplit : [app.load, broken.load, late.load, never.load] =
      Turn.finished earlier ++ t :: Turn.finished later := by
    rw [← Turn.finished_finish, ← Turn.finished_append, ← hturns, hrendered]
    exact (Timing.finished_oneByOne (List.Perm.refl (id _))).symm
  -- The pass got past `app`, and not past `broken`.
  obtain ⟨hbefore, hafter⟩ : Turn.finished earlier = [app.load] ∧
      Turn.finished later = [late.load, never.load] := by
    cases hbefore : Turn.finished earlier with
    | nil =>
      rw [hbefore] at hsplit
      obtain ⟨rfl, -⟩ := List.cons.inj hsplit
      cases happ.symm.trans ht
    | cons w before =>
      rw [hbefore] at hsplit hearlier
      obtain ⟨rfl, hrest⟩ := List.cons.inj hsplit
      cases before with
      | nil => exact ⟨rfl, (List.cons.inj hrest).2.symm⟩
      | cons v before =>
        obtain ⟨rfl, -⟩ := List.cons.inj hrest
        obtain ⟨output, hok⟩ := hearlier _ (List.mem_cons_of_mem _ List.mem_cons_self)
        cases hbroken.symm.trans hok
  have hold : old.load ∈ (setup compiler).settings.spared context := by decide +kernel
  rw [hbefore] at hget
  rw [hafter] at hkept
  refine ⟨⟨f, failure⟩, ?_, ?_, ?_, ?_, ?_, ?_⟩
  · exact (hget _ _).2 (.output List.mem_cons_self ⟨happ, by decide, by decide⟩)
  · exact (hkept _ (List.mem_append_left _ (List.mem_cons_of_mem _ List.mem_cons_self))).1
  · exact (hkept _ (List.mem_append_right _ hold)).1
  · exact (hgraph _).2 (.inl List.mem_cons_self)
  · decide +kernel
  · decide +kernel

end Interruption

end StyleBuild
