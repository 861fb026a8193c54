import StyleBuild.Proofs.Build.Placement
import StyleBuild.Proofs.Settings.Accepted

/-!
# Outputs among other targets

Outputs, sources and targets that are pruned share one table.  An output replaces whatever is at its
path, and later in the pass a source or an unused target may be taken out at that path again.  So
the suffix of output paths can make a pass lose what it should keep, and `not_forall_losesNothing`
is a pass after which an output that was reported is not there.

`losesNothing_iff` says exactly when nothing is lost: the outputs agree with the other targets and
with each other wherever they meet (`Compatible`).  Without a suffix they never meet anything but
their own source (`losesNothing_of_no_suffix`).

The data at one path after all targets were taken up is traced in `dataAt_concludeAll`: it is what
the last target that touches the path leaves there (`get?_concludeAll`).
-/

namespace StyleBuild

lemma Progress.SameTable.dataAt {p q : Progress} (same : p.SameTable q) (path : Text) :
    p.context.dataAt path = q.context.dataAt path :=
  congrArg (Option.map Target.data) (same.get? path)

namespace Pass

variable {setup : Setup} {registry : Registry} {t : Target} {ts : List Target} {p p' : Progress}
  {c loaded : Context} {q : Text}

/-! ## One path while targets are taken up -/

/-- What a target that touches a path leaves there: its output, or nothing where its source was. -/
def Leaves (setup : Setup) (registry : Registry) (t : Target) (q : Text) (data : Option Bytes) :
    Prop :=
  (∃ output, Writes setup registry t q output ∧ data = some output) ∨
    ((∀ output, ¬ Writes setup registry t q output) ∧ t.path = q ∧ data = none)

lemma LeavesTarget.leaves (writes : ∀ path, setup.declines path = false)
    (h : LeavesTarget setup registry t q (c.get? q)) :
    Leaves setup registry t q (c.dataAt q) := by
  rcases h with ⟨output, hwrites, hget⟩ | ⟨hnot, hpath, hget⟩
  · refine .inl ⟨output, hwrites, ?_⟩
    rw [Context.dataAt, hget, Setup.placed_of_writes writes]
    rfl
  · refine .inr ⟨hnot, hpath, ?_⟩
    rw [Context.dataAt, hget]
    rfl

/-- **What rendering all targets leaves at a path** is what the last one that touches it leaves. -/
theorem dataAt_concludeAll (writes : ∀ path, setup.declines path = false)
    (h : concludeAll setup registry ts p = (none, p')) :
    ((∀ t ∈ ts, ¬ Touches setup registry t q) ∧ p'.context.dataAt q = p.context.dataAt q) ∨
      ∃ before t after, ts = before ++ t :: after ∧
        (∀ u ∈ after, ¬ Touches setup registry u q) ∧
          Leaves setup registry t q (p'.context.dataAt q) := by
  rcases get?_concludeAll (q := q) h with
    ⟨huntouched, hget⟩ | ⟨before, t, after, hsplit, hafter, hleaves⟩
  · refine .inl ⟨huntouched, ?_⟩
    rw [Context.dataAt, Context.dataAt, hget]
  · exact .inr ⟨before, t, after, hsplit, hafter, hleaves.leaves writes⟩

lemma concludeAll_append_eq_none {us : List Target}
    (h : concludeAll setup registry (ts ++ us) p = (none, p')) :
    ∃ p₁, concludeAll setup registry ts p = (none, p₁) ∧
      concludeAll setup registry us p₁ = (none, p') := by
  induction ts generalizing p with
  | nil => exact ⟨p, rfl, h⟩
  | cons t ts ih =>
    obtain ⟨p₁, hone, hrest⟩ := concludeAll_cons_eq_none h
    obtain ⟨p₂, hts, hus⟩ := ih hrest
    exact ⟨p₂, by rw [concludeAll, hone]; exact hts, hus⟩

lemma dataAt_prune (us : List Target) (p : Progress) (q : Text) :
    (prune us p).context.dataAt q =
      if q ∈ (prune us p).summary.removed then none else p.context.dataAt q := by
  rw [context_prune, Context.dataAt_remove]

/-! ## What a pass may lose -/

/-- The targets that are no candidates keep their data, and every reported output is at its path. -/
structure LosesNothing (setup : Setup) (c : Context) (registry : Registry) (summary : Summary)
    (final : Context) : Prop where
  others : ∀ t ∈ c.targets.values, setup.settings.isCandidate t = false →
    final.dataAt t.path = some t.data
  outputs : ∀ source out, summary.compiled.find? source = some out →
    ∃ t ∈ setup.settings.modules c, t.path = source ∧ ∃ output,
      t.compiled registry setup.settings setup.compiler = .ok output ∧
        final.dataAt out = some output

/-- The outputs agree with whatever they meet in the table: with the data of other targets and with
each other.  None is at a path that is pruned, and none stays behind at the path of a source that is
rendered later. -/
structure Compatible (setup : Setup) (c : Context) (registry : Registry) (removed : List Text) :
    Prop where
  others : ∀ t ∈ setup.settings.rendered c, ∀ u ∈ c.targets.values,
    setup.settings.isCandidate u = false →
      ∀ output, Writes setup registry t u.path output → output = u.data
  agree : ∀ t ∈ setup.settings.rendered c, ∀ u ∈ setup.settings.rendered c, ∀ q output output',
    Writes setup registry t q output → Writes setup registry u q output' → output = output'
  pruned : ∀ t ∈ setup.settings.rendered c, ∀ q output, Writes setup registry t q output →
    q ∉ removed
  sources : ∀ before u after, setup.arrange (setup.settings.rendered c) = before ++ u :: after →
    (∃ t ∈ before, ∃ output, Writes setup registry t u.path output) →
      ∃ t ∈ u :: after, ∃ output, Writes setup registry t u.path output

section Completes

variable (keyed : c.Keyed) (writes : ∀ path, setup.declines path = false)
  (completes : Completes setup c loaded registry p)

include completes

include keyed in
/-- Rendering begins with the data of the context. -/
lemma Completes.dataAt_loaded (q : Text) : loaded.dataAt q = c.dataAt q := by
  have hdata : Target.data ∘ setup.settings.loadCandidate = Target.data :=
    funext fun u => setup.settings.data_loadCandidate u
  rw [Context.dataAt, get?_loaded keyed (completes.loads setup.timing), Option.map_map, hdata,
    Context.dataAt]

/-- If nothing is lost, every output is at its path in the end. -/
lemma Completes.dataAt_of_writes
    (nothing : LosesNothing setup c registry (prune (setup.settings.spared c) p).summary
      (prune (setup.settings.spared c) p).context)
    (ht : t ∈ setup.settings.rendered c) {output : Bytes}
    (hwrites : Writes setup registry t q output) :
    (prune (setup.settings.spared c) p).context.dataAt q = some output := by
  obtain ⟨u, hu, hpath, output', hok, hdata⟩ := nothing.outputs t.path q
    (completes.find?_compiled.2 ⟨t, ht, rfl, output, hwrites⟩)
  obtain rfl := Settings.eq_of_path_eq completes.built hu (Settings.mem_rendered.1 ht).1 hpath
  rw [hdata, Except.ok.inj (hok.symm.trans hwrites.1)]

include writes

/-- If nothing is lost, the outputs are compatible. -/
theorem Completes.compatible_of_losesNothing
    (nothing : LosesNothing setup c registry (prune (setup.settings.spared c) p).summary
      (prune (setup.settings.spared c) p).context) :
    Compatible setup c registry (prune (setup.settings.spared c) p).summary.removed := by
  have hwritten := fun {t q} => completes.dataAt_of_writes (t := t) (q := q) nothing
  refine ⟨?_, ?_, ?_, ?_⟩
  · intro t ht u hu hcandidate output hwrites
    have hdata := nothing.others u hu hcandidate
    rw [hwritten ht hwrites] at hdata
    exact Option.some.inj hdata
  · intro t ht u hu q output output' hwrites hwrites'
    have hdata := hwritten ht hwrites
    rw [hwritten hu hwrites'] at hdata
    exact (Option.some.inj hdata).symm
  · intro t ht q output hwrites hremoved
    have hdata := hwritten ht hwrites
    rw [dataAt_prune, if_pos hremoved] at hdata
    cases hdata
  · rintro before u after horder ⟨t, ht, output, hwrites⟩
    obtain ⟨journal, q, hrender, same⟩ := completes.renders
    rw [horder] at hrender
    obtain ⟨p₁, -, hrest⟩ := concludeAll_append_eq_none hrender
    rcases dataAt_concludeAll writes (q := u.path) hrest with
      ⟨huntouched, -⟩ | ⟨before', v, after', hsplit, -, ⟨output', hv, -⟩ | ⟨-, -, hnone⟩⟩
    · exact absurd (.inl rfl) (huntouched u List.mem_cons_self)
    · refine ⟨v, ?_, output', hv⟩
      rw [hsplit]
      exact List.mem_append_right _ List.mem_cons_self
    · have hmem : t ∈ setup.settings.rendered c := by
        rw [← Setup.mem_arrange, horder]
        exact List.mem_append_left _ ht
      have hdata := hwritten hmem hwrites
      rw [dataAt_prune, same.dataAt, hnone, ite_self] at hdata
      cases hdata

include keyed in
/-- If the outputs are compatible, nothing is lost. -/
theorem Completes.losesNothing_of_compatible
    (compatible : Compatible setup c registry
      (prune (setup.settings.spared c) p).summary.removed) :
    LosesNothing setup c registry (prune (setup.settings.spared c) p).summary
      (prune (setup.settings.spared c) p).context := by
  obtain ⟨journal, p', hrender, same⟩ := completes.renders
  have hmem : ∀ {before v after},
      setup.arrange (setup.settings.rendered c) = before ++ v :: after →
        v ∈ setup.settings.rendered c := by
    intro before v after horder
    rw [← Setup.mem_arrange, horder]
    exact List.mem_append_right _ List.mem_cons_self
  constructor
  · intro u hu hcandidate
    have hne := fun {t} => path_ne_of_not_isCandidate (t := t) keyed hu hcandidate
    have hkept : u.path ∉ (prune (setup.settings.spared c) p).summary.removed := by
      intro hremoved
      obtain ⟨w, hspared, hpath, -⟩ := mem_removed_prune.1 hremoved
      exact hne (Settings.mem_spared.1 hspared).1 hpath
    rw [dataAt_prune, if_neg hkept, same.dataAt]
    rcases dataAt_concludeAll writes (q := u.path) hrender with
      ⟨-, hdata⟩ | ⟨before, v, after, horder, -, ⟨output, hv, hdata⟩ | ⟨-, hpath, -⟩⟩
    · rw [hdata, completes.dataAt_loaded keyed, Context.dataAt, keyed.mem_values_iff.1 hu]
      rfl
    · rw [hdata, compatible.others v (hmem horder) u hu hcandidate output hv]
    · exact absurd hpath (hne (Settings.mem_rendered.1 (hmem horder)).1)
  · intro source out hreport
    obtain ⟨t, ht, hsource, output, hwrites⟩ := completes.find?_compiled.1 hreport
    refine ⟨t, (Settings.mem_rendered.1 ht).1, hsource, output, hwrites.1, ?_⟩
    have horder : t ∈ setup.arrange (setup.settings.rendered c) := Setup.mem_arrange.2 ht
    rw [dataAt_prune, if_neg (compatible.pruned t ht out output hwrites), same.dataAt]
    rcases dataAt_concludeAll writes (q := out) hrender with
      ⟨huntouched, -⟩ | ⟨before, v, after, hsplit, hafter, ⟨output', hv, hdata⟩ | ⟨hnot, rfl, -⟩⟩
    · exact absurd (.inr ⟨output, hwrites⟩) (huntouched t horder)
    · rw [hdata, compatible.agree t ht v (hmem hsplit) out output output' hwrites hv]
    · -- The last one takes its source out, so `t` came before it, and a later one writes again.
      have hbefore : t ∈ before := by
        rw [hsplit, List.mem_append, List.mem_cons] at horder
        rcases horder with h | rfl | h
        · exact h
        · exact absurd hwrites (hnot output)
        · exact absurd (.inr ⟨output, hwrites⟩) (hafter t h)
      obtain ⟨w, hw, output', hagain⟩ :=
        compatible.sources before v after hsplit ⟨t, hbefore, output, hwrites⟩
      rcases List.mem_cons.1 hw with rfl | hw
      · exact absurd hagain (hnot output')
      · exact absurd (.inr ⟨output', hagain⟩) (hafter w hw)

end Completes

/-- **A pass loses nothing exactly when its outputs are compatible.** -/
theorem losesNothing_iff {summary : Summary} (keyed : c.Keyed)
    (writes : ∀ path, setup.declines path = false)
    (success : (run setup c).result = .ok summary) :
    ∃ registry, Registry.build setup.settings (setup.settings.modules c) = .ok registry ∧
      (LosesNothing setup c registry summary (run setup c).context ↔
        Compatible setup c registry summary.removed) := by
  obtain ⟨loaded, registry, p, completes, rfl, hcontext⟩ := exists_completes success
  rw [hcontext]
  exact ⟨registry, completes.built,
    completes.compatible_of_losesNothing writes,
    completes.losesNothing_of_compatible keyed writes⟩

/-- **Without a suffix a pass loses nothing.**  Every output then takes the place of its source. -/
theorem losesNothing_of_no_suffix {summary : Summary} (keyed : c.Keyed)
    (writes : ∀ path, setup.declines path = false)
    (plain : setup.settings.rename = none)
    (success : (run setup c).result = .ok summary) :
    ∃ registry, Registry.build setup.settings (setup.settings.modules c) = .ok registry ∧
      LosesNothing setup c registry summary (run setup c).context := by
  obtain ⟨loaded, registry, p, completes, rfl, hcontext⟩ := exists_completes success
  rw [hcontext]
  refine ⟨registry, completes.built, completes.losesNothing_of_compatible keyed writes ?_⟩
  have hpath : ∀ {t q output}, Writes setup registry t q output → t.path = q :=
    fun h => by
      have hplaced := h.2.2
      rw [Settings.outputPath, plain] at hplaced
      exact hplaced
  have hmodule : ∀ {t}, t ∈ setup.settings.rendered c → t ∈ setup.settings.modules c :=
    fun ht => (Settings.mem_rendered.1 ht).1
  refine ⟨?_, ?_, ?_, ?_⟩
  · intro t ht u hu hcandidate output hwrites
    exact absurd (hpath hwrites) (path_ne_of_not_isCandidate keyed hu hcandidate (hmodule ht))
  · intro t ht u hu q output output' hwrites hwrites'
    obtain rfl := Settings.eq_of_path_eq completes.built (hmodule ht) (hmodule hu)
      ((hpath hwrites).trans (hpath hwrites').symm)
    exact hwrites.output_eq hwrites'
  · intro t ht q output hwrites hremoved
    obtain ⟨w, hspared, hw, -⟩ := mem_removed_prune.1 hremoved
    obtain rfl := Settings.eq_of_path_eq completes.built (hmodule ht)
      (Settings.mem_spared.1 hspared).1 ((hpath hwrites).trans hw.symm)
    exact Settings.notMem_spared ht hspared
  · rintro before u after horder ⟨t, ht, output, hwrites⟩
    have hmem : ∀ w ∈ before ++ u :: after, w ∈ setup.settings.modules c := by
      intro w hw
      rw [← horder, Setup.mem_arrange] at hw
      exact hmodule hw
    obtain rfl := Settings.eq_of_path_eq completes.built
      (hmem t (List.mem_append_left _ ht))
      (hmem u (List.mem_append_right _ List.mem_cons_self)) (hpath hwrites)
    exact ⟨t, List.mem_cons_self, output, hwrites⟩

end Pass

/-! ### A suffix that makes one source the output of another

With the suffix `.min.scss` the output of `app.scss` is at `app.min.scss`, where another stylesheet
is.  Nothing is lost when that one is rendered first; the output is lost when it is pruned. -/

namespace Outputs

def settings : Settings := { Settings.default with rename := some ".min.scss".toList }

/-- Every stylesheet is compiled to itself. -/
def setup (arrange : List Target → List Target) : Setup where
  settings := settings
  compiler r := .done (Utf8.encode r.content)
  declines _ := false
  timing := .oneByOne arrange

def app : Target := .fresh "app.scss".toList (Utf8.encode ['a']) false

def minified (includeOnly : Bool) : Target :=
  .fresh "app.min.scss".toList (Utf8.encode ['b']) includeOnly

def script : Target := .fresh "app.js".toList (Utf8.encode ['c']) false

def context (includeOnly : Bool) : Context := .ofTargets [app, minified includeOnly, script]

lemma settings_accepted : settings.Accepted :=
  ⟨.map [(.text "rename".toList, .scalar (.text ".min.scss".toList))], rfl⟩

theorem losesNothing_reverse :
    ∃ summary registry, (Pass.run (setup .reverse) (context false)).result = .ok summary ∧
      Pass.LosesNothing (setup .reverse) (context false) registry summary
        (Pass.run (setup .reverse) (context false)).context := by
  have keyed : (context false).Keyed := Context.keyed_ofTargets _
  have hremoved : (Pass.run (setup .reverse) (context false)).result.toOption.map (·.removed)
      = some [] := by decide +kernel
  cases success : (Pass.run (setup .reverse) (context false)).result with
  | error f =>
    rw [success] at hremoved
    cases hremoved
  | ok summary =>
    rw [success] at hremoved
    have hnone : summary.removed = [] := Option.some.inj hremoved
    obtain ⟨registry, -, hiff⟩ := Pass.losesNothing_iff keyed (fun _ => rfl) success
    refine ⟨summary, registry, rfl, hiff.2 ?_⟩
    have hrendered : settings.rendered (context false) = [app.load, (minified false).load] := by
      decide +kernel
    have hother : ∀ u ∈ (context false).targets.values,
        settings.isCandidate u = false → u.path = "app.js".toList := by decide +kernel
    have hplace : ∀ t ∈ settings.rendered (context false), ∀ q output,
        Pass.Writes (setup .reverse) registry t q output →
          t = app.load ∧ q = "app.min.scss".toList ∨
            t = (minified false).load ∧ q = "app.min.min.scss".toList := by
      rintro t ht q output ⟨-, -, rfl⟩
      rw [hrendered, List.mem_cons, List.mem_singleton] at ht
      rcases ht with rfl | rfl
      · exact .inl ⟨rfl, by decide⟩
      · exact .inr ⟨rfl, by decide⟩
    refine ⟨?_, ?_, ?_, ?_⟩
    · intro t ht u hu hcandidate output hwrites
      rcases hplace t ht _ _ hwrites with ⟨-, hq⟩ | ⟨-, hq⟩
      · exact absurd ((hother u hu hcandidate).symm.trans hq) (by decide)
      · exact absurd ((hother u hu hcandidate).symm.trans hq) (by decide)
    · intro t ht u hu q output output' hwrites hwrites'
      rcases hplace t ht _ _ hwrites with ⟨rfl, rfl⟩ | ⟨rfl, rfl⟩
      · obtain ⟨rfl, -⟩ := (hplace u hu _ _ hwrites').resolve_right fun h => absurd h.2 (by decide)
        exact hwrites.output_eq hwrites'
      · obtain ⟨rfl, -⟩ := (hplace u hu _ _ hwrites').resolve_left fun h => absurd h.2 (by decide)
        exact hwrites.output_eq hwrites'
    · intro t ht q output hwrites hq
      rw [hnone] at hq
      cases hq
    · -- Only `minified` comes before another source, and its output is not there.
      rintro before u after horder ⟨t, ht, output, hwrites⟩
      have hreverse : [(minified false).load, app.load] = before ++ u :: after := by
        rw [← horder, Setup.arrange]
        refine Eq.trans ?_ (Timing.finished_oneByOne (List.reverse_perm _)).symm
        exact (congrArg List.reverse hrendered).symm
      cases before with
      | nil => exact absurd ht List.not_mem_nil
      | cons v before =>
        obtain ⟨rfl, hrest⟩ := List.cons.inj hreverse
        cases before with
        | nil =>
          obtain ⟨rfl, -⟩ := List.cons.inj hrest
          obtain rfl := List.mem_singleton.1 ht
          have hmem : (minified false).load ∈ settings.rendered (context false) := by
            rw [hrendered]
            exact List.mem_cons_of_mem _ List.mem_cons_self
          rcases hplace _ hmem _ _ hwrites with ⟨-, hq⟩ | ⟨-, hq⟩
          · exact absurd hq (by decide)
          · exact absurd hq (by decide)
        | cons w before =>
          have hlength := congrArg List.length (List.cons.inj hrest).2
          simp at hlength

/-- **A pass can lose an output that it has reported.**  Here `app.min.scss` is imported by nothing,
so it is pruned, and with it the output of `app.scss`. -/
theorem not_forall_losesNothing :
    ¬ ∀ (setup : Setup) (c : Context) (summary : Summary) (registry : Registry), c.Keyed →
      setup.settings.Accepted → (∀ path, setup.declines path = false) →
      (Pass.run setup c).result = .ok summary →
      Registry.build setup.settings (setup.settings.modules c) = .ok registry →
        Pass.LosesNothing setup c registry summary (Pass.run setup c).context := by
  intro h
  have hreport : (Pass.run (setup id) (context true)).result.toOption.map
      (fun summary => summary.compiled.find? "app.scss".toList)
        = some (some "app.min.scss".toList) := by decide +kernel
  have hlost :
      (Pass.run (setup id) (context true)).context.dataAt "app.min.scss".toList = none := by
    decide +kernel
  cases success : (Pass.run (setup id) (context true)).result with
  | error f =>
    rw [success] at hreport
    cases hreport
  | ok summary =>
    rw [success] at hreport
    have hfind := Option.some.inj hreport
    obtain ⟨loaded, registry, p, completes, -⟩ := Pass.exists_completes success
    have nothing := h (setup id) (context true) summary registry (Context.keyed_ofTargets _)
      settings_accepted (fun _ => rfl) success completes.built
    obtain ⟨-, -, -, output, -, hdata⟩ := nothing.outputs _ _ hfind
    rw [hlost] at hdata
    cases hdata

end Outputs

end StyleBuild
