import StyleBuild.Proofs.Build.Placement

/-!
# What survives a pass

After a pass the table holds the surviving build artifacts.  Where outputs are apart from all other
targets, this file says exactly what these are, path by path (`Pass.Survives`): the targets that are
no candidates, as they were; the outputs, loaded and with the bytes that their sources were compiled
to; and the retained candidates, which are loaded and otherwise as they were.  Nothing else is in
the table: not the sources of outputs that have another path, not what was compiled to nothing, and
not what was removed (`Pass.get?_run_iff_survives`).

The render loop and the pruning after it were followed in `Pass.Completes.get?_iff`.  What is left
to do is to match its result with the report.
-/

namespace StyleBuild

namespace Pass

variable {setup : Setup} {c loaded : Context} {registry : Registry} {p : Progress} {q : Text}
  {t u : Target}

/-- What is in the table after a pass with the given report, and at which path. -/
inductive Survives (setup : Setup) (c : Context) (registry : Registry) (summary : Summary) :
    Text → Target → Prop
  /-- What is no candidate is not touched, and not even loaded. -/
  | other {u : Target} : u ∈ c.targets.values → setup.settings.isCandidate u = false →
      Survives setup c registry summary u.path u
  /-- An output is a new target. -/
  | output {t : Target} {out : Text} {output : Bytes} : t ∈ setup.settings.rendered c →
      summary.compiled.find? t.path = some out →
      t.compiled registry setup.settings setup.compiler = .ok output →
      Survives setup c registry summary out ⟨out, output, false, some output, none⟩
  /-- What is retained was loaded. -/
  | retained {u : Target} : u ∈ setup.settings.selectCandidates c → u.path ∈ summary.retained →
      Survives setup c registry summary u.path u.load

/-! ## The report -/

/-- A candidate is rendered, retained or removed. -/
lemma mem_rendered_or (p : Progress) (hu : u ∈ setup.settings.modules c) :
    u ∈ setup.settings.rendered c ∨
      u.path ∈ (prune (setup.settings.spared c) p).summary.retained ∨
      u.path ∈ (prune (setup.settings.spared c) p).summary.removed := by
  cases hrendered : setup.settings.isRendered u with
  | true => exact .inl (Settings.mem_rendered.2 ⟨hu, hrendered⟩)
  | false =>
    right
    have hspared := Settings.mem_spared.2 ⟨hu, hrendered⟩
    cases hused : p.usage.wasUsed u.path with
    | true => exact .inl (mem_retained_prune.2 ⟨u, hspared, rfl, hused⟩)
    | false => exact .inr (mem_removed_prune.2 ⟨u, hspared, rfl, hused⟩)

section Completes

variable (completes : Completes setup c loaded registry p)

include completes

/-- What is retained is neither rendered nor removed. -/
lemma Completes.of_mem_retained (hu : u ∈ setup.settings.modules c)
    (retained : u.path ∈ (prune (setup.settings.spared c) p).summary.retained) :
    u ∈ setup.settings.spared c ∧
      u.path ∉ (prune (setup.settings.spared c) p).summary.removed := by
  obtain ⟨w, hspared, hpath, hused⟩ := mem_retained_prune.1 retained
  obtain rfl := Settings.eq_of_path_eq completes.built (Settings.mem_spared.1 hspared).1 hu hpath
  refine ⟨hspared, fun hremoved => ?_⟩
  obtain ⟨-, -, -, hunused⟩ := mem_removed_prune.1 hremoved
  rw [hused] at hunused
  cases hunused

/-! ## The table -/

variable (keyed : c.Keyed) (writes : ∀ path, setup.declines path = false)
  (apart : setup.settings.OutputsApart c c.targets.values)

include keyed writes apart

/-- What the report says is in the table is there. -/
theorem Completes.get?_of_survives
    (survives : Survives setup c registry (prune (setup.settings.spared c) p).summary q u) :
    (prune (setup.settings.spared c) p).context.get? q = some u := by
  have hcandidates := apart.candidates
  rw [completes.get?_iff hcandidates, get?_loaded keyed (completes.loads setup.timing)]
  cases survives with
  | @other u hu hcandidate =>
    have hne := fun {t} => path_ne_of_not_isCandidate (t := t) keyed hu hcandidate
    refine .inr ⟨fun hremoved => ?_, ?_, ?_⟩
    · obtain ⟨w, hspared, hpath, -⟩ := mem_removed_prune.1 hremoved
      exact hne (Settings.mem_spared.1 hspared).1 hpath
    · rintro w hw (hpath | ⟨output, hwrites⟩)
      · exact hne (Settings.mem_rendered.1 hw).1 hpath
      · exact hne (Settings.mem_rendered.1 hw).1 (apart.free w hw u hu hwrites.2.2)
    · rw [keyed.mem_values_iff.1 hu, Option.map_some, Settings.loadCandidate, hcandidate]
      rfl
  | @output t out output ht reported compiled =>
    obtain ⟨w, hw, hpath, output', hwrites⟩ := completes.find?_compiled.1 reported
    obtain rfl := Settings.eq_of_path_eq completes.built (Settings.mem_rendered.1 hw).1
      (Settings.mem_rendered.1 ht).1 hpath
    obtain rfl := Except.ok.inj (hwrites.1.symm.trans compiled)
    exact .inl ⟨w, hw, output', hwrites, (setup.placed_of_writes writes _ _).symm⟩
  | @retained u hu hretained =>
    have hmodule : u.load ∈ setup.settings.modules c := List.mem_map_of_mem hu
    rw [← u.path_load] at hretained ⊢
    obtain ⟨hspared, hkept⟩ := completes.of_mem_retained hmodule hretained
    refine .inr ⟨hkept, fun w hw htouches => ?_, ?_⟩
    · have hsame : u.load = w := by
        rcases htouches with hpath | ⟨output, hwrites⟩
        · exact Settings.eq_of_path_eq completes.built hmodule (Settings.mem_rendered.1 hw).1
            hpath.symm
        · exact eq_of_writes_path hcandidates completes.built hw hmodule hwrites
      rw [← hsame] at hw
      exact Settings.notMem_spared hw hspared
    · exact Settings.map_get?_of_mem_modules keyed hmodule

/-- Nothing is in the table that the report does not say. -/
theorem Completes.survives_of_get?
    (get : (prune (setup.settings.spared c) p).context.get? q = some u) :
    Survives setup c registry (prune (setup.settings.spared c) p).summary q u := by
  have hcandidates := apart.candidates
  rw [completes.get?_iff hcandidates, get?_loaded keyed (completes.loads setup.timing)] at get
  rcases get with ⟨w, hw, output, hwrites, rfl⟩ | ⟨hkept, huntouched, hget⟩
  · rw [setup.placed_of_writes writes]
    exact .output hw (completes.find?_compiled.2 ⟨w, hw, rfl, output, hwrites⟩)
      hwrites.1
  · obtain ⟨v, hv, rfl⟩ := Option.map_eq_some_iff.1 hget
    obtain rfl := keyed hv
    have hvalue := keyed.mem_values_iff.2 hv
    cases hcandidate : setup.settings.isCandidate v with
    | false =>
      rw [Settings.loadCandidate, hcandidate]
      exact .other hvalue hcandidate
    | true =>
      have hselected : v ∈ setup.settings.selectCandidates c :=
        List.mem_filter.2 ⟨hvalue, hcandidate⟩
      have hmodule : v.load ∈ setup.settings.modules c := List.mem_map_of_mem hselected
      rw [Settings.loadCandidate, hcandidate]
      rcases mem_rendered_or p hmodule with hrendered | hretained | hremoved
      · exact absurd (.inl v.path_load) (huntouched _ hrendered)
      · rw [v.path_load] at hretained
        exact .retained hselected hretained
      · rw [v.path_load] at hremoved
        exact absurd hremoved hkept

end Completes

/-- **The table after a pass is exact**, if outputs are apart from all other targets, which they
always are without a suffix.  It holds what survives according to the report and nothing else.  The
report is about targets of this pass: what it says was compiled was compiled to some output, and
what it says was retained is a candidate.  A source whose output has another path is not in the
table, and neither is a source that was compiled to nothing or a target that was removed. -/
theorem get?_run_iff_survives (keyed : c.Keyed) (writes : ∀ path, setup.declines path = false) :
    (setup.settings.rename = none → setup.settings.OutputsApart c c.targets.values) ∧
      (setup.settings.OutputsApart c c.targets.values →
        ∀ summary, (run setup c).result = .ok summary →
          ∃ registry, Registry.build setup.settings (setup.settings.modules c) = .ok registry ∧
            (∀ q u, (run setup c).context.get? q = some u ↔
              Survives setup c registry summary q u) ∧
            (∀ source out, summary.compiled.find? source = some out →
              (∃ t ∈ setup.settings.rendered c, t.path = source ∧
                ∃ output, Writes setup registry t out output) ∧
              (source ≠ out → (run setup c).context.get? source = none)) ∧
            (∀ q ∈ summary.retained, ∃ u ∈ setup.settings.selectCandidates c, u.path = q) ∧
            ∀ q, q ∈ summary.emptied ∨ q ∈ summary.removed →
              (run setup c).context.get? q = none) := by
  refine ⟨Settings.outputsApart_of_no_suffix keyed, ?_⟩
  intro apart summary success
  obtain ⟨loaded, registry, p, completes, rfl, hcontext⟩ := exists_completes success
  -- At the path of a rendered target there is nothing but its own output.
  have hown : ∀ t ∈ setup.settings.rendered c, ∀ u,
      (prune (setup.settings.spared c) p).context.get? t.path = some u →
        ∃ output, Writes setup registry t t.path output := by
    intro t ht u hu
    rcases (completes.get?_iff apart.candidates).1 hu with
      ⟨w, hw, output, hwrites, -⟩ | ⟨-, huntouched, -⟩
    · obtain rfl := eq_of_touches apart.candidates completes.built hw ht hwrites (.inl rfl)
      exact ⟨output, hwrites⟩
    · exact absurd (.inl rfl) (huntouched t ht)
  rw [hcontext]
  refine ⟨registry, completes.built, ?_, ?_, ?_, ?_⟩
  · exact fun q u => ⟨completes.survives_of_get? keyed writes apart,
      completes.get?_of_survives keyed writes apart⟩
  · intro source out reported
    obtain ⟨t, ht, rfl, output, hwrites⟩ := completes.find?_compiled.1 reported
    refine ⟨⟨t, ht, rfl, output, hwrites⟩, fun hne => ?_⟩
    refine Option.eq_none_iff_forall_ne_some.2 fun u hu => ?_
    obtain ⟨output', hwrites'⟩ := hown t ht u hu
    exact hne (hwrites'.2.2.symm.trans hwrites.2.2)
  · intro q hretained
    obtain ⟨w, hspared, rfl, -⟩ := mem_retained_prune.1 hretained
    obtain ⟨u, hu, rfl⟩ := List.mem_map.1 (Settings.mem_spared.1 hspared).1
    exact ⟨u, hu, u.path_load.symm⟩
  · rintro q (hemptied | hremoved)
    · obtain ⟨t, ht, rfl, hcompiled⟩ := completes.mem_emptied.1 hemptied
      refine Option.eq_none_iff_forall_ne_some.2 fun u hu => ?_
      obtain ⟨output, hwrites⟩ := hown t ht u hu
      exact hwrites.2.1 (Except.ok.inj (hwrites.1.symm.trans hcompiled))
    · rw [get?_prune, if_pos hremoved]

end Pass

/-! ### One target of every kind

With the suffix `.css`, the output of `app` is at another path than its source.  `print` is empty
and imports `colors`; nothing imports `old`. -/

namespace Survival

def setup : Setup where
  settings := { Settings.default with rename := some ".css".toList }
  compiler r :=
    if r.content = [] then .ask "./colors".toList none fun _ => .done []
    else .done (Utf8.encode r.content)
  declines _ := false
  timing := .oneByOne id

def page : Target := .fresh "index.html".toList (Utf8.encode "page".toList) false

def colors : Target := .fresh "colors.scss".toList (Utf8.encode "red".toList) true

def context : Context := .ofTargets [
  .fresh "app.scss".toList (Utf8.encode "app".toList) false,
  .fresh "print.scss".toList [] false,
  colors,
  .fresh "old.scss".toList [] true,
  page]

/-- What is left are the output, the module that was imported, and the page. -/
theorem get?_run_one_of_each :
    let final := (Pass.run setup context).context
    let css := Utf8.encode "app".toList
    final.get? "app.css".toList = some ⟨"app.css".toList, css, false, some css, none⟩ ∧
      final.get? "app.scss".toList = none ∧ final.get? "print.scss".toList = none ∧
      final.get? "colors.scss".toList = some colors.load ∧
      final.get? "old.scss".toList = none ∧ final.get? "index.html".toList = some page := by
  intro final css
  have keyed : context.Keyed := Context.keyed_ofTargets _
  have apart : setup.settings.OutputsApart context context.targets.values := by
    constructor <;> decide +kernel
  have hreport : (Pass.run setup context).result.toOption.map
      (fun s => (s.compiled.find? "app.scss".toList, s.emptied, s.retained, s.removed))
        = some (some "app.css".toList, ["print.scss".toList], ["colors.scss".toList],
          ["old.scss".toList]) := by decide +kernel
  cases success : (Pass.run setup context).result with
  | error f =>
    rw [success] at hreport
    cases hreport
  | ok summary =>
    rw [success] at hreport
    obtain ⟨hcompiled, hrest⟩ := Prod.mk.inj (Option.some.inj hreport)
    obtain ⟨hemptied, hrest⟩ := Prod.mk.inj hrest
    obtain ⟨hretained, hremoved⟩ := Prod.mk.inj hrest
    obtain ⟨registry, -, hiff, hreported, -, hgone⟩ :=
      (Pass.get?_run_iff_survives keyed fun _ => rfl).2 apart summary success
    rw [hemptied, hremoved] at hgone
    refine ⟨?_, ?_, ?_, ?_, ?_, ?_⟩
    · have happ : (Target.fresh "app.scss".toList css false).load
          ∈ setup.settings.rendered context := by decide +kernel
      exact (hiff _ _).2 (.output happ hcompiled rfl)
    · exact (hreported _ _ hcompiled).2 (by decide)
    · exact hgone _ (.inl List.mem_cons_self)
    · have hcolors : colors ∈ setup.settings.selectCandidates context := by decide +kernel
      exact (hiff _ _).2 (.retained hcolors (by rw [hretained]; exact List.mem_cons_self))
    · exact hgone _ (.inr List.mem_cons_self)
    · have hpage : page ∈ context.targets.values := by decide +kernel
      exact (hiff _ _).2 (.other hpage (by decide +kernel))

end Survival

end StyleBuild
