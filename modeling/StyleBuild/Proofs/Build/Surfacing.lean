import StyleBuild.Proofs.Build.Completion
import StyleBuild.Proofs.Compile.Refusals

/-!
# Which error comes out

When a target cannot be compiled, there may be several errors to choose from: an import that was
refused, what the compiler made of it, and an error of the compiler's own.  `Target.surface` makes
that choice, and this file says that it is the right one for every compiler that does not go on
after the first import that fails (`Target.StopsAtFirst`).

* A refused import comes out itself, with the specifier as it was written, whether the compiler has
  let it through or raised a diagnosis in its place (`Target.SurfacesRefusals`).
* Where no import is refused, a diagnosis of the compiler comes out with the same text and
  position, attributed to the target (`Target.SurfacesDiagnoses`).

So a diagnosis names the target that it comes from, and none is made before the first target is
rendered (`Pass.Stops.diagnosis?_eq_none`).  Hence every diagnosis that ends a pass names a target
of that pass (`Pass.surfaces_of_stopsAtFirst`).
-/

namespace StyleBuild

namespace Fault

variable {e : Fault} {d : Diagnosis}

lemma exists_problem_of_diagnosis? (h : e.diagnosis? = some d) :
    ∃ p, e = .problem p ∧ p.diagnosis? = some d := by
  cases e with
  | problem p => exact ⟨p, rfl, h⟩
  | _ => cases h

/-- A fault that says something about a stylesheet has the wording of that. -/
lemma message_of_diagnosis? (h : e.diagnosis? = some d) : e.message = d.message := by
  obtain ⟨p, rfl, hp⟩ := exists_problem_of_diagnosis? h
  cases p with
  | compiler d' =>
    obtain rfl := Option.some.inj hp
    rfl
  | indented specifier path consumer =>
    obtain rfl := Option.some.inj hp
    rfl
  | _ => cases hp

end Fault

namespace Target

variable {t : Target} {f g : Failure} {p : Problem} {d : Diagnosis}

/-- The only refusal comes out, itself or for what stands for it. -/
lemma raised_surface_of_standsFor (hf : f.raised = ⟨.problem p, some 0⟩) (stands : g.StandsFor f) :
    (t.surface [p] g).raised = f.raised := by
  unfold surface
  rcases stands with rfl | ⟨hdiagnosis, hnew⟩
  · cases g.fault.diagnosis? with
    | none => rfl
    | some d => simp only [hf, if_true]
  · obtain ⟨d, hd⟩ := Option.isSome_iff_exists.1 hdiagnosis
    have hother : g.raised.refusal ≠ some 0 := hnew ▸ nofun
    simp only [hd, hother, if_false, Failure.raisedFrom, hf]

/-- Without a refusal, a diagnosis is attributed to the target. -/
lemma fault_surface_nil (hd : f.fault.diagnosis? = some d) :
    (t.surface [] f).fault = .diagnosed (d.forTarget t.path) := by
  unfold surface
  simp only [hd]
  rfl

/-- Without a refusal, no other diagnosis comes out. -/
lemma target_of_surface_nil (hd : (t.surface [] f).fault.diagnosis? = some d) :
    d.target = some t.path := by
  cases hf : f.fault.diagnosis? with
  | none =>
    have hsame : t.surface [] f = f := by simp only [surface, hf]
    rw [hsame, hf] at hd
    cases hd
  | some d' =>
    rw [fault_surface_nil hf] at hd
    obtain rfl := Option.some.inj hd
    rfl

section Compilation

variable (t : Target) (registry : Registry) (settings : Settings) (compiler : Compiler)

/-- The compilation of the target stops at the first import that fails. -/
def StopsAtFirst : Prop :=
  ∀ content, t.text? = .ok content → ∀ ledger journal,
    (compiler (t.request settings content)).StopsAtFirst ⟨registry, settings, t⟩
      (.start ledger journal)

/-- A refused import of the compilation comes out of it: the very same one, about the specifier as
it was written, and in the name of the target. -/
def SurfacesRefusals : Prop :=
  ∀ content, t.text? = .ok content → ∀ ledger specifier previous s f p,
    (compiler (t.request settings content)).Asks ⟨registry, settings, t⟩
      (.start ledger [.request (t.request settings content)]) specifier previous s →
    (s.ask ⟨registry, settings, t⟩ specifier previous).1 = .error f → f.fault = .problem p →
    Importer.Refuses ⟨registry, settings, t⟩ s.memory specifier previous p ∧
      ∃ g, (t.render registry settings compiler ledger).1 = .error g ∧ g.raised = f.raised

/-- If no import of the compilation is refused, a diagnosis of the compiler comes out of it with the
same text, position and wording, and the target is the one that was compiled. -/
def SurfacesDiagnoses : Prop :=
  ∀ content, t.text? = .ok content → ∀ ledger f d,
    (compiler (t.request settings content)).Unrefused ⟨registry, settings, t⟩
      (.start ledger [.request (t.request settings content)]) →
    ((compiler (t.request settings content)).run ⟨registry, settings, t⟩
      (.start ledger [.request (t.request settings content)])).1 = .error f →
    f.fault.diagnosis? = some d →
    ∃ g, (t.render registry settings compiler ledger).1 = .error g ∧
      g.fault = .diagnosed (d.forTarget t.path) ∧ g.fault.message = f.fault.message

end Compilation

variable {registry : Registry} {settings : Settings} {compiler : Compiler} {ledger : Ledger}
  {content : Text}

lemma render_of_text? (htext : t.text? = .ok content) {result : Except Failure Bytes}
    {session : Session}
    (hrun : (compiler (t.request settings content)).run ⟨registry, settings, t⟩
      (.start ledger [.request (t.request settings content)]) = (result, session)) :
    (t.render registry settings compiler ledger).1 =
      result.mapError (t.surface session.memory.refusals) := by
  simp only [render, htext, hrun]

lemma StopsAtFirst.surfacesRefusals (stops : t.StopsAtFirst registry settings compiler) :
    t.SurfacesRefusals registry settings compiler := by
  intro content htext ledger specifier previous s f p asks answer fault
  obtain ⟨refuses, hraised, hrefusals⟩ := Session.refuses_of_problem answer fault
  obtain ⟨g, hrun, stands, hbefore⟩ := asks.run_of_error (stops content htext _ _) answer
  have hnone : s.memory.refusals = [] := hbefore
  rw [hnone] at hraised hrefusals
  have hrender := render_of_text? htext hrun
  rw [hrefusals] at hrender
  exact ⟨refuses, _, hrender, raised_surface_of_standsFor hraised stands⟩

lemma surfacesDiagnoses : t.SurfacesDiagnoses registry settings compiler := by
  intro content htext ledger f d unrefused fails hd
  have hrefusals := unrefused.refusals_run
  have hrender := render_of_text? htext (Prod.ext fails rfl)
  rw [hrefusals] at hrender
  have hfault := fault_surface_nil (t := t) hd
  refine ⟨_, hrender, hfault, ?_⟩
  change (t.surface [] f).fault.message = _
  rw [hfault, Fault.message_of_diagnosis? hd]
  rfl

/-- **A diagnosis that comes out of a compilation names the target.** -/
theorem StopsAtFirst.target_of_render (stops : t.StopsAtFirst registry settings compiler)
    (fails : (t.render registry settings compiler ledger).1 = .error f)
    (hd : f.fault.diagnosis? = some d) : d.target = some t.path := by
  cases htext : t.text? with
  | error e =>
    -- Nothing is compiled, and the failure is no diagnosis.
    have he : f = .ofFault e := by
      simp only [render, htext, Except.error.injEq] at fails
      exact fails.symm
    obtain ⟨p, hp, -⟩ := Fault.exists_problem_of_diagnosis? hd
    rw [he] at hp
    exact absurd hp (ne_problem_of_text? htext p)
  | ok content =>
    by_cases unrefused : (compiler (t.request settings content)).Unrefused
        ⟨registry, settings, t⟩ (.start ledger [.request (t.request settings content)])
    · rw [render_of_text? htext (Prod.ext rfl rfl), unrefused.refusals_run] at fails
      cases hrun : ((compiler (t.request settings content)).run ⟨registry, settings, t⟩
          (.start ledger [.request (t.request settings content)])).1 with
      | ok output =>
        rw [hrun] at fails
        cases fails
      | error f' =>
        rw [hrun] at fails
        obtain rfl := Except.error.inj fails
        exact target_of_surface_nil hd
    · unfold Dialogue.Unrefused at unrefused
      push Not at unrefused
      obtain ⟨specifier, previous, s, asks, f', p, answer, fault⟩ := unrefused
      obtain ⟨refuses, g, hrender, hraised⟩ :=
        stops.surfacesRefusals content htext ledger specifier previous s f' p asks answer fault
      obtain rfl := Except.error.inj (fails.symm.trans hrender)
      have hfault : f.fault = .problem p := (congrArg Raised.fault hraised).trans fault
      rw [hfault] at hd
      exact refuses.target_eq hd

end Target

namespace Pass

variable {s : Settings} {c : Context} {e : Fault} {ts : List Target} {timing : Timing}

/-- What stops a pass before the first target is rendered says nothing about a stylesheet. -/
lemma Stops.diagnosis?_eq_none (stops : Stops timing s c e ts) : e.diagnosis? = none := by
  rcases stops.fault_cases with rfl | ⟨text, rfl⟩ | ⟨key, first, second, rfl, -, -⟩ <;> rfl

/-- A diagnosis that ends a pass names a target that was to be rendered. -/
lemma target_of_run {setup : Setup} {f : Failure} {d : Diagnosis}
    (fails : (run setup c).result = .error f)
    (stopsAtFirst : ∀ registry,
      Registry.build setup.settings (setup.settings.modules c) = .ok registry →
        ∀ t ∈ setup.settings.rendered c, t.StopsAtFirst registry setup.settings setup.compiler)
    (hd : f.fault.diagnosis? = some d) :
    ∃ t ∈ setup.settings.rendered c, d.target = some t.path := by
  rcases stops_or_prepared setup.timing setup.settings c with
    ⟨e, ts, stops⟩ | ⟨loaded, registry, prepared⟩
  · obtain ⟨journal, -, hrun⟩ := stops.run_eq
    rw [hrun] at fails
    obtain rfl := Except.error.inj fails
    have hnone : (Failure.ofFault e).fault.diagnosis? = none := stops.diagnosis?_eq_none
    rw [hnone] at hd
    cases hd
  · obtain ⟨t, ht, hfails⟩ := prepared.exists_failing fails
    exact ⟨t, ht, (stopsAtFirst registry prepared.built t ht).target_of_render hfails hd⟩

/-- **The right error comes out.**  Of every compilation that stops at the first import that fails,
a refusal comes out as it is, and any other diagnosis in the name of the target.  So in a pass of
such compilations, whatever the timing, a diagnosis names a target that was to be rendered. -/
theorem surfaces_of_stopsAtFirst (settings : Settings) (compiler : Compiler) :
    (∀ (t : Target) (registry : Registry), t.StopsAtFirst registry settings compiler →
      t.SurfacesRefusals registry settings compiler ∧
        t.SurfacesDiagnoses registry settings compiler) ∧
    ∀ (declines : Text → Bool) (timing : Timing) (c : Context),
      (∀ registry, Registry.build settings (settings.modules c) = .ok registry →
        ∀ t ∈ settings.rendered c, t.StopsAtFirst registry settings compiler) →
      ∀ f d, (run ⟨settings, compiler, declines, timing⟩ c).result = .error f →
        f.fault.diagnosis? = some d → ∃ t ∈ settings.rendered c, d.target = some t.path := by
  refine ⟨fun t registry stops => ⟨stops.surfacesRefusals, Target.surfacesDiagnoses⟩, ?_⟩
  intro declines timing c stopsAtFirst f d fails hd
  exact target_of_run fails stopsAtFirst hd

end Pass

/-! ### An import in an imported module

The page imports `lib/b`, which imports its neighbour `c`, and that one is indented.  One compiler
follows the imports and puts an error of its own in the place of the refusal, the other one finds a
mistake in `lib/b`. -/

namespace Surfacing

def page : Target := .fresh "a.scss".toList (Utf8.encode "import lib/b".toList) false

def part : Target := .fresh "lib/b.scss".toList (Utf8.encode "import ./c".toList) true

def indented : Target := .fresh "lib/c.sass".toList [] true

def context : Context := .ofTargets [page, part, indented]

def registry : Registry where
  entries := [("a".toList, page.load), ("lib/b".toList, part.load), ("lib/c".toList, indented.load)]
  nodup := by simp

def importer : Importer := ⟨registry, .default, page.load⟩

/-- The session before the first question. -/
def opening : Session :=
  .start ⟨.empty, .empty⟩ [.request (page.load.request .default "import lib/b".toList)]

/-- What the neighbour is refused with. -/
def refusal : Problem := .indented "./c".toList "lib/c.sass".toList (some "a.scss".toList)

def mistake : Diagnosis := ⟨"boom".toList, some "lib/b".toList, some 3, none⟩

def following : Compiler := fun _ =>
  .ask "lib/b".toList none fun
    | .ok source => .ask "./c".toList (some source.name) fun
      | .ok _ => .done []
      | .error f => .fail (.raisedFrom ⟨.diagnosed (.plain f.fault.message), none⟩ f)
    | .error f => .fail f

def complaining : Compiler := fun _ =>
  .ask "lib/b".toList none fun _ => .fail (.ofFault (.diagnosed mistake))

lemma stopsAtFirst_following (t : Target) (registry : Registry) (settings : Settings) :
    t.StopsAtFirst registry settings following := by
  intro content _ ledger journal
  rw [following, Dialogue.StopsAtFirst]
  split
  · rw [Dialogue.StopsAtFirst]
    split
    · trivial
    · exact .inr ⟨rfl, rfl⟩
  · exact .inl rfl

lemma stopsAtFirst_complaining (t : Target) (registry : Registry) (settings : Settings) :
    t.StopsAtFirst registry settings complaining := by
  intro content _ ledger journal
  rw [complaining, Dialogue.StopsAtFirst]
  split
  · trivial
  · exact .inr ⟨rfl, rfl⟩

/-- The first import is answered. -/
lemma ask_part : (opening.ask importer "lib/b".toList none).1 =
    .ok ⟨"lib/b".toList, "import ./c".toList⟩ := by
  decide +kernel

end Surfacing

namespace Pass

theorem surfaces_indented :
    (∃ g, (Surfacing.page.load.render Surfacing.registry .default Surfacing.following
        ⟨.empty, .empty⟩).1 = .error g ∧ g.raised = ⟨.problem Surfacing.refusal, some 0⟩) ∧
    (∃ g, (Surfacing.page.load.render Surfacing.registry .default Surfacing.complaining
        ⟨.empty, .empty⟩).1 = .error g ∧
          g.fault = .diagnosed (Surfacing.mistake.forTarget "a.scss".toList)) ∧
    ∃ f d, (run ⟨.default, Surfacing.following, fun _ => false, .oneByOne id⟩
        Surfacing.context).result = .error f ∧
      f.fault.diagnosis? = some d ∧ d.target = some "a.scss".toList := by
  have htext : Surfacing.page.load.text? = .ok "import lib/b".toList := by decide +kernel
  have hcontext : Settings.default.rendered Surfacing.context = [Surfacing.page.load] := by
    decide +kernel
  obtain ⟨hfollowing, hpass⟩ := surfaces_of_stopsAtFirst .default Surfacing.following
  refine ⟨?_, ?_, ?_⟩
  · obtain ⟨hrefusals, -⟩ := hfollowing Surfacing.page.load Surfacing.registry
      (Surfacing.stopsAtFirst_following _ _ _)
    have hneighbour : ((Surfacing.opening.ask Surfacing.importer "lib/b".toList none).2.ask
        Surfacing.importer "./c".toList (some "lib/b".toList)).1 =
          .error ⟨⟨.problem Surfacing.refusal, some 0⟩, []⟩ := by decide +kernel
    have asks : (Surfacing.following (Surfacing.page.load.request .default
        "import lib/b".toList)).Asks Surfacing.importer Surfacing.opening "./c".toList
          (some "lib/b".toList)
          (Surfacing.opening.ask Surfacing.importer "lib/b".toList none).2 := by
      refine .later ?_
      rw [Surfacing.ask_part]
      exact .now
    exact (hrefusals _ htext _ _ _ _ _ _ asks hneighbour rfl).2
  · obtain ⟨-, hdiagnoses⟩ := (surfaces_of_stopsAtFirst .default Surfacing.complaining).1
      Surfacing.page.load Surfacing.registry (Surfacing.stopsAtFirst_complaining _ _ _)
    have unrefused : (Surfacing.complaining (Surfacing.page.load.request .default
        "import lib/b".toList)).Unrefused Surfacing.importer Surfacing.opening := by
      intro specifier previous s asks f p answer
      cases asks with
      | now =>
        rw [Surfacing.ask_part] at answer
        cases answer
      | later asks => cases asks
    obtain ⟨g, hrender, hfault, -⟩ := hdiagnoses _ htext _ _ _ unrefused rfl rfl
    exact ⟨g, hrender, hfault⟩
  · have hresult : (match (run ⟨.default, Surfacing.following, fun _ => false, .oneByOne id⟩
        Surfacing.context).result with
      | .ok _ => none
      | .error f => f.fault.diagnosis?) = Surfacing.refusal.diagnosis? := by decide +kernel
    cases hrun : (run ⟨.default, Surfacing.following, fun _ => false, .oneByOne id⟩
        Surfacing.context).result with
    | ok summary =>
      rw [hrun] at hresult
      cases hresult
    | error f =>
      rw [hrun] at hresult
      obtain ⟨t, ht, htarget⟩ := hpass (fun _ => false) (.oneByOne id) Surfacing.context
        (fun registry _ t _ => Surfacing.stopsAtFirst_following t registry _) f _ hrun hresult
      rw [hcontext, List.mem_singleton] at ht
      exact ⟨f, _, rfl, hresult, by rw [htarget, ht]; rfl⟩

end Pass

end StyleBuild
