import StyleBuild.Proofs.Build.Preparation
import StyleBuild.Proofs.Build.Turns

/-!
# When targets are rendered

What comes of a pass that was prepared is decided by the targets that are rendered
(`Pass.Prepared.run_cases`).

* It `Completes` when each of them is compiled to something.  This puts together what each stage has
  left behind: the context with the loaded candidates, the registry, and the progress after the last
  target was taken up.
* It is `Interrupted` when some target cannot be compiled, by the first such target that is taken
  up.  Then the table is as the targets before it have left it, and the ledger has what was compiled
  by then, and what was begun by then and compiled later.

`Pass.exists_completes` is the inversion that every statement about successful passes starts from,
so that none of them has to open the pass again.  When a pass fails, it fails as one of its
compilations does (`Pass.Prepared.exists_failing`), and it fails exactly when one of them does
(`Pass.Prepared.exists_error_iff`).
-/

namespace StyleBuild

namespace Pass

variable {setup : Setup} {registry : Registry} {t : Target} {ts : List Target} {p : Progress}
  {c loaded : Context}

/-! ## The end of a pass -/

lemma summary_prune (ts : List Target) (p : Progress) :
    (prune ts p).summary = { p.summary with
      retained := (ts.filter fun t => p.usage.wasUsed t.path).map Target.path
      removed := (ts.filter fun t => !p.usage.wasUsed t.path).map Target.path } := by
  cases hpartition : p.usage.partition Target.path ts with
  | mk retained unused =>
    obtain ⟨rfl, rfl⟩ := Prod.mk.inj hpartition
    rw [prune, hpartition]
    dsimp only
    split <;> rfl

lemma mem_retained_prune {q : Text} :
    q ∈ (prune ts p).summary.retained ↔ ∃ u ∈ ts, u.path = q ∧ p.usage.wasUsed q = true := by
  rw [summary_prune]
  simp only [List.mem_map, List.mem_filter]
  constructor
  · rintro ⟨u, ⟨hu, hused⟩, rfl⟩
    exact ⟨u, hu, rfl, hused⟩
  · rintro ⟨u, hu, rfl, hused⟩
    exact ⟨u, ⟨hu, hused⟩, rfl⟩

lemma mem_removed_prune {q : Text} :
    q ∈ (prune ts p).summary.removed ↔ ∃ u ∈ ts, u.path = q ∧ p.usage.wasUsed q = false := by
  rw [summary_prune]
  simp only [List.mem_map, List.mem_filter, Bool.not_eq_true']
  constructor
  · rintro ⟨u, ⟨hu, hunused⟩, rfl⟩
    exact ⟨u, hu, rfl, hunused⟩
  · rintro ⟨u, hu, rfl, hunused⟩
    exact ⟨u, ⟨hu, hunused⟩, rfl⟩

/-- Pruning removes the targets at the removed paths, and their edges. -/
lemma context_prune (ts : List Target) (p : Progress) :
    (prune ts p).context = p.context.remove (prune ts p).summary.removed true := by
  cases hpartition : p.usage.partition Target.path ts with
  | mk retained unused =>
    obtain ⟨rfl, rfl⟩ := Prod.mk.inj hpartition
    rw [summary_prune, prune, hpartition]
    dsimp only
    split
    · next hnil =>
      rw [hnil]
      rfl
    · rfl

/-! ## What a prepared pass comes to -/

/-- What the stages of a successful pass leave behind: the context with the loaded candidates, the
registry, and the progress before pruning. -/
structure Completes (setup : Setup) (c loaded : Context) (registry : Registry) (p : Progress) :
    Prop where
  loads : ∀ timing, loadAll timing c (setup.settings.selectCandidates c) = (none, loaded)
  built : Registry.build setup.settings (setup.settings.modules c) = .ok registry
  renders : ∃ journal q, concludeAll setup registry (setup.arrange (setup.settings.rendered c))
    ⟨loaded, .empty, .empty, journal⟩ = (none, q) ∧ p.SameTable q
  ledger : p.ledger = Ledger.recordAll ⟨.empty, c.graph⟩
    (edges setup registry (setup.compileOrder (setup.settings.rendered c)))

/-- A target was taken up that had failed, with the turns before it and after it, and with what is
left of the pass. -/
structure Interrupted (setup : Setup) (c loaded : Context) (registry : Registry)
    (earlier : List Turn) (t : Target) (later : List Turn) (f : Failure) (p : Progress) :
    Prop where
  prepared : Prepared setup.settings c loaded registry
  turns : (setup.timing.schedule (setup.settings.rendered c)).turns =
    earlier ++ .finish t :: later
  renders : ∃ journal q, concludeAll setup registry (Turn.finished earlier)
    ⟨loaded, .empty, .empty, journal⟩ = (none, q) ∧ p.SameTable q
  fails : t.compiled registry setup.settings setup.compiler = .error f
  ledger : p.ledger = Ledger.recordAll ⟨.empty, c.graph⟩ (edges setup registry
    (Turn.compiled earlier ++ (Turn.compiled later).filter setup.timing.compiles))

lemma Completes.exists_output (completes : Completes setup c loaded registry p)
    (ht : t ∈ setup.settings.rendered c) :
    ∃ output, t.compiled registry setup.settings setup.compiler = .ok output := by
  obtain ⟨journal, q, hrender, -⟩ := completes.renders
  exact exists_output_of_concludeAll hrender t (Setup.mem_arrange.2 ht)

section Interrupted

variable {earlier later : List Turn} {f : Failure}
  (interrupted : Interrupted setup c loaded registry earlier t later f p)

include interrupted

/-- The targets are taken up in an order that is cut at the one that failed. -/
lemma Interrupted.arrange_eq : setup.arrange (setup.settings.rendered c) =
    Turn.finished earlier ++ t :: Turn.finished later := by
  rw [Setup.arrange, interrupted.turns, Turn.finished_append, Turn.finished_finish]

lemma Interrupted.mem_rendered {u : Target}
    (hu : u ∈ Turn.finished earlier ++ t :: Turn.finished later) :
    u ∈ setup.settings.rendered c := by
  rw [← interrupted.arrange_eq] at hu
  exact Setup.mem_arrange.1 hu

end Interrupted

/-- **What a prepared pass comes to**: it is pruned when all targets are rendered well, and left as
it is when one has failed. -/
theorem Prepared.run_cases (prepared : Prepared setup.settings c loaded registry) :
    (∃ p, Completes setup c loaded registry p ∧
        (run setup c).result = .ok (prune (setup.settings.spared c) p).summary ∧
        (run setup c).context = (prune (setup.settings.spared c) p).context) ∨
      ∃ earlier t later f p, Interrupted setup c loaded registry earlier t later f p ∧
        (run setup c).result = .error f ∧ (run setup c).context = p.context := by
  have hgraph : loaded.graph = c.graph := by
    obtain ⟨-, rfl⟩ := loadAll_eq_none_iff.1 (prepared.loads setup.timing)
    exact c.graph_attempt _
  unfold run
  rw [prepared.selects]
  cases hselected : setup.settings.selectCandidates c with
  | nil =>
    -- Nothing is rendered and nothing is pruned, and the pass does not even begin.
    have hmodules : setup.settings.modules c = [] := by rw [Settings.modules, hselected]; rfl
    have hrendered : setup.settings.rendered c = [] := by
      rw [Settings.rendered, hmodules, List.filter_nil]
    have hcompiled : setup.compileOrder [] = [] := List.perm_nil.1 (setup.perm_compileOrder [])
    have hfinished : setup.arrange [] = [] := List.perm_nil.1 (setup.perm_arrange [])
    have hloaded : c = loaded := by
      have hload := prepared.loads setup.timing
      rw [hselected] at hload
      exact congrArg Prod.snd hload
    refine .inl ⟨⟨loaded, .empty, .empty, []⟩,
      ⟨prepared.loads, prepared.built, ⟨[], _, ?_, rfl, rfl⟩, ?_⟩, ?_, ?_⟩
    · rw [hrendered, hfinished]
      rfl
    · rw [hrendered, hcompiled, Progress.ledger, hgraph]
      rfl
    · rw [summary_prune, Settings.spared, hmodules]
      rfl
    · rw [context_prune, summary_prune, Settings.spared, hmodules, hloaded]
      rfl
  | cons t ts =>
    have hmodules : (t :: ts).map Target.load = setup.settings.modules c := by
      rw [Settings.modules, hselected]
    have hload := prepared.loads setup.timing
    rw [hselected] at hload
    simp only [hload, hmodules, prepared.built, execute, prepared.divides]
    generalize [Event.log .debug _] = journal
    have stands := stands_turns setup registry ⟨loaded, .empty, .empty, journal⟩
      (setup.timing.schedule (setup.settings.rendered c)).ahead
    change Stands setup registry _ _ (render setup registry (setup.settings.rendered c) _) at stands
    have hstart : Progress.ledger ⟨loaded, .empty, .empty, journal⟩ = ⟨.empty, c.graph⟩ := by
      rw [Progress.ledger, hgraph]
    cases stands with
    | going failure taken same ledger results =>
      rw [hstart] at ledger
      refine .inl ⟨_, ⟨prepared.loads, prepared.built, ⟨journal, _, taken, same⟩, ledger⟩, ?_, ?_⟩
      · rw [failure]
      · rw [failure]
    | failed failure split taken fails same ledger =>
      rw [hstart] at ledger
      refine .inr ⟨_, _, _, _, _,
        ⟨prepared, split, ⟨journal, _, taken, same⟩, fails, ledger⟩, ?_, ?_⟩
      · rw [failure]
      · rw [failure]

/-- A prepared pass fails with the failure of a target that it rendered. -/
lemma Prepared.exists_failing {f : Failure}
    (prepared : Prepared setup.settings c loaded registry)
    (fails : (run setup c).result = .error f) :
    ∃ t ∈ setup.settings.rendered c,
      t.compiled registry setup.settings setup.compiler = .error f := by
  rcases prepared.run_cases with
    ⟨p, -, hresult, -⟩ | ⟨earlier, t, later, f', p, interrupted, hresult, -⟩
  · rw [hresult] at fails
    cases fails
  · obtain rfl := Except.error.inj (hresult.symm.trans fails)
    exact ⟨t, interrupted.mem_rendered (List.mem_append_right _ List.mem_cons_self),
      interrupted.fails⟩

/-- **A prepared pass fails exactly when some target cannot be compiled.** -/
theorem Prepared.exists_error_iff (prepared : Prepared setup.settings c loaded registry) :
    (∃ f, (run setup c).result = .error f) ↔ ∃ t ∈ setup.settings.rendered c,
      ∃ f, t.compiled registry setup.settings setup.compiler = .error f := by
  constructor
  · rintro ⟨f, fails⟩
    obtain ⟨t, ht, hfails⟩ := prepared.exists_failing fails
    exact ⟨t, ht, f, hfails⟩
  · rintro ⟨t, ht, f, hfails⟩
    rcases prepared.run_cases with ⟨p, completes, -, -⟩ | ⟨-, -, -, f', -, -, hresult, -⟩
    · obtain ⟨output, hok⟩ := completes.exists_output ht
      rw [hfails] at hok
      cases hok
    · exact ⟨f', hresult⟩

/-- **Every successful pass gets through all its stages**, also when there is nothing to do. -/
theorem exists_completes {summary : Summary} (success : (run setup c).result = .ok summary) :
    ∃ loaded registry p, Completes setup c loaded registry p ∧
      summary = (prune (setup.settings.spared c) p).summary ∧
      (run setup c).context = (prune (setup.settings.spared c) p).context := by
  obtain ⟨loaded, registry, prepared⟩ := exists_prepared success
  rcases prepared.run_cases with
    ⟨p, completes, hresult, hcontext⟩ | ⟨-, -, -, f, -, -, hresult, -⟩
  · rw [hresult] at success
    exact ⟨loaded, registry, p, completes, (Except.ok.inj success).symm, hcontext⟩
  · rw [hresult] at success
    cases success

/-- **Every failed pass that was prepared was interrupted**, and is left as it was then. -/
theorem Prepared.exists_interrupted {f : Failure}
    (prepared : Prepared setup.settings c loaded registry)
    (fails : (run setup c).result = .error f) :
    ∃ earlier t later p, Interrupted setup c loaded registry earlier t later f p ∧
      (run setup c).context = p.context := by
  rcases prepared.run_cases with
    ⟨p, -, hresult, -⟩ | ⟨earlier, t, later, f', p, interrupted, hresult, hcontext⟩
  · rw [hresult] at fails
    cases fails
  · obtain rfl := Except.error.inj (hresult.symm.trans fails)
    exact ⟨earlier, t, later, p, interrupted, hcontext⟩

end Pass

end StyleBuild
