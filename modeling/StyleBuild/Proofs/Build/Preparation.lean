import StyleBuild.Build.Pass
import StyleBuild.Proofs.Host.Operations
import StyleBuild.Proofs.Module.Registry

/-!
# Before anything is rendered

A pass first selects the candidates, loads them, registers them as modules, and divides them into
those to render and those to spare.  `Pass.Prepared` says that all this went well.  `Pass.Stops`
says where it went wrong, with the fault that comes out and the candidates that were tried to load
by then.  One of the two holds for every context (`Pass.stops_or_prepared`), so a statement about a
pass begins with these two cases and need not open the pass.

Loading goes on after a failure with what was begun by then, so which candidates are `tried` is a
matter of the timing, and which fault comes out is not (`Pass.loadAll_eq`).  When every candidate
can be loaded, the timing does not matter at all (`Pass.loadAll_eq_none_iff`).

A pass that stops changes nothing but what these attempts change, and it has made no request to the
compiler (`Pass.Stops.run_eq`).  What attempts do to a context is said by `Context.keys_attempt`,
`Context.get?_attempt` and `Context.graph_attempt`.
-/

namespace StyleBuild

namespace Context

variable {c : Context}

/-- The context after attempts to load targets. -/
def attempt (c : Context) (ts : List Target) : Context :=
  ts.foldl (fun c t => c.adjust t.path Target.attempted) c

/-- Attempts to load leave the graph alone. -/
lemma graph_attempt (c : Context) (ts : List Target) : (c.attempt ts).graph = c.graph := by
  induction ts generalizing c with
  | nil => rfl
  | cons t ts ih => exact ih _

/-- Attempts to load move no target. -/
lemma keys_attempt (c : Context) (ts : List Target) :
    (c.attempt ts).targets.keys = c.targets.keys := by
  induction ts generalizing c with
  | nil => rfl
  | cons t ts ih =>
    exact (ih _).trans (Table.keys_change t.path Target.attempted c.targets.entries)

/-- Attempts to load change exactly the targets at the given paths. -/
lemma get?_attempt (c : Context) (ts : List Target) (q : Text) :
    (c.attempt ts).get? q =
      (c.get? q).map fun u => if q ∈ ts.map Target.path then u.attempted else u := by
  induction ts generalizing c with
  | nil => simp [attempt]
  | cons t ts ih =>
    have hcons : c.attempt (t :: ts) = (c.adjust t.path Target.attempted).attempt ts := rfl
    rw [hcons, ih, get?_adjust, Option.map_map]
    congr 1
    funext u
    by_cases hq : q = t.path <;> simp [hq]

end Context

namespace Settings

/-- The candidates of a pass as they are registered. -/
def modules (s : Settings) (c : Context) : List Target := (s.selectCandidates c).map Target.load

/-- The candidates that are compiled. -/
def rendered (s : Settings) (c : Context) : List Target := (s.modules c).filter s.isRendered

/-- The candidates that are only there to be imported. -/
def spared (s : Settings) (c : Context) : List Target := (s.modules c).filter (!s.isRendered ·)

/-- A target as it is while targets are rendered: a candidate is loaded by then. -/
def loadCandidate (s : Settings) (t : Target) : Target := if s.isCandidate t then t.load else t

lemma data_loadCandidate (s : Settings) (t : Target) : (s.loadCandidate t).data = t.data := by
  rw [loadCandidate]
  split
  · exact t.data_load
  · rfl

lemma mem_rendered {s : Settings} {c : Context} {t : Target} :
    t ∈ s.rendered c ↔ t ∈ s.modules c ∧ s.isRendered t = true := List.mem_filter

lemma mem_spared {s : Settings} {c : Context} {t : Target} :
    t ∈ s.spared c ↔ t ∈ s.modules c ∧ s.isRendered t = false := by
  rw [spared, List.mem_filter, Bool.not_eq_true']

/-- What is compiled is not only there to be imported. -/
lemma notMem_spared {s : Settings} {c : Context} {t : Target} (ht : t ∈ s.rendered c) :
    t ∉ s.spared c := by
  intro hspared
  have hrendered := (mem_rendered.1 ht).2
  rw [(mem_spared.1 hspared).2] at hrendered
  cases hrendered

/-- Where a candidate was registered from. -/
lemma map_get?_of_mem_modules {s : Settings} {c : Context} (keyed : c.Keyed) {t : Target}
    (ht : t ∈ s.modules c) : (c.get? t.path).map s.loadCandidate = some t := by
  obtain ⟨u, hu, rfl⟩ := List.mem_map.1 ht
  obtain ⟨hvalue, hcandidate⟩ := List.mem_filter.1 hu
  rw [u.path_load, keyed.mem_values_iff.1 hvalue, Option.map_some, loadCandidate, hcandidate]
  rfl

/-- Registered targets have different paths. -/
lemma eq_of_path_eq {s : Settings} {c : Context} {registry : Registry}
    (built : Registry.build s (s.modules c) = .ok registry) {t u : Target}
    (ht : t ∈ s.modules c) (hu : u ∈ s.modules c) (hpath : t.path = u.path) : t = u :=
  Registry.eq_of_moduleKey_eq built ht hu (congrArg s.moduleKey hpath)

end Settings

namespace Pass

variable {setup : Setup} {s : Settings} {t : Target} {ts : List Target} {c loaded : Context}
  {registry : Registry} {e : Fault} {timing : Timing}

/-! ## Loading -/

/-- The targets that are tried to load: all up to the first that cannot be loaded, and those after
it whose loading was begun by then. -/
def tried (timing : Timing) : List Target → List Target
  | [] => []
  | t :: ts => t :: if t.loadFailure.isSome then ts.filter timing.loads else tried timing ts

/-- All targets are tried if each of them can be loaded. -/
lemma tried_of_no_loadFailure (h : ∀ t ∈ ts, t.loadFailure = none) : tried timing ts = ts := by
  induction ts with
  | nil => rfl
  | cons t ts ih =>
    obtain ⟨ht, hts⟩ := List.forall_mem_cons.1 h
    simp [tried, ht, ih hts]

/-- The targets that are tried around the first that cannot be loaded. -/
lemma tried_append_cons {before after : List Target} {text : Text}
    (loads : ∀ u ∈ before, u.loadFailure = none) (fails : t.loadFailure = some text) :
    tried timing (before ++ t :: after) = before ++ t :: after.filter timing.loads := by
  induction before with
  | nil => simp [tried, fails]
  | cons u before ih =>
    obtain ⟨hu, hbefore⟩ := List.forall_mem_cons.1 loads
    simp [tried, hu, ih hbefore]

/-- After a failure, loading goes on with what was begun, and keeps the fault. -/
lemma foldl_load_some (timing : Timing) (e : Fault) (c : Context) (ts : List Target) :
    ts.foldl (load timing) (some e, c) = (some e, c.attempt (ts.filter timing.loads)) := by
  induction ts generalizing c with
  | nil => rfl
  | cons t ts ih =>
    rw [List.foldl_cons, load]
    cases hbegun : timing.loads t with
    | false =>
      rw [List.filter_cons_of_neg (by simp [hbegun])]
      exact ih c
    | true =>
      rw [List.filter_cons_of_pos hbegun]
      exact ih _

/-- **What loading comes to**: the fault of the first target that cannot be loaded, and the attempts
that were made. -/
theorem loadAll_eq (timing : Timing) (c : Context) (ts : List Target) :
    loadAll timing c ts =
      (ts.findSome? fun t => t.loadFailure.map .crash, c.attempt (tried timing ts)) := by
  unfold loadAll
  induction ts generalizing c with
  | nil => rfl
  | cons t ts ih =>
    have hstep : load timing (none, c) t =
        (t.loadFailure.map .crash, c.adjust t.path Target.attempted) := by
      simp [load]
    rw [List.foldl_cons, hstep, List.findSome?_cons, tried]
    cases hfailure : t.loadFailure with
    | none => exact ih _
    | some text => exact foldl_load_some timing (.crash text) _ ts

/-- **Loading goes well when it does for each target**, whatever the timing. -/
theorem loadAll_eq_none_iff : loadAll timing c ts = (none, loaded) ↔
    (∀ t ∈ ts, t.loadFailure = none) ∧ loaded = c.attempt ts := by
  rw [loadAll_eq, Prod.mk.injEq, List.findSome?_eq_none_iff]
  simp only [Option.map_eq_none_iff]
  refine and_congr_right fun hloads => ?_
  rw [tried_of_no_loadFailure hloads, eq_comm]

lemma loadAll_of_no_loadFailure (h : ∀ t ∈ ts, t.loadFailure = none) (timing : Timing)
    (c : Context) : loadAll timing c ts = (none, c.attempt ts) :=
  loadAll_eq_none_iff.2 ⟨h, rfl⟩

/-- **After loading, the candidates are loaded and nothing else is changed.** -/
theorem get?_loaded (keyed : c.Keyed)
    (loads : loadAll timing c (s.selectCandidates c) = (none, loaded)) (q : Text) :
    loaded.get? q = (c.get? q).map s.loadCandidate := by
  obtain ⟨hloads, rfl⟩ := loadAll_eq_none_iff.1 loads
  rw [Context.get?_attempt]
  cases hq : c.get? q with
  | none => rfl
  | some u =>
    obtain rfl := keyed hq
    have hvalue := keyed.mem_values_iff.2 hq
    have hmem : u.path ∈ (s.selectCandidates c).map Target.path ↔ s.isCandidate u = true := by
      constructor
      · intro h
        obtain ⟨t, ht, hpath⟩ := List.mem_map.1 h
        obtain ⟨htvalue, hcandidate⟩ := List.mem_filter.1 ht
        rwa [keyed.eq_of_path_eq htvalue hvalue hpath] at hcandidate
      · intro h
        exact List.mem_map_of_mem (List.mem_filter.2 ⟨hvalue, h⟩)
    simp only [Option.map_some, hmem, Settings.loadCandidate]
    split
    · next hcandidate =>
      have hselected := List.mem_filter.2 ⟨hvalue, hcandidate⟩
      rw [Target.attempted_of_no_loadFailure (hloads u hselected)]
    · rfl

/-! ## The stages -/

/-- The stages before the first target is rendered go well: the candidates are selected, loaded,
registered, and divided. -/
structure Prepared (s : Settings) (c loaded : Context) (registry : Registry) : Prop where
  selects : s.candidates? c = .ok (s.selectCandidates c)
  loads : ∀ timing, loadAll timing c (s.selectCandidates c) = (none, loaded)
  built : Registry.build s (s.modules c) = .ok registry
  divides : s.partition? (s.modules c) = .ok (s.rendered c, s.spared c)

lemma eq_of_candidates?_eq_ok {candidates : List Target}
    (h : s.candidates? c = .ok candidates) : candidates = s.selectCandidates c := by
  rw [Settings.candidates?] at h
  split at h
  · cases h
  · exact (Except.ok.inj h).symm

lemma eq_of_partition?_eq_ok {parts : List Target × List Target} (h : s.partition? ts = .ok parts) :
    parts = s.partitionTargets ts := by
  rw [Settings.partition?] at h
  split at h
  · cases h
  · exact (Except.ok.inj h).symm

/-- A pass stops before the first target is rendered: with which fault, and which candidates were
tried to load by then. -/
inductive Stops (timing : Timing) (s : Settings) (c : Context) : Fault → List Target → Prop
  /-- The name of some target cannot be searched. -/
  | unclear {e : Fault} : s.candidates? c = .error e → Stops timing s c e []
  /-- A candidate cannot be loaded.  Those before it were loaded, and some after it may be. -/
  | unloaded {before after : List Target} {t : Target} {e : Fault} :
      s.candidates? c = .ok (before ++ t :: after) → (∀ u ∈ before, u.loadFailure = none) →
      t.load? = .error e → Stops timing s c e (before ++ t :: after.filter timing.loads)
  /-- Two candidates have the same key. -/
  | collision {p : Problem} : s.candidates? c = .ok (s.selectCandidates c) →
      (∀ t ∈ s.selectCandidates c, t.loadFailure = none) →
      Registry.build s (s.modules c) = .error p →
      Stops timing s c (.problem p) (s.selectCandidates c)
  /-- The target filter has no answer for some candidate. -/
  | unfiltered {registry : Registry} {e : Fault} :
      s.candidates? c = .ok (s.selectCandidates c) →
      (∀ t ∈ s.selectCandidates c, t.loadFailure = none) →
      Registry.build s (s.modules c) = .ok registry →
      s.partition? (s.modules c) = .error e → Stops timing s c e (s.selectCandidates c)

/-- **A pass stops early or is prepared.** -/
theorem stops_or_prepared (timing : Timing) (s : Settings) (c : Context) :
    (∃ e ts, Stops timing s c e ts) ∨ ∃ loaded registry, Prepared s c loaded registry := by
  cases hselects : s.candidates? c with
  | error e => exact .inl ⟨e, [], .unclear hselects⟩
  | ok candidates =>
    obtain rfl := eq_of_candidates?_eq_ok hselects
    cases hfind : (s.selectCandidates c).find? (·.loadFailure.isSome) with
    | some t =>
      obtain ⟨hfails, before, after, hsplit, hbefore⟩ := List.find?_eq_some_iff_append.1 hfind
      obtain ⟨text, htext⟩ := Option.isSome_iff_exists.1 hfails
      rw [hsplit] at hselects
      refine .inl ⟨.crash text, _, .unloaded hselects ?_ ?_⟩
      · exact fun u hu => by simpa using hbefore u hu
      · simp only [Target.load?, htext]
    | none =>
      have hloads : ∀ t ∈ s.selectCandidates c, t.loadFailure = none := by
        simpa using hfind
      cases hbuilt : Registry.build s (s.modules c) with
      | error p => exact .inl ⟨_, _, .collision hselects hloads hbuilt⟩
      | ok registry =>
        cases hdivides : s.partition? (s.modules c) with
        | error e => exact .inl ⟨e, _, .unfiltered hselects hloads hbuilt hdivides⟩
        | ok parts =>
          obtain rfl := eq_of_partition?_eq_ok hdivides
          exact .inr ⟨_, registry, hselects,
            fun timing => loadAll_of_no_loadFailure hloads timing c, hbuilt, hdivides⟩

/-- What is tried to load when a pass stops are candidates. -/
lemma Stops.subset (stops : Stops timing s c e ts) : ts ⊆ s.selectCandidates c := by
  cases stops with
  | unclear => exact List.nil_subset _
  | unloaded hselects =>
    rw [← eq_of_candidates?_eq_ok hselects]
    exact ((List.filter_sublist.cons_cons _).append_left _).subset
  | collision => exact fun _ h => h
  | unfiltered => exact fun _ h => h

/-- What a pass stops with: a search without an answer, storage that fails, or two candidates with
one key, after all of them were loaded. -/
lemma Stops.fault_cases (stops : Stops timing s c e ts) :
    e = .tornMatch ∨ (∃ text, e = .crash text) ∨ ∃ key first second,
      e = .problem (.collision key first second) ∧ ts = s.selectCandidates c ∧
        Registry.build s (s.modules c) = .error (.collision key first second) := by
  cases stops with
  | unclear hselects =>
    unfold Settings.candidates? at hselects
    split at hselects
    · exact .inl (Except.error.inj hselects).symm
    · cases hselects
  | @unloaded _ _ t _ _ _ hfails =>
    unfold Target.load? at hfails
    split at hfails
    · exact .inr (.inl ⟨_, (Except.error.inj hfails).symm⟩)
    · cases hfails
  | collision _ _ hbuilt =>
    obtain ⟨key, first, second, rfl⟩ := Registry.exists_collision hbuilt
    exact .inr (.inr ⟨key, first, second, rfl, rfl, hbuilt⟩)
  | unfiltered _ _ _ hdivides =>
    unfold Settings.partition? at hdivides
    split at hdivides
    · exact .inl (Except.error.inj hdivides).symm
    · cases hdivides

/-- The fault of a target that cannot be loaded. -/
lemma exists_loadFailure_of_load? (h : t.load? = .error e) :
    ∃ text, t.loadFailure = some text ∧ e = .crash text := by
  unfold Target.load? at h
  split at h
  · next text htext => exact ⟨text, htext, (Except.error.inj h).symm⟩
  · cases h

/-- **What comes of a pass that stops.** -/
theorem Stops.run_eq (stops : Stops setup.timing setup.settings c e ts) :
    ∃ journal, journal.requests = [] ∧
      run setup c = ⟨.error (.ofFault e), c.attempt ts, journal⟩ := by
  unfold run
  cases stops with
  | unclear hselects =>
    rw [hselects]
    exact ⟨[], rfl, rfl⟩
  | @unloaded before after t _ hselects hbefore hfails =>
    obtain ⟨text, htext, rfl⟩ := exists_loadFailure_of_load? hfails
    have hload : loadAll setup.timing c (before ++ t :: after) =
        (some (.crash text), c.attempt (before ++ t :: after.filter setup.timing.loads)) := by
      have hnone : before.findSome? (fun u => u.loadFailure.map Fault.crash) = none :=
        List.findSome?_eq_none_iff.2 fun u hu => by rw [hbefore u hu]; rfl
      rw [loadAll_eq, tried_append_cons hbefore htext, List.findSome?_append, hnone]
      simp [htext]
    refine ⟨[], rfl, ?_⟩
    cases hsplit : before ++ t :: after with
    | nil => cases (List.append_eq_nil_iff.1 hsplit).2
    | cons u us =>
      rw [hsplit] at hselects hload
      simp only [hselects, hload]
  | collision hselects hloads hbuilt =>
    have hloaded := loadAll_of_no_loadFailure hloads setup.timing c
    refine ⟨[], rfl, ?_⟩
    unfold Settings.modules at hbuilt
    cases hselected : setup.settings.selectCandidates c with
    | nil =>
      rw [hselected] at hbuilt
      cases hbuilt
    | cons u us =>
      rw [hselected] at hselects hloaded hbuilt
      simp only [hselects, hloaded, hbuilt]
  | unfiltered hselects hloads hbuilt hdivides =>
    have hloaded := loadAll_of_no_loadFailure hloads setup.timing c
    unfold Settings.modules at hbuilt hdivides
    cases hselected : setup.settings.selectCandidates c with
    | nil =>
      rw [hselected] at hdivides
      cases hdivides
    | cons u us =>
      rw [hselected] at hselects hloaded hbuilt hdivides
      simp only [hselects, hloaded, hbuilt, execute, hdivides]
      exact ⟨_, by rfl, rfl⟩

/-- **A pass that succeeds was prepared.** -/
theorem exists_prepared {summary : Summary} (success : (run setup c).result = .ok summary) :
    ∃ loaded registry, Prepared setup.settings c loaded registry := by
  rcases stops_or_prepared setup.timing setup.settings c with ⟨e, ts, stops⟩ | prepared
  · obtain ⟨journal, -, hrun⟩ := stops.run_eq
    rw [hrun] at success
    cases success
  · exact prepared

end Pass

end StyleBuild
