import StyleBuild.Build.Pass
import StyleBuild.Proofs.Compile.Imports

/-!
# Turn by turn

While targets are rendered, compilations come in between the targets that are taken up.  The two do
not get in each other's way, and this file takes them apart.

A compilation enters its edges into the ledger and leaves the table alone (`compile_of_begun`).
Taking up a target changes the table and the report, and leaves the ledger alone
(`ledger_conclude`).  So the ledger is that of the targets that were compiled, in the order in which
they were, and the table is that of the targets that were taken up, in theirs.  For the second order
there is a loop of its own, `concludeAll`, in which a target is as good as compiled when its turn
comes.

`Stands` is what holds of a rendering after any turns: either no failure was taken up, or one was.
From then on the table does not change any more, while the compilations that were begun still enter
their edges.  One turn keeps it (`Stands.turn_compile`, `Stands.turn_finish`), so it holds after all
of them (`stands_turns`).
-/

namespace StyleBuild

/-- What was recorded so far. -/
def Progress.ledger (p : Progress) : Ledger := ⟨p.usage, p.context.graph⟩

/-- The same targets are at the same paths, and the reports are the same. -/
structure Progress.SameTable (p q : Progress) : Prop where
  targets : p.context.targets = q.context.targets
  summary : p.summary = q.summary

lemma Progress.SameTable.get? {p q : Progress} (same : p.SameTable q) (path : Text) :
    p.context.get? path = q.context.get? path :=
  congrArg (·.find? path) same.targets

lemma Progress.SameTable.trans {p q r : Progress} (same : p.SameTable q) (same' : q.SameTable r) :
    p.SameTable r :=
  ⟨same.targets.trans same'.targets, same.summary.trans same'.summary⟩

/-- The order in which the targets are compiled. -/
def Setup.compileOrder (setup : Setup) (ts : List Target) : List Target :=
  Turn.compiled (setup.timing.schedule ts).turns

/-- The order in which the targets are taken up. -/
def Setup.arrange (setup : Setup) (ts : List Target) : List Target :=
  Turn.finished (setup.timing.schedule ts).turns

lemma Setup.perm_compileOrder (setup : Setup) (ts : List Target) :
    (setup.compileOrder ts).Perm ts :=
  (setup.timing.schedule ts).compiled

lemma Setup.perm_arrange (setup : Setup) (ts : List Target) : (setup.arrange ts).Perm ts :=
  (setup.timing.schedule ts).finished

@[simp] lemma Setup.mem_compileOrder {setup : Setup} {ts : List Target} {t : Target} :
    t ∈ setup.compileOrder ts ↔ t ∈ ts :=
  (setup.perm_compileOrder ts).mem_iff

@[simp] lemma Setup.mem_arrange {setup : Setup} {ts : List Target} {t : Target} :
    t ∈ setup.arrange ts ↔ t ∈ ts :=
  (setup.perm_arrange ts).mem_iff

lemma Turn.Ahead.of_append {turns turns' : List Turn} (ahead : Turn.Ahead (turns ++ turns')) :
    Turn.Ahead turns := by
  intro before t after h
  refine ahead before t (after ++ turns') ?_
  rw [h, List.append_assoc, List.cons_append]

lemma Turn.mem_finished {turns : List Turn} {t : Target} :
    t ∈ Turn.finished turns ↔ .finish t ∈ turns := by
  rw [Turn.finished, List.mem_filterMap]
  constructor
  · rintro ⟨x, hx, h⟩
    cases x with
    | compile u => cases h
    | finish u =>
      obtain rfl := Option.some.inj h
      exact hx
  · exact fun h => ⟨_, h, rfl⟩

/-- What was taken up was compiled before. -/
lemma Turn.Ahead.finished_subset {turns : List Turn} (ahead : Turn.Ahead turns) :
    Turn.finished turns ⊆ Turn.compiled turns := by
  intro t ht
  obtain ⟨before, after, rfl⟩ := List.append_of_mem (Turn.mem_finished.1 ht)
  rw [Turn.compiled_append]
  exact List.mem_append_left _ (ahead before t after rfl)

/-- Where nothing is done at the same time, each target is compiled and taken up in its turn. -/
lemma Timing.turns_oneByOne {arrange : List Target → List Target} {ts : List Target}
    (perm : (arrange ts).Perm ts) :
    ((Timing.oneByOne arrange).schedule ts).turns = Turn.oneByOne (arrange ts) := by
  simp only [Timing.oneByOne, perm, dif_pos]
  rfl

lemma Timing.finished_oneByOne {arrange : List Target → List Target} {ts : List Target}
    (perm : (arrange ts).Perm ts) :
    Turn.finished ((Timing.oneByOne arrange).schedule ts).turns = arrange ts := by
  rw [turns_oneByOne perm, Turn.finished_oneByOne]

namespace Pass

variable {setup : Setup} {registry : Registry} {t : Target} {ts : List Target}
  {p p' q : Progress} {r : Rendering} {result : Except Failure Bytes} {f : Failure}

/-! ## Taking up a target -/

@[simp] lemma ledger_materialise (setup : Setup) (t : Target) (output : Bytes) (p : Progress) :
    (materialise setup t output p).ledger = p.ledger := by
  unfold materialise
  split
  · rfl
  · simp only [note, Progress.ledger]
    split <;> rfl

lemma sameTable_materialise (same : p.SameTable q) (output : Bytes) :
    (materialise setup t output p).SameTable (materialise setup t output q) := by
  obtain ⟨⟨targets, graph⟩, usage, summary, journal⟩ := p
  obtain ⟨⟨targets', graph'⟩, usage', summary', journal'⟩ := q
  obtain ⟨htargets, hsummary⟩ := same
  obtain rfl : targets = targets' := htargets
  obtain rfl : summary = summary' := hsummary
  unfold materialise
  split
  · exact ⟨rfl, rfl⟩
  · refine ⟨?_, rfl⟩
    simp only [note]
    split <;> rfl

/-- Taking up a target records nothing. -/
lemma ledger_conclude (setup : Setup) (t : Target) (result : Except Failure Bytes) (p : Progress) :
    (conclude setup t result p).2.ledger = p.ledger := by
  cases result with
  | ok output => exact ledger_materialise setup t output p
  | error f => rfl

/-- What taking up a target does to the table depends on nothing but the table. -/
lemma sameTable_conclude (setup : Setup) (same : p.SameTable q) (t : Target)
    (result : Except Failure Bytes) :
    (conclude setup t result p).1 = (conclude setup t result q).1 ∧
      (conclude setup t result p).2.SameTable (conclude setup t result q).2 := by
  cases result with
  | ok output => exact ⟨rfl, sameTable_materialise same output⟩
  | error f => exact ⟨rfl, same.targets, same.summary⟩

lemma conclude_eq_none (h : conclude setup t result p = (none, p')) :
    ∃ output, result = .ok output ∧ p' = materialise setup t output p := by
  cases result with
  | error f => cases congrArg Prod.fst h
  | ok output => exact ⟨output, rfl, (congrArg Prod.snd h).symm⟩

/-- A target that fails leaves the table alone. -/
lemma conclude_eq_some (h : conclude setup t result p = (some f, p')) :
    result = .error f ∧ p'.SameTable p := by
  cases result with
  | ok output => cases congrArg Prod.fst h
  | error f' =>
    obtain rfl := Option.some.inj (congrArg Prod.fst h)
    obtain rfl := congrArg Prod.snd h
    exact ⟨rfl, rfl, rfl⟩

/-! ## Taking up one target after the other -/

/-- Takes up targets in order, up to the first that fails. -/
def concludeAll (setup : Setup) (registry : Registry) : List Target → Progress →
    Option Failure × Progress
  | [], p => (none, p)
  | t :: rest, p =>
    match conclude setup t (t.compiled registry setup.settings setup.compiler) p with
    | (some f, p) => (some f, p)
    | (none, p) => concludeAll setup registry rest p

lemma concludeAll_cons_eq_none (h : concludeAll setup registry (t :: ts) p = (none, p')) :
    ∃ p₁, conclude setup t (t.compiled registry setup.settings setup.compiler) p = (none, p₁) ∧
      concludeAll setup registry ts p₁ = (none, p') := by
  rw [concludeAll] at h
  cases hone : conclude setup t (t.compiled registry setup.settings setup.compiler) p with
  | mk failure p₁ =>
    rw [hone] at h
    cases failure with
    | some f => cases congrArg Prod.fst h
    | none => exact ⟨p₁, rfl, h⟩

lemma concludeAll_append (h : concludeAll setup registry ts p = (none, p')) (us : List Target) :
    concludeAll setup registry (ts ++ us) p = concludeAll setup registry us p' := by
  induction ts generalizing p with
  | nil =>
    obtain rfl : p = p' := congrArg Prod.snd h
    rfl
  | cons t ts ih =>
    obtain ⟨p₁, hone, hrest⟩ := concludeAll_cons_eq_none h
    rw [List.cons_append, concludeAll, hone]
    exact ih hrest

/-- All targets are taken up when each of them was compiled to something. -/
lemma exists_output_of_concludeAll (h : concludeAll setup registry ts p = (none, p')) :
    ∀ t ∈ ts, ∃ output, t.compiled registry setup.settings setup.compiler = .ok output := by
  induction ts generalizing p with
  | nil => exact fun t ht => absurd ht List.not_mem_nil
  | cons t ts ih =>
    obtain ⟨p₁, hone, hrest⟩ := concludeAll_cons_eq_none h
    obtain ⟨output, hok, -⟩ := conclude_eq_none hone
    exact List.forall_mem_cons.2 ⟨⟨output, hok⟩, ih hrest⟩

/-! ## One turn -/

/-- The edges that are recorded while targets are compiled. -/
def edges (setup : Setup) (registry : Registry) (ts : List Target) : List Edge :=
  ts.flatMap fun t => t.edges registry setup.settings setup.compiler

lemma edges_append (ts us : List Target) :
    edges setup registry (ts ++ us) = edges setup registry ts ++ edges setup registry us :=
  List.flatMap_append

/-- **What a compilation does**: its edges are recorded, whatever it comes to, and the table is left
alone. -/
theorem compile_of_begun (registry : Registry)
    (begun : r.failure = none ∨ setup.timing.compiles t = true) :
    (compile setup registry t r).progress.SameTable r.progress ∧
      (compile setup registry t r).progress.ledger =
        r.progress.ledger.recordAll (edges setup registry [t]) ∧
      (compile setup registry t r).results =
        (t, t.compiled registry setup.settings setup.compiler) :: r.results ∧
      (compile setup registry t r).failure = r.failure := by
  have hledger := t.ledger_render registry setup.settings setup.compiler r.progress.ledger
  have hresult := t.render_fst registry setup.settings setup.compiler r.progress.ledger
  have hgo : (r.failure.isSome && !setup.timing.compiles t) = false := by
    rcases begun with h | h <;> simp [h]
  have hone : edges setup registry [t] = t.edges registry setup.settings setup.compiler :=
    List.append_nil _
  rw [hone, ← hledger, ← hresult, compile, hgo]
  exact ⟨⟨rfl, rfl⟩, rfl, rfl, rfl⟩

lemma compile_of_cancelled (failed : r.failure = some f)
    (waits : setup.timing.compiles t = false) : compile setup registry t r = r := by
  simp [compile, failed, waits]

lemma finish_of_going (going : r.failure = none) (there : r.results.lookup t = some result) :
    finish setup t r =
      { r with
        progress := (conclude setup t result r.progress).2
        failure := (conclude setup t result r.progress).1 } := by
  simp only [finish, going, there]

lemma finish_of_failed (failed : r.failure = some f) : finish setup t r = r := by
  simp only [finish, failed]

/-! ## All turns -/

/-- What a rendering that began with some progress has come to after some turns. -/
inductive Stands (setup : Setup) (registry : Registry) (p : Progress) (turns : List Turn)
    (r : Rendering) : Prop
  /-- No failure was taken up yet. -/
  | going {q : Progress} (failure : r.failure = none)
      (taken : concludeAll setup registry (Turn.finished turns) p = (none, q))
      (same : r.progress.SameTable q)
      (ledger : r.progress.ledger = p.ledger.recordAll
        (edges setup registry (Turn.compiled turns)))
      (results : ∀ t ∈ Turn.compiled turns,
        r.results.lookup t = some (t.compiled registry setup.settings setup.compiler))
  /-- A failure was taken up.  What was compiled after that was begun before. -/
  | failed {earlier later : List Turn} {t : Target} {f : Failure} {q : Progress}
      (failure : r.failure = some f)
      (split : turns = earlier ++ .finish t :: later)
      (taken : concludeAll setup registry (Turn.finished earlier) p = (none, q))
      (fails : t.compiled registry setup.settings setup.compiler = .error f)
      (same : r.progress.SameTable q)
      (ledger : r.progress.ledger = p.ledger.recordAll (edges setup registry
        (Turn.compiled earlier ++ (Turn.compiled later).filter setup.timing.compiles)))

variable {turns : List Turn}

/-- A compilation keeps what holds of a rendering. -/
lemma Stands.turn_compile (stands : Stands setup registry p turns r) (t : Target) :
    Stands setup registry p (turns ++ [.compile t]) (compile setup registry t r) := by
  cases stands with
  | going failure taken same ledger results =>
    obtain ⟨hsame, hledger, hresults, hfailure⟩ :=
      compile_of_begun registry (.inl failure : _ ∨ setup.timing.compiles t = true)
    refine .going (hfailure.trans failure) (by simpa using taken) (hsame.trans same) ?_ ?_
    · rw [hledger, ledger, ← Ledger.recordAll_append, ← edges_append]
      simp
    · intro u hu
      rw [hresults, List.lookup_cons]
      split
      · next h => rw [eq_of_beq h]
      · next h =>
        have hne : u ≠ t := fun hu => by simp [hu] at h
        refine results u ?_
        simpa [hne] using hu
  | @failed earlier later u f q failure split taken fails same ledger =>
    have hsplit : turns ++ [.compile t] = earlier ++ .finish u :: (later ++ [.compile t]) := by
      rw [split, List.append_assoc, List.cons_append]
    cases hbegun : setup.timing.compiles t with
    | false =>
      rw [compile_of_cancelled failure hbegun]
      refine .failed failure hsplit taken fails same ?_
      simpa [hbegun] using ledger
    | true =>
      obtain ⟨hsame, hledger, -, hfailure⟩ :=
        compile_of_begun registry (.inr hbegun : r.failure = none ∨ _)
      refine .failed (hfailure.trans failure) hsplit taken fails (hsame.trans same) ?_
      rw [hledger, ledger, ← Ledger.recordAll_append, ← edges_append]
      simp [hbegun]

/-- Taking up a target that was compiled keeps what holds of a rendering. -/
lemma Stands.turn_finish (stands : Stands setup registry p turns r)
    (compiled : t ∈ Turn.compiled turns) :
    Stands setup registry p (turns ++ [.finish t]) (finish setup t r) := by
  cases stands with
  | @going q failure taken same ledger results =>
    rw [finish_of_going failure (results t compiled)]
    obtain ⟨hfailure, hsame⟩ := sameTable_conclude setup same t
      (t.compiled registry setup.settings setup.compiler)
    have hledger := ledger_conclude setup t (t.compiled registry setup.settings setup.compiler)
      r.progress
    cases hone : conclude setup t (t.compiled registry setup.settings setup.compiler) q with
    | mk failed q' =>
      rw [hone] at hfailure hsame
      cases failed with
      | none =>
        refine .going hfailure ?_ hsame ?_ ?_
        · rw [Turn.finished_append, concludeAll_append taken]
          simp [concludeAll, hone]
        · rw [hledger, ledger]
          simp
        · simpa using results
      | some f =>
        obtain ⟨hfails, hleft⟩ := conclude_eq_some hone
        have hsplit : turns ++ [.finish t] = turns ++ .finish t :: [] := rfl
        refine .failed hfailure hsplit taken hfails (hsame.trans hleft) ?_
        rw [hledger, ledger]
        simp
  | @failed earlier later u f q failure split taken fails same ledger =>
    rw [finish_of_failed failure]
    have hsplit : turns ++ [.finish t] = earlier ++ .finish u :: (later ++ [.finish t]) := by
      rw [split, List.append_assoc, List.cons_append]
    refine .failed failure hsplit taken fails same ?_
    simpa using ledger

/-- **Where a rendering stands**, after any turns in which no target is taken up before it is
compiled.  By induction from the back, since every turn finds what the turns before it have left. -/
theorem stands_turns (setup : Setup) (registry : Registry) (p : Progress) {turns : List Turn}
    (ahead : Turn.Ahead turns) :
    Stands setup registry p turns (turns.foldl (turn setup registry) ⟨p, [], none⟩) := by
  induction turns using List.reverseRecOn with
  | nil => exact .going rfl rfl ⟨rfl, rfl⟩ rfl fun t ht => absurd ht List.not_mem_nil
  | append_singleton turns x ih =>
    have stands := ih ahead.of_append
    rw [List.foldl_append]
    cases x with
    | compile t => exact stands.turn_compile t
    | finish t => exact stands.turn_finish (ahead turns t [] rfl)

end Pass

end StyleBuild
