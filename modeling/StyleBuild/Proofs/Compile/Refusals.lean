import StyleBuild.Proofs.Compile.Questions

/-!
# Imports that fail

An importer fails in two ways.  It refuses an import that means no module, or one in the indented
syntax, with a problem that says so, and remembers that (`Session.refuses_of_problem`).  Or it has
found a module that cannot be read.  What fails then is no problem of the build step's own wording
(`Target.ne_problem_of_text?`), and is not remembered.

What comes of the failure is up to the compiler.  An honest one does not go on: it lets the failure
through, or fails with a diagnosis of its own in the place of it (`Failure.StandsFor`).
`Dialogue.StopsAtFirst` says this of one compilation, whatever the compiler would do in another one.
Then the compilation ends right after the first question that was not answered, and nothing was
refused before (`Asks.run_of_error`).
-/

namespace StyleBuild

/-- A target that cannot be read is no problem of the build step's own wording. -/
lemma Target.ne_problem_of_text? {t : Target} {e : Fault} (h : t.text? = .error e) (p : Problem) :
    e ≠ .problem p := by
  unfold text? content? at h
  cases hcontent : t.content with
  | none =>
    simp only [hcontent, Except.error.injEq] at h
    subst h
    exact Fault.noConfusion
  | some content =>
    simp only [hcontent] at h
    cases hdecode : Utf8.decode content with
    | ok text =>
      rw [hdecode] at h
      cases h
    | error e' =>
      rw [hdecode] at h
      obtain rfl := Except.error.inj h
      exact Fault.noConfusion

namespace Importer

variable {i : Importer} {memory : Memory} {specifier : Text} {previous : Option Text} {p : Problem}

/-- What a refusal says of a stylesheet is said of the one that is being compiled. -/
lemma Refuses.target_eq (refuses : i.Refuses memory specifier previous p) {d : Diagnosis}
    (diagnosis : p.diagnosis? = some d) : d.target = some i.parent.path := by
  cases refuses with
  | missing => cases diagnosis
  | indented =>
    obtain rfl := Option.some.inj diagnosis
    rfl

@[simp] lemma refusals_issue (memory : Memory) (name : Text) :
    (issue memory name).refusals = memory.refusals := by
  unfold issue
  split <;> rfl

end Importer

namespace Session

variable {i : Importer} {s : Session} {specifier : Text} {previous : Option Text} {f : Failure}

/-- **A question that fails with a problem was refused**, and the refusal is remembered. -/
theorem refuses_of_problem {p : Problem} (answer : (s.ask i specifier previous).1 = .error f)
    (fault : f.fault = .problem p) :
    i.Refuses s.memory specifier previous p ∧
      f.raised = ⟨.problem p, some s.memory.refusals.length⟩ ∧
      (s.ask i specifier previous).2.memory.refusals = s.memory.refusals ++ [p] := by
  have hanswer : (i.call s.memory specifier previous).answer = .error f := answer
  cases i.call_ending s.memory specifier previous with
  | refused p' refuses call =>
    rw [call] at hanswer
    obtain rfl := Except.error.inj hanswer
    obtain rfl : p' = p := Fault.problem.inj fault
    exact ⟨refuses, rfl, congrArg (fun reply => reply.memory.refusals) call⟩
  | unreadable t e find importable text call =>
    rw [call] at hanswer
    obtain rfl := Except.error.inj hanswer
    exact absurd fault (Target.ne_problem_of_text? text p)
  | answered t content find importable text call =>
    rw [call] at hanswer
    cases hanswer

/-- A question that does not fail with a problem leaves no refusal. -/
lemma refusals_ask (other : ∀ f p, (s.ask i specifier previous).1 = .error f →
    f.fault ≠ .problem p) :
    (s.ask i specifier previous).2.memory.refusals = s.memory.refusals := by
  change (i.call s.memory specifier previous).memory.refusals = _
  cases i.call_ending s.memory specifier previous with
  | refused p refuses call =>
    refine absurd rfl (other ⟨⟨.problem p, some s.memory.refusals.length⟩, []⟩ p ?_)
    exact congrArg Reply.answer call
  | unreadable t e find importable text call => rw [call]
  | answered t content find importable text call => rw [call, Importer.refusals_issue]

end Session

/-! ## Compilers that stop -/

/-- A failure is another one, or a new diagnosis that was raised in the place of it. -/
def Failure.StandsFor (g f : Failure) : Prop :=
  g = f ∨ g.fault.diagnosis?.isSome = true ∧ g.raised.refusal = none

namespace Dialogue

variable {α : Type} {i : Importer} {d : Dialogue α} {s s' : Session} {specifier : Text}
  {previous : Option Text} {f : Failure}

/-- A dialogue does nothing any more but to fail with what stands for the given failure. -/
def GivesUp (f : Failure) : Dialogue α → Prop
  | fail g => g.StandsFor f
  | _ => False

lemma GivesUp.exists_eq_fail (gives : d.GivesUp f) : ∃ g, d = fail g ∧ g.StandsFor f := by
  cases d with
  | done a => cases gives
  | fail g => exact ⟨g, rfl, gives⟩
  | ask specifier previous resume => cases gives

/-- A dialogue goes on after every answer, but gives up when a question fails. -/
def StopsAtFirst (i : Importer) : Dialogue α → Session → Prop
  | done _, _ => True
  | fail _, _ => True
  | ask specifier previous resume, s =>
    match (s.ask i specifier previous).1 with
    | .ok source => (resume (.ok source)).StopsAtFirst i (s.ask i specifier previous).2
    | .error f => (resume (.error f)).GivesUp f

/-- The questions of a dialogue, each with the session that it is asked in. -/
inductive Asks (i : Importer) : Dialogue α → Session → Text → Option Text → Session → Prop
  | now {specifier : Text} {previous : Option Text} {resume : Except Failure Source → Dialogue α}
      {s : Session} : Asks i (ask specifier previous resume) s specifier previous s
  | later {specifier specifier' : Text} {previous previous' : Option Text}
      {resume : Except Failure Source → Dialogue α} {s s' : Session} :
      Asks i (resume (s.ask i specifier previous).1) (s.ask i specifier previous).2 specifier'
        previous' s' →
      Asks i (ask specifier previous resume) s specifier' previous' s'

/-- No question of the dialogue fails with a problem. -/
def Unrefused (i : Importer) (d : Dialogue α) (s : Session) : Prop :=
  ∀ specifier previous s', d.Asks i s specifier previous s' →
    ∀ f p, (s'.ask i specifier previous).1 = .error f → f.fault ≠ .problem p

/-- **Refusals come from questions that fail with a problem.** -/
theorem Unrefused.refusals_run (unrefused : d.Unrefused i s) :
    (d.run i s).2.memory.refusals = s.memory.refusals := by
  induction d generalizing s with
  | done a => rfl
  | fail f => rfl
  | ask specifier previous resume ih =>
    have hrest : (resume (s.ask i specifier previous).1).Unrefused i
        (s.ask i specifier previous).2 :=
      fun specifier' previous' s' asks => unrefused specifier' previous' s' (.later asks)
    rw [run_ask, ih _ hrest]
    exact Session.refusals_ask (unrefused _ _ _ .now)

/-- **A dialogue that stops ends with the question that fails**: nothing was refused before, and what
it fails with stands for the answer. -/
theorem Asks.run_of_error (asks : d.Asks i s specifier previous s') (stops : d.StopsAtFirst i s)
    (answer : (s'.ask i specifier previous).1 = .error f) :
    ∃ g, d.run i s = (.error g, (s'.ask i specifier previous).2) ∧ g.StandsFor f ∧
      s'.memory.refusals = s.memory.refusals := by
  induction asks with
  | @now specifier previous resume s =>
    rw [StopsAtFirst, answer] at stops
    obtain ⟨g, hresume, stands⟩ := stops.exists_eq_fail
    refine ⟨g, ?_, stands, rfl⟩
    rw [run_ask, answer, hresume]
    rfl
  | @later specifier specifier' previous previous' resume s s' asks ih =>
    rw [StopsAtFirst] at stops
    cases hfirst : (s.ask i specifier previous).1 with
    | error f' =>
      -- The dialogue would have stopped at this question, and asked no other one.
      rw [hfirst] at stops asks
      obtain ⟨g, hresume, -⟩ := stops.exists_eq_fail
      rw [hresume] at asks
      cases asks
    | ok source =>
      rw [hfirst] at stops ih
      obtain ⟨g, hrun, stands, hrefusals⟩ := ih stops answer
      have hsame : (s.ask i specifier previous).2.memory.refusals = s.memory.refusals := by
        refine Session.refusals_ask fun f' p hfails => ?_
        rw [hfirst] at hfails
        cases hfails
      refine ⟨g, ?_, stands, hrefusals.trans hsame⟩
      rw [run_ask, hfirst, hrun]

end Dialogue

end StyleBuild
