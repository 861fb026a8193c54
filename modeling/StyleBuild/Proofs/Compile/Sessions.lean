import StyleBuild.Proofs.Compile.Imports
import StyleBuild.Proofs.Module.Memory

/-!
# The sessions of a compilation

While a target is compiled, the session changes with every import that the compiler asks for, also
where the import fails.  `Dialogue.Visits` says which sessions a dialogue comes through, the first
and the last one among them (`visits_run`), so what holds during a whole compilation is a statement
about all visited sessions.

`Visits.keeps` is the induction for such statements: what one question keeps holds all the time.
From it follow the facts that other files start from.  The memory is always one that the importer
can come to by calls (`Visits.reached`), and the names in it are those that the journal has as
answers (`Visits.mem_issued_iff`).  The journal itself only grows (`Visits.journal_subset`).
-/

namespace StyleBuild

/-- A question of the journal was answered with the given name. -/
def Journal.Issues (j : Journal) (name : Text) : Prop :=
  ∃ specifier previous, Event.call specifier previous (some name) ∈ j

instance (j : Journal) (name : Text) : Decidable (j.Issues name) :=
  decidable_of_iff (∃ call ∈ j.calls, call.2.2 = some name) <| by
    unfold Journal.Issues Journal.calls
    constructor
    · rintro ⟨⟨specifier, previous, key⟩, hcall, rfl⟩
      obtain ⟨e, he, hkey⟩ := List.mem_filterMap.1 hcall
      cases e <;> cases hkey
      exact ⟨specifier, previous, he⟩
    · rintro ⟨specifier, previous, hcall⟩
      exact ⟨(specifier, previous, some name), List.mem_filterMap.2 ⟨_, hcall, rfl⟩, rfl⟩

/-- A call issues the name of what it answers with, and no other one. -/
lemma Importer.mem_issued_call {i : Importer} {memory : Memory} {specifier : Text}
    {previous : Option Text} {name : Text} :
    name ∈ (i.call memory specifier previous).memory.issued ↔ name ∈ memory.issued ∨
      ∃ source, (i.call memory specifier previous).answer = .ok source ∧ source.name = name := by
  rcases call_cases i memory specifier previous with
    ⟨⟨f, hanswer⟩, hissued, -⟩ | ⟨t, text, -, -, -, hcall⟩
  · rw [hissued, hanswer]
    simp
  · rw [hcall]
    simp [mem_issued_issue, eq_comm]

namespace Session

variable {i : Importer} {s : Session} {specifier : Text} {previous : Option Text} {name : Text}

/-- A question adds the messages about what was found, and itself, to the journal. -/
lemma mem_journal_ask {e : Event} :
    e ∈ (s.ask i specifier previous).2.journal ↔ e ∈ s.journal ∨
      (∃ t, (i.call s.memory specifier previous).imported = some t ∧
        e = importNote i.parent.path specifier t) ∨
      e = .call specifier previous
        ((i.call s.memory specifier previous).answer.toOption.map Source.name) := by
  simp only [ask, List.mem_append, List.mem_map, List.mem_singleton, Option.mem_toList, or_assoc,
    @eq_comm _ e]
  cases (i.call s.memory specifier previous).answer <;> rfl

/-- A question is answered with a name exactly when the call does so. -/
lemma issues_journal_ask :
    (s.ask i specifier previous).2.journal.Issues name ↔ s.journal.Issues name ∨
      ∃ source, (i.call s.memory specifier previous).answer = .ok source ∧ source.name = name := by
  unfold Journal.Issues
  simp only [mem_journal_ask]
  constructor
  · rintro ⟨specifier', previous', hold | ⟨t, -, hnote⟩ | hcall⟩
    · exact .inl ⟨specifier', previous', hold⟩
    · cases hnote
    · cases hanswer : (i.call s.memory specifier previous).answer with
      | error f => simp [hanswer, Except.toOption] at hcall
      | ok source =>
        simp only [hanswer, Except.toOption, Option.map_some, Event.call.injEq,
          Option.some.injEq] at hcall
        exact .inr ⟨source, rfl, hcall.2.2.symm⟩
  · rintro (⟨specifier', previous', hold⟩ | ⟨source, hanswer, rfl⟩)
    · exact ⟨specifier', previous', .inl hold⟩
    · exact ⟨specifier, previous, .inr (.inr (by rw [hanswer]; rfl))⟩

end Session

namespace Dialogue

variable {α : Type} {i : Importer} {d : Dialogue α} {s s' : Session}

/-- The sessions that a dialogue comes through: the one that it begins with, and those after its
questions. -/
inductive Visits (i : Importer) : Dialogue α → Session → Session → Prop
  | here (d : Dialogue α) (s : Session) : Visits i d s s
  | later {specifier : Text} {previous : Option Text} {resume : Except Failure Source → Dialogue α}
      {s s' : Session} :
      Visits i (resume (s.ask i specifier previous).1) (s.ask i specifier previous).2 s' →
      Visits i (ask specifier previous resume) s s'

/-- The session in the end is one of them. -/
lemma visits_run (i : Importer) (d : Dialogue α) (s : Session) : d.Visits i s (d.run i s).2 := by
  induction d generalizing s with
  | done a => exact .here _ _
  | fail f => exact .here _ _
  | ask specifier previous resume ih =>
    rw [run_ask]
    exact .later (ih _ _)

/-- **What every question keeps holds during the whole dialogue.** -/
theorem Visits.keeps {P : Session → Prop} (visits : d.Visits i s s')
    (step : ∀ s specifier previous, P s → P (s.ask i specifier previous).2) (start : P s) :
    P s' := by
  induction visits with
  | here d s => exact start
  | later _ ih => exact ih (step _ _ _ start)

/-- The memory of a session is one that the importer can come to. -/
lemma Visits.reached (visits : d.Visits i s s') (start : ∃ given, i.Reached s.memory given) :
    ∃ given, i.Reached s'.memory given := by
  refine visits.keeps (P := fun s => ∃ given, i.Reached s.memory given) ?_ start
  rintro s specifier previous ⟨given, reached⟩
  exact ⟨_, reached.call specifier previous⟩

/-- **The names in the memory are those that the journal has as answers.** -/
theorem Visits.mem_issued_iff (visits : d.Visits i s s')
    (start : ∀ name, name ∈ s.memory.issued ↔ s.journal.Issues name) (name : Text) :
    name ∈ s'.memory.issued ↔ s'.journal.Issues name := by
  refine visits.keeps (P := fun s => ∀ name, name ∈ s.memory.issued ↔ s.journal.Issues name)
    ?_ start name
  intro s specifier previous ih name
  rw [Session.issues_journal_ask, ← ih]
  exact Importer.mem_issued_call

/-- The journal of a session is kept until the end. -/
lemma Visits.journal_subset (visits : d.Visits i s s') :
    s'.journal ⊆ (d.run i s).2.journal := by
  induction visits with
  | here d s =>
    intro e he
    refine (visits_run i d s).keeps (P := fun s => e ∈ s.journal) ?_ he
    exact fun s specifier previous h => Session.mem_journal_ask.2 (.inl h)
  | later _ ih =>
    rw [run_ask]
    exact ih

end Dialogue

end StyleBuild
