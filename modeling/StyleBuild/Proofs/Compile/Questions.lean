import StyleBuild.Proofs.Compile.Sessions
import StyleBuild.Proofs.Module.Sharing

/-!
# What a question leaves behind

A compiler asks for a module, and the importer answers or fails.  An answer is recorded in three
places: the imported target is used, the graph has an edge to it, and its key is a name that was
given out.  A failure should be recorded in none of them.

`Session.Course` says what can become of a question.  If nothing that can be imported has the key, it
fails before anything is recorded.  If a target has it, use and edge are recorded at once, and its
content is read after that.  So where the content was not loaded, or is no text, the question fails
and both are there, without the name.

`recordsAnswersOnly_iff` is the exact condition: the content can be read, or use and edge were there
before.  Over a whole compilation, `Visits.mem_graph_iff` follows when all contents can be read: the
edges that were recorded are those to the modules that were given out.
-/

namespace StyleBuild

namespace Usage

lemma record_eq_self_iff {u : Usage} {path : Text} :
    u.record path = u ↔ u.wasUsed path = true := by
  unfold record
  split
  · next h => exact iff_of_true rfl h
  · next h =>
    refine iff_of_false (fun heq => ?_) h
    have hlength := congrArg (List.length ∘ Usage.paths) heq
    simp at hlength

end Usage

namespace Graph

lemma add_eq_self_iff {g : Graph} {e : Edge} : g.add e = g ↔ e ∈ g := by
  unfold add
  split
  · next h => exact iff_of_true rfl h
  · next h =>
    refine iff_of_false (fun heq => ?_) h
    have hlength := congrArg (List.length ∘ Graph.edges) heq
    simp at hlength

end Graph

/-- Use and edge of an import are recorded. -/
structure Ledger.Has (l : Ledger) (consumer dependency : Text) : Prop where
  used : l.usage.wasUsed dependency = true
  edge : ⟨consumer, dependency⟩ ∈ l.graph

namespace Session

/-- The two sessions have the same records. -/
structure SameRecords (s s' : Session) : Prop where
  usage : s'.ledger.usage = s.ledger.usage
  graph : s'.ledger.graph = s.ledger.graph
  issued : s'.memory.issued = s.memory.issued

/-- The later session has one use, one edge and one name more, unless they were there already. -/
structure RecordsOne (s s' : Session) (consumer dependency name : Text) : Prop where
  usage : ∀ path, s'.ledger.usage.wasUsed path = true ↔
    s.ledger.usage.wasUsed path = true ∨ path = dependency
  graph : ∀ e, e ∈ s'.ledger.graph ↔ e ∈ s.ledger.graph ∨ e = ⟨consumer, dependency⟩
  issued : ∀ k, k ∈ s'.memory.issued ↔ k ∈ s.memory.issued ∨ k = name

/-- A question that is answered with a module leaves one record of it, and one that fails leaves
none. -/
def RecordsAnswersOnly (i : Importer) (s : Session) (specifier : Text) (previous : Option Text) :
    Prop :=
  match (s.ask i specifier previous).1 with
  | .error _ => SameRecords s (s.ask i specifier previous).2
  | .ok source => ∃ t, i.registry.find? source.name = some t ∧
      RecordsOne s (s.ask i specifier previous).2 i.parent.path t.path source.name

variable {i : Importer} {s : Session} {specifier : Text} {previous : Option Text}

lemma sameRecords_iff_has {s s' : Session} {consumer dependency : Text}
    (hledger : s'.ledger = s.ledger.record consumer dependency) (hmemory : s'.memory = s.memory) :
    SameRecords s s' ↔ s.ledger.Has consumer dependency := by
  have husage : s'.ledger.usage = s.ledger.usage ↔ s.ledger.usage.wasUsed dependency = true := by
    rw [hledger]
    exact Usage.record_eq_self_iff
  have hgraph : s'.ledger.graph = s.ledger.graph ↔ ⟨consumer, dependency⟩ ∈ s.ledger.graph := by
    rw [hledger]
    exact Graph.add_eq_self_iff
  constructor
  · rintro ⟨hu, hg, -⟩
    exact ⟨husage.1 hu, hgraph.1 hg⟩
  · rintro ⟨hu, hg⟩
    exact ⟨husage.2 hu, hgraph.2 hg, by rw [hmemory]⟩

lemma recordsOne_of_record {s s' : Session} {consumer dependency name : Text}
    (hledger : s'.ledger = s.ledger.record consumer dependency)
    (hmemory : s'.memory = Importer.issue s.memory name) :
    RecordsOne s s' consumer dependency name := by
  refine ⟨fun path => ?_, fun e => ?_, fun k => ?_⟩
  · rw [hledger, Ledger.record, Usage.wasUsed_record, Bool.or_eq_true, decide_eq_true_iff]
  · rw [hledger]
    exact Graph.mem_add
  · rw [hmemory]
    exact Importer.mem_issued_issue

/-- A refusal is not recorded. -/
lemma sameRecords_of_refuse {p : Problem}
    (hcall : i.call s.memory specifier previous = Importer.refuse s.memory p) :
    (∃ f, (s.ask i specifier previous).1 = .error f) ∧
      SameRecords s (s.ask i specifier previous).2 := by
  have hledger : (s.ask i specifier previous).2.ledger = s.ledger := by
    rw [Dialogue.ledger_ask, hcall]
    rfl
  have hissued : (s.ask i specifier previous).2.memory.issued = s.memory.issued := by
    rw [ask, hcall]
    rfl
  refine ⟨⟨_, by rw [ask, hcall]; rfl⟩, ?_, ?_, hissued⟩ <;> rw [hledger]

/-- What can become of a question.  If nothing that can be imported has the key, it is refused.  If a
target has it, the use of that target is recorded first, and its content is read after that. -/
inductive Course (i : Importer) (s : Session) (specifier : Text) (previous : Option Text) : Prop
  | refused (f : Failure)
    (none : ∀ t, i.registry.find? (i.resolve s.memory specifier previous) = some t →
      t.isIndented = true)
    (answer : (s.ask i specifier previous).1 = .error f)
    (same : SameRecords s (s.ask i specifier previous).2)
  | unreadable (t : Target) (e : Fault)
    (find : i.registry.find? (i.resolve s.memory specifier previous) = some t)
    (importable : t.isIndented = false)
    (text : t.text? = .error e)
    (answer : (s.ask i specifier previous).1 = .error (.ofFault e))
    (ledger : (s.ask i specifier previous).2.ledger = s.ledger.record i.parent.path t.path)
    (memory : (s.ask i specifier previous).2.memory = s.memory)
  | answered (t : Target) (content : Text)
    (find : i.registry.find? (i.resolve s.memory specifier previous) = some t)
    (importable : t.isIndented = false)
    (text : t.text? = .ok content)
    (answer : (s.ask i specifier previous).1 =
      .ok ⟨i.resolve s.memory specifier previous, content⟩)
    (ledger : (s.ask i specifier previous).2.ledger = s.ledger.record i.parent.path t.path)
    (memory : (s.ask i specifier previous).2.memory =
      Importer.issue s.memory (i.resolve s.memory specifier previous))

/-- **What a question does.** -/
theorem ask_cases (i : Importer) (s : Session) (specifier : Text) (previous : Option Text) :
    Course i s specifier previous := by
  cases i.call_ending s.memory specifier previous with
  | refused p refuses call =>
    obtain ⟨⟨f, hanswer⟩, hsame⟩ := sameRecords_of_refuse call
    exact .refused f (fun t => refuses.isIndented) hanswer hsame
  | unreadable t e find importable text call =>
    exact .unreadable t e find importable text (congrArg Reply.answer call)
      (congrArg (fun reply => reply.enter i.parent.path s.ledger) call) (congrArg Reply.memory call)
  | answered t content find importable text call =>
    exact .answered t content find importable text (congrArg Reply.answer call)
      (congrArg (fun reply => reply.enter i.parent.path s.ledger) call) (congrArg Reply.memory call)

/-- **Only answers leave a record exactly when the target that is meant can be read**, or was
recorded before. -/
theorem recordsAnswersOnly_iff (i : Importer) (s : Session) (specifier : Text)
    (previous : Option Text) :
    s.RecordsAnswersOnly i specifier previous ↔
      ∀ t, i.registry.find? (i.resolve s.memory specifier previous) = some t →
        t.isIndented = false →
          (∃ text, t.text? = .ok text) ∨ s.ledger.Has i.parent.path t.path := by
  cases ask_cases i s specifier previous with
  | refused f none answer same =>
    rw [RecordsAnswersOnly, answer]
    refine iff_of_true same fun t hfind hindented => ?_
    rw [none t hfind] at hindented
    cases hindented
  -- The target is recorded although the question fails.
  | unreadable t e find importable text answer ledger memory =>
    rw [RecordsAnswersOnly, answer]
    change SameRecords s (s.ask i specifier previous).2 ↔ _
    rw [sameRecords_iff_has ledger memory]
    constructor
    · intro has u hu _
      obtain rfl := Option.some.inj (find.symm.trans hu)
      exact .inr has
    · intro h
      refine (h t find importable).resolve_left ?_
      rintro ⟨content, hread⟩
      rw [text] at hread
      cases hread
  | answered t content find importable text answer ledger memory =>
    rw [RecordsAnswersOnly, answer]
    refine iff_of_true ⟨t, find, recordsOne_of_record ledger memory⟩ fun u hu _ => ?_
    obtain rfl := Option.some.inj (find.symm.trans hu)
    exact .inl ⟨content, text⟩

end Session

/-! ### A module that is no text

The stylesheet `b.scss` consists of a byte that is no character. -/

namespace Questions

def page : Target := (Target.fresh "a.scss".toList [] false).load

def garbled : Target := (Target.fresh "b.scss".toList [0xFF] false).load

def registry : Registry where
  entries := [("a".toList, page), ("b".toList, garbled)]
  nodup := by simp

end Questions

namespace Session

/-- **A question that fails can leave a record.**  An importer that was just begun is asked for
`b`. -/
theorem not_forall_recordsAnswersOnly :
    ¬ ∀ (settings : Settings) (ts : List Target) (r : Registry),
      Registry.build settings ts = .ok r → ∀ parent ∈ ts, ∀ specifier previous,
        (Session.start ⟨.empty, .empty⟩ []).RecordsAnswersOnly ⟨r, settings, parent⟩ specifier
          previous := by
  intro h
  have records := h .default [Questions.page, Questions.garbled] Questions.registry rfl _
    List.mem_cons_self "b".toList none
  have hfails : ((Session.start ⟨.empty, .empty⟩ []).ask
      ⟨Questions.registry, .default, Questions.page⟩ "b".toList none).1.toOption = none := by
    decide +kernel
  have hused : ((Session.start ⟨.empty, .empty⟩ []).ask
      ⟨Questions.registry, .default, Questions.page⟩ "b".toList none).2.ledger.usage =
        ⟨["b.scss".toList]⟩ := by
    decide +kernel
  unfold RecordsAnswersOnly at records
  split at records
  · have hsame := records.usage
    rw [hused] at hsame
    exact absurd hsame (by decide)
  · next source hanswer =>
    rw [hanswer] at hfails
    cases hfails

end Session

/-! ## Whole compilations -/

namespace Dialogue

/-- **The edges of a compilation are those to the modules that it was given**, at any time, if all
contents can be read. -/
theorem Visits.mem_graph_iff {α : Type} {i : Importer} {d : Dialogue α} {l : Ledger} {j : Journal}
    {s : Session} (readable : i.Readable) (visits : d.Visits i (.start l j) s) (e : Edge) :
    e ∈ s.ledger.graph ↔ e ∈ l.graph ∨ ∃ k ∈ s.memory.issued, ∃ t,
      i.registry.find? k = some t ∧ e = ⟨i.parent.path, t.path⟩ := by
  refine visits.keeps (P := fun s => e ∈ s.ledger.graph ↔ e ∈ l.graph ∨ ∃ k ∈ s.memory.issued,
    ∃ t, i.registry.find? k = some t ∧ e = ⟨i.parent.path, t.path⟩) ?_ ?_
  · intro s specifier previous ih
    cases Session.ask_cases i s specifier previous with
    | refused f none answer same =>
      rw [same.graph, same.issued]
      exact ih
    | unreadable t e find importable text answer ledger memory =>
      obtain ⟨content, hread⟩ := readable _ t find
      rw [text] at hread
      cases hread
    | answered t content find importable text answer ledger memory =>
      obtain ⟨-, hgraph, hissued⟩ := Session.recordsOne_of_record ledger memory
      rw [hgraph, ih, or_assoc]
      refine or_congr_right ?_
      simp only [hissued, or_and_right, exists_or, exists_eq_left, find, Option.some.injEq,
        exists_eq_left']
  · simp [Session.start, Memory.empty]

end Dialogue

end StyleBuild
