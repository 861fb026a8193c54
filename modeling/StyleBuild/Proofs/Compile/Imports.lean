import Mathlib.Data.List.Basic
import Mathlib.Tactic.Lemma
import StyleBuild.Build.Rendering
import StyleBuild.Proofs.Module.Memory

/-!
# What a compilation records

While a target is compiled, every import of a registered target is entered in the ledger.  Nothing
flows back: the ledger after a compilation is the ledger before it with a list of edges recorded
(`Target.ledger_render`), and that list, like the result of the compilation (`Target.render_fst`),
is a function of the target and the registry alone.

`Dialogue.imports` is the list for a dialogue, `Target.imports` the one for a target.
-/

namespace StyleBuild

/-! ## Ledgers -/

namespace Ledger

/-- Records edges one after the other. -/
def recordAll (l : Ledger) (es : List Edge) : Ledger :=
  es.foldl (fun l e => l.record e.consumer e.dependency) l

@[simp] lemma recordAll_nil (l : Ledger) : l.recordAll [] = l := rfl

lemma recordAll_cons (l : Ledger) (e : Edge) (es : List Edge) :
    l.recordAll (e :: es) = (l.record e.consumer e.dependency).recordAll es := rfl

lemma recordAll_append (l : Ledger) (es fs : List Edge) :
    l.recordAll (es ++ fs) = (l.recordAll es).recordAll fs :=
  List.foldl_append

/-- Exactly the recorded edges are new in the graph. -/
lemma mem_recordAll {l : Ledger} {es : List Edge} {e : Edge} :
    e ∈ (l.recordAll es).graph ↔ e ∈ l.graph ∨ e ∈ es := by
  induction es generalizing l with
  | nil => simp
  | cons f es ih =>
    have hadd : e ∈ (l.record f.consumer f.dependency).graph ↔ e ∈ l.graph ∨ e = f := Graph.mem_add
    rw [recordAll_cons, ih, hadd, List.mem_cons, or_assoc]

/-- Exactly the dependencies of the recorded edges are newly used. -/
lemma wasUsed_recordAll {l : Ledger} {es : List Edge} {path : Text} :
    (l.recordAll es).usage.wasUsed path = true ↔
      l.usage.wasUsed path = true ∨ ∃ e ∈ es, e.dependency = path := by
  induction es generalizing l with
  | nil => simp
  | cons f es ih =>
    have hrecord : (l.record f.consumer f.dependency).usage.wasUsed path = true ↔
        l.usage.wasUsed path = true ∨ f.dependency = path := by
      rw [record, Usage.wasUsed_record, Bool.or_eq_true, decide_eq_true_iff, @eq_comm _ path]
    rw [recordAll_cons, ih, hrecord, or_assoc]
    simp

end Ledger

/-! ## Dialogues -/

namespace Dialogue

variable {α : Type} {i : Importer}

/-- The targets that are imported in a dialogue, in order. -/
def imports (i : Importer) : Dialogue α → Memory → List Target
  | done _, _ => []
  | fail _, _ => []
  | ask specifier previous resume, memory =>
    let reply := i.call memory specifier previous
    reply.imported.toList ++ (resume reply.answer).imports i reply.memory

lemma run_ask (s : Session) (specifier : Text) (previous : Option Text)
    (resume : Except Failure Source → Dialogue α) :
    (ask specifier previous resume).run i s =
      (resume (s.ask i specifier previous).1).run i (s.ask i specifier previous).2 := rfl

lemma ledger_ask (s : Session) (specifier : Text) (previous : Option Text) :
    (s.ask i specifier previous).2.ledger = s.ledger.recordAll
      ((i.call s.memory specifier previous).imported.toList.map
        fun t => ⟨i.parent.path, t.path⟩) := by
  rw [Session.ask, Reply.enter]
  cases (i.call s.memory specifier previous).imported <;> rfl

/-- **A dialogue records its imports.** -/
theorem ledger_run (d : Dialogue α) (s : Session) :
    (d.run i s).2.ledger =
      s.ledger.recordAll ((d.imports i s.memory).map fun t => ⟨i.parent.path, t.path⟩) := by
  induction d generalizing s with
  | done a => rfl
  | fail f => rfl
  | ask specifier previous resume ih =>
    rw [run_ask, ih, ledger_ask, imports, List.map_append, Ledger.recordAll_append]
    rfl

/-- What a dialogue comes to depends on the memory of the importer, but not on the ledger. -/
lemma run_congr (d : Dialogue α) (s s' : Session) (h : s.memory = s'.memory) :
    (d.run i s).1 = (d.run i s').1 ∧ (d.run i s).2.memory = (d.run i s').2.memory := by
  induction d generalizing s s' with
  | done a => exact ⟨rfl, h⟩
  | fail f => exact ⟨rfl, h⟩
  | ask specifier previous resume ih =>
    have hanswer : (s.ask i specifier previous).1 = (s'.ask i specifier previous).1 := by
      rw [Session.ask, Session.ask, h]
    have hmemory : (s.ask i specifier previous).2.memory
        = (s'.ask i specifier previous).2.memory := by
      rw [Session.ask, Session.ask, h]
    rw [run_ask, run_ask, hanswer]
    exact ih _ _ _ hmemory

end Dialogue

/-! ## What is imported -/

/-- A call enters what its specifier means: what is registered under that key, and not in the
indented syntax. -/
lemma Importer.imported_call_iff {i : Importer} {memory : Memory} {specifier : Text}
    {previous : Option Text} {u : Target} : (i.call memory specifier previous).imported = some u ↔
      i.registry.find? (i.resolve memory specifier previous) = some u ∧ u.isIndented = false := by
  have hgiven : ∀ t, i.registry.find? (i.resolve memory specifier previous) = some t →
      t.isIndented = false → (some t = some u ↔
        i.registry.find? (i.resolve memory specifier previous) = some u ∧ u.isIndented = false) := by
    intro t find importable
    constructor
    · rintro ⟨⟩
      exact ⟨find, importable⟩
    · rintro ⟨find', -⟩
      exact find.symm.trans find'
  cases i.call_ending memory specifier previous with
  | refused p refuses call =>
    rw [call]
    refine iff_of_false nofun ?_
    rintro ⟨find, importable⟩
    rw [refuses.isIndented find] at importable
    cases importable
  | unreadable t e find importable text call =>
    rw [call]
    exact hgiven t find importable
  | answered t content find importable text call =>
    rw [call]
    exact hgiven t find importable

/-- **Whatever a dialogue imports is registered**, and not in the indented syntax, also where the
compiler makes nothing of the answer. -/
lemma Dialogue.registered_of_mem_imports {α : Type} {i : Importer} {d : Dialogue α}
    {memory : Memory} {u : Target} (h : u ∈ d.imports i memory) :
    (∃ key, i.registry.find? key = some u) ∧ u.isIndented = false := by
  induction d generalizing memory with
  | done a => cases h
  | fail f => cases h
  | ask specifier previous resume ih =>
    rw [imports, List.mem_append, Option.mem_toList] at h
    rcases h with h | h
    · obtain ⟨hfind, hindented⟩ := Importer.imported_call_iff.1 h
      exact ⟨⟨_, hfind⟩, hindented⟩
    · exact ih _ h

/-! ## Targets -/

namespace Target

variable (t : Target) (registry : Registry) (settings : Settings) (compiler : Compiler)

/-- The targets that are imported while a target is compiled. -/
def imports : List Target :=
  match t.text? with
  | .error _ => []
  | .ok content =>
    (compiler (t.request settings content)).imports ⟨registry, settings, t⟩ .empty

/-- The edges that are recorded while a target is compiled. -/
def edges : List Edge := (t.imports registry settings compiler).map fun u => ⟨t.path, u.path⟩

/-- What a target imports is registered, and not in the indented syntax. -/
lemma registered_of_mem_imports {u : Target} (h : u ∈ t.imports registry settings compiler) :
    (∃ key, registry.find? key = some u) ∧ u.isIndented = false := by
  rw [imports] at h
  cases htext : t.text? with
  | error e =>
    rw [htext] at h
    cases h
  | ok content =>
    rw [htext] at h
    exact Dialogue.registered_of_mem_imports h

/-- What a target is compiled to. -/
def compiled : Except Failure Bytes := (t.render registry settings compiler ⟨.empty, .empty⟩).1

/-- **A compilation records an edge to each of its imports.** -/
theorem ledger_render (l : Ledger) :
    (t.render registry settings compiler l).2.1 =
      l.recordAll (t.edges registry settings compiler) := by
  rw [render, edges, imports]
  cases t.text? with
  | error e => rfl
  | ok content => exact Dialogue.ledger_run _ _

/-- **The result of a compilation does not depend on the ledger.** -/
theorem render_fst (l : Ledger) :
    (t.render registry settings compiler l).1 = t.compiled registry settings compiler := by
  rw [compiled, render, render]
  cases t.text? with
  | error e => rfl
  | ok content =>
    obtain ⟨hresult, hmemory⟩ :=
      (compiler (t.request settings content)).run_congr (i := ⟨registry, settings, t⟩)
        (.start l [.request (t.request settings content)])
        (.start ⟨.empty, .empty⟩ [.request (t.request settings content)]) rfl
    simp only [hresult, hmemory]

end Target

end StyleBuild
