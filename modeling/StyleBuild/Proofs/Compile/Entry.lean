import StyleBuild.Compile.Directive
import StyleBuild.Proofs.Compile.Sessions

/-!
# The entry document of an engine

An engine knows the entry document only as `stdin`.  The importer takes every name that it has not
given out for the entry document, so imports written there are relative to the directory of the
target that is compiled (`Importer.KnowsEntry`).

That ends when a module with the key `stdin` is handed out.  From then on the name means this
module, and what the entry document imports after that is looked for at the module root.
`Engine.keepsEntry_iff` says that nothing else can go wrong: the entry document keeps its directory
during a compilation exactly when it is in the root anyway, or no import was answered with that
name.  So it is enough that no module is registered under the key, but not that the module is left
alone at first (`Engine.not_forall_keepsEntry`).
-/

namespace StyleBuild

namespace Importer

variable {i : Importer} {memory : Memory}

/-- The directory of the entry document. -/
def entryDirectory (i : Importer) : Text := i.settings.modulePath (Path.directory i.rootPath)

/-- What the engine calls the entry document has the directory of the entry document, and imports
in it are resolved there. -/
structure KnowsEntry (i : Importer) (memory : Memory) : Prop where
  directory : i.currentDirectory memory (some Report.entryName) = i.entryDirectory
  resolves : ∀ specifier, i.resolve memory specifier (some Report.entryName) =
    i.settings.resolveImport specifier i.entryDirectory

/-- A module with the key `stdin` is at the root. -/
lemma currentDirectory_entryName (h : Report.entryName ∈ memory.issued) :
    i.currentDirectory memory (some Report.entryName) = [] := by
  rw [currentDirectory_of_mem (by decide) h]
  rfl

/-- **The entry document is known as long as its name was not given to a module**, or for good if
both are at the root. -/
theorem knowsEntry_iff :
    i.KnowsEntry memory ↔ i.entryDirectory = [] ∨ Report.entryName ∉ memory.issued := by
  constructor
  · rintro ⟨hdirectory, -⟩
    by_cases hissued : Report.entryName ∈ memory.issued
    · rw [currentDirectory_entryName hissued] at hdirectory
      exact .inl hdirectory.symm
    · exact .inr hissued
  · intro h
    have hdirectory : i.currentDirectory memory (some Report.entryName) = i.entryDirectory := by
      by_cases hissued : Report.entryName ∈ memory.issued
      · rw [currentDirectory_entryName hissued, h.resolve_right (not_not.2 hissued)]
      · exact currentDirectory_of_not_mem hissued
    exact ⟨hdirectory, fun specifier => by rw [resolve, hdirectory]⟩

end Importer

namespace Engine

/-- The entry document keeps its directory while the engine compiles the parent of the importer,
whatever was imported until then, and whatever came of it. -/
def KeepsEntry (engine : Engine) (i : Importer) (l : Ledger) : Prop :=
  ∀ content, i.parent.text? = .ok content → ∀ session,
    (engine.compiler (i.parent.request i.settings content)).Visits i
      (.start l [.request (i.parent.request i.settings content)]) session →
    i.KnowsEntry session.memory

/-- **The entry document keeps its directory exactly when it is at the root, or no import was
answered with its name.**  In particular it does when no module that can be imported is registered
under that name. -/
theorem keepsEntry_iff (engine : Engine) (i : Importer) (l : Ledger) :
    (engine.KeepsEntry i l ↔ i.entryDirectory = [] ∨
      ¬ (i.parent.render i.registry i.settings engine.compiler l).2.2.Issues Report.entryName) ∧
    ((∀ t, i.registry.find? Report.entryName = some t → t.isIndented = true) →
      engine.KeepsEntry i l) := by
  have hstart : ∀ request name, name ∈ (Session.start l [.request request]).memory.issued ↔
      (Session.start l [.request request]).journal.Issues name := by
    intro request name
    simp [Session.start, Memory.empty, Journal.Issues]
  refine ⟨?_, ?_⟩
  · cases htext : i.parent.text? with
    | error e =>
      -- Nothing is compiled, and nothing is imported.
      refine iff_of_true (fun content hcontent => ?_) (.inr ?_)
      · rw [htext] at hcontent
        cases hcontent
      · simp [Target.render, htext, Journal.Issues]
    | ok content =>
      have hjournal : (i.parent.render i.registry i.settings engine.compiler l).2.2 =
          ((engine.compiler (i.parent.request i.settings content)).run i
            (.start l [.request (i.parent.request i.settings content)])).2.journal := by
        rw [Target.render, htext]
      rw [hjournal]
      constructor
      · intro keeps
        have hlast := Dialogue.visits_run i (engine.compiler (i.parent.request i.settings content))
          (.start l [.request (i.parent.request i.settings content)])
        rw [← hlast.mem_issued_iff (hstart _)]
        exact Importer.knowsEntry_iff.1 (keeps content htext _ hlast)
      · intro h content' hcontent session visits
        obtain rfl := Except.ok.inj (htext.symm.trans hcontent)
        refine Importer.knowsEntry_iff.2 (h.imp_right fun hissues hissued => hissues ?_)
        obtain ⟨specifier, previous, hcall⟩ := (visits.mem_issued_iff (hstart _) _).1 hissued
        exact ⟨specifier, previous, visits.journal_subset hcall⟩
  · intro free content _ session visits
    refine Importer.knowsEntry_iff.2 (.inr fun hissued => ?_)
    obtain ⟨given, reached⟩ := visits.reached ⟨[], .fresh⟩
    obtain ⟨t, hfind, hindented⟩ := reached.exists_of_mem_issued hissued
    rw [free t hfind] at hindented
    cases hindented

end Engine

/-! ### A module called `stdin`

A stylesheet in a directory imports its neighbour, with a module `stdin` at the root.  All is well
as long as that module is only registered, but not when it was imported before. -/

namespace Entry

def neighbour : Target := (Target.fresh "dir/x.scss".toList (Utf8.encode "x".toList) false).load

def namesake : Target := (Target.fresh "stdin.scss".toList (Utf8.encode "s".toList) true).load

/-- The stylesheet with the given text. -/
def page (text : Text) : Target :=
  (Target.fresh "dir/a.scss".toList (Utf8.encode text) false).load

def registry (text : Text) : Registry where
  entries := [("dir/a".toList, page text), ("dir/x".toList, neighbour), ("stdin".toList, namesake)]
  nodup := by simp

def importer (text : Text) : Importer := ⟨registry text, .default, page text⟩

end Entry

namespace Engine

theorem keepsEntry_beside_stdin :
    Registry.build .default [Entry.page "import ./x".toList, Entry.neighbour, Entry.namesake] =
        .ok (Entry.registry "import ./x".toList) ∧
      (Entry.importer "import ./x".toList).entryDirectory = "dir".toList ∧
      Directive.engine.KeepsEntry (Entry.importer "import ./x".toList) ⟨.empty, .empty⟩ := by
  refine ⟨rfl, by decide, ?_⟩
  refine (keepsEntry_iff _ _ _).1.2 (.inr ?_)
  decide +kernel

/-- **The entry document does not keep its directory in general.** -/
theorem not_forall_keepsEntry :
    ¬ ∀ (engine : Engine) (s : Settings) (ts : List Target) (r : Registry),
      Registry.build s ts = .ok r → ∀ parent ∈ ts, ∀ l, engine.KeepsEntry ⟨r, s, parent⟩ l := by
  intro h
  let text : Text := "import /stdin\nimport ./x".toList
  have keeps := h Directive.engine .default [Entry.page text, Entry.neighbour, Entry.namesake]
    (Entry.registry text) rfl _ List.mem_cons_self ⟨.empty, .empty⟩
  have htext : (Entry.page text).text? = .ok text := by decide +kernel
  have hknows := keeps text htext _ (Dialogue.visits_run _ _ _)
  have hdirectory : (Entry.importer text).entryDirectory ≠ [] := by decide +kernel
  rcases Importer.knowsEntry_iff.1 hknows with hroot | hfree
  · exact hdirectory hroot
  · refine hfree ?_
    decide +kernel

end Engine

end StyleBuild
