import StyleBuild.Module.Importer
import StyleBuild.Proofs.Module.Registry

/-!
# What an importer remembers

The directory that an import is relative to comes out of the memory of the importer, and that memory
grows while a target is compiled.  This file describes the memory through what was handed out.

`Importer.call_ending` says once what one call can do: it is refused (`Importer.Refuses`), it finds
a target that cannot be read, or it hands a registered target out under the name that is its key.
Only in the last case it issues a name (`Importer.call_cases`).  `Importer.Reached` is the set of memories
after any calls at all, together with the targets that were handed out on the way, and
`Reached.mem_issued_iff` is the invariant: the names that were issued are the keys of exactly these
targets.

Two facts about directories follow.  The entry document keeps its own directory whatever is
imported, since its name begins with a separator and no key does (`currentDirectory_rootPath`).  A
module that was handed out is in the directory of its key (`currentDirectory_of_mem`).
-/

namespace StyleBuild

/-- The target that a reply hands out. -/
def Reply.returned (r : Reply) : Option Target :=
  match r.answer with
  | .ok _ => r.imported
  | .error _ => none

namespace Importer

lemma mem_issued_issue {memory : Memory} {name k : Text} :
    k ∈ (issue memory name).issued ↔ k ∈ memory.issued ∨ k = name := by
  unfold issue
  split
  · next h =>
    have hname : name ∈ memory.issued := by simpa using h
    exact ⟨Or.inl, fun hk => hk.elim id fun heq => heq ▸ hname⟩
  · simp

/-- The problem that an import is refused with: the specifier as it was written, what it means, and
the target that is being compiled. -/
inductive Refuses (i : Importer) (memory : Memory) (specifier : Text) (previous : Option Text) :
    Problem → Prop
  | missing : i.registry.find? (i.resolve memory specifier previous) = none →
      Refuses i memory specifier previous
        (.missing specifier (i.resolve memory specifier previous) (some i.parent.path))
  | indented {u : Target} : i.registry.find? (i.resolve memory specifier previous) = some u →
      u.isIndented = true →
      Refuses i memory specifier previous (.indented specifier u.path (some i.parent.path))

/-- A module of which the import is refused is in the indented syntax. -/
lemma Refuses.isIndented {i : Importer} {memory : Memory} {specifier : Text}
    {previous : Option Text} {p : Problem} (refuses : i.Refuses memory specifier previous p)
    {t : Target} (find : i.registry.find? (i.resolve memory specifier previous) = some t) :
    t.isIndented = true := by
  cases refuses with
  | missing none =>
    rw [find] at none
    cases none
  | indented find' indented =>
    obtain rfl := Option.some.inj (find'.symm.trans find)
    exact indented

/-- How a call ends. -/
inductive Ending (i : Importer) (memory : Memory) (specifier : Text) (previous : Option Text) :
    Prop
  | refused (p : Problem) (refuses : i.Refuses memory specifier previous p)
    (call : i.call memory specifier previous = refuse memory p)
  | unreadable (t : Target) (e : Fault)
    (find : i.registry.find? (i.resolve memory specifier previous) = some t)
    (importable : t.isIndented = false)
    (text : t.text? = .error e)
    (call : i.call memory specifier previous = ⟨.error (.ofFault e), memory, some t⟩)
  | answered (t : Target) (content : Text)
    (find : i.registry.find? (i.resolve memory specifier previous) = some t)
    (importable : t.isIndented = false)
    (text : t.text? = .ok content)
    (call : i.call memory specifier previous =
      ⟨.ok ⟨i.resolve memory specifier previous, content⟩,
        issue memory (i.resolve memory specifier previous), some t⟩)

/-- **A call is refused, finds a module that cannot be read, or is answered.** -/
theorem call_ending (i : Importer) (memory : Memory) (specifier : Text)
    (previous : Option Text) : Ending i memory specifier previous := by
  cases hfind : i.registry.find? (i.resolve memory specifier previous) with
  | none =>
    refine .refused _ (.missing hfind) ?_
    simp only [call, hfind]
  | some t =>
    cases hindented : t.isIndented with
    | true =>
      refine .refused _ (.indented hfind hindented) ?_
      simp only [call, hfind, hindented, if_true]
    | false =>
      have hcall : i.call memory specifier previous =
          provide memory (i.resolve memory specifier previous) t := by
        simp only [call, hfind, hindented, Bool.false_eq_true, if_false]
      cases htext : t.text? with
      | error e =>
        rw [provide, htext] at hcall
        exact .unreadable t e hfind hindented htext hcall
      | ok content =>
        rw [provide, htext] at hcall
        exact .answered t content hfind hindented htext hcall

/-- **What a call can do.**  It fails and issues no name, or it hands out the target with the key
that the import means, under that key. -/
theorem call_cases (i : Importer) (memory : Memory) (specifier : Text) (previous : Option Text) :
    ((∃ f, (i.call memory specifier previous).answer = .error f) ∧
      (i.call memory specifier previous).memory.issued = memory.issued ∧
      (i.call memory specifier previous).returned = none) ∨
    ∃ t text, i.registry.find? (i.resolve memory specifier previous) = some t ∧
      t.isIndented = false ∧ t.text? = .ok text ∧
      i.call memory specifier previous =
        ⟨.ok ⟨i.resolve memory specifier previous, text⟩,
          issue memory (i.resolve memory specifier previous), some t⟩ := by
  cases i.call_ending memory specifier previous with
  | refused p refuses call =>
    rw [call]
    exact .inl ⟨⟨_, rfl⟩, rfl, rfl⟩
  | unreadable t e find importable text call =>
    rw [call]
    exact .inl ⟨⟨_, rfl⟩, rfl, rfl⟩
  | answered t content find importable text call =>
    exact .inr ⟨t, content, find, importable, text, call⟩

/-- The memories that an importer can come to, with the targets that it has handed out. -/
inductive Reached (i : Importer) : Memory → List Target → Prop
  | fresh : Reached i .empty []
  | call {memory : Memory} {given : List Target} (specifier : Text) (previous : Option Text) :
      Reached i memory given →
      Reached i (i.call memory specifier previous).memory
        (given ++ (i.call memory specifier previous).returned.toList)

/-- What was issued is the key of a registered module, which is not in the indented syntax. -/
lemma Reached.exists_of_mem_issued {i : Importer} {memory : Memory} {given : List Target}
    (reached : i.Reached memory given) {k : Text} (h : k ∈ memory.issued) :
    ∃ t, i.registry.find? k = some t ∧ t.isIndented = false := by
  induction reached with
  | fresh => cases h
  | @call memory given specifier previous _ ih =>
    rcases call_cases i memory specifier previous with
      ⟨-, hissued, -⟩ | ⟨t, text, hfind, hindented, -, hcall⟩
    · rw [hissued] at h
      exact ih h
    · rw [hcall, mem_issued_issue] at h
      rcases h with h | rfl
      · exact ih h
      · exact ⟨t, hfind, hindented⟩

section Built

variable {s : Settings} {ts : List Target} {r : Registry} {parent : Target} {memory : Memory}
  {given : List Target}

/-- **The names that were issued are the keys of the targets that were handed out.** -/
theorem Reached.mem_issued_iff (built : Registry.build s ts = .ok r)
    (reached : Reached ⟨r, s, parent⟩ memory given) {k : Text} :
    k ∈ memory.issued ↔ ∃ t ∈ given, s.moduleKey t.path = k := by
  induction reached with
  | fresh => simp [Memory.empty]
  | @call memory given specifier previous _ ih =>
    rcases call_cases ⟨r, s, parent⟩ memory specifier previous with
      ⟨-, hissued, hreturned⟩ | ⟨t, text, hfind, -, -, hcall⟩
    · rw [hissued, hreturned]
      simpa using ih
    · have hkey := ((Registry.find?_build_iff built).1 hfind).2
      simp only [hcall, Reply.returned, mem_issued_issue, ih, Option.toList_some, List.mem_append,
        List.mem_singleton, or_and_right, exists_or, exists_eq_left, hkey]
      exact or_congr_right eq_comm

lemma Reached.head?_of_mem_issued (built : Registry.build s ts = .ok r)
    (reached : Reached ⟨r, s, parent⟩ memory given) {k : Text} (h : k ∈ memory.issued) :
    k.head? ≠ some Path.separator := by
  obtain ⟨t, -, rfl⟩ := (reached.mem_issued_iff built).1 h
  exact s.head?_moduleKey t.path

end Built

/-! ## Directories -/

/-- A name that was not issued means the entry document. -/
lemma currentDirectory_of_not_mem {i : Importer} {memory : Memory} {name : Text}
    (h : name ∉ memory.issued) :
    i.currentDirectory memory (some name) = i.settings.modulePath (Path.directory i.rootPath) := by
  cases name with
  | nil => rfl
  | cons c name => simp [currentDirectory, h]

/-- A name that was issued means the module with that key. -/
lemma currentDirectory_of_mem {i : Importer} {memory : Memory} {name : Text} (hne : name ≠ [])
    (h : name ∈ memory.issued) :
    i.currentDirectory memory (some name) = Path.directory name := by
  cases name with
  | nil => exact absurd rfl hne
  | cons c name => simp [currentDirectory, h]

/-- **The entry document keeps its directory.** -/
theorem currentDirectory_rootPath {i : Importer} {memory : Memory}
    (h : ∀ k ∈ memory.issued, k.head? ≠ some Path.separator) :
    i.currentDirectory memory (some i.rootPath) =
      i.settings.modulePath (Path.directory i.rootPath) :=
  currentDirectory_of_not_mem fun hmem => h _ hmem rfl

end Importer

end StyleBuild
