import Mathlib.Logic.Relation
import StyleBuild.Proofs.Compile.Imports
import StyleBuild.Proofs.Module.Location

/-!
# Compilers that work depth-first

A stylesheet compiler asks for the imports of the entry document in their order, and for the imports
of a module before it goes on in the document that imported it.  So at any time the imports that it
still has to ask for are a stack.  `Dialogue.DepthFirst` says that a dialogue works off such a
stack: it always asks for the import on top, puts the imports of the answer on the stack, and ends
with a result when nothing is left.  It may fail at any time, and it does fail when an import fails.

What such a compiler imports is a matter of the registry alone.  `Registry.Imports` is a static step
from one module to another that it imports, computed from the key and the text of the first one, and
`Registry.Reaches` its transitive closure.  `mem_imports_iff_reaches` is the result: a successful
compilation imports exactly the modules that its target reaches.

The proof is an invariant of the stack, `Frontier`.  The memory of the importer and the names that
the compiler was given only occur in it through `Denotes`, which is what a name stands for.
-/

namespace StyleBuild

/-- The specifiers that a stylesheet imports, in order, given whether it is written in the indented
syntax, and its text. -/
abbrev Directives := (indented : Bool) → (content : Text) → List Text

/-! ## The static graph -/

namespace Registry

variable (directives : Directives) (s : Settings) (r : Registry)

/-- The module at `v` imports the one at `u`. -/
def Imports (v u : Target) : Prop :=
  ∃ content, v.text? = .ok content ∧ ∃ specifier ∈ directives v.isIndented content,
    r.find? (s.resolveImport specifier (Path.directory (s.moduleKey v.path))) = some u

/-- The module at `u` is imported by the one at `v`, or by one that is. -/
def Reaches (v u : Target) : Prop := Relation.TransGen (r.Imports directives s) v u

variable {directives : Directives} {s : Settings} {r : Registry}

/-- What is reached is registered. -/
lemma Reaches.mem {ts : List Target} (built : build s ts = .ok r) {v u : Target}
    (h : r.Reaches directives s v u) : u ∈ ts := by
  cases h with
  | single himports =>
    obtain ⟨-, -, specifier, -, hfind⟩ := himports
    exact ((find?_build_iff built).1 hfind).1
  | tail _ himports =>
    obtain ⟨-, -, specifier, -, hfind⟩ := himports
    exact ((find?_build_iff built).1 hfind).1

end Registry

/-! ## The stack -/

/-- An import that a compiler has to ask for, in the document with a name. -/
structure Pending where
  specifier : Text
  document : Text

/-- The imports of a document that was given out. -/
def Source.pending (directives : Directives) (source : Source) : List Pending :=
  (directives false source.text).map fun specifier => ⟨specifier, source.name⟩

/-- The imports of the entry document. -/
def Request.pending (directives : Directives) (request : Request) : List Pending :=
  (directives request.indented request.content).map fun specifier => ⟨specifier, request.rootPath⟩

namespace Dialogue

variable {α : Type}

/-- A dialogue that can only fail. -/
def Fails : Dialogue α → Prop
  | done _ => False
  | fail _ => True
  | ask _ _ resume => ∀ answer, (resume answer).Fails

/-- A dialogue that works off a stack of imports. -/
def DepthFirst (directives : Directives) : Dialogue α → List Pending → Prop
  | done _, stack => stack = []
  | fail _, _ => True
  | ask specifier previous resume, stack =>
    ∃ document rest, stack = ⟨specifier, document⟩ :: rest ∧ previous = some document ∧
      (∀ source, (resume (.ok source)).DepthFirst directives (source.pending directives ++ rest)) ∧
      ∀ f, (resume (.error f)).Fails

lemma Fails.run_ne_ok {d : Dialogue α} (h : d.Fails) (i : Importer) (s : Session) (a : α) :
    (d.run i s).1 ≠ .ok a := by
  induction d generalizing s with
  | done b => exact h.elim
  | fail f => exact fun heq => by cases heq
  | ask specifier previous resume ih =>
    rw [run_ask]
    exact ih _ (h _) _

end Dialogue

/-- Every compilation works off the imports of its entry document. -/
def Compiler.DepthFirst (directives : Directives) (compiler : Compiler) : Prop :=
  ∀ request, (compiler request).DepthFirst directives (request.pending directives)

namespace Dialogue

/-- Works off a stack of imports, if they are not too many, and ends with a result. -/
def workOff {α : Type} (directives : Directives) (result : α) : (limit : Nat) → List Pending →
    Dialogue α
  | _, [] => done result
  | 0, _ :: _ => fail (.ofFault (.crash "Too many imports".toList))
  | limit + 1, q :: stack => ask q.specifier (some q.document) fun
    | .ok source => workOff directives result limit (source.pending directives ++ stack)
    | .error f => fail f

/-- There are depth-first dialogues for all directives. -/
lemma depthFirst_workOff {α : Type} (directives : Directives) (result : α) (limit : Nat)
    (stack : List Pending) :
    (workOff directives result limit stack).DepthFirst directives stack := by
  induction limit generalizing stack with
  | zero =>
    cases stack with
    | nil => rfl
    | cons q stack => exact trivial
  | succ limit ih =>
    cases stack with
    | nil => rfl
    | cons q stack => exact ⟨q.document, stack, rfl, rfl, fun source => ih _, fun f => trivial⟩

end Dialogue

/-! ## The invariant -/

namespace Importer

/-- The name stands for a target: it names the entry document, or is the key of a target that was
handed out. -/
def Denotes (i : Importer) (given : List Target) (name : Text) (v : Target) : Prop :=
  name = i.rootPath ∧ v = i.parent ∨ name = i.settings.moduleKey v.path ∧ v ∈ given

lemma Denotes.mono {i : Importer} {given : List Target} {name : Text} {v : Target}
    (h : i.Denotes given name v) (more : List Target) : i.Denotes (given ++ more) name v :=
  h.imp_right fun ⟨hname, hv⟩ => ⟨hname, List.mem_append_left more hv⟩

/-- What holds while a compiler works off its imports: only what the target reaches was handed out,
every pending import stands in a document that the compiler knows, and whatever is imported in a
known document was handed out or is pending. -/
structure Frontier (directives : Directives) (i : Importer) (memory : Memory)
    (given : List Target) (stack : List Pending) : Prop where
  reached : Reached i memory given
  reaches : ∀ u ∈ given, i.registry.Reaches directives i.settings i.parent u
  known : ∀ q ∈ stack, ∃ v content, i.Denotes given q.document v ∧ v.text? = .ok content ∧
    q.specifier ∈ directives v.isIndented content
  closed : ∀ v content, v = i.parent ∨ v ∈ given → v.text? = .ok content →
    ∀ specifier ∈ directives v.isIndented content,
      (∃ u ∈ given, i.registry.find? (i.settings.resolveImport specifier
        (Path.directory (i.settings.moduleKey v.path))) = some u) ∨
      ∃ document, i.Denotes given document v ∧ ⟨specifier, document⟩ ∈ stack

section Built

variable {directives : Directives} {s : Settings} {ts : List Target} {r : Registry}
  {parent : Target} {memory : Memory} {given : List Target} {stack : List Pending}

/-- The imports of the entry document are where a compiler begins. -/
lemma Frontier.entry {content : Text} (text : parent.text? = .ok content) :
    Frontier directives ⟨r, s, parent⟩ .empty []
      ((parent.request s content).pending directives) where
  reached := .fresh
  reaches u hu := absurd hu List.not_mem_nil
  known q hq := by
    obtain ⟨specifier, hspecifier, rfl⟩ := List.mem_map.1 hq
    exact ⟨parent, content, .inl ⟨rfl, rfl⟩, text, hspecifier⟩
  closed v content' hv htext specifier hspecifier := by
    obtain rfl := hv.resolve_right List.not_mem_nil
    obtain rfl := Except.ok.inj (text.symm.trans htext)
    exact .inr ⟨v.rootPath, .inl ⟨rfl, rfl⟩, List.mem_map.2 ⟨specifier, hspecifier, rfl⟩⟩

/-- What was handed out is registered. -/
lemma Frontier.mem (built : Registry.build s ts = .ok r)
    (frontier : Frontier directives ⟨r, s, parent⟩ memory given stack) :
    ∀ u ∈ given, u ∈ ts :=
  fun u hu => (frontier.reaches u hu).mem built

/-- When nothing is pending, what was handed out is what the target reaches. -/
lemma Frontier.mem_iff_reaches
    (frontier : Frontier directives ⟨r, s, parent⟩ memory given []) {u : Target} :
    u ∈ given ↔ r.Reaches directives s parent u := by
  have hclosed : ∀ v w, v = parent ∨ v ∈ given → r.Imports directives s v w → w ∈ given := by
    rintro v w hv ⟨content, htext, specifier, hspecifier, hfind⟩
    rcases frontier.closed v content hv htext specifier hspecifier with
      ⟨w', hw', hfind'⟩ | ⟨document, -, hpending⟩
    · rw [hfind, Option.some.injEq] at hfind'
      exact hfind' ▸ hw'
    · exact absurd hpending List.not_mem_nil
  constructor
  · exact frontier.reaches u
  · intro reaches
    induction reaches with
    | single himports => exact hclosed _ _ (.inl rfl) himports
    | tail _ himports ih => exact hclosed _ _ (.inr ih) himports

variable (accepted : s.Accepted) (built : Registry.build s ts = .ok r)
  (keys : ∀ t ∈ ts, s.moduleKey t.path ≠ []) (registered : parent ∈ ts)

include accepted built keys registered

/-- An import is resolved in the directory of the target that its document stands for. -/
lemma Frontier.resolve (frontier : Frontier directives ⟨r, s, parent⟩ memory given stack)
    {v : Target} {document : Text} (denotes : Denotes ⟨r, s, parent⟩ given document v)
    (specifier : Text) :
    Importer.resolve ⟨r, s, parent⟩ memory specifier (some document) =
      s.resolveImport specifier (Path.directory (s.moduleKey v.path)) := by
  rcases denotes with ⟨rfl, rfl⟩ | ⟨rfl, hv⟩
  · have hissued := fun k hk => frontier.reached.head?_of_mem_issued (k := k) built hk
    rw [Importer.resolve, currentDirectory_rootPath hissued]
    exact congrArg _ (modulePath_directory_rootPath accepted (keys _ registered))
  · have hissued : s.moduleKey v.path ∈ memory.issued :=
      (frontier.reached.mem_issued_iff built).2 ⟨v, hv, rfl⟩
    rw [Importer.resolve, currentDirectory_of_mem (keys v (frontier.mem built v hv)) hissued]

/-- **One import.**  The target that is handed out is reached, and its own imports come onto the
stack. -/
theorem Frontier.step {q : Pending}
    (frontier : Frontier directives ⟨r, s, parent⟩ memory given (q :: stack)) {source : Source}
    (answer : (call ⟨r, s, parent⟩ memory q.specifier (some q.document)).answer = .ok source) :
    ∃ u, (call ⟨r, s, parent⟩ memory q.specifier (some q.document)).imported = some u ∧
      Frontier directives ⟨r, s, parent⟩
        (call ⟨r, s, parent⟩ memory q.specifier (some q.document)).memory (given ++ [u])
        (source.pending directives ++ stack) := by
  obtain ⟨v, content, denotes, htext, hspecifier⟩ := frontier.known q List.mem_cons_self
  have hreached := frontier.reached.call q.specifier (some q.document)
  have hresolve : ∀ w, Denotes ⟨r, s, parent⟩ given q.document w →
      s.resolveImport q.specifier (Path.directory (s.moduleKey w.path)) =
        Importer.resolve ⟨r, s, parent⟩ memory q.specifier (some q.document) :=
    fun w hw => (frontier.resolve accepted built keys registered hw q.specifier).symm
  rcases call_cases ⟨r, s, parent⟩ memory q.specifier (some q.document) with
    ⟨⟨f, hf⟩, -⟩ | ⟨u, text, hfind, hindented, hutext, hcall⟩
  · rw [hf] at answer
    cases answer
  have hkey := ((Registry.find?_build_iff built).1 hfind).2
  rw [hcall] at answer hreached ⊢
  obtain rfl := Except.ok.inj answer
  have hu : u ∈ given ++ [u] := List.mem_append_right _ List.mem_cons_self
  refine ⟨u, rfl, hreached, ?_, ?_, ?_⟩
  · -- The document is the entry document or one that was reached before.
    have himports : r.Imports directives s v u :=
      ⟨content, htext, q.specifier, hspecifier, by rw [hresolve v denotes]; exact hfind⟩
    intro w hw
    rcases List.mem_append.1 hw with hw | hw
    · exact frontier.reaches w hw
    · obtain rfl := List.mem_singleton.1 hw
      rcases denotes with ⟨-, rfl⟩ | ⟨-, hv⟩
      · exact .single himports
      · exact (frontier.reaches v hv).tail himports
  · intro q' hq'
    rcases List.mem_append.1 hq' with hq' | hq'
    · obtain ⟨specifier, hmem, rfl⟩ := List.mem_map.1 hq'
      exact ⟨u, text, .inr ⟨hkey.symm, hu⟩, hutext, by rw [hindented]; exact hmem⟩
    · obtain ⟨w, content', hw, hcontent, hmem⟩ := frontier.known q' (List.mem_cons_of_mem _ hq')
      exact ⟨w, content', hw.mono [u], hcontent, hmem⟩
  · intro w content' hw hcontent specifier hmem
    by_cases hold : w = parent ∨ w ∈ given
    · rcases frontier.closed w content' hold hcontent specifier hmem with
        ⟨u', hu', hfind'⟩ | ⟨document, hdocument, hpending⟩
      · exact .inl ⟨u', List.mem_append_left _ hu', hfind'⟩
      · rcases List.mem_cons.1 hpending with rfl | hpending
        · -- This is the import that was just answered.
          exact .inl ⟨u, hu, by rw [hresolve w hdocument]; exact hfind⟩
        · exact .inr ⟨document, hdocument.mono [u], List.mem_append_right _ hpending⟩
    · obtain rfl : w = u := by
        rw [List.mem_append, List.mem_singleton, ← or_assoc] at hw
        exact hw.resolve_left hold
      obtain rfl := Except.ok.inj (hutext.symm.trans hcontent)
      rw [hindented] at hmem
      exact .inr ⟨_, .inr ⟨hkey.symm, hu⟩,
        List.mem_append_left _ (List.mem_map.2 ⟨specifier, hmem, rfl⟩)⟩

/-- **A whole dialogue.**  When it ends with a result, nothing is pending. -/
theorem Frontier.run {α : Type} {d : Dialogue α} (depthFirst : d.DepthFirst directives stack)
    {session : Session}
    (frontier : Frontier directives ⟨r, s, parent⟩ session.memory given stack) {a : α}
    (ok : (d.run ⟨r, s, parent⟩ session).1 = .ok a) :
    ∃ memory, Frontier directives ⟨r, s, parent⟩ memory
      (given ++ d.imports ⟨r, s, parent⟩ session.memory) [] := by
  induction d generalizing session given stack with
  | done b =>
    obtain rfl := depthFirst
    exact ⟨_, by rw [Dialogue.imports, List.append_nil]; exact frontier⟩
  | fail f => cases ok
  | ask specifier previous resume ih =>
    obtain ⟨document, rest, rfl, rfl, hok, herror⟩ := depthFirst
    rw [Dialogue.run_ask] at ok
    cases hanswer : (call ⟨r, s, parent⟩ session.memory specifier (some document)).answer with
    | error f =>
      have hask : (session.ask ⟨r, s, parent⟩ specifier (some document)).1 = .error f := hanswer
      rw [hask] at ok
      exact absurd ok ((herror f).run_ne_ok _ _ _)
    | ok source =>
      have hask : (session.ask ⟨r, s, parent⟩ specifier (some document)).1 = .ok source := hanswer
      rw [hask] at ok
      obtain ⟨u, himported, hfrontier⟩ :=
        frontier.step accepted built keys registered hanswer
      obtain ⟨memory, hrun⟩ := ih _ (hok source) hfrontier ok
      refine ⟨memory, ?_⟩
      rw [List.append_assoc] at hrun
      rw [Dialogue.imports, himported, hanswer]
      exact hrun

end Built

end Importer

/-- **A successful compilation imports exactly what its target reaches.** -/
theorem Target.mem_imports_iff_reaches {directives : Directives} {s : Settings}
    {ts : List Target} {r : Registry} {compiler : Compiler} {t : Target} {output : Bytes}
    (accepted : s.Accepted) (built : Registry.build s ts = .ok r)
    (keys : ∀ t ∈ ts, s.moduleKey t.path ≠ []) (registered : t ∈ ts)
    (depthFirst : compiler.DepthFirst directives) (ok : t.compiled r s compiler = .ok output)
    {u : Target} : u ∈ t.imports r s compiler ↔ r.Reaches directives s t u := by
  rw [compiled, render] at ok
  rw [imports]
  cases htext : t.text? with
  | error e =>
    rw [htext] at ok
    cases ok
  | ok content =>
    simp only [htext] at ok
    cases hrun : ((compiler (t.request s content)).run ⟨r, s, t⟩
        (.start ⟨.empty, .empty⟩ [.request (t.request s content)])).1 with
    | error f =>
      rw [hrun] at ok
      cases ok
    | ok bytes =>
      obtain ⟨memory, frontier⟩ := (Importer.Frontier.entry htext).run accepted built keys
        registered (depthFirst (t.request s content)) hrun
      exact frontier.mem_iff_reaches

end StyleBuild
