import StyleBuild.Proofs.Build.Completion
import StyleBuild.Proofs.Host.Operations

/-!
# A pass is composed of operations

A pass does to a context only what its host could do as well: it loads candidates, records edges,
puts outputs in the place of sources, and removes targets.  So whatever a pass comes to, the context
after it is one that operations make out of the context before it (`Pass.reaches_run`).  What every
operation keeps is kept by a pass, in particular that targets are under their own paths
(`Pass.keyed_run`), and passes may follow each other (`Context.Reachable.run`).
-/

namespace StyleBuild

namespace Context

variable {c c' : Context}

/-- Attempts to load are made one after the other. -/
lemma Reaches.attempt (h : c.Reaches c') (ts : List Target) : c.Reaches (c'.attempt ts) := by
  induction ts generalizing c' with
  | nil => exact h
  | cons t ts ih => exact ih (h.apply (.load t.path))

/-- Edges are recorded one after the other. -/
lemma Reaches.record (h : c.Reaches c') (usage : Usage) (es : List Edge) :
    c.Reaches { c' with graph := (Ledger.recordAll ⟨usage, c'.graph⟩ es).graph } := by
  induction es generalizing c' usage with
  | nil => exact h
  | cons e es ih => exact ih (h.apply (.link e)) _

end Context

namespace Pass

variable {setup : Setup} {registry : Registry} {c : Context} {p : Progress} {r : Rendering}

lemma reaches_materialise (h : c.Reaches p.context) (t : Target) (output : Bytes) :
    c.Reaches (materialise setup t output p).context := by
  unfold materialise
  split
  · exact h.apply (.resolveOutput none [t.path])
  · have hplaced := h.apply (.resolveOutput (some (setup.settings.outputPath t.path)) [t.path])
    simp only [note]
    split
    · exact hplaced
    · exact hplaced.apply (.write _ output)

lemma reaches_compile (h : c.Reaches r.progress.context) (t : Target) :
    c.Reaches (compile setup registry t r).progress.context := by
  unfold compile
  split
  · exact h
  · have hledger := t.ledger_render registry setup.settings setup.compiler
      ⟨r.progress.usage, r.progress.context.graph⟩
    have hrecord := h.record r.progress.usage (t.edges registry setup.settings setup.compiler)
    rw [← hledger] at hrecord
    exact hrecord

lemma reaches_finish (h : c.Reaches r.progress.context) (t : Target) :
    c.Reaches (finish setup t r).progress.context := by
  unfold finish
  split
  · next result _ _ =>
    cases result with
    | ok output => exact reaches_materialise h t output
    | error f => exact h
  · exact h

/-- Every turn is composed of operations. -/
lemma reaches_turns (h : c.Reaches r.progress.context) (turns : List Turn) :
    c.Reaches (turns.foldl (turn setup registry) r).progress.context := by
  induction turns generalizing r with
  | nil => exact h
  | cons x turns ih =>
    cases x with
    | compile t => exact ih (reaches_compile h t)
    | finish t => exact ih (reaches_finish h t)

lemma reaches_execute (h : c.Reaches p.context) (ts : List Target) :
    c.Reaches (execute setup registry ts p).context := by
  unfold execute
  split
  · exact h
  next rendered pruned hpartition =>
  have hall : c.Reaches (render setup registry rendered p).progress.context := reaches_turns h _
  cases hfailure : (render setup registry rendered p).failure with
  | some f =>
    simp only [hfailure]
    exact hall
  | none =>
    simp only [hfailure, context_prune]
    exact hall.apply (.remove _ true)

/-- **A pass does what operations could do**, whatever it comes to. -/
theorem reaches_run (setup : Setup) (c : Context) : c.Reaches (run setup c).context := by
  unfold run
  split
  · exact .refl
  · exact .refl
  next candidates _ hcandidates =>
  have hload : c.Reaches (loadAll setup.timing c candidates).2 := by
    rw [loadAll_eq]
    exact Context.Reaches.refl.attempt _
  cases hresult : loadAll setup.timing c candidates with
  | mk failure loaded =>
    rw [hresult] at hload
    cases failure with
    | some e => exact hload
    | none =>
      cases hbuild : Registry.build setup.settings (candidates.map Target.load) with
      | error e =>
        simp only [hbuild]
        exact hload
      | ok registry =>
        simp only [hbuild]
        exact reaches_execute hload _

/-- **A pass keeps every target under its path**, whatever it comes to. -/
theorem keyed_run (h : c.Keyed) (setup : Setup) : (run setup c).context.Keyed :=
  (reaches_run setup c).keyed h

end Pass

/-- A pass over a reachable context leaves a reachable one. -/
theorem Context.Reachable.run {c : Context} (h : c.Reachable) (setup : Setup) :
    (Pass.run setup c).context.Reachable :=
  Reaches.trans h (Pass.reaches_run setup c)

end StyleBuild
