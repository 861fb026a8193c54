import StyleBuild.Module.Importer
import StyleBuild.Proofs.Host.Context

/-!
# Contexts that a host can come to

A host makes a context by operations: it adds targets, loads them and writes to them, puts outputs
in the place of sources, removes targets, and records edges.  `Context.Reaches` says that some
sequence of these makes one context out of another one, and `Context.Reachable` that it begins with
nothing.

No operation moves a target to another path (`Operation.keyed_apply`), so in every reachable context
each target is under its own path (`Reachable.keyed`), and no path belongs to two targets.  Loading
is an attempt (`Target.attempted`), which a target whose storage fails survives as it is.
-/

namespace StyleBuild

/-! ## Attempts to load -/

namespace Target

lemma attempted_of_loadFailure {t : Target} {text : Text} (h : t.loadFailure = some text) :
    t.attempted = t := by
  simp only [attempted, load?, h]
  rfl

lemma attempted_of_no_loadFailure {t : Target} (h : t.loadFailure = none) :
    t.attempted = t.load := by
  simp only [attempted, load?, h]
  rfl

/-- A second attempt changes nothing. -/
@[simp] lemma attempted_attempted (t : Target) : t.attempted.attempted = t.attempted := by
  cases hfailure : t.loadFailure with
  | some text => rw [attempted_of_loadFailure hfailure, attempted_of_loadFailure hfailure]
  | none =>
    have hload : t.load.loadFailure = none ∧ t.load.load = t.load := by
      by_cases hcontent : t.content = none <;> simp [load, hcontent, hfailure]
    rw [attempted_of_no_loadFailure hfailure, attempted_of_no_loadFailure hload.1, hload.2]

lemma path_attempted (t : Target) : t.attempted.path = t.path := by
  cases hfailure : t.loadFailure with
  | some text => rw [attempted_of_loadFailure hfailure]
  | none => rw [attempted_of_no_loadFailure hfailure, path_load]

lemma data_attempted (t : Target) : t.attempted.data = t.data := by
  cases hfailure : t.loadFailure with
  | some text => rw [attempted_of_loadFailure hfailure]
  | none => rw [attempted_of_no_loadFailure hfailure, data_load]

end Target

namespace Context

/-! ## Operations -/

/-- What a host can do to a context. -/
inductive Operation
  | add (t : Target)
  /-- Loads the target at a path.  One whose storage fails stays as it is. -/
  | load (path : Text)
  | write (path : Text) (data : Bytes)
  | resolveOutput (path : Option Text) (sources : List Text)
  | remove (paths : List Text) (severEdges : Bool)
  | link (e : Edge)
  | unlink (path : Text)

/-- The context after an operation. -/
def Operation.apply (c : Context) : Operation → Context
  | add t => c.add t
  | load path => c.adjust path Target.attempted
  | write path data => c.adjust path (·.write data)
  | resolveOutput path sources => c.resolveOutput path sources
  | remove paths severEdges => c.remove paths severEdges
  | link e => { c with graph := c.graph.add e }
  | unlink path => { c with graph := c.graph.removeNode path }

/-- Operations make a context out of another one. -/
inductive Reaches (c : Context) : Context → Prop
  | refl : Reaches c c
  | apply {c' : Context} (op : Operation) : Reaches c c' → Reaches c (op.apply c')

/-- Operations make the context out of the empty one. -/
def Reachable (c : Context) : Prop := empty.Reaches c

variable {c c' c'' : Context}

lemma Reaches.trans (h : c.Reaches c') (h' : c'.Reaches c'') : c.Reaches c'' := by
  induction h' with
  | refl => exact h
  | apply op _ ih => exact ih.apply op

/-- A context that was made by adding targets is reachable. -/
lemma reachable_ofTargets (ts : List Target) : (ofTargets ts).Reachable := by
  have hfold : ∀ c : Context, c.Reachable → (ts.foldl Context.add c).Reachable := by
    induction ts with
    | nil => exact fun _ h => h
    | cons t ts ih => exact fun c h => ih _ (h.apply (.add t))
  exact hfold .empty .refl

/-! ## Targets under their paths -/

/-- **No operation moves a target to another path.** -/
theorem Operation.keyed_apply (op : Operation) (keyed : c.Keyed) : (op.apply c).Keyed := by
  cases op with
  | add t => exact keyed.add t
  | load path => exact keyed.adjust fun t ht => t.path_attempted.trans ht
  | write path data => exact keyed.adjust fun _ ht => ht
  | resolveOutput path sources => exact keyed.resolveOutput path sources
  | remove paths severEdges => exact keyed.remove paths severEdges
  | link e => exact keyed
  | unlink path => exact keyed

lemma Reaches.keyed (h : c.Reaches c') (keyed : c.Keyed) : c'.Keyed := by
  induction h with
  | refl => exact keyed
  | apply op _ ih => exact op.keyed_apply ih

/-- **In a reachable context every target is under its own path.** -/
theorem Reachable.keyed (h : c.Reachable) : c.Keyed := Reaches.keyed h keyed_empty

end Context

end StyleBuild
