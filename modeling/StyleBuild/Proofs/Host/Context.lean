import Mathlib.Data.List.Basic
import Mathlib.Tactic.Lemma
import StyleBuild.Host.Context
import StyleBuild.Proofs.Table

/-!
# The context as a map

What the operations of a context do to the target at one path (`get?_add`, `get?_drop`,
`get?_adjust`), and to one edge of the graph (`mem_sever`).

`Context.Keyed` says that every target is in the table under its own path.  A table does not demand
it, but every operation keeps it as long as no target is moved to another path, so it holds in every
context that was made by adding targets (`keyed_ofTargets`).
-/

namespace StyleBuild.Context

variable {c : Context} {q : Text}

/-! ## Lookups -/

lemma get?_add (c : Context) (t : Target) (q : Text) :
    (c.add t).get? q = if q = t.path then some t else c.get? q :=
  Table.find?_insert c.targets t.path q t

/-- Exactly the dropped paths are free afterwards. -/
lemma get?_drop (c : Context) (paths : List Text) (q : Text) :
    (c.drop paths).get? q = if q ∈ paths then none else c.get? q :=
  Table.find?_foldl_erase c.targets paths q

lemma get?_adjust (c : Context) (path : Text) (f : Target → Target) (q : Text) :
    (c.adjust path f).get? q = (c.get? q).map fun t => if q = path then f t else t :=
  Table.find?_adjust c.targets path q f

lemma get?_resolveOutput_none (c : Context) (source q : Text) :
    (c.resolveOutput none [source]).get? q = if q = source then none else c.get? q := by
  rw [resolveOutput, get?_drop]
  simp only [List.mem_singleton]

lemma get?_resolveOutput_some (c : Context) (path source q : Text) :
    (c.resolveOutput (some path) [source]).get? q =
      if q = path then some (.output path) else if q = source then none else c.get? q := by
  rw [resolveOutput, get?_add, get?_drop]
  simp only [List.mem_singleton]
  rfl

/-- An output that is written at once has the written data. -/
lemma get?_write_resolveOutput (c : Context) (path source : Text) (output : Bytes) (q : Text) :
    ((c.resolveOutput (some path) [source]).adjust path (·.write output)).get? q =
      if q = path then some ((Target.output path).write output)
      else if q = source then none else c.get? q := by
  rw [get?_adjust, get?_resolveOutput_some]
  by_cases hpath : q = path
  · simp only [hpath, if_true, Option.map_some]
  · simp only [hpath, if_false, Option.map_id']

lemma get?_remove (c : Context) (paths : List Text) (severEdges : Bool) (q : Text) :
    (c.remove paths severEdges).get? q = if q ∈ paths then none else c.get? q := by
  cases severEdges
  · exact get?_drop c paths q
  · exact get?_drop c paths q

/-- The data of the target at a path. -/
def dataAt (c : Context) (q : Text) : Option Bytes := (c.get? q).map Target.data

lemma dataAt_remove (c : Context) (paths : List Text) (severEdges : Bool) (q : Text) :
    (c.remove paths severEdges).dataAt q = if q ∈ paths then none else c.dataAt q := by
  rw [dataAt, get?_remove, dataAt]
  split <;> rfl

/-! ## Edges -/

/-- Exactly the edges that touch one of the paths are severed. -/
lemma mem_sever {paths : List Text} {e : Edge} :
    e ∈ (c.sever paths).graph ↔
      e ∈ c.graph ∧ ∀ p ∈ paths, e.consumer ≠ p ∧ e.dependency ≠ p := by
  induction paths generalizing c with
  | nil => simp [sever]
  | cons p paths ih =>
    have hsever : (c.sever (p :: paths)).graph
        = ((Context.mk c.targets (c.graph.removeNode p)).sever paths).graph := rfl
    rw [hsever, ih, Graph.mem_removeNode, List.forall_mem_cons, and_assoc]

/-! ## Targets under their paths -/

/-- Every target is in the table under its own path. -/
def Keyed (c : Context) : Prop := ∀ ⦃q t⦄, c.get? q = some t → t.path = q

lemma keyed_empty : Keyed .empty := fun _ _ h => by cases h

lemma Keyed.add (h : c.Keyed) (t : Target) : (c.add t).Keyed := by
  intro q u hu
  rw [get?_add] at hu
  split at hu
  · next hq =>
    obtain rfl := Option.some.inj hu
    exact hq.symm
  · exact h hu

lemma Keyed.drop (h : c.Keyed) (paths : List Text) : (c.drop paths).Keyed := by
  intro q u hu
  rw [get?_drop] at hu
  split at hu
  · cases hu
  · exact h hu

lemma Keyed.adjust (h : c.Keyed) {path : Text} {f : Target → Target}
    (hf : ∀ t, t.path = path → (f t).path = path) : (c.adjust path f).Keyed := by
  intro q u hu
  rw [get?_adjust] at hu
  obtain ⟨t, ht, rfl⟩ := Option.map_eq_some_iff.1 hu
  split
  · next hq =>
    rw [hq]
    exact hf t ((h ht).trans hq)
  · exact h ht

lemma Keyed.resolveOutput (h : c.Keyed) (path : Option Text) (sources : List Text) :
    (c.resolveOutput path sources).Keyed := by
  cases path with
  | none => exact h.drop sources
  | some path => exact (h.drop sources).add (Target.output path)

lemma Keyed.remove (h : c.Keyed) (paths : List Text) (severEdges : Bool) :
    (c.remove paths severEdges).Keyed := by
  cases severEdges
  · exact h.drop paths
  · exact h.drop paths

/-- **A context that was made by adding targets has every target under its path.** -/
theorem keyed_ofTargets (ts : List Target) : (ofTargets ts).Keyed := by
  have hfold : ∀ c : Context, c.Keyed → (ts.foldl Context.add c).Keyed := by
    induction ts with
    | nil => exact fun _ h => h
    | cons t ts ih => exact fun c h => ih _ (h.add t)
  exact hfold .empty keyed_empty

/-- The targets in the table are those that are found. -/
lemma Keyed.mem_values_iff (h : c.Keyed) {t : Target} :
    t ∈ c.targets.values ↔ c.get? t.path = some t := by
  rw [get?, Table.find?_eq_some_iff, Table.values, List.mem_map]
  constructor
  · rintro ⟨⟨k, u⟩, hmem, rfl⟩
    have hkey : u.path = k := h (Table.find?_eq_some_iff.2 hmem)
    rw [← hkey] at hmem
    exact hmem
  · exact fun hmem => ⟨_, hmem, rfl⟩

/-- No path belongs to two targets. -/
lemma Keyed.eq_of_path_eq (h : c.Keyed) {t u : Target} (ht : t ∈ c.targets.values)
    (hu : u ∈ c.targets.values) (hpath : t.path = u.path) : t = u := by
  have hget := h.mem_values_iff.1 ht
  rw [hpath, h.mem_values_iff.1 hu] at hget
  exact (Option.some.inj hget).symm

/-- The paths of the targets are the keys of the table. -/
lemma Keyed.map_path_values (h : c.Keyed) :
    c.targets.values.map Target.path = c.targets.keys := by
  rw [Table.values, Table.keys, List.map_map]
  exact List.map_congr_left fun e he => h (Table.find?_eq_some_iff.2 he)

end StyleBuild.Context
