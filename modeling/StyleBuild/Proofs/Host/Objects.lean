import Mathlib.Data.List.Basic
import StyleBuild.Proofs.Host.Operations
import StyleBuild.Proofs.Table

/-!
# Targets as objects

A `Context` has its targets by value, but a host passes them around.  One target may be added twice,
or be pushed out of the table by another one with its path and still be written to by whoever holds
it.  So a `Host` knows a target by the number of its making: `objects` are all the targets that were
made, and the table binds paths to numbers.

* `Command.objects_apply` is all that happens to the objects: each goes through `Command.effect`,
  which leaves those alone that the command is not about, and new ones come after them.
* `Host.context` looks the numbers up.  In it a command is an operation of the context or nothing
  (`Command.reaches_apply`), as long as the numbers are bound under the paths of their targets
  (`Host.Placed`), which every command keeps.

So what was proved of reachable contexts is true of what a host sees (`reachable_context_run`).
-/

namespace StyleBuild

/-! ## Targets and what is done to them -/

/-- A target that nobody has loaded or written to. -/
structure Unloaded extends Target where
  unloaded : content = none

/-- The targets that were ever made, each known by its place there, and what the host keeps. -/
structure Host where
  objects : List Target
  table : Table ℕ
  graph : Graph

namespace Host

/-- The path of the target with a number, if there is one. -/
def path? (h : Host) (n : ℕ) : Option Text := (h.objects[n]?).map Target.path

/-- The paths of the targets with the numbers. -/
def paths (h : Host) (ns : List ℕ) : List Text := ns.filterMap h.path?

/-- Makes a target.  Its number is how many there were. -/
def make (h : Host) (t : Target) : Host := { h with objects := h.objects ++ [t] }

/-- Puts a target into the table under its path. -/
def add (h : Host) (n : ℕ) : Host :=
  match h.path? n with
  | some path => { h with table := h.table.insert path n }
  | none => h

/-- Changes a target, wherever it is known. -/
def modify (h : Host) (n : ℕ) (f : Target → Target) : Host :=
  { h with objects := h.objects.modify n f }

/-- Takes whatever is at the paths of the targets out of the table. -/
def drop (h : Host) (ns : List ℕ) : Host :=
  { h with table := (h.paths ns).foldl Table.erase h.table }

/-- Makes an output and puts it in the place of the sources, or just removes these. -/
def resolveOutput (h : Host) (path : Option Text) (sources : List ℕ) : Host :=
  match path with
  | some path => ((h.drop sources).make (.output path)).add h.objects.length
  | none => h.drop sources

/-- Removes targets and, if asked to, their edges. -/
def remove (h : Host) (ns : List ℕ) (severEdges : Bool) : Host :=
  if severEdges then { h.drop ns with graph := (h.paths ns).foldl Graph.removeNode h.graph }
  else h.drop ns

end Host

/-- What the holder of a context can do. -/
inductive Command
  | make (t : Unloaded)
  | add (n : ℕ)
  | load (n : ℕ)
  | write (n : ℕ) (data : Bytes)
  | resolveOutput (path : Option Text) (sources : List ℕ)
  | remove (targets : List ℕ) (severEdges : Bool)
  | link (e : Edge)
  | unlink (path : Text)

namespace Command

/-- The host after a command.  One that is about a number without a target does nothing. -/
def apply (h : Host) : Command → Host
  | make t => h.make t.toTarget
  | add n => h.add n
  | load n => h.modify n Target.attempted
  | write n data => h.modify n (·.write data)
  | resolveOutput path sources => h.resolveOutput path sources
  | remove targets severEdges => h.remove targets severEdges
  | link e => { h with graph := h.graph.add e }
  | unlink path => { h with graph := h.graph.removeNode path }

/-- What becomes of the target with a number. -/
def effect : Command → ℕ → Target → Target
  | load m => fun n t => if m = n then t.attempted else t
  | write m data => fun n t => if m = n then t.write data else t
  | _ => fun _ t => t

/-- The targets that come into being. -/
def made : Command → List Target
  | make t => [t.toTarget]
  | resolveOutput (some path) _ => [.output path]
  | _ => []

end Command

namespace Host

variable {h : Host} {n : ℕ} {t : Target} {path : Text}

/-- The host after a sequence of commands. -/
def run (h : Host) (cmds : List Command) : Host := cmds.foldl Command.apply h

/-- The host of a context that is made with the targets of the given numbers. -/
def start (made : List Unloaded) (initial : List ℕ) : Host :=
  initial.foldl add ⟨made.map Unloaded.toTarget, Table.empty, Graph.empty⟩

/-! ## What happens to the objects -/

lemma add_of_getElem?_eq_none (hn : h.objects[n]? = none) : h.add n = h := by
  rw [add, path?, hn, Option.map_none]

lemma add_of_getElem?_eq_some (ht : h.objects[n]? = some t) :
    h.add n = { h with table := h.table.insert t.path n } := by
  rw [add, path?, ht, Option.map_some]

/-- A target that is made has the next number, so the others keep theirs. -/
lemma getElem?_make {u : Target} (t : Target) (hu : h.objects[n]? = some u) :
    (h.make t).objects[n]? = some u :=
  (List.getElem?_append_left (List.getElem?_eq_some_iff.1 hu).1).trans hu

@[simp] lemma objects_add (h : Host) (n : ℕ) : (h.add n).objects = h.objects := by
  unfold add
  split <;> rfl

@[simp] lemma objects_remove (h : Host) (ns : List ℕ) (severEdges : Bool) :
    (h.remove ns severEdges).objects = h.objects := by
  unfold remove
  split <;> rfl

lemma objects_resolveOutput (h : Host) (path : Option Text) (sources : List ℕ) :
    (h.resolveOutput path sources).objects
      = h.objects ++ (Command.resolveOutput path sources).made := by
  cases path with
  | none => exact (List.append_nil _).symm
  | some path => exact objects_add ..

@[simp] lemma mapIdx_untouched (ts : List Target) : (ts.mapIdx fun _ t => t) = ts := by
  refine List.ext_getElem? fun n => ?_
  rw [List.getElem?_mapIdx, Option.map_id']

lemma modify_eq_mapIdx (ts : List Target) (n : ℕ) (f : Target → Target) :
    ts.modify n f = ts.mapIdx fun m t => if n = m then f t else t := by
  refine List.ext_getElem? fun m => ?_
  rw [List.getElem?_modify, List.getElem?_mapIdx]
  rfl

end Host

namespace Command

open Host

variable {h : Host} {n : ℕ} {t : Target} {path : Text}

/-- **Each object goes through the effect of the command on it, and new ones come after them.** -/
theorem objects_apply (h : Host) (cmd : Command) :
    (cmd.apply h).objects = h.objects.mapIdx cmd.effect ++ cmd.made := by
  cases cmd with
  | load n => exact (modify_eq_mapIdx ..).trans (List.append_nil _).symm
  | write n data => exact (modify_eq_mapIdx ..).trans (List.append_nil _).symm
  | make t => simp [apply, Host.make, effect, made]
  | add n => simp [apply, effect, made]
  | resolveOutput path sources => simp [apply, objects_resolveOutput, effect]
  | remove ns severEdges => simp [apply, effect, made]
  | link e => simp [apply, effect, made]
  | unlink path => simp [apply, effect, made]

/-- An object keeps its number. -/
lemma getElem?_apply (cmd : Command) (ht : h.objects[n]? = some t) :
    (cmd.apply h).objects[n]? = some (cmd.effect n t) := by
  have hlength : n < (h.objects.mapIdx cmd.effect).length := by
    rw [List.length_mapIdx]
    exact (List.getElem?_eq_some_iff.1 ht).1
  rw [objects_apply, List.getElem?_append_left hlength, List.getElem?_mapIdx, ht, Option.map_some]

lemma path_effect (cmd : Command) (n : ℕ) (t : Target) : (cmd.effect n t).path = t.path := by
  cases cmd with
  | load m =>
    simp only [effect]
    split
    · exact t.path_attempted
    · rfl
  | write m data =>
    simp only [effect]
    split <;> rfl
  | _ => rfl

lemma path?_apply (cmd : Command) (hpath : h.path? n = some path) :
    (cmd.apply h).path? n = some path := by
  obtain ⟨t, ht, rfl⟩ := Option.map_eq_some_iff.1 hpath
  rw [path?, cmd.getElem?_apply ht, Option.map_some, path_effect]

end Command

/-! ## The table and the graph -/

namespace Host

variable {h : Host} {n : ℕ} {t : Target} {path : Text}

/-- Every number in the table is bound under the path of its target. -/
def Placed (h : Host) : Prop := ∀ ⦃path n⦄, h.table.find? path = some n → h.path? n = some path

/-- It stays so as long as the table does, if no target gets another path. -/
lemma Placed.of_path? (placed : h.Placed) {h' : Host} (htable : h'.table = h.table)
    (hpath : ∀ n path, h.path? n = some path → h'.path? n = some path) : h'.Placed :=
  fun path n hn => hpath n path (placed (htable ▸ hn))

lemma Placed.make (placed : h.Placed) (t : Target) : (h.make t).Placed := by
  refine placed.of_path? rfl fun n path hn => ?_
  obtain ⟨u, hu, rfl⟩ := Option.map_eq_some_iff.1 hn
  rw [path?, getElem?_make t hu, Option.map_some]

lemma Placed.add (placed : h.Placed) (n : ℕ) : (h.add n).Placed := by
  unfold Host.add
  cases hn : h.path? n with
  | none => exact placed
  | some p =>
    intro path m hm
    rw [Table.find?_insert] at hm
    split at hm
    · next hpath =>
      obtain rfl := Option.some.inj hm
      rw [hpath]
      exact hn
    · exact placed hm

lemma Placed.drop (placed : h.Placed) (ns : List ℕ) : (h.drop ns).Placed := by
  intro path m hm
  rw [Host.drop, Table.find?_foldl_erase] at hm
  split at hm
  · cases hm
  · exact placed hm

/-- **No command unties a number from the path of its target.** -/
theorem Placed.apply (placed : h.Placed) (cmd : Command) : (cmd.apply h).Placed := by
  cases cmd with
  | make t => exact placed.make t.toTarget
  | add n => exact placed.add n
  | load n => exact placed.of_path? rfl fun _ _ => (Command.load n).path?_apply
  | write n data => exact placed.of_path? rfl fun _ _ => (Command.write n data).path?_apply
  | resolveOutput path sources =>
    cases path with
    | none => exact placed.drop sources
    | some path => exact ((placed.drop sources).make (.output path)).add _
  | remove ns severEdges =>
    cases severEdges
    · exact placed.drop ns
    · exact placed.drop ns
  | link e => exact placed
  | unlink path => exact placed

lemma Placed.run (placed : h.Placed) (cmds : List Command) : (h.run cmds).Placed := by
  induction cmds generalizing h with
  | nil => exact placed
  | cons cmd cmds ih => exact ih (placed.apply cmd)

lemma placed_start (made : List Unloaded) (initial : List ℕ) : (start made initial).Placed :=
  List.foldlRecOn initial add (fun _ _ hn => by cases hn) fun _ placed n _ => placed.add n

/-! ## The context that the host sees -/

/-- The target with a number.  Where there is none, an empty one stands for it. -/
def target (h : Host) (n : ℕ) : Target := (h.objects[n]?).getD (.output [])

/-- The context in which every number in the table is replaced by its target. -/
def context (h : Host) : Context := ⟨h.table.map h.target, h.graph⟩

lemma target_eq (ht : h.objects[n]? = some t) : h.target n = t := by
  rw [target, ht, Option.getD_some]

lemma Placed.exists_object (placed : h.Placed) (hn : h.table.find? path = some n) :
    ∃ t, h.objects[n]? = some t ∧ t.path = path :=
  Option.map_eq_some_iff.1 (placed hn)

/-- What is in the table does not change when a target is made. -/
lemma context_make (placed : h.Placed) (t : Target) : (h.make t).context = h.context := by
  refine congrArg (Context.mk · h.graph) (Table.map_congr fun path n hn => ?_)
  obtain ⟨u, hu, -⟩ := placed.exists_object hn
  rw [target_eq (getElem?_make t hu), target_eq hu]

lemma context_add (ht : h.objects[n]? = some t) : (h.add n).context = h.context.add t := by
  rw [add_of_getElem?_eq_some ht, ← target_eq ht]
  exact congrArg (Context.mk · h.graph) (Table.map_insert h.target h.table _ n)

lemma context_drop (h : Host) (ns : List ℕ) :
    (h.drop ns).context = h.context.drop (h.paths ns) :=
  congrArg (Context.mk · h.graph) (Table.map_foldl_erase h.target h.table (h.paths ns))

lemma context_remove (h : Host) (ns : List ℕ) (severEdges : Bool) :
    (h.remove ns severEdges).context = h.context.remove (h.paths ns) severEdges := by
  cases severEdges
  · exact context_drop h ns
  · exact congrArg (Context.sever · (h.paths ns)) (context_drop h ns)

lemma context_resolveOutput (placed : h.Placed) (path : Option Text) (sources : List ℕ) :
    (h.resolveOutput path sources).context = h.context.resolveOutput path (h.paths sources) := by
  cases path with
  | none => exact context_drop h sources
  | some path =>
    have hnew : ((h.drop sources).make (.output path)).objects[h.objects.length]?
        = some (.output path) := List.getElem?_concat_length
    rw [Host.resolveOutput, context_add hnew, context_make (placed.drop sources), context_drop,
      Context.resolveOutput]

/-- A change to a target that is in the table is a change at its path. -/
lemma context_modify_of_held (placed : h.Placed) (ht : h.objects[n]? = some t)
    (held : h.table.find? t.path = some n) (f : Target → Target) :
    (h.modify n f).context = h.context.adjust t.path f := by
  refine congrArg (Context.mk · h.graph) (Table.map_eq_adjust fun path m hm => ?_)
  replace hm : h.table.find? path = some m := hm
  obtain ⟨u, hu, rfl⟩ := placed.exists_object hm
  have hsame : n = m ↔ u.path = t.path := by
    constructor
    · rintro rfl
      rw [Option.some.inj (hu.symm.trans ht)]
    · intro hpath
      rw [hpath, held] at hm
      exact Option.some.inj hm
  have hmodified : (h.modify n f).objects[m]? = some (if n = m then f u else u) := by
    rw [Host.modify, List.getElem?_modify, hu]
    rfl
  rw [target_eq hmodified, target_eq hu]
  simp only [hsame]

/-- A change to any other target is not seen. -/
lemma context_modify_of_not_held (held : ∀ path, h.table.find? path ≠ some n)
    (f : Target → Target) :
    (h.modify n f).context = h.context := by
  refine congrArg (Context.mk · h.graph) (Table.map_congr fun path m hm => ?_)
  have hother : n ≠ m := fun eq => held path (eq ▸ hm)
  have hmodified : (h.modify n f).objects[m]? = h.objects[m]? := by
    rw [Host.modify, List.getElem?_modify]
    simp only [hother, if_false]
    exact Option.map_id' ..
  rw [target, hmodified, target]

end Host

namespace Command

open Host

variable {h : Host}

/-- A change to one target is an operation of the context, or it is not seen. -/
lemma reaches_modify (placed : h.Placed) (n : ℕ) (f : Target → Target)
    (hf : ∀ (c : Context) (path : Text), c.Reaches (c.adjust path f)) :
    h.context.Reaches (h.modify n f).context := by
  by_cases held : ∃ path, h.table.find? path = some n
  · obtain ⟨path, hpath⟩ := held
    obtain ⟨t, ht, rfl⟩ := placed.exists_object hpath
    rw [context_modify_of_held placed ht hpath]
    exact hf h.context t.path
  · rw [context_modify_of_not_held (not_exists.1 held)]
    exact .refl

/-- **What a command does to the context are operations of the context.** -/
theorem reaches_apply (placed : h.Placed) (cmd : Command) :
    h.context.Reaches (cmd.apply h).context := by
  cases cmd with
  | make t =>
    rw [apply, context_make placed]
    exact .refl
  | add n =>
    rw [apply]
    cases ht : h.objects[n]? with
    | none =>
      rw [add_of_getElem?_eq_none ht]
      exact .refl
    | some t =>
      rw [context_add ht]
      exact .apply (.add t) .refl
  | load n => exact reaches_modify placed n _ fun c path => .apply (.load path) .refl
  | write n data => exact reaches_modify placed n _ fun c path => .apply (.write path data) .refl
  | resolveOutput path sources =>
    rw [apply, context_resolveOutput placed]
    exact .apply (.resolveOutput path (h.paths sources)) .refl
  | remove ns severEdges =>
    rw [apply, context_remove]
    exact .apply (.remove (h.paths ns) severEdges) .refl
  | link e => exact .apply (.link e) .refl
  | unlink path => exact .apply (.unlink path) .refl

end Command

namespace Host

variable {h : Host}

lemma reaches_run (placed : h.Placed) (cmds : List Command) :
    h.context.Reaches (h.run cmds).context := by
  induction cmds generalizing h with
  | nil => exact .refl
  | cons cmd cmds ih => exact (cmd.reaches_apply placed).trans (ih (placed.apply cmd))

/-- A host starts with the context of its initial targets. -/
lemma context_start (made : List Unloaded) (initial : List ℕ) :
    (start made initial).context
      = .ofTargets (initial.filterMap fun n => (made[n]?).map Unloaded.toTarget) := by
  -- `add` leaves the objects alone, so they are those of the start throughout
  have hfold : ∀ h : Host, h.objects = made.map Unloaded.toTarget →
      (initial.foldl add h).context
        = (initial.filterMap fun n => (made[n]?).map Unloaded.toTarget).foldl Context.add
            h.context := by
    induction initial with
    | nil => exact fun _ _ => rfl
    | cons n initial ih =>
      intro h hobjects
      rw [List.foldl_cons, ih _ ((objects_add h n).trans hobjects), List.filterMap_cons]
      have hn : h.objects[n]? = (made[n]?).map Unloaded.toTarget := by
        rw [hobjects, List.getElem?_map]
      rw [← hn]
      cases ht : h.objects[n]? with
      | none => rw [add_of_getElem?_eq_none ht]
      | some t => rw [context_add ht, List.foldl_cons]
  exact hfold _ rfl

/-- **Whatever the holder of a context does, the context is a reachable one.** -/
theorem reachable_context_run (made : List Unloaded) (initial : List ℕ) (cmds : List Command) :
    ((start made initial).run cmds).context.Reachable := by
  have hstart : (start made initial).context.Reachable :=
    context_start made initial ▸ Context.reachable_ofTargets _
  exact hstart.trans (reaches_run (placed_start made initial) cmds)

end Host

end StyleBuild
