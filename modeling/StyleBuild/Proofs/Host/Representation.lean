import StyleBuild.Proofs.Host.Objects

/-!
# What a context represents

A context is handed targets that their owner may go on using, and gives out outputs that are written
to after it.  `Host.Represented` is what holds of it all the same, at any time:

* every key of the table is the path of the target under it, so no two targets in it have one path;
* the content of a target that is loaded is its data, whether the table has that target or not;
* an output that it gives out now will have exactly the bytes that are written to *that* output,
  in their order, whatever else comes under its path;
* severing leaves exactly the edges that touch none of the paths.

The second and the third come from one account of a single object: a command changes it by
`Command.effect`, which appends `Command.written` to the data (`Command.data_effect`) and leaves no
content behind it (`Command.current_effect`).  `Host.exists_run` is the run.
-/

namespace StyleBuild

/-! ## Content and data of one target -/

namespace Target

/-- A target whose content, once there is some, is its data. -/
def Current (t : Target) : Prop := t.isLoaded → t.content = some t.data

variable {t : Target}

lemma current_of_content_eq_none (h : t.content = none) : t.Current := by
  intro hloaded
  rw [isLoaded, h] at hloaded
  cases hloaded

lemma current_output (path : Text) : (output path).Current := fun _ => rfl

lemma current_write (t : Target) (data : Bytes) : (t.write data).Current := fun _ => rfl

lemma Current.load (h : t.Current) : t.load.Current := by
  unfold Target.load
  split
  · exact fun _ => rfl
  · exact h

lemma Current.attempted (h : t.Current) : t.attempted.Current := by
  unfold Target.attempted load?
  cases t.loadFailure with
  | some text => exact h
  | none => exact h.load

end Target

namespace Command

/-- The bytes that are written to the target with a number. -/
def written (n : ℕ) : Command → Bytes
  | write m data => if m = n then data else []
  | _ => []

variable {h : Host} {t : Target}

lemma data_effect (cmd : Command) (n : ℕ) (t : Target) :
    (cmd.effect n t).data = t.data ++ cmd.written n := by
  cases cmd with
  | load m =>
    simp only [effect, written, List.append_nil]
    split
    · exact t.data_attempted
    · rfl
  | write m data =>
    simp only [effect, written]
    split
    · rfl
    · exact (List.append_nil _).symm
  | _ => exact (List.append_nil _).symm

lemma current_effect (cmd : Command) (n : ℕ) (current : t.Current) :
    (cmd.effect n t).Current := by
  cases cmd with
  | load m =>
    simp only [effect]
    split
    · exact current.attempted
    · exact current
  | write m data =>
    simp only [effect]
    split
    · exact t.current_write data
    · exact current
  | _ => exact current

lemma current_made (cmd : Command) : ∀ t ∈ cmd.made, t.Current := by
  intro t ht
  cases cmd with
  | make u =>
    obtain rfl := List.mem_singleton.1 ht
    exact Target.current_of_content_eq_none u.unloaded
  | resolveOutput path sources =>
    cases path with
    | none => cases ht
    | some path =>
      obtain rfl := List.mem_singleton.1 ht
      exact Target.current_output path
  | _ => cases ht

/-- **No command leaves a content behind its data.** -/
theorem current_apply (cmd : Command) (current : ∀ t ∈ h.objects, t.Current) :
    ∀ t ∈ (cmd.apply h).objects, t.Current := by
  intro t ht
  rw [objects_apply] at ht
  rcases List.mem_append.1 ht with ht | ht
  · obtain ⟨n, hn, rfl⟩ := List.mem_mapIdx.1 ht
    exact cmd.current_effect n (current _ (List.getElem_mem hn))
  · exact cmd.current_made t ht

end Command

/-! ## Runs -/

namespace Host

variable {h : Host} {n : ℕ} {t : Target}

lemma current_run (cmds : List Command) (current : ∀ t ∈ h.objects, t.Current) :
    ∀ t ∈ (h.run cmds).objects, t.Current := by
  induction cmds generalizing h with
  | nil => exact current
  | cons cmd cmds ih => exact ih (cmd.current_apply current)

/-- **A target keeps its path, and its data grows by what is written to it.** -/
theorem exists_run (cmds : List Command) (ht : h.objects[n]? = some t) :
    ∃ u, (h.run cmds).objects[n]? = some u ∧ u.path = t.path ∧
      u.data = t.data ++ cmds.flatMap (Command.written n) := by
  induction cmds generalizing h t with
  | nil => exact ⟨t, ht, rfl, (List.append_nil _).symm⟩
  | cons cmd cmds ih =>
    obtain ⟨u, hu, hpath, hdata⟩ := ih (cmd.getElem?_apply ht)
    refine ⟨u, hu, hpath.trans (cmd.path_effect n t), ?_⟩
    rw [hdata, cmd.data_effect, List.flatMap_cons, List.append_assoc]

lemma objects_start (made : List Unloaded) (initial : List ℕ) :
    (start made initial).objects = made.map Unloaded.toTarget :=
  List.foldlRecOn (motive := fun h => h.objects = made.map Unloaded.toTarget) initial add rfl
    fun h hobjects n _ => (objects_add h n).trans hobjects

lemma current_start (made : List Unloaded) (initial : List ℕ) :
    ∀ t ∈ (start made initial).objects, t.Current := by
  intro t ht
  rw [objects_start] at ht
  obtain ⟨u, -, rfl⟩ := List.mem_map.1 ht
  exact Target.current_of_content_eq_none u.unloaded

/-! ## Outputs and edges -/

/-- The output is in the table under its path. -/
lemma find?_resolveOutput (h : Host) (path : Text) (sources : List ℕ) :
    (h.resolveOutput (some path) sources).table.find? path = some h.objects.length := by
  rw [resolveOutput, add_of_getElem?_eq_some List.getElem?_concat_length]
  exact (Table.find?_insert ..).trans (if_pos rfl)

/-- An output has the bytes that are written to it, and no others. -/
lemma exists_output (h : Host) (path : Text) (sources : List ℕ) (later : List Command) :
    ∃ t, ((h.resolveOutput (some path) sources).run later).objects[h.objects.length]? = some t ∧
      t.path = path ∧ t.data = later.flatMap (Command.written h.objects.length) := by
  have hnew : (h.resolveOutput (some path) sources).objects[h.objects.length]?
      = some (.output path) := by
    rw [objects_resolveOutput]
    exact List.getElem?_concat_length
  exact exists_run later hnew

/-- Exactly the edges that touch none of the paths are left. -/
lemma mem_graph_remove {ns : List ℕ} {e : Edge} :
    e ∈ (h.remove ns true).graph ↔
      e ∈ h.graph ∧ ∀ path ∈ h.paths ns, e.consumer ≠ path ∧ e.dependency ≠ path :=
  Context.mem_sever (c := h.context)

/-! ## What is always so -/

/-- What a context represents, and what it does to outputs and edges from there on. -/
structure Represented (h : Host) : Prop where
  /-- The context is one that operations make of the empty one. -/
  reachable : h.context.Reachable
  /-- Every key of the table is the path of the target whose number it has. -/
  placed : h.Placed
  /-- In the context every target is under its own path. -/
  keyed : h.context.Keyed
  /-- No two targets of the context have one path. -/
  distinct : (h.context.targets.values.map Target.path).Nodup
  /-- Every loaded target has its data as content. -/
  current : ∀ t ∈ h.objects, t.Current
  /-- Sources are replaced and targets removed as operations of the context say. -/
  resolves : ∀ path sources,
    (h.resolveOutput path sources).context = h.context.resolveOutput path (h.paths sources)
  removes : ∀ targets severEdges,
    (h.remove targets severEdges).context = h.context.remove (h.paths targets) severEdges
  /-- An output that is made now has the next number, and its path in the table. -/
  returned : ∀ path sources,
    (h.resolveOutput (some path) sources).table.find? path = some h.objects.length
  /-- Whatever is done later, its data is what is written to it, in that order. -/
  outputs : ∀ path sources later, ∃ t,
    ((h.resolveOutput (some path) sources).run later).objects[h.objects.length]? = some t ∧
      t.path = path ∧ t.data = later.flatMap (Command.written h.objects.length)
  /-- Severing leaves the edges with no end among the paths of the targets. -/
  severed : ∀ targets e, e ∈ (h.remove targets true).graph ↔
    e ∈ h.graph ∧ ∀ path ∈ h.paths targets, e.consumer ≠ path ∧ e.dependency ≠ path

/-- **A context keeps its representation**, whichever targets it is made with and whatever is done
to it and to them. -/
theorem represented_run (made : List Unloaded) (initial : List ℕ) (cmds : List Command) :
    ((start made initial).run cmds).Represented where
  reachable := reachable_context_run made initial cmds
  placed := (placed_start made initial).run cmds
  keyed := (reachable_context_run made initial cmds).keyed
  distinct := by
    rw [(reachable_context_run made initial cmds).keyed.map_path_values]
    exact Table.nodup _
  current := current_run cmds (current_start made initial)
  resolves := context_resolveOutput ((placed_start made initial).run cmds)
  removes := context_remove _
  returned := find?_resolveOutput _
  outputs := exists_output _
  severed _ _ := mem_graph_remove

/-- The output comes under the path of its source and is written to.  Then the source is added
again, so the rest goes to a target that the table does not have. -/
example :
    let source : Unloaded := ⟨.fresh ['a'] [1] false, rfl⟩
    let h := (start [source] [0]).run [.resolveOutput (some ['a']) [0], .write 1 [2], .load 0,
      .add 0, .write 1 [3]]
    h.context.targets.values = [⟨['a'], [1], false, some [1], none⟩] ∧
      h.objects[1]? = some ⟨['a'], [2, 3], false, some [2, 3], none⟩ := by
  decide

end Host

end StyleBuild
