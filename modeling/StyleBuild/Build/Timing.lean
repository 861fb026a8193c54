import StyleBuild.Host.Target

/-!
# Who is done when

A pass has its targets loaded and compiled by workers, several at a time, and takes up what they
have done as soon as it is there.  When one of them fails, those that still wait are cancelled, but
those that were begun by then go on.

How all this falls in time is not up to the pass.  `Timing` is what it leaves open: the order in
which targets are compiled, the order in which they are taken up, and which of them were begun when
another one failed.  A pass has it as a parameter.  The number of workers has a part in what the
timing will be and in nothing else, so `Settings.workers` is read by no function of a pass.

A compilation is one turn, although the imports of several compilations may come in between each
other: all that they share is the ledger, and there each of them only enters what it has imported.
-/

namespace StyleBuild

/-- What happens while targets are rendered: a worker compiles one of them, or the pass takes up
what one of them was compiled to. -/
inductive Turn
  | compile (t : Target)
  | finish (t : Target)

namespace Turn

/-- The targets that are compiled, in their order. -/
def compiled (turns : List Turn) : List Target :=
  turns.filterMap fun
    | compile t => some t
    | finish _ => none

/-- The targets that are taken up, in their order. -/
def finished (turns : List Turn) : List Target :=
  turns.filterMap fun
    | compile _ => none
    | finish t => some t

/-- No target is taken up before it is compiled. -/
def Ahead (turns : List Turn) : Prop :=
  ∀ before t after, turns = before ++ finish t :: after → t ∈ compiled before

@[simp] theorem compiled_append (turns turns' : List Turn) :
    compiled (turns ++ turns') = compiled turns ++ compiled turns' :=
  List.filterMap_append

@[simp] theorem finished_append (turns turns' : List Turn) :
    finished (turns ++ turns') = finished turns ++ finished turns' :=
  List.filterMap_append

@[simp] theorem compiled_nil : compiled [] = [] := rfl

@[simp] theorem finished_nil : finished [] = [] := rfl

@[simp] theorem compiled_compile (t : Target) (turns : List Turn) :
    compiled (compile t :: turns) = t :: compiled turns := rfl

@[simp] theorem compiled_finish (t : Target) (turns : List Turn) :
    compiled (finish t :: turns) = compiled turns := rfl

@[simp] theorem finished_compile (t : Target) (turns : List Turn) :
    finished (compile t :: turns) = finished turns := rfl

@[simp] theorem finished_finish (t : Target) (turns : List Turn) :
    finished (finish t :: turns) = t :: finished turns := rfl

/-- One target after the other is compiled and taken up. -/
def oneByOne : List Target → List Turn
  | [] => []
  | t :: ts => compile t :: finish t :: oneByOne ts

theorem compiled_oneByOne (ts : List Target) : compiled (oneByOne ts) = ts := by
  induction ts with
  | nil => rfl
  | cons t ts ih => exact congrArg (t :: ·) ih

theorem finished_oneByOne (ts : List Target) : finished (oneByOne ts) = ts := by
  induction ts with
  | nil => rfl
  | cons t ts ih => exact congrArg (t :: ·) ih

theorem ahead_oneByOne (ts : List Target) : Ahead (oneByOne ts) := by
  induction ts with
  | nil =>
    intro before t after h
    cases before <;> cases h
  | cons t ts ih =>
    intro before u after h
    match before with
    | [] => cases h
    | [_] =>
      cases h
      exact List.mem_cons_self
    | _ :: _ :: before =>
      obtain ⟨rfl, htail⟩ := List.cons.inj h
      obtain ⟨rfl, hrest⟩ := List.cons.inj htail
      exact List.mem_cons_of_mem _ (ih before u after hrest)

end Turn

/-- The turns in which targets are rendered: each of them is compiled, and is taken up after that.
The two orders need not be the same. -/
structure Schedule (ts : List Target) where
  turns : List Turn
  compiled : (Turn.compiled turns).Perm ts
  finished : (Turn.finished turns).Perm ts
  ahead : Turn.Ahead turns

/-- One target after the other, in an order of the targets. -/
def Schedule.oneByOne {ts order : List Target} (perm : order.Perm ts) : Schedule ts where
  turns := Turn.oneByOne order
  compiled := (Turn.compiled_oneByOne order).symm ▸ perm
  finished := (Turn.finished_oneByOne order).symm ▸ perm
  ahead := Turn.ahead_oneByOne order

/-- What a pass does not decide itself. -/
structure Timing where
  /-- Whether the loading of a target is begun, when one before it cannot be loaded. -/
  loads : Target → Bool
  /-- Whether a target that is not compiled yet when another one fails is compiled all the same.
  Otherwise it waits, and is cancelled. -/
  compiles : Target → Bool
  schedule : (ts : List Target) → Schedule ts

/-- Nothing at the same time: each target is taken up before the next one is begun, and none is
begun when another one has failed.  The order is the one that is asked for, if it is an order of all
targets. -/
def Timing.oneByOne (arrange : List Target → List Target) : Timing where
  loads _ := false
  compiles _ := false
  schedule ts := if perm : (arrange ts).Perm ts then .oneByOne perm else .oneByOne (.refl ts)

end StyleBuild
