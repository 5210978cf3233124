import SchemaDecl.Schema.Basic

/-!
# Paths read back

A path is written step by step from the root, a point and the name for a field and two brackets
for an element.  A name without a point and without an opening bracket ends where the next step
begins.  So the steps can be read off a path of such names, from its end to its beginning, and
steps of one path are the same.

## Main definitions

* `Step`, `Path.walk` — places in a schema, and their paths.
* `Step.IsPlain` — a name cannot be taken for further steps.
* `Path.stepsOf` — the steps of a path.

## Main results

* `Path.stepsOf_walk` — **a path of plain steps gives them back**.
* `Path.walk_injective` — so plain steps from one place have different paths.
-/

namespace SchemaDecl

/-- A step from a place in a schema to one below it. -/
inductive Step
  | field (name : String)
  | element
  deriving DecidableEq, Repr

/-- A step whose name has nothing that begins a further step. -/
def Step.IsPlain : Step → Prop
  | .field name => '.' ∉ name.toList ∧ '[' ∉ name.toList
  | .element => True

namespace Path

/-- The path of the place one step below that at `path`. -/
def step (path : String) : Step → String
  | .field name => field path name
  | .element => element path

/-- The path of the place that is reached in steps from that at `path`. -/
def walk (path : String) (steps : List Step) : String := steps.foldl step path

@[simp] theorem walk_nil (path : String) : walk path [] = path := rfl

@[simp] theorem walk_cons (path : String) (s : Step) (steps : List Step) :
    walk path (s :: steps) = walk (step path s) steps := rfl

/-! ### Reading -/

/-- One more character before those read, which are the end of a name and the steps behind it. -/
def readBack (c : Char) (read : List Char × List Step) : List Char × List Step :=
  if c = '.' then ([], .field (String.ofList read.1) :: read.2)
  else if c = '[' then ([], .element :: read.2)
  else (c :: read.1, read.2)

/-- The steps that a path consists of. -/
def stepsOf (path : String) : List Step := (path.toList.foldr readBack ([], [])).2

theorem foldr_readBack_of_isPlain {cs : List Char} (h : '.' ∉ cs ∧ '[' ∉ cs)
    (steps : List Step) : cs.foldr readBack ([], steps) = (cs, steps) := by
  induction cs with
  | nil => rfl
  | cons c cs ih =>
    obtain ⟨hpoint, hbracket⟩ := h
    rw [List.mem_cons, not_or] at hpoint hbracket
    rw [List.foldr_cons, ih ⟨hpoint.2, hbracket.2⟩, readBack, if_neg (Ne.symm hpoint.1),
      if_neg (Ne.symm hbracket.1)]

/-- The end of a path is read as one step. -/
theorem foldr_readBack_step {s : Step} (h : s.IsPlain) (path : String) (steps : List Step) :
    (step path s).toList.foldr readBack ([], steps)
      = path.toList.foldr readBack ([], s :: steps) := by
  cases s with
  | element =>
    -- the closing bracket is read as a name, which the opening one drops
    have hread : ("[]".toList).foldr readBack ([], steps) = ([], .element :: steps) := rfl
    rw [step, element, String.toList_append, List.foldr_append, hread]
  | field name =>
    have hpoint : (".".toList).foldr readBack (name.toList, steps)
        = ([], .field (String.ofList name.toList) :: steps) := rfl
    rw [step, field, String.toList_append, String.toList_append, List.foldr_append,
      List.foldr_append, foldr_readBack_of_isPlain h, hpoint, String.ofList_toList]

/-- The end of a path is read as the steps that were taken last. -/
theorem foldr_readBack_walk {steps : List Step} (h : ∀ s ∈ steps, s.IsPlain) (path : String) :
    (walk path steps).toList.foldr readBack ([], [])
      = path.toList.foldr readBack ([], steps) := by
  induction steps generalizing path with
  | nil => rfl
  | cons s steps ih =>
    obtain ⟨hs, hsteps⟩ := List.forall_mem_cons.mp h
    rw [walk_cons, ih hsteps, foldr_readBack_step hs]

/-- **The path of plain steps gives them back.** -/
theorem stepsOf_walk {steps : List Step} (h : ∀ s ∈ steps, s.IsPlain) :
    stepsOf (walk root steps) = steps := by
  rw [stepsOf, foldr_readBack_walk h]
  rfl

/-! ### Paths below a place -/

/-- Steps append to a path what they append to the empty one. -/
theorem walk_eq_append (path : String) (steps : List Step) :
    walk path steps = path ++ walk "" steps := by
  induction steps generalizing path with
  | nil => exact (String.append_empty).symm
  | cons s steps ih =>
    have hstep : step path s = path ++ step "" s := by
      cases s with
      | element => rfl
      | field name => rw [step, step, field, field, String.empty_append, String.append_assoc]
    rw [walk_cons, walk_cons, ih, ih (step "" s), hstep, String.append_assoc]

theorem walk_injective {path : String} {steps steps' : List Step} (h : ∀ s ∈ steps, s.IsPlain)
    (h' : ∀ s ∈ steps', s.IsPlain) (heq : walk path steps = walk path steps') :
    steps = steps' := by
  rw [walk_eq_append, walk_eq_append path steps', String.append_right_inj] at heq
  have hroot : walk root steps = walk root steps' := by
    rw [walk_eq_append, walk_eq_append root steps', heq]
  rw [← stepsOf_walk h, hroot, stepsOf_walk h']

end Path

end SchemaDecl
