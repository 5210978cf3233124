import Mathlib.Data.List.Induction
import Mathlib.Data.String.Basic
import SchemaDecl.Proofs.Target.Mapping

/-!
# The constants of a context

A context collects the constants of capacities while types are spelled.  They stand in the order of
their names and have one value, so a constant that is asked for again is found and not added.

Types are spelled by calls, for a field, for a shape or for an array around a token.  In C a call
that gives a token adds the capacity of this token, if it has one.  A call can also fail, for an
array of arrays.  An array that is refused around a token leaves the context as it was.  But a shape
is spelled from the inside, and when an array of arrays is refused, a capacity has been allocated
for the array in it.  It is not taken back: a failure ends the compilation, and the context with it.

## Main definitions

* `MapContext.Tidy` — constants in order, all of one value.
* `MapCall`, `MapCall.run` — a call that spells a type.
* `SizeConstant.Gains` — one constant more, unless it was there.
* `MapCall.Accounts` — what a call changes of the constants, by what it gives.
* `Target.contextAfter` — the context that a sequence of calls has reached.

## Main results

* `SizeConstant.names_insert`, `SizeConstant.ascending_insert` — one constant is put in its place.
* `MapCall.leaves_run` — **one call**, and what it leaves.
* `Target.contextAfter_accounts` — **what calls leave in a context that calls have reached**.
* `Target.not_contextAfter_unchanged` — a call that fails can leave a constant.
-/

namespace SchemaDecl

namespace SizeConstant

/-! ### One constant -/

theorem mem_insert {c d : SizeConstant} {cs : List SizeConstant} (h : d ∈ insert c cs) :
    d = c ∨ d ∈ cs := by
  induction cs with
  | nil => exact Or.inl (List.mem_singleton.mp h)
  | cons e cs ih =>
    rw [insert] at h
    split at h
    · exact Or.inr h
    · split at h
      · rcases List.mem_cons.mp h with rfl | h
        · exact Or.inr List.mem_cons_self
        · exact (ih h).imp_right (List.mem_cons_of_mem e)
      · exact List.mem_cons.mp h

/-- The new name is there afterwards, with those that were there before. -/
theorem names_insert (c : SizeConstant) (cs : List SizeConstant) (name : String) :
    name ∈ (insert c cs).map (·.name) ↔ name = c.name ∨ name ∈ cs.map (·.name) := by
  induction cs with
  | nil => simp [insert]
  | cons e cs ih =>
    rw [insert]
    split
    · next he => simp [he]
    · split
      · rw [List.map_cons, List.mem_cons, ih, List.map_cons, List.mem_cons]
        exact or_left_comm
      · rw [List.map_cons, List.mem_cons]

theorem ascending_insert (c : SizeConstant) {cs : List SizeConstant}
    (h : (cs.map (·.name)).Pairwise (· < ·)) :
    ((insert c cs).map (·.name)).Pairwise (· < ·) := by
  induction cs with
  | nil => exact List.pairwise_singleton _ _
  | cons e cs ih =>
    obtain ⟨hhead, hrest⟩ := List.pairwise_cons.mp h
    rw [insert]
    split
    · exact h
    · next hne =>
      split
      · next hlt =>
        -- the head stays in front of what is inserted behind it
        refine List.pairwise_cons.mpr ⟨fun name hname => ?_, ih hrest⟩
        rcases (names_insert c cs name).mp hname with rfl | hname
        · exact hlt
        · exact hhead name hname
      · next hge =>
        have hlt : c.name < e.name := lt_of_le_of_ne (not_lt.mp hge) (Ne.symm hne)
        refine List.pairwise_cons.mpr ⟨fun name hname => ?_, h⟩
        rcases List.mem_cons.mp hname with rfl | hname
        · exact hlt
        · exact hlt.trans (hhead name hname)

/-- A constant whose name is there already is not added. -/
theorem insert_eq_self {c : SizeConstant} {cs : List SizeConstant}
    (h : (cs.map (·.name)).Pairwise (· < ·)) (hc : c.name ∈ cs.map (·.name)) :
    insert c cs = cs := by
  induction cs with
  | nil => cases hc
  | cons e cs ih =>
    obtain ⟨hhead, hrest⟩ := List.pairwise_cons.mp h
    rw [insert]
    by_cases hname : e.name = c.name
    · rw [if_pos hname]
    · -- the name stands further on, so it is not passed over here
      have hmem : c.name ∈ cs.map (·.name) :=
        (List.mem_cons.mp hc).resolve_left (Ne.symm hname)
      rw [if_neg hname, if_pos (hhead _ hmem), ih hrest hmem]

/-- A constant of another name is added to those that are there. -/
theorem insert_perm {c : SizeConstant} {cs : List SizeConstant}
    (hc : c.name ∉ cs.map (·.name)) : (insert c cs).Perm (c :: cs) := by
  induction cs with
  | nil => exact List.Perm.refl _
  | cons e cs ih =>
    rw [List.map_cons, List.mem_cons, not_or] at hc
    rw [insert, if_neg (Ne.symm hc.1)]
    split
    · exact ((ih hc.2).cons e).trans (List.Perm.swap c e cs)
    · exact List.Perm.refl _

end SizeConstant

/-! ### The constant of one token -/

namespace MapContext

theorem names_take (ctx : MapContext) (token : TypeToken) (name : String) :
    name ∈ (ctx.take token).constants.map (·.name) ↔
      token.capacity = some name ∨ name ∈ ctx.constants.map (·.name) := by
  rw [take]
  cases token.capacity with
  | none => simp
  | some capacity => rw [SizeConstant.names_insert, Option.some.injEq, eq_comm]

theorem ascending_take {ctx : MapContext} (token : TypeToken)
    (h : (ctx.constants.map (·.name)).Pairwise (· < ·)) :
    ((ctx.take token).constants.map (·.name)).Pairwise (· < ·) := by
  rw [take]
  cases token.capacity with
  | none => exact h
  | some capacity => exact SizeConstant.ascending_insert _ h

theorem value_take {ctx : MapContext} (token : TypeToken)
    (h : ∀ c ∈ ctx.constants, c.value = defaultCapacity) :
    ∀ c ∈ (ctx.take token).constants, c.value = defaultCapacity := by
  rw [take]
  cases token.capacity with
  | none => exact h
  | some capacity =>
    intro c hc
    rcases SizeConstant.mem_insert hc with rfl | hc
    · rfl
    · exact h c hc

/-- The constants are in the order of their names, and all capacities are the same. -/
structure Tidy (ctx : MapContext) : Prop where
  ascend : (ctx.constants.map (·.name)).Pairwise (· < ·)
  value : ∀ c ∈ ctx.constants, c.value = defaultCapacity

theorem tidy_start (isPublic : Bool) : (start isPublic).Tidy where
  ascend := List.Pairwise.nil
  value := fun _ hc => absurd hc List.not_mem_nil

theorem Tidy.take {ctx : MapContext} (h : ctx.Tidy) (token : TypeToken) :
    (ctx.take token).Tidy where
  ascend := ascending_take token h.ascend
  value := value_take token h.value

theorem take_of_capacity_eq_none (ctx : MapContext) {token : TypeToken}
    (h : token.capacity = none) : ctx.take token = ctx := by
  rw [MapContext.take, h]

end MapContext

/-- Afterwards the constants are those before and one more, unless it was there. -/
def SizeConstant.Gains (before : List SizeConstant) (c : SizeConstant)
    (after : List SizeConstant) : Prop :=
  if c ∈ before then after = before else after.Perm (c :: before)

/-- A token with a capacity adds the constant of it. -/
theorem MapContext.Tidy.gains {ctx : MapContext} (h : ctx.Tidy) {token : TypeToken} {name : String}
    (hname : token.capacity = some name) :
    SizeConstant.Gains ctx.constants ⟨name, defaultCapacity⟩ (ctx.take token).constants := by
  have htake : (ctx.take token).constants
      = SizeConstant.insert ⟨name, defaultCapacity⟩ ctx.constants := by
    rw [MapContext.take, hname]
  rw [SizeConstant.Gains, htake]
  split
  · next hmem => exact SizeConstant.insert_eq_self h.ascend (List.mem_map_of_mem hmem)
  · next hmem =>
    refine SizeConstant.insert_perm fun hmap => hmem ?_
    -- a constant of this name has the value of the new one
    obtain ⟨c, hc, hsame⟩ := List.mem_map.mp hmap
    have hvalue := h.value c hc
    obtain ⟨name', value⟩ := c
    cases hsame
    cases hvalue
    exact hc

/-! ### Calls -/

/-- A call that spells a type. -/
inductive MapCall
  /-- The type of a field of the record `owner`. -/
  | ofField (owner : String) (field : RecordField)
  /-- A shape.  `asElement` says that it is the element of an array. -/
  | ofShape (site : Site) (shape : Shape) (asElement : Bool)
  /-- The array around the token of its elements. -/
  | ofArray (site : Site) (element : Shape) (inner : TypeToken)

namespace MapCall

/-- The field for which a type is spelled. -/
def site : MapCall → Site
  | ofField owner field => ⟨owner, field.name⟩
  | ofShape site _ _ => site
  | ofArray site _ _ => site

/-- Whether the call is for an array around a token. -/
def isOfArray : MapCall → Bool
  | ofArray .. => true
  | _ => false

/-- What a call gives, and the context after it. -/
def run (target : Target) (ctx : MapContext) : MapCall → Mapped
  | ofField owner field => target.mapField owner field ctx
  | ofShape site shape asElement => target.mapShape site shape asElement ctx
  | ofArray site element inner => target.array site element inner ctx

/-- What a call of C gives and leaves. -/
inductive Leaves (call : MapCall) (ctx : MapContext) : Mapped → Prop
  /-- A token, and its capacity. -/
  | token (token : TypeToken) : Leaves call ctx (.ok token (ctx.take token))
  /-- An array around a token is refused before a capacity is allocated. -/
  | refused (h : call.isOfArray = true) (e : CompileError) : Leaves call ctx (.error e ctx)
  /-- An array of arrays is refused after a capacity has been allocated for the array in it. -/
  | nested (h : call.isOfArray = false) (e : CompileError) :
      Leaves call ctx (.error e (ctx.allocate call.site).2)

/-- The shapes that C spells have their token, and the others leave a capacity. -/
theorem leaves_mapShape {call : MapCall} (h : call.isOfArray = false) (shape : Shape)
    (asElement : Bool) (ctx : MapContext) :
    call.Leaves ctx (Target.c.mapShape call.site shape asElement ctx) := by
  cases hnested : shape.nestedArray? with
  | none =>
    rw [Target.mapShape_of_fixedArray rfl rfl hnested]
    by_cases harray : shape.isArray = true
    · rw [if_pos harray]
      exact .token ⟨_, some (ctx.allocate call.site).1⟩
    · rw [if_neg harray]
      exact .token (.plain _)
  | some nested =>
    rw [Target.mapShape_of_nestedArray rfl rfl hnested]
    exact .nested h _

/-- **One call** of C gives a token and leaves its capacity, or it fails. -/
theorem leaves_run (call : MapCall) (ctx : MapContext) : call.Leaves ctx (call.run .c ctx) := by
  cases call with
  | ofField owner field => exact leaves_mapShape rfl field.shape false ctx
  | ofShape site shape asElement => exact leaves_mapShape rfl shape asElement ctx
  | ofArray site element inner =>
    show Leaves _ ctx (fixedArray "c" site element inner ctx)
    rw [fixedArray]
    split
    · exact .refused rfl _
    · exact .token ⟨inner.type, some (ctx.allocate site).1⟩

/-- Calls keep the constants in order. -/
theorem tidy_run (call : MapCall) {ctx : MapContext} (h : ctx.Tidy) :
    (call.run .c ctx).ctx.Tidy := by
  have hleaves := call.leaves_run ctx
  generalize call.run .c ctx = m at hleaves ⊢
  cases hleaves with
  | token token => exact h.take token
  | refused _ e => exact h
  | nested _ e => exact h.take ⟨"", some (capacityName call.site.owner call.site.field)⟩

end MapCall

/-! ### Sequences of calls -/

namespace Target

/-- The context that a sequence of calls has reached. -/
def contextAfter (target : Target) (isPublic : Bool) (calls : List MapCall) : MapContext :=
  calls.foldl (fun ctx call => (call.run target ctx).ctx) (.start isPublic)

theorem contextAfter_concat (target : Target) (isPublic : Bool) (calls : List MapCall)
    (call : MapCall) :
    target.contextAfter isPublic (calls ++ [call])
      = (call.run target (target.contextAfter isPublic calls)).ctx := by
  simp [contextAfter]

/-- **A sequence of calls** of C reaches constants in order. -/
theorem tidy_contextAfter (isPublic : Bool) (calls : List MapCall) :
    (Target.c.contextAfter isPublic calls).Tidy := by
  induction calls using List.reverseRecOn with
  | nil => exact MapContext.tidy_start isPublic
  | append_singleton calls call ih =>
    rw [contextAfter_concat]
    exact call.tidy_run ih

end Target

/-- What a call changes of the constants, given the context before it and what it gives and
leaves. -/
structure MapCall.Accounts (call : MapCall) (ctx : MapContext) (m : Mapped) : Prop where
  /-- The capacity of a token is added. -/
  capacity : ∀ token name, m.token = .ok token → token.capacity = some name →
    SizeConstant.Gains ctx.constants ⟨name, 50⟩ m.ctx.constants
  /-- A token without a capacity adds nothing. -/
  plain : ∀ token, m.token = .ok token → token.capacity = none → m.ctx.constants = ctx.constants
  /-- Nor does an array that is refused around a token. -/
  refused : ∀ e, m.token = .error e → call.isOfArray = true → m.ctx.constants = ctx.constants
  /-- A field or a shape that is refused adds the capacity of its field. -/
  nested : ∀ e, m.token = .error e → call.isOfArray = false →
    SizeConstant.Gains ctx.constants ⟨capacityName call.site.owner call.site.field, 50⟩
      m.ctx.constants
  /-- The constants stay in the order of their names. -/
  ascend : (m.ctx.constants.map (·.name)).Pairwise (· < ·)

/-- A call accounts for what it leaves, if the constants before it are in order. -/
theorem MapCall.accounts_run (call : MapCall) {ctx : MapContext} (htidy : ctx.Tidy) :
    call.Accounts ctx (call.run .c ctx) := by
  have hascend := (call.tidy_run htidy).ascend
  have hleaves := call.leaves_run ctx
  generalize call.run .c ctx = m at hascend hleaves ⊢
  -- what a call leaves: a token, nothing, or the capacity of an array inside the refused one
  cases hleaves with
  | token token =>
    refine ⟨?_, ?_, fun _ he => (by cases he), fun _ he => (by cases he), hascend⟩
    · rintro _ name ⟨⟩ hname
      exact htidy.gains hname
    · rintro _ ⟨⟩ hnone
      rw [Mapped.ctx_ok, ctx.take_of_capacity_eq_none hnone]
  | refused h e =>
    refine ⟨fun _ _ ht => (by cases ht), fun _ ht => (by cases ht), fun _ _ _ => rfl, ?_, hascend⟩
    intro _ _ hfalse
    rw [h] at hfalse
    cases hfalse
  | nested h e =>
    refine ⟨fun _ _ ht => (by cases ht), fun _ ht => (by cases ht), ?_, fun _ _ _ => ?_, hascend⟩
    · intro _ _ htrue
      rw [h] at htrue
      cases htrue
    · -- what has been allocated is the capacity of a token
      exact @MapContext.Tidy.gains ctx htidy ⟨"", some _⟩ _ rfl

namespace Target

/-- **What calls of C leave in a context that calls have reached.**  A call that gives a token adds
the capacity of this token to the constants, unless it is there, and nothing if the token has none.
A call that fails for an array around a token leaves the constants as they were.  One that fails for
a field or a shape leaves the capacity of its field. -/
theorem contextAfter_accounts (isPublic : Bool) (calls : List MapCall) (call : MapCall) :
    call.Accounts (Target.c.contextAfter isPublic calls)
      (call.run .c (Target.c.contextAfter isPublic calls)) :=
  call.accounts_run (tidy_contextAfter isPublic calls)

/-- A table of numbers is refused after a list of texts, and leaves a capacity beside that of the
list. -/
theorem contextAfter_accounts_of_grid :
    ∃ e, (MapCall.run .c (Target.c.contextAfter false
        [.ofField "Order" ⟨"tags", .array (.primitive .string)⟩])
        (.ofField "Grid" ⟨"cells", .array (.array (.primitive .integer))⟩)).token = .error e ∧
      SizeConstant.Gains [⟨"ORDER_TAGS_SIZE", 50⟩] ⟨"GRID_CELLS_SIZE", 50⟩
        (MapCall.run .c (Target.c.contextAfter false
          [.ofField "Order" ⟨"tags", .array (.primitive .string)⟩])
          (.ofField "Grid" ⟨"cells", .array (.array (.primitive .integer))⟩)).ctx.constants := by
  have haccounts := contextAfter_accounts false
    [.ofField "Order" ⟨"tags", .array (.primitive .string)⟩]
    (.ofField "Grid" ⟨"cells", .array (.array (.primitive .integer))⟩)
  exact ⟨_, rfl, haccounts.nested _ rfl rfl⟩

/-- **A call of C that fails does not leave the constants as they were.**  The array inside the one
that is refused has its capacity already. -/
theorem not_contextAfter_unchanged :
    ¬ ∀ (isPublic : Bool) (calls : List MapCall) (call : MapCall) (e : CompileError),
      (call.run .c (Target.c.contextAfter isPublic calls)).token = .error e →
      (call.run .c (Target.c.contextAfter isPublic calls)).ctx.constants
        = (Target.c.contextAfter isPublic calls).constants := by
  intro h
  have hconstants : [⟨"GRID_CELLS_SIZE", 50⟩] = ([] : List SizeConstant) :=
    h false [] (.ofField "Grid" ⟨"cells", .array (.array (.primitive .integer))⟩) _ rfl
  cases hconstants

end Target

end SchemaDecl
