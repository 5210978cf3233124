import Mathlib.Logic.Basic
import SchemaDecl.Target.Catalogue

/-!
# The shapes that targets can spell

All targets but one have arrays of any element, and spell every shape.  C gives an array a
capacity, one for each field, and so refuses an array of arrays.  A shape is spelled from
the inside, so what is refused is the innermost one.

What is not refused has one token, which can be told from the field alone: it does not depend on
the constants that have been allocated before.

## Main definitions

* `Shape.nestedArray?` — the innermost array of arrays of a shape.
* `Target.container`, `Target.spell` — how a target writes arrays, and shapes.
* `Target.token` — the token of a field.
* `MapContext.take` — the context after a token.
* `Target.unsupported?` — what is wrong with the shape of a field.

## Main results

* `Target.mapShape_of_growingArray` — with growing arrays every shape is spelled.
* `Target.mapShape_of_fixedArray`, `Target.mapShape_of_nestedArray` — with fixed arrays the
  shapes without an array of arrays are.
* `Target.mapField_of_supported`, `Target.mapField_of_unsupported` — a field has its token or is
  refused.
-/

namespace SchemaDecl

/-! ### Arrays of arrays -/

/-- The innermost array of arrays of a shape. -/
def Shape.nestedArray? : Shape → Option Shape
  | .primitive _ => none
  | .object _ => none
  | .array element =>
    element.nestedArray?.or (if element.isArray then some (.array element) else none)

/-- Arrays are nested one in the other, so an array of arrays is inside a shape only if the
shape is one. -/
theorem Shape.nestedArray?_eq_none_iff (shape : Shape) :
    shape.nestedArray? = none ↔ ∀ element, shape ≠ .array (.array element) := by
  induction shape with
  | primitive kind => simp [Shape.nestedArray?]
  | object name => simp [Shape.nestedArray?]
  | array element ih =>
    rw [Shape.nestedArray?, Option.or_eq_none_iff, ih]
    cases element with
    | primitive kind => simp [Shape.isArray]
    | object name => simp [Shape.isArray]
    | array base => simp [Shape.isArray]

/-- The context after a token: a capacity of the token has its constant. -/
def MapContext.take (ctx : MapContext) (token : TypeToken) : MapContext :=
  match token.capacity with
  | some name =>
    { ctx with constants := SizeConstant.insert ⟨name, defaultCapacity⟩ ctx.constants }
  | none => ctx

@[simp] theorem MapContext.isPublic_take (ctx : MapContext) (token : TypeToken) :
    (ctx.take token).isPublic = ctx.isPublic := by
  rw [take]
  split <;> rfl

namespace Target

/-! ### Spellings -/

/-- The type of an array, written around that of its elements.  C writes the latter alone, and a
capacity beside the name of the field. -/
def container (target : Target) (element : String) : String :=
  match target.name with
  | "cpp" => "std::vector<" ++ element ++ ">"
  | "java" => "List<" ++ element ++ ">"
  | "go" => "[]" ++ element
  | "rust" => "Vec<" ++ element ++ ">"
  | "typescript" => element ++ "[]"
  | "javascript" => element ++ "[]"
  | _ => element

/-- The spelling of a shape.  `asElement` says that it is the element of an array. -/
def spell (target : Target) (isPublic : Bool) : Shape → (asElement : Bool) → String
  | .primitive kind, true => target.elementPrimitive kind
  | .primitive kind, false => target.primitive kind
  | .object name, _ => target.typeIdent isPublic name
  | .array element, _ => target.container (target.spell isPublic element true)

/-- The token of a field of the record `owner`.  In C that of an array has a capacity. -/
def token (target : Target) (isPublic : Bool) (owner : String) (field : RecordField) :
    TypeToken where
  type := target.spell isPublic field.shape false
  capacity :=
    if target.name = "c" ∧ field.shape.isArray = true then some (capacityName owner field.name)
    else none

/-- The seven targets of the library. -/
theorem mem_builtin {target : Target} :
    target ∈ Catalogue.builtin ↔ target = .c ∨ target = .cpp ∨ target = .java ∨ target = .go ∨
      target = .rust ∨ target = .typescript ∨ target = .javascript := by
  simp only [Catalogue.builtin, List.mem_cons, List.not_mem_nil, or_false]

/-- C is the one target with fixed arrays. -/
theorem array_of_mem_builtin {target : Target} (h : target ∈ Catalogue.builtin) :
    (target.name = "c" ∧ target.array = fixedArray target.name ∧ target.container = id) ∨
      (target.name ≠ "c" ∧ target.array = growingArray target.container) := by
  rcases mem_builtin.mp h with rfl | rfl | rfl | rfl | rfl | rfl | rfl
  · exact Or.inl ⟨rfl, rfl, rfl⟩
  all_goals exact Or.inr ⟨by decide, rfl⟩

/-! ### Shapes -/

/-- With growing arrays every shape is spelled, and nothing is allocated. -/
theorem mapShape_of_growingArray {target : Target}
    (h : target.array = growingArray target.container) (site : Site) (shape : Shape)
    (asElement : Bool) (ctx : MapContext) :
    target.mapShape site shape asElement ctx
      = .ok (.plain (target.spell ctx.isPublic shape asElement)) ctx := by
  induction shape generalizing asElement with
  | primitive kind => cases asElement <;> rfl
  | object name => rfl
  | array element ih =>
    have hinner := ih true
    rw [mapShape_array_of_ok asElement (congrArg Mapped.token hinner), hinner, h]
    rfl

/-- With fixed arrays a shape without an array of arrays is spelled, and a capacity is allocated
for it if it is an array. -/
theorem mapShape_of_fixedArray {target : Target} {name : String}
    (h : target.array = fixedArray name) (hcontainer : target.container = id) {shape : Shape}
    (hshape : shape.nestedArray? = none) (site : Site) (asElement : Bool) (ctx : MapContext) :
    target.mapShape site shape asElement ctx
      = if shape.isArray then
          .ok ⟨target.spell ctx.isPublic shape asElement, some (ctx.allocate site).1⟩
            (ctx.allocate site).2
        else .ok (.plain (target.spell ctx.isPublic shape asElement)) ctx := by
  induction shape generalizing asElement with
  | primitive kind => cases asElement <;> rfl
  | object name => rfl
  | array element ih =>
    rw [Shape.nestedArray?, Option.or_eq_none_iff] at hshape
    obtain ⟨hinside, hself⟩ := hshape
    -- an element that is an array would be an array of arrays with this one
    have hflat : element.isArray = false := by
      refine Bool.eq_false_iff.mpr fun harray => ?_
      rw [if_pos harray] at hself
      cases hself
    have hinner := ih hinside true
    rw [hflat, if_neg Bool.false_ne_true] at hinner
    rw [mapShape_array_of_ok asElement (congrArg Mapped.token hinner), hinner, h]
    simp [fixedArray, hflat, TypeToken.plain, spell, hcontainer]

/-- With fixed arrays the innermost array of arrays is refused.  A capacity has been allocated
for the array inside it. -/
theorem mapShape_of_nestedArray {target : Target} {name : String}
    (h : target.array = fixedArray name) (hcontainer : target.container = id)
    {shape nested : Shape} (hshape : shape.nestedArray? = some nested) (site : Site)
    (asElement : Bool) (ctx : MapContext) :
    target.mapShape site shape asElement ctx
      = .error (.unsupportedKind name nested site.field site.owner) (ctx.allocate site).2 := by
  induction shape generalizing asElement with
  | primitive kind => cases hshape
  | object name => cases hshape
  | array element ih =>
    rw [Shape.nestedArray?] at hshape
    cases hinside : element.nestedArray? with
    | some inside =>
      -- the fault of the element is passed on
      rw [hinside, Option.some_or] at hshape
      obtain rfl := Option.some.inj hshape
      have herror := ih hinside true
      rw [mapShape_array_of_error asElement (congrArg Mapped.token herror), herror]
      rfl
    | none =>
      rw [hinside, Option.none_or] at hshape
      split at hshape
      · next harray =>
        -- the element is the innermost array, and has its token already
        obtain rfl := Option.some.inj hshape
        have hinner := mapShape_of_fixedArray h hcontainer hinside site true ctx
        rw [if_pos harray] at hinner
        rw [mapShape_array_of_ok asElement (congrArg Mapped.token hinner), hinner, h]
        simp [fixedArray, harray]
      · cases hshape

/-! ### Fields -/

/-- What is wrong with the shape of a field of the record `owner`: in C, its innermost array of
arrays. -/
def unsupported? (target : Target) (owner : String) (field : RecordField) :
    Option CompileError :=
  if target.name = "c" then
    field.shape.nestedArray?.map fun nested =>
      .unsupportedKind target.name nested field.name owner
  else none

theorem unsupported?_eq_none_iff (target : Target) (owner : String) (field : RecordField) :
    target.unsupported? owner field = none ↔
      (target.name = "c" → ∀ element, field.shape ≠ .array (.array element)) := by
  rw [unsupported?, ← Shape.nestedArray?_eq_none_iff]
  split
  · next hname => rw [Option.map_eq_none_iff, forall_prop_of_true hname]
  · next hname => exact iff_of_true rfl fun h => absurd h hname

/-- A field with nothing wrong has its token. -/
theorem mapField_of_supported {target : Target} (htarget : target ∈ Catalogue.builtin)
    {owner : String} {field : RecordField} (h : target.unsupported? owner field = none)
    (ctx : MapContext) :
    target.mapField owner field ctx
      = .ok (target.token ctx.isPublic owner field)
          (ctx.take (target.token ctx.isPublic owner field)) := by
  rcases array_of_mem_builtin htarget with ⟨hname, harray, hcontainer⟩ | ⟨hname, harray⟩
  · rw [unsupported?, if_pos hname, Option.map_eq_none_iff] at h
    rw [mapField, mapShape_of_fixedArray harray hcontainer h ⟨owner, field.name⟩ false ctx]
    cases hisArray : field.shape.isArray <;>
      simp [token, MapContext.take, MapContext.allocate, hname, hisArray, TypeToken.plain]
  · rw [mapField, mapShape_of_growingArray harray ⟨owner, field.name⟩ field.shape false ctx]
    simp [token, MapContext.take, hname, TypeToken.plain]

theorem mapField_of_unsupported {target : Target} (htarget : target ∈ Catalogue.builtin)
    {owner : String} {field : RecordField} {e : CompileError}
    (h : target.unsupported? owner field = some e) (ctx : MapContext) :
    (target.mapField owner field ctx).token = .error e := by
  rcases array_of_mem_builtin htarget with ⟨hname, harray, hcontainer⟩ | ⟨hname, -⟩
  · rw [unsupported?, if_pos hname, Option.map_eq_some_iff] at h
    obtain ⟨nested, hnested, rfl⟩ := h
    rw [mapField, mapShape_of_nestedArray harray hcontainer hnested]
    rfl
  · rw [unsupported?, if_neg hname] at h
    cases h

end Target

end SchemaDecl
