import SchemaDecl.Proofs.Record.Dependency
import SchemaDecl.Proofs.Target.Mapping
import SchemaDecl.Proofs.Text.Affix
import SchemaDecl.Proofs.Text.Words

/-!
# What a spelling tells

Shapes that are spelled alike are the same up to kinds that a target does not tell apart, unless
one of them refers to a type whose identifier is spelled like a primitive kind or an array in the
other.  No target looks out for such identifiers.  Where names are spelled as they are, any
spelling can be met; Rust and public Go respell names, and leave only a few.

## Main definitions

* `Shape.mapKind` — a shape with another kind at its end.
* `Target.coarseKind` — the kind that stands for all that are spelled alike.
* `Target.SpelledIn` — the identifiers that are spelled like a kind or an array in a shape.
* `Target.Shadows` — a shape refers to a type whose identifier is spelled so.

## Main results

* `Target.spell_injective` — with growing arrays spellings tell shapes apart.
* `Target.token_injective` — **tokens tell shapes apart**, unless one shadows the other.
* `Target.typeIdent_rust_of_spelledIn` — in Rust only `String` is spelled like something else.
* `Target.typeIdent_go_of_spelledIn` — in public Go only what is spelled like an array is.
-/

namespace SchemaDecl

/-- The shape whose end, if it is of a primitive kind, has the kind that `f` gives. -/
def Shape.mapKind (f : Primitive → Primitive) : Shape → Shape
  | .primitive kind => .primitive (f kind)
  | .object name => .object name
  | .array element => .array (element.mapKind f)

namespace Target

/-- The kind that stands for all that are spelled alike.  TypeScript and JavaScript have one type
of numbers. -/
def coarseKind (target : Target) (kind : Primitive) : Primitive :=
  if target.name = "typescript" ∨ target.name = "javascript" then
    match kind with
    | .integer => .number
    | .decimal => .number
    | other => other
  else kind

/-- The spelling of a primitive kind, also as the element of an array. -/
def spellKind (target : Target) (kind : Primitive) (asElement : Bool) : String :=
  if asElement then target.elementPrimitive kind else target.primitive kind

/-- The identifier is spelled like a primitive kind in the shape, be it as an element or not, or
like an array in the shape.  In C an array is not told by the spelling of its type. -/
inductive SpelledIn (target : Target) (isPublic : Bool) : String → Shape → Prop
  | kind (kind : Primitive) (asElement : Bool) :
      SpelledIn target isPublic (target.spellKind kind asElement) (.primitive kind)
  | array (hname : target.name ≠ "c") (element : Shape) :
      SpelledIn target isPublic (target.container (target.spell isPublic element true))
        (.array element)
  | element {ident : String} {element : Shape} : SpelledIn target isPublic ident element →
      SpelledIn target isPublic ident (.array element)

/-- The first shape refers to a type whose identifier is spelled like a kind or an array in the
second. -/
def Shadows (target : Target) (isPublic : Bool) (s t : Shape) : Prop :=
  ∃ name, s.ref? = some name ∧ target.SpelledIn isPublic (target.typeIdent isPublic name) t

/-- What shadows an element shadows the array, and so does an array of it. -/
theorem Shadows.array {target : Target} {isPublic : Bool} {s t : Shape}
    (h : target.Shadows isPublic s t) : target.Shadows isPublic (.array s) (.array t) := by
  obtain ⟨name, hname, hspelled⟩ := h
  exact ⟨name, hname, hspelled.element⟩

@[simp] theorem spell_primitive (target : Target) (isPublic : Bool) (kind : Primitive)
    (asElement : Bool) :
    target.spell isPublic (.primitive kind) asElement = target.spellKind kind asElement := by
  cases asElement <;> rfl

@[simp] theorem spell_object (target : Target) (isPublic : Bool) (name : String)
    (asElement : Bool) :
    target.spell isPublic (.object name) asElement = target.typeIdent isPublic name := rfl

@[simp] theorem spell_array (target : Target) (isPublic : Bool) (element : Shape)
    (asElement : Bool) :
    target.spell isPublic (.array element) asElement
      = target.container (target.spell isPublic element true) := rfl

/-! ### Kinds and arrays -/

/-- Kinds that are spelled alike are the same, up to those that the target does not tell apart. -/
theorem coarseKind_eq_of_spellKind_eq {target : Target} (htarget : target ∈ Catalogue.builtin)
    {k l : Primitive} {asElement : Bool}
    (h : target.spellKind k asElement = target.spellKind l asElement) :
    target.coarseKind k = target.coarseKind l := by
  have hall : ∀ target ∈ Catalogue.builtin, ∀ asElement : Bool,
      ∀ k ∈ Primitive.all, ∀ l ∈ Primitive.all,
        target.spellKind k asElement = target.spellKind l asElement →
          target.coarseKind k = target.coarseKind l := by
    decide +kernel
  exact hall target htarget asElement k k.mem_all l l.mem_all h

/-- Arrays of elements that are spelled differently are. -/
theorem container_injective {target : Target} (htarget : target ∈ Catalogue.builtin) :
    Function.Injective target.container := by
  intro a b h
  rcases mem_builtin.mp htarget with rfl | rfl | rfl | rfl | rfl | rfl | rfl
  · exact h
  · exact (String.append_right_inj _).mp ((String.append_left_inj _).mp h)
  · exact (String.append_right_inj _).mp ((String.append_left_inj _).mp h)
  · exact (String.append_right_inj _).mp h
  · exact (String.append_right_inj _).mp ((String.append_left_inj _).mp h)
  · exact (String.append_left_inj _).mp h
  · exact (String.append_left_inj _).mp h

theorem container_ne_spellKind {target : Target} (htarget : target ∈ Catalogue.builtin)
    (hname : target.name ≠ "c") (element : String) (kind : Primitive) (asElement : Bool) :
    target.container element ≠ target.spellKind kind asElement := by
  -- an array ends in a bracket, but for Go, where it begins with one
  have hbracket : ∀ target ∈ Catalogue.builtin, ∀ kind ∈ Primitive.all, ∀ asElement : Bool,
      (¬ ">".toList <:+ (target.spellKind kind asElement).toList) ∧
      (¬ "[]".toList <:+ (target.spellKind kind asElement).toList) ∧
      (¬ "[]".toList <+: (target.spellKind kind asElement).toList) := by
    decide +kernel
  obtain ⟨hangle, hafter, hbefore⟩ := hbracket target htarget kind kind.mem_all asElement
  rcases mem_builtin.mp htarget with rfl | rfl | rfl | rfl | rfl | rfl | rfl
  · exact absurd rfl hname
  · exact Text.append_ne_of_not_suffix hangle _
  · exact Text.append_ne_of_not_suffix hangle _
  · exact Text.append_ne_of_not_prefix hbefore _
  · exact Text.append_ne_of_not_suffix hangle _
  · exact Text.append_ne_of_not_suffix hafter _
  · exact Text.append_ne_of_not_suffix hafter _

/-! ### Shapes -/

/-- In C the token of a field has a capacity exactly if the field is an array. -/
theorem isSome_capacity_token {target : Target} (hname : target.name = "c") (isPublic : Bool)
    (owner : String) (field : RecordField) :
    (target.token isPublic owner field).capacity.isSome = field.shape.isArray := by
  rw [token]
  cases field.shape.isArray <;> simp [hname]

section Shapes

variable {target : Target} (htarget : target ∈ Catalogue.builtin) {isPublic : Bool}
variable {s t : Shape} {asElement : Bool}

include htarget

/-- With growing arrays an array is not spelled like another shape. -/
theorem spell_array_ne (hname : target.name ≠ "c") (element : Shape) (ht : t.isArray = false)
    (hshadow : ¬ target.Shadows isPublic t (.array element)) :
    target.spell isPublic (.array element) asElement ≠ target.spell isPublic t asElement := by
  intro h
  rw [spell_array] at h
  cases t with
  | array element' => cases ht
  | primitive kind =>
    rw [spell_primitive] at h
    exact container_ne_spellKind htarget hname _ kind asElement h
  | object n =>
    rw [spell_object] at h
    have hspelled : target.SpelledIn isPublic (target.typeIdent isPublic n) (.array element) :=
      h ▸ .array hname element
    exact hshadow ⟨n, rfl, hspelled⟩

theorem isArray_eq_of_spell_eq (hname : target.name ≠ "c")
    (hst : ¬ target.Shadows isPublic s t) (hts : ¬ target.Shadows isPublic t s)
    (h : target.spell isPublic s asElement = target.spell isPublic t asElement) :
    s.isArray = t.isArray := by
  cases hs : s.isArray with
  | false =>
    cases t with
    | array element => exact absurd h.symm (spell_array_ne htarget hname element hs hst)
    | primitive kind => rfl
    | object n => rfl
  | true =>
    cases s with
    | array element =>
      cases ht : t.isArray with
      | false => exact absurd h (spell_array_ne htarget hname element ht hts)
      | true => rfl
    | primitive kind => cases hs
    | object m => cases hs

/-- Shapes without arrays that are spelled alike are the same up to kinds. -/
theorem spell_injective_of_isArray_eq_false (hs : s.isArray = false) (ht : t.isArray = false)
    (hinj : ∀ m n, s.ref? = some m → t.ref? = some n →
      target.typeIdent isPublic m = target.typeIdent isPublic n → m = n)
    (hst : ¬ target.Shadows isPublic s t) (hts : ¬ target.Shadows isPublic t s)
    (h : target.spell isPublic s asElement = target.spell isPublic t asElement) :
    s.mapKind target.coarseKind = t.mapKind target.coarseKind := by
  cases s with
  | array element => cases hs
  | primitive k =>
    cases t with
    | array element => cases ht
    | primitive l =>
      rw [spell_primitive, spell_primitive] at h
      exact congrArg Shape.primitive (coarseKind_eq_of_spellKind_eq htarget h)
    | object n =>
      rw [spell_primitive, spell_object] at h
      -- a type spelled like a kind is what `Shadows` excludes
      have hspelled : target.SpelledIn isPublic (target.typeIdent isPublic n) (.primitive k) :=
        h ▸ .kind k asElement
      exact absurd ⟨n, rfl, hspelled⟩ hts
  | object m =>
    cases t with
    | array element => cases ht
    | primitive l =>
      rw [spell_primitive, spell_object] at h
      have hspelled : target.SpelledIn isPublic (target.typeIdent isPublic m) (.primitive l) :=
        h ▸ .kind l asElement
      exact absurd ⟨m, rfl, hspelled⟩ hst
    | object n =>
      rw [spell_object, spell_object] at h
      rw [hinj m n rfl rfl h]

/-- Spellings tell shapes apart: with growing arrays two shapes that are spelled alike are the
same up to kinds, unless one shadows the other. -/
theorem spell_injective (hname : target.name ≠ "c")
    (hinj : ∀ m n, s.ref? = some m → t.ref? = some n →
      target.typeIdent isPublic m = target.typeIdent isPublic n → m = n)
    (hst : ¬ target.Shadows isPublic s t) (hts : ¬ target.Shadows isPublic t s)
    (h : target.spell isPublic s asElement = target.spell isPublic t asElement) :
    s.mapKind target.coarseKind = t.mapKind target.coarseKind := by
  induction s generalizing t asElement with
  | primitive k =>
    have ht := isArray_eq_of_spell_eq htarget hname hst hts h
    exact spell_injective_of_isArray_eq_false htarget rfl ht.symm hinj hst hts h
  | object m =>
    have ht := isArray_eq_of_spell_eq htarget hname hst hts h
    exact spell_injective_of_isArray_eq_false htarget rfl ht.symm hinj hst hts h
  | array element ih =>
    cases t with
    | primitive l => exact absurd h (spell_array_ne htarget hname element rfl hts)
    | object n => exact absurd h (spell_array_ne htarget hname element rfl hts)
    | array element' =>
      -- both are written around their elements in the same way
      rw [spell_array, spell_array] at h
      have helement := container_injective htarget h
      exact congrArg Shape.array (ih hinj (hst ∘ .array) (hts ∘ .array) helement)

/-- With fixed arrays two shapes that are spelled alike are the same up to kinds, if both or none
are arrays, and neither an array of arrays. -/
theorem spell_injective_of_isArray_eq (hs : ∀ element, s ≠ .array (.array element))
    (ht : ∀ element, t ≠ .array (.array element)) (harray : s.isArray = t.isArray)
    (hinj : ∀ m n, s.ref? = some m → t.ref? = some n →
      target.typeIdent isPublic m = target.typeIdent isPublic n → m = n)
    (hst : ¬ target.Shadows isPublic s t) (hts : ¬ target.Shadows isPublic t s)
    (h : target.spell isPublic s asElement = target.spell isPublic t asElement) :
    s.mapKind target.coarseKind = t.mapKind target.coarseKind := by
  -- no array is inside, or there would be an array of arrays
  have hflat : ∀ {u : Shape}, (∀ element, Shape.array u ≠ .array (.array element)) →
      u.isArray = false := by
    intro u hu
    cases u with
    | primitive kind => rfl
    | object n => rfl
    | array element => exact absurd rfl (hu element)
  cases s with
  | primitive k =>
    exact spell_injective_of_isArray_eq_false htarget rfl harray.symm hinj hst hts h
  | object m =>
    exact spell_injective_of_isArray_eq_false htarget rfl harray.symm hinj hst hts h
  | array element =>
    cases t with
    | primitive l => cases harray
    | object n => cases harray
    | array element' =>
      rw [spell_array, spell_array] at h
      have helement := container_injective htarget h
      exact congrArg Shape.array (spell_injective_of_isArray_eq_false htarget (hflat hs) (hflat ht)
        hinj (hst ∘ .array) (hts ∘ .array) helement)

/-- **Tokens tell shapes apart.**  Fields whose tokens agree have the same shape up to kinds, unless
one shadows the other. -/
theorem token_injective {owner owner' : String} {f g : RecordField}
    (hf : target.unsupported? owner f = none) (hg : target.unsupported? owner' g = none)
    (hinj : ∀ m n, f.shape.ref? = some m → g.shape.ref? = some n →
      target.typeIdent isPublic m = target.typeIdent isPublic n → m = n)
    (hfg : ¬ target.Shadows isPublic f.shape g.shape)
    (hgf : ¬ target.Shadows isPublic g.shape f.shape)
    (htype : (target.token isPublic owner f).type = (target.token isPublic owner' g).type)
    (hcapacity : (target.token isPublic owner f).capacity.isSome
      = (target.token isPublic owner' g).capacity.isSome) :
    f.shape.mapKind target.coarseKind = g.shape.mapKind target.coarseKind := by
  by_cases hname : target.name = "c"
  · rw [unsupported?_eq_none_iff] at hf hg
    -- in C the capacity tells arrays from their elements
    have harray : f.shape.isArray = g.shape.isArray := by
      rwa [isSome_capacity_token hname, isSome_capacity_token hname] at hcapacity
    exact spell_injective_of_isArray_eq htarget (hf hname) (hg hname) harray hinj hfg hgf htype
  · exact spell_injective htarget hname hinj hfg hgf htype

end Shapes

/-! ### Identifiers that are respelled -/

@[simp] theorem typeIdent_rust (isPublic : Bool) (name : String) :
    Target.rust.typeIdent isPublic name = Rust.typeIdent name := by
  dsimp only [Target.rust]

@[simp] theorem typeIdent_go_true (name : String) :
    Target.go.typeIdent true name = Text.capitalize name := by
  simp only [Target.go, if_true]

theorem startsLower_typeIdent (name : String) : Text.startsLower (Rust.typeIdent name) = false := by
  unfold Rust.typeIdent
  dsimp only
  split_ifs
  · rfl
  · rfl
  · rw [Text.startsLower, String.toList_append]
    rfl
  · exact Text.startsLower_upperCamelCase name

theorem lessThan_not_mem_typeIdent (name : String) : '<' ∉ (Rust.typeIdent name).toList := by
  have hcamel := Text.lessThan_not_mem_upperCamelCase name
  unfold Rust.typeIdent
  dsimp only
  split_ifs
  · decide
  · decide
  · rw [String.toList_append, List.mem_append, not_or]
    exact ⟨by decide, hcamel⟩
  · exact hcamel

/-- In Rust only `String` is spelled like something else. -/
theorem typeIdent_rust_of_spelledIn {isPublic : Bool} {name : String} {shape : Shape}
    (h : Target.rust.SpelledIn isPublic (Target.rust.typeIdent isPublic name) shape) :
    Target.rust.typeIdent isPublic name = "String" := by
  rw [typeIdent_rust] at h ⊢
  have hupper := startsLower_typeIdent name
  have hbracket := lessThan_not_mem_typeIdent name
  generalize Rust.typeIdent name = ident at h hupper hbracket ⊢
  -- kinds begin with a small letter but for `String`, and arrays have an angle bracket
  induction h with
  | kind kind asElement =>
    have hkinds : ∀ kind ∈ Primitive.all, ∀ asElement : Bool,
        Target.rust.spellKind kind asElement = "String" ∨
          Text.startsLower (Target.rust.spellKind kind asElement) = true := by
      decide +kernel
    refine (hkinds kind kind.mem_all asElement).resolve_right ?_
    rw [hupper]
    exact Bool.false_ne_true
  | array _ element =>
    refine absurd ?_ hbracket
    generalize Target.rust.spell isPublic element true = inner
    have hspell : Target.rust.container inner = "Vec<" ++ inner ++ ">" := rfl
    rw [hspell, String.toList_append, String.toList_append]
    exact List.mem_append_left _ (List.mem_append_left _ (by decide))
  | element _ ih => exact ih hupper hbracket

/-- In public Go only what is spelled like an array is spelled like something else. -/
theorem typeIdent_go_of_spelledIn {name : String} {shape : Shape}
    (h : Target.go.SpelledIn true (Target.go.typeIdent true name) shape) :
    ∃ element, Target.go.typeIdent true name = "[]" ++ element := by
  rw [typeIdent_go_true] at h ⊢
  have hupper := Text.startsLower_capitalize name
  generalize Text.capitalize name = ident at h hupper ⊢
  induction h with
  | kind kind asElement =>
    have hkinds : ∀ kind ∈ Primitive.all, ∀ asElement : Bool,
        Text.startsLower (Target.go.spellKind kind asElement) = true := by
      decide +kernel
    rw [hkinds kind kind.mem_all asElement] at hupper
    cases hupper
  | array _ element => exact ⟨_, rfl⟩
  | element _ ih => exact ih hupper

end Target

end SchemaDecl
