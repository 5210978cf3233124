import SchemaDecl.CompileError
import SchemaDecl.Target.SourceFile

/-!
# Target languages

A target spells identifiers and types and lays out files.  The walk over shapes is the
same for all of them.

## Main definitions

* `Mapped`: an attempt to spell a type, and the context after it.
* `Target`: what a target decides.
* `Target.objectRef`: the reference to a declared type.
* `Target.mapShape`, `Target.mapField`: the token of a shape and of a field.
* `Target.render`: the text of a file.
-/

namespace SchemaDecl

/-- An attempt to spell a type and the context after it.  What has been allocated stays so,
also by an attempt that fails later on. -/
structure Mapped where
  token : Except CompileError TypeToken
  ctx : MapContext

namespace Mapped

/-- The attempt that succeeds with a token. -/
def ok (token : TypeToken) (ctx : MapContext) : Mapped := ⟨.ok token, ctx⟩

/-- The attempt that fails. -/
def error (e : CompileError) (ctx : MapContext) : Mapped := ⟨.error e, ctx⟩

/-- The token together with the context, or the error alone. -/
def toExcept (m : Mapped) : Except CompileError (TypeToken × MapContext) :=
  m.token.map fun token => (token, m.ctx)

@[simp] theorem token_ok (t : TypeToken) (ctx : MapContext) : (ok t ctx).token = .ok t := rfl

@[simp] theorem ctx_ok (t : TypeToken) (ctx : MapContext) : (ok t ctx).ctx = ctx := rfl

@[simp] theorem token_error (e : CompileError) (ctx : MapContext) :
    (error e ctx).token = .error e := rfl

@[simp] theorem ctx_error (e : CompileError) (ctx : MapContext) : (error e ctx).ctx = ctx := rfl

end Mapped

/-- A target language: how names and types are spelled, and how a file is laid out. -/
structure Target where
  /-- The name by which the target is selected. -/
  name : String
  /-- The language it writes. -/
  language : String
  /-- The extension of its files. -/
  extension : String
  /-- Whether the language has a visibility modifier. -/
  hasVisibility : Bool := false
  /-- The type of a field of a primitive kind. -/
  primitive : Primitive → String
  /-- The type of the elements of an array of a primitive kind. -/
  elementPrimitive : Primitive → String := primitive
  /-- The identifier of a type, given whether it is public. -/
  typeIdent : Bool → String → String := fun _ name => name
  /-- The identifier of a field, given whether it is public. -/
  fieldIdent : Bool → String → String := fun _ name => name
  /-- The token of an array, from the shape and the token of its elements. -/
  array : Site → Shape → TypeToken → MapContext → Mapped
  /-- The blocks of a file. -/
  layout : SourceFile → Layout

namespace Target

/-- The reference to a declared type, which is spelled as its declaration is. -/
def objectRef (target : Target) (name : String) (ctx : MapContext) : String :=
  target.typeIdent ctx.isPublic name

/-- The token of a shape.  `asElement` says that it is the element of an array. -/
def mapShape (target : Target) (site : Site) :
    Shape → (asElement : Bool) → MapContext → Mapped
  | .primitive kind, true, ctx => .ok (.plain (target.elementPrimitive kind)) ctx
  | .primitive kind, false, ctx => .ok (.plain (target.primitive kind)) ctx
  | .object name, _, ctx => .ok (.plain (target.objectRef name ctx)) ctx
  | .array element, _, ctx =>
    match target.mapShape site element true ctx with
    | ⟨.ok inner, ctx⟩ => target.array site element inner ctx
    | ⟨.error e, ctx⟩ => .error e ctx

/-- The token of a field of the record `owner`. -/
def mapField (target : Target) (owner : String) (field : RecordField) (ctx : MapContext) :
    Mapped :=
  target.mapShape ⟨owner, field.name⟩ field.shape false ctx

/-- The text of a file. -/
def render (target : Target) (file : SourceFile) : String := (target.layout file).text

/-- An array type of any element type, written around that of its elements. -/
def growingArray (spell : String → String) (_site : Site) (_element : Shape) (inner : TypeToken)
    (ctx : MapContext) : Mapped :=
  .ok (.plain (spell inner.type)) ctx

theorem mapShape_array_of_ok {target : Target} {site : Site} {element : Shape} (b : Bool)
    {ctx : MapContext} {inner : TypeToken}
    (h : (target.mapShape site element true ctx).token = .ok inner) :
    target.mapShape site (.array element) b ctx
      = target.array site element inner (target.mapShape site element true ctx).ctx := by
  rw [mapShape]
  generalize target.mapShape site element true ctx = m at h ⊢
  cases m
  subst h
  rfl

theorem mapShape_array_of_error {target : Target} {site : Site} {element : Shape} (b : Bool)
    {ctx : MapContext} {e : CompileError}
    (h : (target.mapShape site element true ctx).token = .error e) :
    target.mapShape site (.array element) b ctx
      = .error e (target.mapShape site element true ctx).ctx := by
  rw [mapShape]
  generalize target.mapShape site element true ctx = m at h ⊢
  cases m
  subst h
  rfl

end Target

end SchemaDecl
