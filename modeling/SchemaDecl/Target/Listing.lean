import SchemaDecl.Target.Basic

/-!
# Plain listings

A target that writes no language but lists the contents of a file, one thing in each
line.  It overrides nothing that a target need not decide, so a listing shows what
reaches a layout.

* `Target.listing`: a listing under any name, language and extension.
-/

namespace SchemaDecl

namespace Listing

/-- The set of features. -/
def features (file : SourceFile) : String :=
  "\x7b" ++ ", ".intercalate ((Feature.all.filter file.uses).map Feature.name) ++ "\x7d"

/-- A constant. -/
def constant (c : SizeConstant) : String := c.name ++ "=" ++ toString c.value

/-- A field. -/
def field (f : DeclaredField) : String :=
  "  " ++ "|".intercalate [f.name, f.ident, f.shape.text, f.token.type, f.token.capacity.getD "-"]

/-- A declaration. -/
def declaration (modifier : String) (decl : Declaration) : Block :=
  (modifier ++ decl.name) :: decl.fields.map field

/-- The token of an array, which has a capacity of its own at every depth. -/
def array (site : Site) (_element : Shape) (inner : TypeToken) (ctx : MapContext) : Mapped :=
  .ok ⟨"[]" ++ inner.type, some (ctx.allocate site).1⟩ (ctx.allocate site).2

end Listing

/-- A listing that is known by the given name, language and extension. -/
def Target.listing (name language extension : String) (hasVisibility : Bool) : Target where
  name := name
  language := language
  extension := extension
  hasVisibility := hasVisibility
  primitive := Primitive.name
  array := Listing.array
  layout file :=
    [[Listing.features file] ++ file.constants.map Listing.constant ++
      file.declarations.flatMap (Listing.declaration (if file.isPublic then "pub " else ""))]

end SchemaDecl
