import SchemaDecl.Record.Basic

/-!
# Why a schema cannot be compiled

* `IdentScope`: the two places in which identifiers must differ.
* `CompileError`: the four causes.
* `CompileError.message`: the wording of each.
-/

namespace SchemaDecl

/-- A set of declared things whose identifiers must differ. -/
inductive IdentScope
  /-- The types of one output file. -/
  | typeNames
  /-- The fields of one type. -/
  | fieldsOf (record : String)
  deriving DecidableEq, Repr

/-- The wording of a scope in messages. -/
def IdentScope.text : IdentScope → String
  | typeNames => "type names"
  | fieldsOf record => "fields of `" ++ record ++ "`"

/-- Why a schema cannot be compiled for a target. -/
inductive CompileError
  /-- The node at `path` has neither a usable title nor an owning field. -/
  | naming (path : String)
  /-- The node at `path` takes the name of the one at `firstPath`, but has other fields. -/
  | nameCollision (name path firstPath : String)
  /-- The target has no type for the shape of a field. -/
  | unsupportedKind (target : String) (shape : Shape) (field owner : String)
  /-- The target spells two names of one scope alike. -/
  | identifierClash (target ident first second : String) (scope : IdentScope)
  deriving DecidableEq, Repr

/-- The text of an error. -/
def CompileError.message : CompileError → String
  | naming path =>
    "schema node at `" ++ path ++ "` has no usable title to derive a type name from"
  | nameCollision name path firstPath =>
    "type `" ++ name ++ "` at `" ++ path ++ "` conflicts with the declaration at `" ++ firstPath
      ++ "`: field sets differ"
  | unsupportedKind target shape field owner =>
    "backend `" ++ target ++ "` cannot express " ++ shape.text ++ " (field `" ++ field ++ "` of `"
      ++ owner ++ "`)"
  | identifierClash target ident first second scope =>
    "backend `" ++ target ++ "` spells both `" ++ first ++ "` and `" ++ second ++ "` as `" ++ ident
      ++ "` (" ++ scope.text ++ ")"

end SchemaDecl
