import SchemaDecl.Json.Fault

/-!
# Why a document is no schema

* `Unsupported`: the rules that a node of a document can violate.
* `SchemaError`: the three causes.
* `SchemaError.message`: the wording of each.
-/

namespace SchemaDecl

/-- A rule that a node of a document violates. -/
inductive Unsupported
  | rootNotObject
  | rootWithoutContents
  | propertiesNotObject
  | propertyNotObject
  | typeNotString
  | arrayWithoutItems
  | untypedProperty
  deriving DecidableEq, Repr

/-- The wording of a violated rule. -/
def Unsupported.text : Unsupported → String
  | rootNotObject => "schema must be a JSON object"
  | rootWithoutContents => "root has neither `properties` nor `items`"
  | propertiesNotObject => "`properties` must be an object"
  | propertyNotObject => "property schema must be an object"
  | typeNotString => "`type` must be a string"
  | arrayWithoutItems => "array has no `items`"
  | untypedProperty => "property has no `type` or `properties`"

/-- Why a text or a document is no schema. -/
inductive SchemaError
  /-- The text is no document. -/
  | json (fault : Json.LocatedFault)
  /-- The node at `path` violates a rule. -/
  | unsupported (path : String) (rule : Unsupported)
  /-- The type named at `path` is none of those known. -/
  | unknownType (path type : String)
  deriving DecidableEq, Repr

/-- The text of an error. -/
def SchemaError.message : SchemaError → String
  | json fault => "invalid JSON: " ++ fault.message
  | unsupported path rule => "unsupported schema construct at `" ++ path ++ "`: " ++ rule.text
  | unknownType path type => "unknown type `" ++ type ++ "` at `" ++ path ++ "`"

end SchemaDecl
