import SchemaDecl.Json.Reader
import SchemaDecl.Schema.Basic
import SchemaDecl.Schema.Error

/-!
# Schemas as documents

A schema document is an object with `properties`, or one with `items` whose schema is an
array.  A property has a `type`: the name of a primitive kind, `object` or `array`.
Without one it has to have `properties`.  A `title` that is a string is the title of its
node, and all other keywords mean nothing.

The members of an object are visited in the order of their names, so the first fault in
that order is the one that is reported.

## Main definitions

* `Json.property`, `Json.properties`: the fields that documents stand for.
* `Node.ofSortedJson`: the schema of a document with ordered members.
* `Node.ofJson`: the schema of any document.
* `Node.ofText`: the schema of a text.
-/

namespace SchemaDecl

/-- The title among the members of a node. -/
def titleOf (members : List (String × Json String)) : Option String :=
  match members.lookup "title" with
  | some (.string title) => some title
  | _ => none

namespace Json

mutual

/-- The type of the field that a document describes. -/
def property (path : String) : Json String → Except SchemaError FieldType
  | .object members =>
    match members.lookup "type" with
    | some (.string name) =>
      match Primitive.ofName? name with
      | some kind => .ok (.primitive kind)
      | none =>
        if name = "object" then
          (propertiesOf path members).map fun fields =>
            .object (.object (titleOf members) (fields.getD []))
        else if name = "array" then do
          match ← itemsOf (Path.element path) members with
          | none => throw (.unsupported path .arrayWithoutItems)
          | some element => return .array element
        else .error (.unknownType path name)
    | some _ => .error (.unsupported path .typeNotString)
    | none => do
      match ← propertiesOf path members with
      | none => throw (.unsupported path .untypedProperty)
      | some fields => return .object (.object (titleOf members) fields)
  | _ => .error (.unsupported path .propertyNotObject)
termination_by structural json => json

/-- The fields under `properties`, if the members of a node have it. -/
def propertiesOf (path : String) :
    List (String × Json String) → Except SchemaError (Option Fields)
  | [] => .ok none
  | (name, value) :: rest =>
    if name = "properties" then (fieldsIn path value).map some else propertiesOf path rest
termination_by structural members => members

/-- The fields that the value of `properties` stands for. -/
def fieldsIn (path : String) : Json String → Except SchemaError Fields
  | .object members => properties path members
  | _ => .error (.unsupported path .propertiesNotObject)
termination_by structural json => json

/-- The fields that the members under `properties` stand for. -/
def properties (path : String) : List (String × Json String) → Except SchemaError Fields
  | [] => .ok []
  | (name, value) :: rest => do
    let type ← property (Path.field path name) value
    let fields ← properties path rest
    return (name, type) :: fields
termination_by structural members => members

/-- The type under `items`, if the members of a node have it. -/
def itemsOf (path : String) :
    List (String × Json String) → Except SchemaError (Option FieldType)
  | [] => .ok none
  | (name, value) :: rest =>
    if name = "items" then (property path value).map some else itemsOf path rest
termination_by structural members => members

end

end Json

namespace Node

/-- The schema of a document whose members are ordered and distinct. -/
def ofSortedJson : Json String → Except SchemaError Node
  | .object members => do
    match ← Json.propertiesOf Path.root members with
    | some fields => return .object (titleOf members) fields
    | none =>
      match ← Json.itemsOf (Path.element Path.root) members with
      | some item => return .arrayRoot (titleOf members) item
      | none => throw (.unsupported Path.root .rootWithoutContents)
  | _ => .error (.unsupported Path.root .rootNotObject)

/-- The schema of a document. -/
def ofJson (json : Json String) : Except SchemaError Node := ofSortedJson json.sorted

/-- The schema of a text. -/
def ofText (text : String) : Except SchemaError Node := do
  let json ← (Json.ofText text).mapError .json
  ofJson json

end Node

end SchemaDecl
