import SchemaDecl.Json.Printer
import SchemaDecl.Json.Reader
import SchemaDecl.Record.Basic

/-!
# The tagged form of schemas

A form of schema trees that keeps all of them, in JSON: a node is an object with the
members `title` and `shape`, and each choice between constructors is an object with one
member, named for the constructor.

Reading is more liberal than writing.  The members of a node may stand in either order
with others among them, a missing title is none, a node may be written as the array of
its two parts, and a primitive kind as an object whose value is `null`.  But the nesting
of those parts of a text that mean something is bounded as in other texts.

## Main definitions

* `Node.tagged`, `FieldType.tagged`: the written form.
* `Node.toTaggedText`: its text.
* `Json.asNode?`, `Json.asFieldType?`: the reading of documents.
* `Node.ofTaggedText?`: the reading of a text.
* `Record.tagged`, `Record.listText`: the same form of type records.
-/

namespace SchemaDecl

/-! ### Writing -/

/-- A choice between constructors. -/
def Json.choice (constructor : String) (value : Json String) : Json String :=
  .object [(constructor, value)]

/-- A text that may be missing. -/
def Json.optional : Option String → Json String
  | none => .null
  | some s => .string s

/-- The object of a node. -/
def Json.taggedNode (title : Option String) (shape : Json String) : Json String :=
  .object [("title", .optional title), ("shape", shape)]

mutual

/-- The written form of a node. -/
def Node.tagged : Node → Json String
  | .object title fields => .taggedNode title (.choice "Object" (.object (Fields.tagged fields)))
  | .arrayRoot title item => .taggedNode title (.choice "ArrayRoot" item.tagged)
termination_by structural node => node

/-- The written form of a type. -/
def FieldType.tagged : FieldType → Json String
  | .primitive kind => .choice "Primitive" (.string kind.name)
  | .object node => .choice "ObjectRef" node.tagged
  | .array element => .choice "ArrayOf" element.tagged
termination_by structural type => type

/-- The written form of fields, which keeps their order. -/
def Fields.tagged : List (String × FieldType) → List (String × Json String)
  | [] => []
  | (name, type) :: rest => (name, type.tagged) :: Fields.tagged rest
termination_by structural fields => fields

end

/-- The text of the written form of a node. -/
def Node.toTaggedText (root : Node) : String := root.tagged.compact

/-- The written form of a shape. -/
def Shape.tagged : Shape → Json String
  | .primitive kind => .choice "Primitive" (.string kind.name)
  | .object name => .choice "Object" (.string name)
  | .array element => .choice "Array" element.tagged

/-- The written form of a record. -/
def Record.tagged (record : Record) : Json String :=
  .object [("name", .string record.name),
    ("fields", .array (record.fields.map fun field =>
      .object [("name", .string field.name), ("shape", field.shape.tagged)]))]

/-- The text of a list of records. -/
def Record.listText (records : List Record) : String :=
  (Json.array (records.map Record.tagged)).compact

/-! ### Reading -/

/-- The documents that the lenient reader gives. -/
abbrev LenientJson := Json (Option String)

/-- The node under a title or under none. -/
def Node.titled (title : Option String) : Node → Node
  | .object _ fields => .object title fields
  | .arrayRoot _ item => .arrayRoot title item

/-- What the members of a node have said so far. -/
structure NodeParts where
  title : Option (Option String) := none
  /-- The node, whose own title does not count. -/
  shape : Option Node := none

/-- The node of which all members are read.  A missing title is none. -/
def NodeParts.node? (parts : NodeParts) : Option Node :=
  parts.shape.map (Node.titled (parts.title.getD none))

namespace Json

/-- A title: a text, or nothing. -/
def asTitle? : LenientJson → Option (Option String)
  | .null => some none
  | .string (some s) => some (some s)
  | _ => none

/-- A primitive kind: its name, or an object whose one member has that name and holds
nothing. -/
def asPrimitive? (depth : Nat) : LenientJson → Option Primitive
  | .string (some name) => Primitive.ofName? name
  | .object [(some name, .null)] => if depth = 0 then none else Primitive.ofName? name
  | _ => none

mutual

/-- The node that a document stands for.  At most `depth` more brackets may be open. -/
def asNode? (depth : Nat) : LenientJson → Option Node
  | .object members =>
    match depth with
    | 0 => none
    | depth + 1 => (nodeParts? depth members {}).bind NodeParts.node?
  | .array [title, shape] =>
    match depth with
    | 0 => none
    | depth + 1 => do
      let title ← asTitle? title
      let node ← asShape? depth shape
      return node.titled title
  | _ => none
termination_by structural json => json

/-- What the members of a node say.  Each of the two that mean something may stand there
once. -/
def nodeParts? (depth : Nat) :
    List (Option String × LenientJson) → NodeParts → Option NodeParts
  | [], parts => some parts
  | (none, _) :: _, _ => none
  | (some name, value) :: rest, parts =>
    if name = "title" then
      match parts.title with
      | some _ => none
      | none => do
        let title ← asTitle? value
        nodeParts? depth rest { parts with title := some title }
    else if name = "shape" then
      match parts.shape with
      | some _ => none
      | none => do
        let node ← asShape? depth value
        nodeParts? depth rest { parts with shape := some node }
    else nodeParts? depth rest parts
termination_by structural members => members

/-- The shape of a node, as a node without a title. -/
def asShape? (depth : Nat) : LenientJson → Option Node
  | .object [(some name, value)] =>
    match depth with
    | 0 => none
    | depth + 1 =>
      if name = "Object" then (asFields? depth value).map (Node.object none)
      else if name = "ArrayRoot" then (asFieldType? depth value).map (Node.arrayRoot none)
      else none
  | _ => none
termination_by structural json => json

/-- The fields of a node. -/
def asFields? (depth : Nat) : LenientJson → Option Fields
  | .object members =>
    match depth with
    | 0 => none
    | depth + 1 => (fieldPairs? depth members).map Fields.ofPairs
  | _ => none
termination_by structural json => json

/-- The fields that members stand for, one for each. -/
def fieldPairs? (depth : Nat) :
    List (Option String × LenientJson) → Option (List (String × FieldType))
  | [] => some []
  | (none, _) :: _ => none
  | (some name, value) :: rest => do
    let type ← asFieldType? depth value
    let fields ← fieldPairs? depth rest
    return (name, type) :: fields
termination_by structural members => members

/-- The type of a field. -/
def asFieldType? (depth : Nat) : LenientJson → Option FieldType
  | .object [(some name, value)] =>
    match depth with
    | 0 => none
    | depth + 1 =>
      if name = "Primitive" then (asPrimitive? depth value).map FieldType.primitive
      else if name = "ObjectRef" then (asNode? depth value).map FieldType.object
      else if name = "ArrayOf" then (asFieldType? depth value).map FieldType.array
      else none
  | _ => none
termination_by structural json => json

end

end Json

/-- The node whose tagged form a text is. -/
def Node.ofTaggedText? (text : String) : Option Node :=
  (Json.ofTextLenient? text).bind (Json.asNode? Json.depthLimit)

end SchemaDecl
