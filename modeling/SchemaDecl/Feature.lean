import SchemaDecl.Schema.Basic

/-!
# Features of a schema

What the head of an output file holds depends on which kinds of types occur anywhere in
the schema, so these are read off the whole tree.

* `Feature`: the seven features, one for each primitive kind, arrays, and nested objects.
* `Node.uses`, `FieldType.uses`: whether a feature occurs in a tree.
* `Node.features`: all that occur, in a fixed order.
-/

namespace SchemaDecl

/-- A kind of type that a schema can use. -/
inductive Feature
  | string
  | integer
  | number
  | decimal
  | boolean
  | array
  | object
  deriving DecidableEq, Repr

namespace Feature

/-- Every feature, in order. -/
def all : List Feature := [string, integer, number, decimal, boolean, array, object]

/-- The name of a feature. -/
def name : Feature → String
  | string => "String"
  | integer => "Integer"
  | number => "Number"
  | decimal => "Decimal"
  | boolean => "Boolean"
  | array => "Array"
  | object => "Object"

/-- The feature of a given name. -/
def ofName? (s : String) : Option Feature := all.find? fun feature => feature.name == s

theorem mem_all (f : Feature) : f ∈ all := by cases f <;> decide

end Feature

/-- The feature that a primitive kind stands for. -/
def Primitive.feature : Primitive → Feature
  | string => .string
  | integer => .integer
  | number => .number
  | decimal => .decimal
  | boolean => .boolean

mutual

/-- Whether a feature occurs in a node.  The items of a node that is an array form an
array. -/
def Node.uses : Node → Feature → Bool
  | .object _ fields, f => Fields.uses fields f
  | .arrayRoot _ item, f => f == .array || item.uses f
termination_by structural node => node

/-- Whether a feature occurs in a type. -/
def FieldType.uses : FieldType → Feature → Bool
  | .primitive kind, f => f == kind.feature
  | .object node, f => f == .object || node.uses f
  | .array element, f => f == .array || element.uses f
termination_by structural type => type

/-- Whether a feature occurs in one of the fields. -/
def Fields.uses : List (String × FieldType) → Feature → Bool
  | [], _ => false
  | (_, type) :: rest, f => type.uses f || Fields.uses rest f
termination_by structural fields => fields

end

/-- The features that occur in a schema, in order. -/
def Node.features (root : Node) : List Feature := Feature.all.filter root.uses

@[simp] theorem Node.mem_features {root : Node} {f : Feature} :
    f ∈ root.features ↔ root.uses f = true := by
  simp [Node.features, Feature.mem_all]

end SchemaDecl
