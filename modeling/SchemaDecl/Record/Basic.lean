import SchemaDecl.Schema.Basic

/-!
# Type records

A record is a type ready to be declared: its name and its fields, in order of their
names, where a nested node is replaced by the name of its own record.

* `Shape`: the type of a field of a record.
* `Shape.text`: how messages spell it.
* `RecordField`, `Record`.
-/

namespace SchemaDecl

/-- The type of a field, with nested nodes replaced by the names of their types. -/
inductive Shape
  | primitive (kind : Primitive)
  /-- A reference to a declared type. -/
  | object (name : String)
  | array (element : Shape)
  deriving DecidableEq, Repr

namespace Shape

/-- Whether the shape is an array. -/
def isArray : Shape → Bool
  | array _ => true
  | _ => false

/-- The spelling of a shape in messages. -/
def text : Shape → String
  | primitive kind => kind.name
  | object name => "object " ++ name
  | array element => "array<" ++ element.text ++ ">"

@[simp] theorem isArray_array (s : Shape) : (array s).isArray = true := rfl

end Shape

/-- One field of a record. -/
structure RecordField where
  name : String
  shape : Shape
  deriving DecidableEq, Repr

/-- A type ready to be declared. -/
structure Record where
  name : String
  fields : List RecordField
  deriving DecidableEq, Repr

end SchemaDecl
