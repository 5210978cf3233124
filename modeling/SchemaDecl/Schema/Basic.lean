/-!
# Schema trees

A schema is a tree of nodes.  A node either has named fields or is an array of items,
and it may have a title.  A field is of a primitive kind, holds a nested node, or is an
array of such.

Messages name a place in a schema by a path: `$` for the root, then `.name` for each
field and `[]` for each step into an array.

## Main definitions

* `Primitive`: the five primitive kinds.
* `Node`, `FieldType`: the tree.
* `Fields`: the fields of one node, in the order in which they were given.
* `Fields.put`: a field set, in its first position and with its last type.
* `Node.title`, `Node.withTitle`, `Node.fields?`, `Node.item?`: the parts of a node.
* `FieldType.element?`, `FieldType.nested?`: what a field's type holds.
* `Path.root`, `Path.field`, `Path.element`: the places in a tree.
-/

namespace SchemaDecl

/-- The primitive kinds of fields. -/
inductive Primitive
  | string
  | integer
  /-- Wide floating point. -/
  | number
  /-- Narrow floating point, where the target language has one. -/
  | decimal
  | boolean
  deriving DecidableEq, Repr

namespace Primitive

/-- Every kind, once. -/
def all : List Primitive := [.string, .integer, .number, .decimal, .boolean]

/-- The kind's name in a schema document. -/
def name : Primitive → String
  | string => "string"
  | integer => "integer"
  | number => "number"
  | decimal => "decimal"
  | boolean => "boolean"

/-- The kind of a given name. -/
def ofName? (s : String) : Option Primitive := all.find? fun kind => kind.name == s

theorem mem_all (kind : Primitive) : kind ∈ all := by cases kind <;> decide

@[simp] theorem ofName?_name (kind : Primitive) : ofName? kind.name = some kind := by
  cases kind <;> decide

end Primitive

mutual

/-- A node of a schema tree. -/
inductive Node where
  /-- A node with named fields. -/
  | object (title : Option String) (fields : List (String × FieldType))
  /-- A node that is itself an array of items. -/
  | arrayRoot (title : Option String) (item : FieldType)

/-- The type of a field. -/
inductive FieldType where
  | primitive (kind : Primitive)
  /-- A nested node, declared where it is used. -/
  | object (node : Node)
  /-- A sequence of elements of one type. -/
  | array (element : FieldType)

end

/-- The fields of a node, in the order in which they were given. -/
abbrev Fields := List (String × FieldType)

namespace Fields

/-- The fields with one more set.  A name that is there already keeps its position. -/
def put (name : String) (type : FieldType) : Fields → Fields
  | [] => [(name, type)]
  | (n, t) :: rest => if n = name then (n, type) :: rest else (n, t) :: put name type rest

/-- The fields that result from setting each of the given ones in turn. -/
def ofPairs (pairs : List (String × FieldType)) : Fields :=
  pairs.foldl (fun fields p => put p.1 p.2 fields) []

@[simp] theorem put_nil (name : String) (type : FieldType) :
    put name type [] = [(name, type)] := rfl

end Fields

namespace Node

/-- The title of a node. -/
def title : Node → Option String
  | object title _ => title
  | arrayRoot title _ => title

/-- The node under another title. -/
def withTitle (title : String) : Node → Node
  | object _ fields => object (some title) fields
  | arrayRoot _ item => arrayRoot (some title) item

/-- The fields of a node that has named ones. -/
def fields? : Node → Option Fields
  | object _ fields => some fields
  | arrayRoot _ _ => none

/-- The type of the items of a node that is an array. -/
def item? : Node → Option FieldType
  | object _ _ => none
  | arrayRoot _ item => some item

@[simp] theorem title_withTitle (t : String) (n : Node) : (n.withTitle t).title = some t := by
  cases n <;> rfl

@[simp] theorem fields?_withTitle (t : String) (n : Node) :
    (n.withTitle t).fields? = n.fields? := by
  cases n <;> rfl

@[simp] theorem item?_withTitle (t : String) (n : Node) : (n.withTitle t).item? = n.item? := by
  cases n <;> rfl

end Node

namespace FieldType

/-- Whether the type is of a primitive kind. -/
def isPrimitive : FieldType → Bool
  | primitive _ => true
  | _ => false

/-- Whether the type is a nested node. -/
def isObject : FieldType → Bool
  | object _ => true
  | _ => false

/-- Whether the type is an array. -/
def isArray : FieldType → Bool
  | array _ => true
  | _ => false

/-- The element type of an array. -/
def element? : FieldType → Option FieldType
  | array element => some element
  | _ => none

/-- The node that the type holds, through any arrays. -/
def nested? : FieldType → Option Node
  | primitive _ => none
  | object node => some node
  | array element => element.nested?

end FieldType

namespace Path

/-- The path of the root. -/
def root : String := "$"

/-- The path of a field of the node at `path`. -/
def field (path name : String) : String := path ++ "." ++ name

/-- The path of the elements of the array at `path`. -/
def element (path : String) : String := path ++ "[]"

end Path

end SchemaDecl
