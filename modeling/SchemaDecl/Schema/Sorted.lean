import SchemaDecl.Schema.Basic

/-!
# Schema trees in order of field names

What is made of a schema must not depend on the order in which its fields were given.
So every walk over a tree is a walk over the same tree with the fields of each node in
ascending order of their names, which is the order of the code points.

* `Fields.insertSorted`: one field put in its place among ordered ones.
* `Node.sorted`, `FieldType.sorted`, `Fields.sorted`: the tree in order, at every depth.
-/

namespace SchemaDecl

/-- The ordered fields with one more, which stands before those of an equal name. -/
def Fields.insertSorted (name : String) (type : FieldType) : Fields → Fields
  | [] => [(name, type)]
  | (n, t) :: rest =>
    if n < name then (n, t) :: insertSorted name type rest else (name, type) :: (n, t) :: rest

mutual

/-- The node with all fields below it in order of their names. -/
def Node.sorted : Node → Node
  | .object title fields => .object title (Fields.sorted fields)
  | .arrayRoot title item => .arrayRoot title item.sorted
termination_by structural node => node

/-- The type with all fields below it in order of their names. -/
def FieldType.sorted : FieldType → FieldType
  | .primitive kind => .primitive kind
  | .object node => .object node.sorted
  | .array element => .array element.sorted
termination_by structural type => type

/-- The fields in order of their names, and likewise all fields below them. -/
def Fields.sorted : List (String × FieldType) → Fields
  | [] => []
  | (name, type) :: rest => Fields.insertSorted name type.sorted (Fields.sorted rest)
termination_by structural fields => fields

end

@[simp] theorem Node.title_sorted (n : Node) : n.sorted.title = n.title := by
  cases n <;> rfl

end SchemaDecl
