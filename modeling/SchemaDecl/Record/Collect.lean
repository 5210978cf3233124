import SchemaDecl.Record.Registry
import SchemaDecl.Schema.Basic
import SchemaDecl.Schema.Sorted
import SchemaDecl.Text.Words

/-!
# Collecting the records of a schema

The walk over a schema declares every node after the nodes it holds, so that a type
stands before its uses.  It visits fields in the order of their names.

## Main definitions

* `typeName`: the name under which a title is declared.
* `nodeName`: the name of a node, from its title or from the field that owns it.
* `Node.declare`, `FieldType.resolve`, `Fields.resolve`: the walk, which carries the
  registry along.
* `collectRecords`: all records of a schema.
-/

namespace SchemaDecl

/-- The field of the record of a node that is an array. -/
def itemsField : String := "items"

/-- The name under which a title is declared: its first word. -/
def typeName (title path : String) : Except CompileError String :=
  match Text.firstWord? title with
  | some name => .ok name
  | none => .error (.naming path)

/-- What a node is named after: its title unless that is blank, else the field that owns
the node, if any. -/
def nameSource (title owner : Option String) : String :=
  ((title.filter fun t => !Text.isBlankText t).or owner).getD ""

/-- The type name of the node at `path`. -/
def nodeName (title owner : Option String) (path : String) : Except CompileError String :=
  typeName (nameSource title owner) path

mutual

/-- Declares a node, after the nodes it holds, and gives its type name. -/
def Node.declare (owner : Option String) (path : String) (reg : Registry) :
    Node → Except CompileError (String × Registry)
  | .object title fields => do
    let name ← nodeName title owner path
    let (fields, reg) ← Fields.resolve path reg fields
    let (_, reg) ← reg.register ⟨name, fields⟩ path
    return (name, reg)
  | .arrayRoot title item => do
    let name ← nodeName title owner path
    let (element, reg) ← item.resolve itemsField (Path.element path) reg
    let (_, reg) ← reg.register ⟨name, [⟨itemsField, .array element⟩]⟩ path
    return (name, reg)
termination_by structural node => node

/-- The shape of a type, after the declaration of the node it holds.  The node may be
named after `field`. -/
def FieldType.resolve (field path : String) (reg : Registry) :
    FieldType → Except CompileError (Shape × Registry)
  | .primitive kind => return (.primitive kind, reg)
  | .object node => do
    let (name, reg) ← node.declare (some field) path reg
    return (.object name, reg)
  | .array element => do
    let (shape, reg) ← element.resolve field (Path.element path) reg
    return (.array shape, reg)
termination_by structural type => type

/-- The fields of a record, one after the other. -/
def Fields.resolve (path : String) (reg : Registry) :
    List (String × FieldType) → Except CompileError (List RecordField × Registry)
  | [] => return ([], reg)
  | (name, type) :: rest => do
    let (shape, reg) ← type.resolve name (Path.field path name) reg
    let (fields, reg) ← Fields.resolve path reg rest
    return (⟨name, shape⟩ :: fields, reg)
termination_by structural fields => fields

end

/-- The records of a schema, each after those it refers to. -/
def collectRecords (root : Node) : Except CompileError (List Record) :=
  (root.sorted.declare none Path.root .empty).map fun result => result.2.records

end SchemaDecl
