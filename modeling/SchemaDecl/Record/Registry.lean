import SchemaDecl.CompileError

/-!
# The registry of declared names

While the records of a schema are collected, the registry keeps those declared so far,
in the order of their declaration, with the path at which each was first met.  A name
may be declared again only with the same fields, in the same order.

* `Registry`, `Registry.empty`, `Registry.records`.
* `Registry.find?`, `Registry.contains`, `Registry.size`: look-ups.
* `Registry.register`: one declaration.
-/

namespace SchemaDecl

/-- A declared record and the path at which it was first met. -/
structure Declared where
  record : Record
  path : String
  deriving DecidableEq, Repr

/-- The records declared so far, in the order of their declaration. -/
structure Registry where
  declared : List Declared
  deriving DecidableEq, Repr

/-- What a successful registration found. -/
inductive Registration
  /-- The name had not been declared. -/
  | new
  /-- The name had been declared with the same fields. -/
  | alreadyDeclared
  deriving DecidableEq, Repr

namespace Registry

/-- The registry without any declaration. -/
def empty : Registry := ⟨[]⟩

/-- The declared records, in order. -/
def records (reg : Registry) : List Record := reg.declared.map (·.record)

/-- The declaration of a name. -/
def find? (reg : Registry) (name : String) : Option Declared :=
  reg.declared.find? fun d => d.record.name == name

/-- Whether a name is declared. -/
def contains (reg : Registry) (name : String) : Bool := (reg.find? name).isSome

/-- The number of declared names. -/
def size (reg : Registry) : Nat := reg.declared.length

/-- The registry with one more declaration at its end. -/
def push (reg : Registry) (record : Record) (path : String) : Registry :=
  ⟨reg.declared ++ [⟨record, path⟩]⟩

/-- Declares a record, or confirms that it matches the declaration of its name. -/
def register (reg : Registry) (record : Record) (path : String) :
    Except CompileError (Registration × Registry) :=
  match reg.find? record.name with
  | none => .ok (.new, reg.push record path)
  | some first =>
    if first.record.fields = record.fields then .ok (.alreadyDeclared, reg)
    else .error (.nameCollision record.name path first.path)

@[simp] theorem records_empty : empty.records = [] := rfl

@[simp] theorem records_push (reg : Registry) (record : Record) (path : String) :
    (reg.push record path).records = reg.records ++ [record] := by
  simp [records, push]

end Registry

end SchemaDecl
