import SchemaDecl.Record.Basic
import SchemaDecl.Text.Case

/-!
# Type tokens and capacity constants

A target spells the type of a field as a token.  A target without growing arrays gives
an array field a capacity, which is a named constant of the output file.

* `TypeToken`: the spelling of a field's type.
* `Site`: the field whose type is being spelled.
* `capacityName`, `defaultCapacity`: the constant of a field.
* `SizeConstant`, `MapContext`: the constants allocated so far, in order of their names.
* `MapContext.allocate`: the constant of one more field.
-/

namespace SchemaDecl

/-- The spelling of a field's type in a target language. -/
structure TypeToken where
  /-- The type as written beside the field's name. -/
  type : String
  /-- The constant that names the capacity of a fixed-size array. -/
  capacity : Option String
  deriving DecidableEq, Repr

/-- The token of a type without a capacity. -/
def TypeToken.plain (type : String) : TypeToken := ⟨type, none⟩

/-- A field of a record, by the names of both. -/
structure Site where
  owner : String
  field : String
  deriving DecidableEq, Repr

/-- A named constant of an output file. -/
structure SizeConstant where
  name : String
  value : Nat
  deriving DecidableEq, Repr

/-- The capacity of every fixed-size array. -/
def defaultCapacity : Nat := 50

/-- The name of the capacity constant of a field.  Names that differ in case only share
one, which is harmless since all capacities are equal. -/
def capacityName (owner field : String) : String :=
  Text.uppercaseText owner ++ "_" ++ Text.uppercaseText field ++ "_SIZE"

/-- What the spelling of one file's fields has to know and to remember. -/
structure MapContext where
  /-- Whether declarations carry the target's visibility modifier. -/
  isPublic : Bool
  /-- The constants allocated so far, in ascending order of their names. -/
  constants : List SizeConstant
  deriving DecidableEq, Repr

/-- The constants with one more in its place.  A name that is there already keeps its
value. -/
def SizeConstant.insert (c : SizeConstant) : List SizeConstant → List SizeConstant
  | [] => [c]
  | d :: rest =>
    if d.name = c.name then d :: rest
    else if d.name < c.name then d :: insert c rest
    else c :: d :: rest

namespace MapContext

/-- The context at the beginning of a file. -/
def start (isPublic : Bool) : MapContext := ⟨isPublic, []⟩

/-- Allocates the capacity constant of a field and gives its name.  A second allocation
of the same name changes nothing. -/
def allocate (ctx : MapContext) (site : Site) : String × MapContext :=
  let name := capacityName site.owner site.field
  (name, { ctx with constants := SizeConstant.insert ⟨name, defaultCapacity⟩ ctx.constants })

@[simp] theorem constants_start (isPublic : Bool) : (start isPublic).constants = [] := rfl

@[simp] theorem isPublic_allocate (ctx : MapContext) (site : Site) :
    (ctx.allocate site).2.isPublic = ctx.isPublic := rfl

end MapContext

end SchemaDecl
