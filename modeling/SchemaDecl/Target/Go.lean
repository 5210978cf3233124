import SchemaDecl.Target.Basic
import SchemaDecl.Text.Words

/-!
# Go

Structs in a package.  A name is visible outside its package if it begins with an
upper-case letter, so making a type public respells its name and those of its fields.  A
tag beside each field keeps the name it has in documents.

* `Target.go`.
-/

namespace SchemaDecl

namespace Go

/-- The tag that keeps the name of a field. -/
def tag (name : String) : String := "`json:\"" ++ name ++ "\"`"

/-- A member of a struct. -/
def member (field : DeclaredField) : String :=
  "\t" ++ field.ident ++ " " ++ field.token.type ++ " " ++ tag field.name

/-- A struct. -/
def struct (decl : Declaration) : Block :=
  ["type " ++ decl.name ++ " struct \x7b"] ++ decl.fields.map member ++ ["\x7d"]

end Go

/-- Go structs. -/
def Target.go : Target where
  name := "go"
  language := "go"
  extension := "go"
  hasVisibility := true
  primitive
    | .string => "string"
    | .integer => "int64"
    | .number => "float64"
    | .decimal => "float32"
    | .boolean => "bool"
  typeIdent isPublic name := if isPublic then Text.capitalize name else name
  fieldIdent isPublic name := if isPublic then Text.upperCamelCase name else name
  array := growingArray fun element => "[]" ++ element
  layout file := ["package " ++ file.package] :: file.declarations.map Go.struct

end SchemaDecl
