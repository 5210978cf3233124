import SchemaDecl.Target.Basic

/-!
# Java

Classes with one field for each field of the schema.  Lists hold objects only, so their
elements are of the boxed kinds.

* `Target.java`.
-/

namespace SchemaDecl

namespace Java

/-- The modifier of a declaration. -/
def visibility (file : SourceFile) : String := if file.isPublic then "public " else ""

/-- A class. -/
def classDecl (modifier : String) (decl : Declaration) : Block :=
  [modifier ++ "class " ++ decl.name ++ " \x7b"] ++
    decl.fields.map (fun field =>
      "    " ++ modifier ++ field.token.type ++ " " ++ field.name ++ ";") ++
    ["\x7d"]

end Java

/-- Java classes. -/
def Target.java : Target where
  name := "java"
  language := "java"
  extension := "java"
  hasVisibility := true
  primitive
    | .string => "String"
    | .integer => "int"
    | .number => "double"
    | .decimal => "float"
    | .boolean => "boolean"
  elementPrimitive
    | .string => "String"
    | .integer => "Integer"
    | .number => "Double"
    | .decimal => "Float"
    | .boolean => "Boolean"
  array := growingArray fun element => "List<" ++ element ++ ">"
  layout file :=
    (if file.uses .array then [["import java.util.List;"]] else []) ++
      file.declarations.map (Java.classDecl (Java.visibility file))

end SchemaDecl
