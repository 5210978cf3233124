import SchemaDecl.Target.Basic
import SchemaDecl.Text.Quoted

/-!
# TypeScript and JavaScript

The two share their types, since the comments of the one are the annotations of the
other, and the rule for names: a field whose name is no ASCII identifier is written
with its name between quotes.

* `Script.isIdentifier`, `Script.propertyKey`, `Script.memberOfThis`: names of fields.
* `Target.typescript`: an interface for each type.
* `Target.javascript`: a class for each type, whose constructor sets default values.
-/

namespace SchemaDecl

namespace Script

/-- Whether a character can begin a bare name. -/
def isIdentStart (c : Char) : Bool := c.isAlpha || c == '_' || c == '$'

/-- Whether a character can stand in a bare name. -/
def isIdentChar (c : Char) : Bool := c.isAlphanum || c == '_' || c == '$'

/-- Whether a name can be written without quotes. -/
def isIdentifier (name : String) : Bool :=
  match name.toList with
  | [] => false
  | c :: rest => isIdentStart c && rest.all isIdentChar

/-- The key of a property. -/
def propertyKey (name : String) : String :=
  if isIdentifier name then name else Text.quoted name

/-- The expression for a property of the object under construction. -/
def memberOfThis (name : String) : String :=
  if isIdentifier name then "this." ++ name else "this[" ++ Text.quoted name ++ "]"

/-- The types of primitive kinds. -/
def primitive : Primitive → String
  | .string => "string"
  | .integer => "number"
  | .number => "number"
  | .decimal => "number"
  | .boolean => "boolean"

/-- The modifier of a declaration. -/
def visibility (file : SourceFile) : String := if file.isPublic then "export " else ""

/-- The value a field begins with. -/
def defaultValue (field : DeclaredField) : String :=
  match field.shape with
  | .primitive .string => "''"
  | .primitive .integer => "0"
  | .primitive .number => "0"
  | .primitive .decimal => "0"
  | .primitive .boolean => "false"
  | .array _ => "[]"
  | .object _ => "new " ++ field.token.type ++ "()"

/-- An interface. -/
def interface (modifier : String) (decl : Declaration) : Block :=
  [modifier ++ "interface " ++ decl.name ++ " \x7b"] ++
    decl.fields.map (fun field => "  " ++ propertyKey field.name ++ ": " ++ field.token.type ++ ";")
    ++ ["\x7d"]

/-- The statement that sets a field to its default value. -/
def assignment (field : DeclaredField) : String :=
  "    " ++ memberOfThis field.name ++ " = " ++ defaultValue field ++ "; // " ++ field.token.type

/-- A class. -/
def classDecl (modifier : String) (decl : Declaration) : Block :=
  [modifier ++ "class " ++ decl.name ++ " \x7b", "  constructor() \x7b"] ++
    decl.fields.map assignment ++ ["  \x7d", "\x7d"]

end Script

/-- TypeScript interfaces. -/
def Target.typescript : Target where
  name := "typescript"
  language := "typescript"
  extension := "ts"
  hasVisibility := true
  primitive := Script.primitive
  array := growingArray fun element => element ++ "[]"
  layout file := file.declarations.map (Script.interface (Script.visibility file))

/-- JavaScript classes. -/
def Target.javascript : Target where
  name := "javascript"
  language := "javascript"
  extension := "js"
  hasVisibility := true
  primitive := Script.primitive
  array := growingArray fun element => element ++ "[]"
  layout file := file.declarations.map (Script.classDecl (Script.visibility file))

end SchemaDecl
