import SchemaDecl.Target.Basic
import SchemaDecl.Text.Words

/-!
# Rust

Structs with derived readers and writers.  Identifiers follow the language's
conventions, with care for names that are empty, keywords, or begin with a digit; an
attribute on each field keeps the name it has in documents.

* `Rust.fieldIdent`, `Rust.typeIdent`: the identifiers.
* `Target.rust`.
-/

namespace SchemaDecl

namespace Rust

/-- The keywords that can be written as raw identifiers. -/
def keywords : List String :=
  ["abstract", "as", "async", "await", "become", "box", "break", "const", "continue", "do", "dyn",
   "else", "enum", "extern", "false", "final", "fn", "for", "gen", "if", "impl", "in", "let",
   "loop", "macro", "match", "mod", "move", "mut", "override", "priv", "pub", "ref", "return",
   "static", "struct", "trait", "true", "try", "type", "typeof", "unsafe", "unsized", "use",
   "virtual", "where", "while", "yield"]

/-- The keywords that cannot. -/
def pathKeywords : List String := ["self", "Self", "super", "crate"]

/-- Whether a text begins with an ASCII digit. -/
def startsWithDigit (s : String) : Bool :=
  match s.toList with
  | [] => false
  | c :: _ => c.isDigit

/-- The identifier of a field: its name in snake case, made usable. -/
def fieldIdent (name : String) : String :=
  let ident := Text.snakeCase name
  if ident = "" then "field"
  else if ident ∈ pathKeywords then ident ++ "_"
  else if ident ∈ keywords then "r#" ++ ident
  else if startsWithDigit ident then "_" ++ ident
  else ident

/-- The identifier of a type: its name in upper camel case, made usable. -/
def typeIdent (name : String) : String :=
  let ident := Text.upperCamelCase name
  if ident = "" then "Unnamed"
  else if ident = "Self" then "Self_"
  else if startsWithDigit ident then "_" ++ ident
  else ident

/-- The modifier of a declaration. -/
def visibility (file : SourceFile) : String := if file.isPublic then "pub " else ""

/-- A member of a struct, under the attribute that keeps its name. -/
def member (modifier : String) (field : DeclaredField) : Block :=
  ["    #[serde(rename = \"" ++ field.name ++ "\")]",
   "    " ++ modifier ++ field.ident ++ ": " ++ field.token.type ++ ","]

/-- A struct. -/
def struct (modifier : String) (decl : Declaration) : Block :=
  ["#[derive(Debug, Serialize, Deserialize)]", modifier ++ "struct " ++ decl.name ++ " \x7b"] ++
    decl.fields.flatMap (member modifier) ++ ["\x7d"]

end Rust

/-- Rust structs. -/
def Target.rust : Target where
  name := "rust"
  language := "rust"
  extension := "rs"
  hasVisibility := true
  primitive
    | .string => "String"
    | .integer => "i64"
    | .number => "f64"
    | .decimal => "f32"
    | .boolean => "bool"
  typeIdent _ name := Rust.typeIdent name
  fieldIdent _ name := Rust.fieldIdent name
  array := growingArray fun element => "Vec<" ++ element ++ ">"
  layout file :=
    ["use serde::\x7bDeserialize, Serialize\x7d;"] ::
      file.declarations.map (Rust.struct (Rust.visibility file))

end SchemaDecl
