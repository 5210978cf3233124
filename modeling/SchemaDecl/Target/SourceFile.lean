import SchemaDecl.Feature
import SchemaDecl.Target.Token

/-!
# Source files before they are written

Once all names and types are spelled in a target language, what remains is to lay them
out.  A layout is a list of blocks of lines.

* `DeclaredField`, `Declaration`: a type as it is declared.
* `SourceFile`: all that a target has to lay out.
* `Block`, `Layout`, `Layout.text`: lines and blocks, and the text they make.
-/

namespace SchemaDecl

/-- A field of a declared type. -/
structure DeclaredField where
  /-- The name in the schema. -/
  name : String
  /-- The identifier in the target language. -/
  ident : String
  shape : Shape
  token : TypeToken
  deriving DecidableEq, Repr

/-- A type declaration whose fields have their tokens. -/
structure Declaration where
  /-- The identifier of the type in the target language. -/
  name : String
  fields : List DeclaredField
  deriving DecidableEq, Repr

/-- The contents of one output file. -/
structure SourceFile where
  /-- The types, each after those it refers to. -/
  declarations : List Declaration
  /-- The features of the whole schema. -/
  features : List Feature
  /-- The capacity constants of the fields. -/
  constants : List SizeConstant
  /-- Whether declarations carry the visibility modifier. -/
  isPublic : Bool
  /-- The name of the package, for languages that have packages. -/
  package : String
  deriving DecidableEq, Repr

/-- Whether the schema uses a feature. -/
def SourceFile.uses (file : SourceFile) (f : Feature) : Bool := file.features.contains f

/-- A block of lines, without their ends. -/
abbrev Block := List String

/-- The blocks of a file, from top to bottom. -/
abbrev Layout := List Block

/-- The text of a block: each line with its end. -/
def Block.text (lines : Block) : String := String.join (lines.map (· ++ "\n"))

/-- The text of a layout: its blocks with one blank line between two of them. -/
def Layout.text (blocks : Layout) : String := "\n".intercalate (blocks.map Block.text)

end SchemaDecl
