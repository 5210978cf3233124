import SchemaDecl.Target.Basic

/-!
# C and C++

Both declare structs whose members keep the names of the schema.  C has neither strings
nor growing arrays of its own: a string is a pointer, and an array member has a capacity
given by a constant, so that arrays of arrays cannot be written.

* `Target.c`: a header of structs with all of them named in advance.
* `Target.cpp`: a header of structs over the standard containers.
-/

namespace SchemaDecl

/-- The array of a language without growing arrays: the element type beside a capacity.
A field has one capacity, so its elements cannot be arrays again. -/
def fixedArray (target : String) (site : Site) (element : Shape) (inner : TypeToken)
    (ctx : MapContext) : Mapped :=
  if element.isArray || inner.capacity.isSome then
    .error (.unsupportedKind target (.array element) site.field site.owner) ctx
  else
    .ok ⟨inner.type, some (ctx.allocate site).1⟩ (ctx.allocate site).2

namespace CFamily

/-- The headers of a C file.  Truth values need one of their own. -/
def cIncludes (file : SourceFile) : Block :=
  ["#include <stdio.h>", "#include <stdlib.h>"] ++
    if file.uses .boolean then ["#include <stdbool.h>"] else []

/-- The definition of a capacity constant. -/
def define (c : SizeConstant) : String := "#define " ++ c.name ++ " " ++ toString c.value

/-- The naming of a struct in advance. -/
def typedef (decl : Declaration) : String :=
  "typedef struct " ++ decl.name ++ " " ++ decl.name ++ ";"

/-- A member of a C struct. -/
def cMember (field : DeclaredField) : String :=
  match field.token.capacity with
  | some capacity => "    " ++ field.token.type ++ " " ++ field.name ++ "[" ++ capacity ++ "];"
  | none => "    " ++ field.token.type ++ " " ++ field.name ++ ";"

/-- A member of a C++ struct. -/
def cppMember (field : DeclaredField) : String :=
  "    " ++ field.token.type ++ " " ++ field.name ++ ";"

/-- A struct with the given spelling of its members. -/
def struct (member : DeclaredField → String) (decl : Declaration) : Block :=
  ["struct " ++ decl.name ++ " \x7b"] ++ decl.fields.map member ++ ["\x7d;"]

/-- The headers of a C++ file: those of the containers in use. -/
def cppIncludes (file : SourceFile) : Block :=
  (if file.uses .string then ["#include <string>"] else []) ++
    if file.uses .array then ["#include <vector>"] else []

end CFamily

open CFamily

/-- A list of lines as a block, or no block if there are none. -/
def Block.ifAny (lines : Block) : Layout := if lines.isEmpty then [] else [lines]

/-- C structs. -/
def Target.c : Target where
  name := "c"
  language := "c"
  extension := "h"
  primitive
    | .string => "char*"
    | .integer => "int"
    | .number => "double"
    | .decimal => "float"
    | .boolean => "bool"
  array := fixedArray "c"
  layout file :=
    [cIncludes file] ++ Block.ifAny (file.constants.map define) ++
      Block.ifAny (file.declarations.map typedef) ++ file.declarations.map (struct cMember)

/-- C++ structs.  Members of structs are public, so there is no modifier to add. -/
def Target.cpp : Target where
  name := "cpp"
  language := "cpp"
  extension := "hpp"
  primitive
    | .string => "std::string"
    | .integer => "int"
    | .number => "double"
    | .decimal => "float"
    | .boolean => "bool"
  array := growingArray fun element => "std::vector<" ++ element ++ ">"
  layout file := Block.ifAny (cppIncludes file) ++ file.declarations.map (struct cppMember)

end SchemaDecl
