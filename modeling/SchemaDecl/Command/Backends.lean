import SchemaDecl.Json.Printer
import SchemaDecl.Target.Catalogue

/-!
# The command `backends`

A list of the targets, for readers in columns, for programs in JSON.

* `padded`: a text filled up to a width.
* `Target.summary`, `Target.summaryJson`: one target in either form.
* `backendsText`: the whole list.
-/

namespace SchemaDecl

namespace Command

/-- A text with spaces behind it, up to a width. -/
def padded (width : Nat) (s : String) : String :=
  s ++ String.ofList (List.replicate (width - s.length) ' ')

end Command

open Command

/-- A target in one line of columns. -/
def Target.summary (target : Target) : String :=
  padded 12 target.name ++ " " ++ padded 12 target.language ++ " ." ++ padded 5 target.extension
    ++ " " ++ (if target.hasVisibility then "visibility" else "-") ++ "\n"

/-- A target as a document. -/
def Target.summaryJson (target : Target) : Json String :=
  .object [("name", .string target.name), ("language", .string target.language),
    ("extension", .string target.extension), ("visibility", .bool target.hasVisibility)]

namespace Command

/-- The list of targets. -/
def backendsText (json : Bool) : String :=
  if json then (Json.array (Catalogue.builtin.map Target.summaryJson)).pretty ++ "\n"
  else String.join (Catalogue.builtin.map Target.summary)

end Command

end SchemaDecl
