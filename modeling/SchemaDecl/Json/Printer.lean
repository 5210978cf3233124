import SchemaDecl.Json.Basic
import SchemaDecl.Json.Spelling

/-!
# Writing JSON text

* `Json.compact`: a document without any layout.
* `Json.pretty`: one item or member in each line, indented by two spaces for each
  bracket around it.
-/

namespace SchemaDecl.Json

/-! ### Without layout -/

mutual

/-- The characters of a document without layout. -/
def compactChars : Json String → List Char
  | .null => ['n', 'u', 'l', 'l']
  | .bool true => ['t', 'r', 'u', 'e']
  | .bool false => ['f', 'a', 'l', 's', 'e']
  | .number literal => literal.toList
  | .string value => spellChars value.toList
  | .array items => '[' :: compactItems items ++ [']']
  | .object members => '\x7b' :: compactMembers members ++ ['\x7d']
termination_by structural json => json

/-- Items with a comma between two of them. -/
def compactItems : List (Json String) → List Char
  | [] => []
  | [item] => compactChars item
  | item :: rest => compactChars item ++ ',' :: compactItems rest
termination_by structural items => items

/-- Members with a comma between two of them. -/
def compactMembers : List (String × Json String) → List Char
  | [] => []
  | [(name, value)] => spellChars name.toList ++ ':' :: compactChars value
  | (name, value) :: rest =>
    spellChars name.toList ++ ':' :: compactChars value ++ ',' :: compactMembers rest
termination_by structural members => members

end

/-- The text of a document without layout. -/
def compact (json : Json String) : String := String.ofList json.compactChars

/-! ### With one part in each line -/

/-- The end of a line and the indentation of the next one. -/
def newLine (depth : Nat) : List Char := '\n' :: List.replicate (2 * depth) ' '

mutual

/-- The characters of a document inside `depth` brackets. -/
def prettyChars (depth : Nat) : Json String → List Char
  | .null => ['n', 'u', 'l', 'l']
  | .bool true => ['t', 'r', 'u', 'e']
  | .bool false => ['f', 'a', 'l', 's', 'e']
  | .number literal => literal.toList
  | .string value => spellChars value.toList
  | .array [] => ['[', ']']
  | .array (item :: rest) =>
    '[' :: newLine (depth + 1) ++ prettyChars (depth + 1) item ++ prettyItems (depth + 1) rest
      ++ newLine depth ++ [']']
  | .object [] => ['\x7b', '\x7d']
  | .object ((name, value) :: rest) =>
    '\x7b' :: newLine (depth + 1) ++ spellChars name.toList ++ ':' :: ' ' ::
      prettyChars (depth + 1) value ++ prettyMembers (depth + 1) rest ++ newLine depth ++ ['\x7d']
termination_by structural json => json

/-- The items after the first one. -/
def prettyItems (depth : Nat) : List (Json String) → List Char
  | [] => []
  | item :: rest => ',' :: newLine depth ++ prettyChars depth item ++ prettyItems depth rest
termination_by structural items => items

/-- The members after the first one. -/
def prettyMembers (depth : Nat) : List (String × Json String) → List Char
  | [] => []
  | (name, value) :: rest =>
    ',' :: newLine depth ++ spellChars name.toList ++ ':' :: ' ' :: prettyChars depth value
      ++ prettyMembers depth rest
termination_by structural members => members

end

/-- The text of a document with one part in each line. -/
def pretty (json : Json String) : String := String.ofList (json.prettyChars 0)

end SchemaDecl.Json
