/-!
# JSON documents

A document keeps what is written: members of objects stand in their order, and one name
may occur in several of them.  The type of its strings is a parameter, since a reader
may keep more or less of them than their characters.

* `Json`: documents.
* `Json.sorted`: the document with the members of each object in ascending order of
  their names, where the last of several members of one name stays.
-/

namespace SchemaDecl

/-- A JSON document with strings of type `σ`. -/
inductive Json (σ : Type) where
  | null
  | bool (value : Bool)
  /-- A number, by its digits as written. -/
  | number (literal : String)
  | string (value : σ)
  | array (items : List (Json σ))
  | object (members : List (σ × Json σ))

namespace Json

instance {σ : Type} : Inhabited (Json σ) := ⟨.null⟩

/-- Ordered members with one more, unless its name is there already. -/
def insertMember (name : String) (value : Json String) :
    List (String × Json String) → List (String × Json String)
  | [] => [(name, value)]
  | (n, v) :: rest =>
    if n = name then (n, v) :: rest
    else if n < name then (n, v) :: insertMember name value rest
    else (name, value) :: (n, v) :: rest

mutual

/-- The document with ordered and distinct members, at every depth. -/
def sorted : Json String → Json String
  | .null => .null
  | .bool value => .bool value
  | .number literal => .number literal
  | .string value => .string value
  | .array items => .array (sortedItems items)
  | .object members => .object (sortedMembers members)
termination_by structural json => json

/-- Each of the documents with ordered and distinct members. -/
def sortedItems : List (Json String) → List (Json String)
  | [] => []
  | item :: rest => item.sorted :: sortedItems rest
termination_by structural items => items

/-- The members in order.  Of several members of one name the last one stays. -/
def sortedMembers : List (String × Json String) → List (String × Json String)
  | [] => []
  | (name, value) :: rest => insertMember name value.sorted (sortedMembers rest)
termination_by structural members => members

end

end Json

end SchemaDecl
