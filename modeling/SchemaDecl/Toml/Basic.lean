/-!
# Settings documents

A TOML document is a table of entries, built up statement by statement: a header opens a
table, and an assignment puts one value under a dotted key into the open table.  A table
keeps how it came to be, since that decides what may still be added to it.

* `Toml`, `TableOrigin`, `Entries`: values and tables.
* `Entries.alter`: a change of one entry.
* `Entries.within`: a change of the table at a path.
* `Entries.assign`: an assignment.
* `Entries.openTable`, `Entries.openElement`: the two kinds of headers.
-/

namespace SchemaDecl

/-- How a table came to be. -/
inductive TableOrigin
  /-- It was written as a value, and nothing can be added. -/
  | inline
  /-- It has a header of its own. -/
  | header
  /-- A header below it implies it.  It may still get one of its own. -/
  | implied
  /-- A dotted key implies it.  Other dotted keys may add to it. -/
  | dotted
  deriving DecidableEq, Repr

/-- A value of a settings document. -/
inductive Toml where
  | string (value : String)
  | boolean (value : Bool)
  | integer (value : Int)
  /-- A floating-point number, as written. -/
  | float (literal : String)
  /-- A date, a time or both, as written. -/
  | datetime (literal : String)
  | array (items : List Toml)
  | table (origin : TableOrigin) (entries : List (String × Toml))
  /-- An array of tables, each with a header of its own. -/
  | tables (elements : List Toml)

instance : Inhabited Toml := ⟨.boolean false⟩

/-- The entries of a table. -/
abbrev Entries := List (String × Toml)

namespace Entries

/-- Whether a table has an entry of a name. -/
def has (name : String) (entries : Entries) : Bool := (entries.lookup name).isSome

/-- Changes the entry of a name, or adds one. -/
def alter (name : String) (change : Option Toml → Option Toml) : Entries → Option Entries
  | [] => (change none).map fun value => [(name, value)]
  | (n, v) :: rest =>
    if n = name then (change (some v)).map fun value => (n, value) :: rest
    else (alter name change rest).map fun more => (n, v) :: more

/-- Changes the last table of an array of tables. -/
def alterLast (change : Entries → Option Entries) : List Toml → Option (List Toml)
  | [] => none
  | [.table origin entries] => (change entries).map fun entries => [.table origin entries]
  | element :: rest => (alterLast change rest).map fun more => element :: more

/-- Changes the table at a path of names.  A table that is missing is implied.  An array of
tables stands for its last one, and a value for none. -/
def within (change : Entries → Option Entries) : (path : List String) → Entries → Option Entries
  | [], entries => change entries
  | name :: path, entries =>
    entries.alter name fun
      | none => (within change path []).map (Toml.table .implied)
      | some (.table .inline _) => none
      | some (.table origin sub) => (within change path sub).map (Toml.table origin)
      | some (.tables elements) => (alterLast (within change path) elements).map Toml.tables
      | some _ => none

/-- Assigns a value to a dotted key.  Its tables must not have headers, except that a last
table of an array may stand on the way, and the value itself goes into the open table or
into one that is implied by dotted keys. -/
def assign (value : Toml) : (key : List String) → (accepts : Bool) → Entries → Option Entries
  | [], _, _ => none
  | [name], accepts, entries =>
    if accepts && !entries.has name then some (entries ++ [(name, value)]) else none
  | name :: next :: key, _, entries =>
    entries.alter name fun
      | none => (assign value (next :: key) true []).map (Toml.table .dotted)
      | some (.table .dotted sub) =>
        (assign value (next :: key) true sub).map (Toml.table .dotted)
      | some (.table .implied sub) =>
        (assign value (next :: key) false sub).map (Toml.table .implied)
      | some (.tables elements) =>
        (alterLast (assign value (next :: key) false) elements).map Toml.tables
      | some _ => none

/-- Gives a table its header, unless it has one already or is implied by dotted keys. -/
def openTable (name : String) (entries : Entries) : Option Entries :=
  entries.alter name fun
    | none => some (.table .header [])
    | some (.table .implied sub) => some (.table .header sub)
    | some _ => none

/-- Adds an empty table to an array of tables. -/
def openElement (name : String) (entries : Entries) : Option Entries :=
  entries.alter name fun
    | none => some (.tables [.table .header []])
    | some (.tables elements) => some (.tables (elements ++ [.table .header []]))
    | some _ => none

end Entries

end SchemaDecl
