import SchemaDecl.Toml.Reader

/-!
# Settings

Defaults for the command line are kept in settings files.  The table `generate` of such a
file may set a target, whether declarations are public, and a package.  It may also be
written as an array of these, in this order.

A file counts as a whole or not at all: one that is no settings document, or that gives a
known key a value of another type, sets nothing.

* `Settings`: what can be set.
* `Settings.ofText?`: the settings of a file.
* `Settings.withFallback`: settings that win over others, key by key.
* `Settings.resolve`: the settings of a global and a project file.
-/

namespace SchemaDecl

/-- What a settings file can set. -/
structure Settings where
  /-- The name of the target to use when no other is asked for. -/
  backend : Option String := none
  /-- Whether declarations get the visibility modifier. -/
  isPublic : Option Bool := none
  /-- The package, for languages that have packages. -/
  package : Option String := none
  deriving DecidableEq, Repr

namespace Settings

/-- A text, or nothing if there is no value.  Any other value is refused. -/
def string? : Option Toml → Option (Option String)
  | none => some none
  | some (.string s) => some (some s)
  | some _ => none

/-- A truth value, or nothing if there is no value. -/
def boolean? : Option Toml → Option (Option Bool)
  | none => some none
  | some (.boolean b) => some (some b)
  | some _ => none

/-- The settings of three values. -/
def ofValues? (backend isPublic package : Option Toml) : Option Settings := do
  return { backend := ← string? backend, isPublic := ← boolean? isPublic,
           package := ← string? package }

/-- The settings under `generate`. -/
def ofGenerate? : Toml → Option Settings
  | .table _ entries =>
    ofValues? (entries.lookup "backend") (entries.lookup "public") (entries.lookup "package")
  | .array items => ofValues? items[0]? items[1]? items[2]?
  | .tables elements => ofValues? elements[0]? elements[1]? elements[2]?
  | _ => none

/-- The settings of a settings document. -/
def ofEntries? (entries : Entries) : Option Settings :=
  match entries.lookup "generate" with
  | none => some {}
  | some value => ofGenerate? value

/-- The settings of a file, if its text is in order. -/
def ofText? (text : String) : Option Settings := (Toml.ofText? text).bind ofEntries?

/-- Settings whose keys win over those of others. -/
def withFallback (first second : Settings) : Settings where
  backend := first.backend.or second.backend
  isPublic := first.isPublic.or second.isPublic
  package := first.package.or second.package

/-- The settings of a file that may be missing. -/
def ofFile (text : Option String) : Settings := (text.bind ofText?).getD {}

/-- The settings in force: those of the project win over the global ones. -/
def resolve (global project : Option String) : Settings :=
  (ofFile project).withFallback (ofFile global)

@[simp] theorem withFallback_empty (s : Settings) : s.withFallback {} = s := by
  cases s; simp [withFallback]

@[simp] theorem empty_withFallback (s : Settings) : withFallback {} s = s := by
  cases s; simp [withFallback]

end Settings

end SchemaDecl
