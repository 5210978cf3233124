import SchemaDecl.Target.CFamily
import SchemaDecl.Target.Go
import SchemaDecl.Target.Java
import SchemaDecl.Target.Rust
import SchemaDecl.Target.Script

/-!
# Catalogues of targets

* `Catalogue`: targets in order of preference.
* `Catalogue.builtin`: the targets of this library.
* `Catalogue.byName?`, `Catalogue.byExtension?`, `Catalogue.forLanguage`: look-ups, in
  which the first of several candidates wins.
-/

namespace SchemaDecl

/-- Targets in order of preference. -/
abbrev Catalogue := List Target

namespace Catalogue

/-- The targets of this library. -/
def builtin : Catalogue := [.c, .cpp, .java, .go, .rust, .typescript, .javascript]

/-- The target of a name. -/
def byName? (targets : Catalogue) (name : String) : Option Target :=
  targets.find? fun target => target.name == name

/-- The target that writes files of an extension. -/
def byExtension? (targets : Catalogue) (extension : String) : Option Target :=
  targets.find? fun target => target.extension == extension

/-- All targets that write a language. -/
def forLanguage (targets : Catalogue) (language : String) : List Target :=
  targets.filter fun target => target.language == language

/-- The names of all targets. -/
def names (targets : Catalogue) : List String := targets.map (·.name)

end Catalogue

end SchemaDecl
