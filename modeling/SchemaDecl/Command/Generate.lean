import SchemaDecl.Command.Disk
import SchemaDecl.Command.Invocation
import SchemaDecl.Compile
import SchemaDecl.Schema.Document
import SchemaDecl.Settings
import SchemaDecl.Target.Catalogue

/-!
# The command `generate`

The command selects a target, reads a schema, compiles it, and delivers the code to a
file or to the standard output.  The first stage that fails decides the error.

## Main definitions

* `GenerateError`, `GenerateError.message`: why no code was delivered.
* `selectTarget`: the target, from the arguments, the output's extension, or the settings.
* `readSchema`: the schema, with the title that the arguments give to an untitled one.
* `options`: the options in force.
* `Delivery`: code and where it goes.
* `generate`: all stages but the delivery.
-/

namespace SchemaDecl.Command

/-- Why no code was delivered. -/
inductive GenerateError
  | unknownTarget (name : String)
  | noTarget
  /-- The schema cannot be read from a file, or from the standard input. -/
  | reading (path : Option String) (cause : FileError)
  | parsing (cause : SchemaError)
  | compiling (target : String) (cause : CompileError)
  | writing (path : String) (cause : FileError)
  deriving DecidableEq, Repr

/-- The targets that a message offers. -/
def availableTargets : String := ", ".intercalate Catalogue.builtin.names

/-- The text of a cause.  A fault of the text of a document is named as such and then
again by itself. -/
def schemaCauses : SchemaError → String
  | .json fault => (SchemaError.json fault).message ++ ": " ++ fault.message
  | cause => cause.message

/-- The text of an error. -/
def GenerateError.message : GenerateError → String
  | unknownTarget name => "unknown backend: " ++ name ++ " (available: " ++ availableTargets ++ ")"
  | noTarget =>
    "no backend selected; pass --lang or set generate.backend (available: " ++ availableTargets
      ++ ")"
  | reading none cause => "failed to read stdin: " ++ cause.message
  | reading (some path) cause => "failed to read " ++ path ++ ": " ++ cause.message
  | parsing cause => "failed to parse JSON schema: " ++ schemaCauses cause
  | compiling target cause => "failed to compile schema for " ++ target ++ ": " ++ cause.message
  | writing path cause => "failed to write " ++ path ++ ": " ++ cause.message

/-- The target of a name that was asked for. -/
def namedTarget (name : String) : Except GenerateError Target :=
  match Catalogue.builtin.byName? name with
  | some target => .ok target
  | none => .error (.unknownTarget name)

/-- The target that writes files like the one at a path. -/
def targetOfPath? (path : String) : Option Target :=
  (fileExtension? path).bind Catalogue.builtin.byExtension?

/-- The target of a call: the one named in the arguments, else the one of the output's
extension if it is known, else the one named in the settings. -/
def selectTarget (args : GenerateArgs) (settings : Settings) : Except GenerateError Target :=
  match args.lang with
  | some name => namedTarget name
  | none =>
    match args.output.bind targetOfPath? with
    | some target => .ok target
    | none =>
      match settings.backend with
      | some name => namedTarget name
      | none => .error .noTarget

/-- The path of the schema, or nothing for the standard input. -/
def GenerateArgs.schemaPath? (args : GenerateArgs) : Option String :=
  if args.schema = "-" then none else some args.schema

/-- A schema under a given title, if it has none. -/
def withDefaultTitle (name : Option String) (root : Node) : Node :=
  match name, root.title with
  | some name, none => root.withTitle name
  | _, _ => root

/-- The schema of a call, given what was read for it. -/
def readSchema (args : GenerateArgs) (input : Except FileError ByteArray) :
    Except GenerateError Node := do
  let bytes ← input.mapError (.reading args.schemaPath?)
  let text ← (textOf bytes).mapError (.reading args.schemaPath?)
  let root ← (Node.ofText text).mapError .parsing
  return withDefaultTitle args.name root

/-- The options of a call. -/
def options (args : GenerateArgs) (settings : Settings) : Options where
  isPublic := args.isPublic || settings.isPublic.getD false
  package := (args.package.or settings.package).getD ({} : Options).package

/-- Code and where it goes. -/
structure Delivery where
  code : String
  /-- The path of the output file, or nothing for the standard output. -/
  path : Option String
  deriving DecidableEq, Repr

/-- What a call delivers, given what was read for its schema. -/
def generate (args : GenerateArgs) (settings : Settings) (input : Except FileError ByteArray) :
    Except GenerateError Delivery := do
  let target ← selectTarget args settings
  let root ← readSchema args input
  let code ← (target.compile (options args settings) root).mapError (.compiling target.name)
  return ⟨code, args.output⟩

end SchemaDecl.Command
