import SchemaDecl.Record.Collect
import SchemaDecl.Target.Basic

/-!
# Compiling a schema for a target

The records of a schema are spelled in the target language, one after the other.  No two
types may share an identifier, nor two fields of one type.

## Main definitions

* `Options`: what a caller chooses.
* `Claims`: the identifiers of one scope with the names they stand for.
* `Target.claimTypes`: the check of the type names.
* `Target.declareFields`, `Target.declare`, `Target.declareAll`: the declarations.
* `Target.assemble`: the contents of the output file.
* `Target.compile`: its text.
-/

namespace SchemaDecl

/-- What a caller chooses for one output file. -/
structure Options where
  /-- Whether declarations get the visibility modifier, if the language has one. -/
  isPublic : Bool := false
  /-- The package, for languages that have packages. -/
  package : String := "main"
  deriving DecidableEq, Repr

/-- The identifiers taken so far in one scope, each with the name that took it first. -/
abbrev Claims := List (String × String)

namespace Target

/-- Takes an identifier for a name.  A second name of the same spelling is refused. -/
def claim (target : Target) (scope : IdentScope) (claims : Claims) (ident name : String) :
    Except CompileError Claims :=
  match claims.lookup ident with
  | none => .ok ((ident, name) :: claims)
  | some first =>
    if first = name then .ok claims
    else .error (.identifierClash target.name ident first name scope)

/-- Takes the identifiers of all types, in order. -/
def claimTypes (target : Target) (isPublic : Bool) :
    List Record → Claims → Except CompileError Claims
  | [], claims => .ok claims
  | record :: rest, claims => do
    let claims ← target.claim .typeNames claims (target.typeIdent isPublic record.name) record.name
    target.claimTypes isPublic rest claims

/-- Declares the fields of the record `owner`, in order: the identifier of each is taken
before its type is spelled. -/
def declareFields (target : Target) (owner : String) :
    List RecordField → Claims → MapContext → Except CompileError (List DeclaredField × MapContext)
  | [], _, ctx => .ok ([], ctx)
  | field :: rest, claims, ctx => do
    let ident := target.fieldIdent ctx.isPublic field.name
    let claims ← target.claim (.fieldsOf owner) claims ident field.name
    let (token, ctx) ← (target.mapField owner field ctx).toExcept
    let (fields, ctx) ← target.declareFields owner rest claims ctx
    return (⟨field.name, ident, field.shape, token⟩ :: fields, ctx)

/-- Declares a record. -/
def declare (target : Target) (record : Record) (ctx : MapContext) :
    Except CompileError (Declaration × MapContext) := do
  let (fields, after) ← target.declareFields record.name record.fields [] ctx
  return (⟨target.typeIdent ctx.isPublic record.name, fields⟩, after)

/-- Declares all records, in order. -/
def declareAll (target : Target) :
    List Record → MapContext → Except CompileError (List Declaration × MapContext)
  | [], ctx => .ok ([], ctx)
  | record :: rest, ctx => do
    let (decl, ctx) ← target.declare record ctx
    let (decls, ctx) ← target.declareAll rest ctx
    return (decl :: decls, ctx)

/-- Whether the visibility modifier applies. -/
def showsPublic (target : Target) (options : Options) : Bool :=
  options.isPublic && target.hasVisibility

/-- The contents of the output file of a schema. -/
def assemble (target : Target) (options : Options) (root : Node) :
    Except CompileError SourceFile := do
  let records ← collectRecords root
  let isPublic := target.showsPublic options
  let _ ← target.claimTypes isPublic records []
  let (declarations, ctx) ← target.declareAll records (.start isPublic)
  return {
    declarations
    features := root.features
    constants := ctx.constants
    isPublic
    package := options.package }

/-- The text of the output file of a schema. -/
def compile (target : Target) (options : Options) (root : Node) : Except CompileError String :=
  (target.assemble options root).map target.render

end Target

end SchemaDecl
