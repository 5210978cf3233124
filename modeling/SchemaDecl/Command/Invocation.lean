/-!
# Command line arguments

The program is called with a command, `generate` or `backends`, and its switches.  A
switch has a long name behind two hyphens and possibly a letter behind one.  Letters of
switches without values may be written together, and the last letter of such a group may
be that of a switch with a value.  The value stands in the same argument, behind an equals
sign or for letters also without one, or it is the next argument.  After an argument of
two hyphens everything is an operand.

## Main definitions

* `Switch`, `Switch.name`, `Switch.letter?`, `Switch.takesValue`: the switches.
* `Argument`, `arguments`: the arguments as switches and operands.
* `GenerateArgs`, `Invocation`: what a call asks for.
* `Invocation.parse`: the reading of a call.
-/

namespace SchemaDecl.Command

/-! ### Switches -/

/-- The switches of all commands. -/
inductive Switch
  | lang
  | output
  | isPublic
  | package
  | name
  | json
  | verbose
  | version
  | help
  deriving DecidableEq, Repr

namespace Switch

/-- The long name of a switch. -/
def longName : Switch → String
  | lang => "lang"
  | output => "output"
  | isPublic => "public"
  | package => "package"
  | name => "name"
  | json => "json"
  | verbose => "verbose"
  | version => "version"
  | help => "help"

/-- The letter of a switch. -/
def letter? : Switch → Option Char
  | lang => some 'l'
  | output => some 'o'
  | isPublic => some 'p'
  | package => none
  | name => none
  | json => none
  | verbose => some 'v'
  | version => some 'V'
  | help => some 'h'

/-- Whether a switch has a value. -/
def takesValue : Switch → Bool
  | lang => true
  | output => true
  | package => true
  | name => true
  | _ => false

/-- The switches before a command. -/
def ofProgram : List Switch := [verbose, version, help]

/-- The switches of `generate`. -/
def ofGenerate : List Switch := [lang, output, isPublic, package, name, verbose, help]

/-- The switches of `backends`. -/
def ofBackends : List Switch := [json, verbose, help]

/-- The switch of a long name. -/
def byName? (switches : List Switch) (name : String) : Option Switch :=
  switches.find? fun s => s.longName == name

/-- The switch of a letter. -/
def byLetter? (switches : List Switch) (c : Char) : Option Switch :=
  switches.find? fun s => s.letter? == some c

end Switch

/-! ### Arguments -/

/-- One thing that the arguments say. -/
inductive Argument
  /-- A switch without a value. -/
  | flag (switch : Switch)
  /-- A switch with a value. -/
  | setting (switch : Switch) (value : String)
  | operand (text : String)
  /-- Something that cannot be understood. -/
  | malformed
  deriving DecidableEq, Repr

/-- What one argument says, where a last switch may still lack its value. -/
structure Group where
  complete : List Argument
  pending : Option Switch := none
  deriving DecidableEq, Repr

/-- The switches of an argument that begins with one hyphen. -/
def letters (switches : List Switch) : List Char → Group
  | [] => ⟨[], none⟩
  | c :: rest =>
    match Switch.byLetter? switches c with
    | none => ⟨[.malformed], none⟩
    | some s =>
      if s.takesValue then
        match rest with
        | [] => ⟨[], some s⟩
        | '=' :: value => ⟨[.setting s (String.ofList value)], none⟩
        | value => ⟨[.setting s (String.ofList value)], none⟩
      else
        let group := letters switches rest
        { group with complete := .flag s :: group.complete }

/-- The switch of an argument that begins with two hyphens. -/
def long (switches : List Switch) (cs : List Char) : Group :=
  let name := String.ofList (cs.takeWhile (· != '='))
  match Switch.byName? switches name, cs.dropWhile (· != '=') with
  | none, _ => ⟨[.malformed], none⟩
  | some s, [] => if s.takesValue then ⟨[], some s⟩ else ⟨[.flag s], none⟩
  | some s, _ :: value =>
    if s.takesValue then ⟨[.setting s (String.ofList value)], none⟩ else ⟨[.malformed], none⟩

/-- Whether an argument is written as a switch or as the mark before operands.  A single
hyphen is neither. -/
def looksLikeSwitch (arg : String) : Bool :=
  match arg.toList with
  | '-' :: _ :: _ => true
  | _ => false

/-- What one argument says. -/
def group (switches : List Switch) (arg : String) : Group :=
  match arg.toList with
  | '-' :: '-' :: cs => long switches cs
  | '-' :: c :: cs => letters switches (c :: cs)
  | _ => ⟨[.operand arg], none⟩

/-- What all arguments say. -/
def arguments (switches : List Switch) : List String → List Argument
  | [] => []
  | arg :: rest =>
    if arg = "--" then rest.map .operand
    else
      let found := group switches arg
      match found.pending with
      | none => found.complete ++ arguments switches rest
      | some s =>
        match rest with
        | [] => found.complete ++ [.malformed]
        | value :: rest =>
          if looksLikeSwitch value then found.complete ++ [.malformed]
          else found.complete ++ .setting s value :: arguments switches rest

/-! ### Calls -/

/-- The arguments of `generate`. -/
structure GenerateArgs where
  /-- The path of the schema, or a hyphen for the standard input. -/
  schema : String
  lang : Option String := none
  output : Option String := none
  isPublic : Bool := false
  package : Option String := none
  name : Option String := none
  deriving DecidableEq, Repr

/-- What a call asks for. -/
inductive Invocation
  | generate (args : GenerateArgs)
  | backends (json : Bool)
  | version
  | help
  deriving DecidableEq, Repr

/-- Sets a value that may be given once. -/
def setOnce {α : Type} (old : Option α) (value : α) : Option (Option α) :=
  match old with
  | none => some (some value)
  | some _ => none

/-- A path, which must not be empty. -/
def nonempty? (path : String) : Option String := if path = "" then none else some path

/-- The arguments of `generate` while they are read. -/
structure GenerateDraft where
  schema : Option String := none
  lang : Option String := none
  output : Option String := none
  isPublic : Option Unit := none
  package : Option String := none
  name : Option String := none
  verbose : Option Unit := none

/-- Takes one argument of `generate`, unless it is given twice or has no meaning. -/
def GenerateDraft.take (draft : GenerateDraft) : Argument → Option GenerateDraft
  | .operand text => do
    let schema ← setOnce draft.schema (← nonempty? text)
    return { draft with schema }
  | .setting .lang value => do
    let lang ← setOnce draft.lang value
    return { draft with lang }
  | .setting .output value => do
    let output ← setOnce draft.output (← nonempty? value)
    return { draft with output }
  | .setting .package value => do
    let package ← setOnce draft.package value
    return { draft with package }
  | .setting .name value => do
    let name ← setOnce draft.name value
    return { draft with name }
  | .flag .isPublic => do
    let isPublic ← setOnce draft.isPublic ()
    return { draft with isPublic }
  | .flag .verbose => do
    let verbose ← setOnce draft.verbose ()
    return { draft with verbose }
  | _ => none

/-- The call of `generate` that its arguments make.  Help that is asked for comes before
all faults behind it. -/
def readGenerate : GenerateDraft → List Argument → Option Invocation
  | draft, [] => draft.schema.map fun schema =>
    .generate
      { schema, lang := draft.lang, output := draft.output, isPublic := draft.isPublic.isSome,
        package := draft.package, name := draft.name }
  | _, .flag .help :: _ => some .help
  | draft, arg :: rest => do readGenerate (← draft.take arg) rest

/-- The call of `backends` that its arguments make. -/
def readBackends : (json verbose : Option Unit) → List Argument → Option Invocation
  | json, _, [] => some (.backends json.isSome)
  | json, verbose, arg :: rest =>
    match arg with
    | .flag .help => some .help
    | .flag .json => do readBackends (← setOnce json ()) verbose rest
    | .flag .verbose => do readBackends json (← setOnce verbose ()) rest
    | _ => none

/-- The command of a name, with the arguments behind it. -/
def readCommand (name : String) (args : List String) : Option Invocation :=
  if name = "generate" then readGenerate {} (arguments Switch.ofGenerate args)
  else if name = "backends" then readBackends none none (arguments Switch.ofBackends args)
  else if name = "help" then
    match args with
    | [] => some .help
    | [command] => if command ∈ ["generate", "backends", "help"] then some .help else none
    | _ => none
  else none

/-- Takes the switches before a command.  Gives the last state, or the call if one of them
decides it. -/
def readProgramSwitches :
    (verbose : Option Unit) → List Argument → Option (Option Unit ⊕ Invocation)
  | verbose, [] => some (.inl verbose)
  | verbose, arg :: rest =>
    match arg with
    | .flag .version => some (.inr .version)
    | .flag .help => some (.inr .help)
    | .flag .verbose => do readProgramSwitches (← setOnce verbose ()) rest
    | _ => none

/-- The call that the arguments of the program make. -/
def readProgram : (verbose : Option Unit) → List String → Option Invocation
  | _, [] => none
  | verbose, arg :: rest =>
    if looksLikeSwitch arg && arg != "--" then
      match readProgramSwitches verbose (group Switch.ofProgram arg).complete with
      | none => none
      | some (.inr invocation) => some invocation
      | some (.inl verbose) => readProgram verbose rest
    else readCommand arg rest

/-- The call that the arguments make, unless they are not in order. -/
def Invocation.parse (args : List String) : Option Invocation := readProgram none args

end SchemaDecl.Command
