import SchemaDecl.Proofs.Target.Form
import SchemaDecl.Proofs.Target.Lines

/-!
# Public declarations and packages

A caller chooses whether declarations are public and which package they are in.  In most
languages the first is a modifier that is written before what is declared, and has no effect on
names and types.  In Go it respells all names, and can make them clash; what stays is what the
tags tell.  The package is named at the beginning of a Go file and nowhere else.

## Main definitions

* `Line.declared?` — what a line declares.
* `Target.keyword`, `Target.fieldDeclaration?` — what is declared in a file.
* `Target.textUnder` — the text of a file under some modifier.
* `Target.OnlyModifies` — public declarations differ from others in the modifier alone.

## Main results

* `Target.assemble_public` — where names are spelled alike, so are the contents of both files.
* `Target.onlyModifies` — **the choice adds a modifier to what is declared, and nothing else**.
* `Target.assemble_package` — the package is all that depends on the package.
* `Target.compile_options` — **what the two choices decide, for every target**.
-/

namespace SchemaDecl

/-- What a line declares, behind its indentation. -/
def Line.declared? : Line → Option (String × String)
  | plain _ => none
  | declaring indent rest => some (indent, rest)

namespace Target

/-- The keyword of the declaration of a type, where the modifier stands before it. -/
def keyword (target : Target) : String :=
  match target.name with
  | "rust" => "struct "
  | "typescript" => "interface "
  | _ => "class "

/-- The declaration of a field, in the languages where each has the modifier. -/
def fieldDeclaration? (target : Target) (field : DeclaredField) : Option String :=
  match target.name with
  | "java" => some (field.token.type ++ " " ++ field.name ++ ";")
  | "rust" => some (field.ident ++ ": " ++ field.token.type ++ ",")
  | _ => none

/-- The text of a file whose declarations are under a modifier. -/
def textUnder (target : Target) (modifier : String) (file : SourceFile) : String :=
  Layout.text (target.preamble file ++ file.declarations.map (target.form.block modifier))

/-! ### The package -/

/-- The package is all that depends on the package. -/
theorem assemble_package (target : Target) (isPublic : Bool) (package package' : String)
    (root : Node) :
    target.assemble ⟨isPublic, package'⟩ root
      = (target.assemble ⟨isPublic, package⟩ root).map fun file =>
          { file with package := package' } := by
  have hshows : target.showsPublic ⟨isPublic, package'⟩
      = target.showsPublic ⟨isPublic, package⟩ := rfl
  unfold assemble
  rw [hshows]
  cases collectRecords root with
  | error e => rfl
  | ok records =>
    cases hclaims : target.claimTypes (target.showsPublic ⟨isPublic, package⟩) records [] with
    | error e => simp [hclaims, bind, Except.bind, Except.map]
    | ok claims =>
      cases hdeclare : target.declareAll records
          (.start (target.showsPublic ⟨isPublic, package⟩)) with
      | error e => simp [hclaims, hdeclare, bind, Except.bind, Except.map]
      | ok result => simp [hclaims, hdeclare, bind, Except.bind, Except.map, pure, Except.pure]

/-- No language but Go writes the package down. -/
theorem layout_package {target : Target} (htarget : target ∈ Catalogue.builtin)
    (hname : target.name ≠ "go") (file : SourceFile) (package : String) :
    target.layout { file with package := package } = target.layout file := by
  rcases mem_builtin.mp htarget with rfl | rfl | rfl | rfl | rfl | rfl | rfl
  case inr.inr.inr.inl => exact absurd rfl hname
  all_goals rfl

theorem compile_package {target : Target} (htarget : target ∈ Catalogue.builtin)
    (hname : target.name ≠ "go") (isPublic : Bool) (package package' : String) (root : Node) :
    target.compile ⟨isPublic, package'⟩ root = target.compile ⟨isPublic, package⟩ root := by
  rw [compile, compile, assemble_package target isPublic package package' root]
  cases target.assemble ⟨isPublic, package⟩ root with
  | error e => rfl
  | ok file =>
    have hlayout := layout_package htarget hname file package'
    exact congrArg (fun layout => Except.ok (Layout.text layout)) hlayout

/-- The package clause of Go comes first, and the rest does not depend on it. -/
theorem render_go (file : SourceFile) (package : String) :
    Target.go.render { file with package := package }
      = "package " ++ package ++ "\n" ++ Layout.text ([] :: file.declarations.map Go.struct) := by
  have hclause : Block.text ["package " ++ package] = "package " ++ package ++ "\n" := by
    rw [Block.text_cons]
    exact String.append_empty
  rw [← hclause, ← Layout.text_cons]
  rfl

/-- For Go two packages change the text of the package clause only. -/
theorem compile_go_package (isPublic : Bool) (root : Node) :
    (∃ e, ∀ package, Target.go.compile ⟨isPublic, package⟩ root = .error e) ∨
      ∃ rest, ∀ package, Target.go.compile ⟨isPublic, package⟩ root
        = .ok ("package " ++ package ++ "\n" ++ rest) := by
  cases h : Target.go.assemble ⟨isPublic, "main"⟩ root with
  | error e =>
    refine Or.inl ⟨e, fun package => ?_⟩
    rw [compile, assemble_package Target.go isPublic "main" package root, h]
    rfl
  | ok file =>
    refine Or.inr ⟨Layout.text ([] :: file.declarations.map Go.struct), fun package => ?_⟩
    rw [compile, assemble_package Target.go isPublic "main" package root, h]
    exact congrArg Except.ok (render_go file package)

/-! ### The modifier -/

section Public

variable {target : Target} {isPublic isPublic' : Bool}

theorem spell_congr (htype : target.typeIdent isPublic = target.typeIdent isPublic')
    (shape : Shape) (asElement : Bool) :
    target.spell isPublic shape asElement = target.spell isPublic' shape asElement := by
  induction shape generalizing asElement with
  | primitive kind => cases asElement <;> rfl
  | object name => exact congrFun htype name
  | array element ih => rw [spell, ih, spell]

theorem fieldFaults_congr (hfield : target.fieldIdent isPublic = target.fieldIdent isPublic')
    (owner : String) (before : List String) (fields : List RecordField) :
    target.fieldFaults isPublic owner before fields
      = target.fieldFaults isPublic' owner before fields := by
  induction fields generalizing before with
  | nil => rfl
  | cons field rest ih => rw [fieldFaults, hfield, ih, fieldFaults]

theorem faults_congr (htype : target.typeIdent isPublic = target.typeIdent isPublic')
    (hfield : target.fieldIdent isPublic = target.fieldIdent isPublic') (records : List Record) :
    target.faults isPublic records = target.faults isPublic' records := by
  have hfields : ∀ record ∈ records,
      target.fieldFaults isPublic record.name [] record.fields
        = target.fieldFaults isPublic' record.name [] record.fields :=
    fun record _ => fieldFaults_congr hfield record.name [] record.fields
  rw [faults, htype, List.flatMap_congr hfields, faults]

theorem declaration_congr (htype : target.typeIdent isPublic = target.typeIdent isPublic')
    (hfield : target.fieldIdent isPublic = target.fieldIdent isPublic') :
    target.declaration isPublic = target.declaration isPublic' := by
  have hdeclared : target.declaredField isPublic = target.declaredField isPublic' := by
    funext owner field
    rw [declaredField, declaredField, hfield, token, token, spell_congr htype]
  funext record
  rw [declaration, declaration, htype, hdeclared]

end Public

/-- The constants do not depend on whether declarations are public. -/
theorem constants_takeAll_start (isPublic isPublic' : Bool) (fields : List DeclaredField) :
    ((MapContext.start isPublic).takeAll fields).constants
      = ((MapContext.start isPublic').takeAll fields).constants := by
  have hstep : ∀ (cs : List SizeConstant),
      (MapContext.takeAll ⟨isPublic, cs⟩ fields).constants
        = (MapContext.takeAll ⟨isPublic', cs⟩ fields).constants := by
    induction fields with
    | nil => exact fun cs => rfl
    | cons field rest ih =>
      intro cs
      rw [MapContext.takeAll_cons, MapContext.takeAll_cons, MapContext.take, MapContext.take]
      cases field.token.capacity with
      | none => exact ih cs
      | some name => exact ih _
  exact hstep []

/-- What a schema is assembled to: the first fault of its records, or their file. -/
theorem assemble_eq {target : Target} (htarget : target ∈ Catalogue.builtin) (options : Options)
    {root : Node} {records : List Record} (h : collectRecords root = .ok records) :
    target.assemble options root
      = match (target.faults (target.showsPublic options) records).head? with
        | some e => .error e
        | none => .ok (target.sourceFile options root records) := by
  have hreports := assemble_reports htarget options h
  cases hresult : target.assemble options root with
  | error e => rw [(hreports.error_iff e).mp hresult]
  | ok file =>
    obtain ⟨hnil, rfl⟩ := (hreports.eq_ok_iff file).mp hresult
    rw [hnil]
    rfl

/-- **Where names are spelled alike, so are the contents of both files.** -/
theorem assemble_public {target : Target} (htarget : target ∈ Catalogue.builtin)
    (hvisible : target.hasVisibility = true)
    (htype : target.typeIdent true = target.typeIdent false)
    (hfield : target.fieldIdent true = target.fieldIdent false) (package : String) (root : Node) :
    target.assemble ⟨true, package⟩ root
      = (target.assemble ⟨false, package⟩ root).map fun file => { file with isPublic := true } := by
  have hshows : target.showsPublic ⟨true, package⟩ = true := by rw [showsPublic, hvisible]; rfl
  have hhides : target.showsPublic ⟨false, package⟩ = false := rfl
  cases hcollect : collectRecords root with
  | error e =>
    rw [assemble, assemble, hcollect]
    rfl
  | ok records =>
    rw [assemble_eq htarget _ hcollect, assemble_eq htarget _ hcollect, hshows, hhides,
      faults_congr htype hfield records]
    cases (target.faults false records).head? with
    | some e => rfl
    | none =>
      -- only the flag differs: names are spelled alike, and constants do not see the modifier
      have hfile : target.sourceFile ⟨true, package⟩ root records
          = { target.sourceFile ⟨false, package⟩ root records with isPublic := true } := by
        rw [sourceFile, sourceFile, hshows, hhides, declaration_congr htype hfield]
        dsimp only
        rw [constants_takeAll_start true false]
      rw [hfile]
      rfl

/-- Public declarations of a schema differ from others in the modifier alone. -/
structure OnlyModifies (target : Target) (package : String) (root : Node) : Prop where
  /-- Neither choice adds an error, or changes one. -/
  errors : ∀ e, target.compile ⟨true, package⟩ root = .error e ↔
    target.compile ⟨false, package⟩ root = .error e
  /-- The same declarations, features and constants are laid out. -/
  files : target.assemble ⟨true, package⟩ root
    = (target.assemble ⟨false, package⟩ root).map fun file => { file with isPublic := true }
  /-- The texts are the same but for the modifier. -/
  texts : ∀ file, target.assemble ⟨false, package⟩ root = .ok file →
    target.compile ⟨false, package⟩ root = .ok (target.textUnder "" file) ∧
      target.compile ⟨true, package⟩ root = .ok (target.textUnder target.modifier file)
  /-- The modifier stands before the keyword of a type, and before the declaration of a field where
  that has one. -/
  places : ∀ d, (target.form.lines d).filterMap Line.declared?
    = ("", target.keyword ++ d.name ++ " \x7b") ::
        d.fields.filterMap fun f => (target.fieldDeclaration? f).map fun rest => ("    ", rest)

/-- What is declared in the lines of a declaration: the type, and the fields where each has a
declaration of its own. -/
theorem declared_lines {target : Target}
    (htarget : target ∈ [Target.java, .rust, .typescript, .javascript]) (d : Declaration) :
    (target.form.lines d).filterMap Line.declared?
      = ("", target.keyword ++ d.name ++ " \x7b") ::
          d.fields.filterMap fun f => (target.fieldDeclaration? f).map fun rest => ("    ", rest) := by
  -- the lines around the fields are always the same, and those of the fields follow the list
  have hfields : ∀ fields : List DeclaredField,
      (fields.flatMap target.form.member).filterMap Line.declared?
        = fields.filterMap fun f => (target.fieldDeclaration? f).map fun rest => ("    ", rest) := by
    intro fields
    induction fields with
    | nil => rfl
    | cons field rest ih =>
      rw [List.flatMap_cons, List.filterMap_append, ih, List.filterMap_cons]
      simp only [List.mem_cons, List.not_mem_nil, or_false] at htarget
      rcases htarget with rfl | rfl | rfl | rfl <;> rfl
  rw [Form.lines, List.filterMap_append, List.filterMap_append, hfields]
  simp only [List.mem_cons, List.not_mem_nil, or_false] at htarget
  rcases htarget with rfl | rfl | rfl | rfl <;> exact List.append_nil _

theorem preamble_public (target : Target) (file : SourceFile) (isPublic : Bool) :
    target.preamble { file with isPublic } = target.preamble file := by
  unfold preamble
  split <;> rfl

/-- **The choice adds a modifier to what is declared, and nothing else.** -/
theorem onlyModifies {target : Target}
    (htarget : target ∈ [Target.java, .rust, .typescript, .javascript]) (package : String)
    (root : Node) : OnlyModifies target package root := by
  have hbuiltin : target ∈ Catalogue.builtin := by
    rw [mem_builtin]
    simp only [List.mem_cons, List.not_mem_nil, or_false] at htarget
    tauto
  have hfiles : target.assemble ⟨true, package⟩ root
      = (target.assemble ⟨false, package⟩ root).map fun file =>
          { file with isPublic := true } := by
    simp only [List.mem_cons, List.not_mem_nil, or_false] at htarget
    rcases htarget with rfl | rfl | rfl | rfl <;>
      exact assemble_public hbuiltin rfl rfl rfl package root
  -- one layout is written under either modifier
  have htexts : ∀ file, target.assemble ⟨false, package⟩ root = .ok file →
      target.compile ⟨false, package⟩ root = .ok (target.textUnder "" file) ∧
        target.compile ⟨true, package⟩ root = .ok (target.textUnder target.modifier file) := by
    intro file hfile
    obtain ⟨records, -, -, rfl⟩ := (assemble_eq_ok_iff hbuiltin _ root file).mp hfile
    constructor
    · rw [compile, hfile]
      exact congrArg (fun layout => Except.ok (Layout.text layout)) (layout_eq hbuiltin _)
    · rw [compile, hfiles, hfile]
      refine congrArg (fun layout => Except.ok (Layout.text layout)) ?_
      rw [layout_eq hbuiltin, preamble_public]
      rfl
  refine ⟨fun e => ?_, hfiles, htexts, declared_lines htarget⟩
  rw [compile, compile, hfiles]
  cases target.assemble ⟨false, package⟩ root with
  | error e' => rfl
  | ok file => simp [Except.map]

/-! ### Go -/

/-- A Go file declares records one by one and in their order, under the identifiers that the choice
gives them.  The tags and the shapes of the fields do not depend on the choice. -/
structure DeclaresGo (isPublic : Bool) (records : List Record) (file : SourceFile) : Prop where
  declarations : List.Forall₂ (fun d r =>
    d.name = Target.go.typeIdent isPublic r.name ∧
      d.fields.map (·.ident) = r.fields.map (fun f => Target.go.fieldIdent isPublic f.name) ∧
      d.fields.map (fun f => Go.tag f.name) = r.fields.map (fun f => Go.tag f.name) ∧
      d.fields.map (·.shape) = r.fields.map (·.shape)) file.declarations records

theorem declaresGo_sourceFile (options : Options) (root : Node) (records : List Record) :
    DeclaresGo (Target.go.showsPublic options) records
      (Target.go.sourceFile options root records) := by
  refine ⟨?_⟩
  rw [sourceFile, List.forall₂_map_left_iff, List.forall₂_same]
  intro record _
  rw [declaration, List.map_map, List.map_map, List.map_map]
  exact ⟨rfl, rfl, rfl, rfl⟩

/-- A schema that compiles for public Go compiles for Go. -/
theorem assemble_go_of_public {package : String} {root : Node} {file : SourceFile}
    (h : Target.go.assemble ⟨true, package⟩ root = .ok file) :
    ∃ records file', collectRecords root = .ok records ∧
      Target.go.assemble ⟨false, package⟩ root = .ok file' ∧ DeclaresGo true records file ∧
      DeclaresGo false records file' := by
  have hgo : Target.go ∈ Catalogue.builtin := by simp [Catalogue.builtin]
  obtain ⟨records, hcollect, -, rfl⟩ := (assemble_eq_ok_iff hgo _ root file).mp h
  -- names that are spelled as they are do not clash
  have hfaults : Target.go.faults false records = [] := by
    rw [faults_eq_nil_iff]
    have hname : Target.go.name ≠ "c" := by decide
    refine ⟨fun m _ n _ hmn => hmn, fun r _ m _ n _ hmn => hmn, fun hc => absurd hc hname⟩
  exact ⟨records, _, hcollect,
    (assemble_eq_ok_iff hgo _ root _).mpr ⟨records, hcollect, hfaults, rfl⟩,
    declaresGo_sourceFile ⟨true, package⟩ root records,
    declaresGo_sourceFile ⟨false, package⟩ root records⟩

/-- **What the two choices decide, for every target.**  In the C family public declarations are
as others.  In Java, Rust, TypeScript and JavaScript they differ in the modifier alone.  In Go a
schema that compiles with public names compiles without, with the same records and tags.  The
package is written down in Go only, in the clause at the beginning. -/
theorem compile_options (root : Node) (package : String) :
    (∀ target ∈ [Target.c, .cpp],
      target.compile ⟨true, package⟩ root = target.compile ⟨false, package⟩ root) ∧
    (∀ target ∈ [Target.java, .rust, .typescript, .javascript],
      OnlyModifies target package root) ∧
    (∀ text, Target.go.compile ⟨true, package⟩ root = .ok text →
      ∃ records file file', collectRecords root = .ok records ∧
        Target.go.assemble ⟨true, package⟩ root = .ok file ∧ text = Target.go.render file ∧
        Target.go.compile ⟨false, package⟩ root = .ok (Target.go.render file') ∧
        Target.go.assemble ⟨false, package⟩ root = .ok file' ∧
        DeclaresGo true records file ∧ DeclaresGo false records file') ∧
    (∀ target ∈ Catalogue.builtin, target.name ≠ "go" → ∀ isPublic package',
      target.compile ⟨isPublic, package'⟩ root = target.compile ⟨isPublic, package⟩ root) ∧
    (∀ isPublic, (∃ e, ∀ package', Target.go.compile ⟨isPublic, package'⟩ root = .error e) ∨
      ∃ rest, ∀ package', Target.go.compile ⟨isPublic, package'⟩ root
        = .ok ("package " ++ package' ++ "\n" ++ rest)) := by
  refine ⟨?_, fun target htarget => onlyModifies htarget package root, ?_, ?_, ?_⟩
  · intro target htarget
    have hhides : target.showsPublic ⟨true, package⟩ = target.showsPublic ⟨false, package⟩ := by
      simp only [List.mem_cons, List.not_mem_nil, or_false] at htarget
      rcases htarget with rfl | rfl <;> rfl
    rw [compile, assemble, hhides, compile, assemble]
  · intro text htext
    obtain ⟨file, hassemble, rfl⟩ := (compile_eq_ok_iff _ _ root text).mp htext
    obtain ⟨records, file', hcollect, hassemble', htags, htags'⟩ := assemble_go_of_public hassemble
    exact ⟨records, file, file', hcollect, hassemble, rfl,
      (compile_eq_ok_iff _ _ root _).mpr ⟨file', hassemble', rfl⟩, hassemble', htags, htags'⟩
  · intro target htarget hname isPublic package'
    exact compile_package htarget hname isPublic package package' root
  · exact fun isPublic => compile_go_package isPublic root

/-- A class of this schema gets the modifier, and so does its field, and in Go both are respelled
while the tag stays. -/
theorem compile_options_of_order :
    (∃ file, Target.java.assemble ⟨false, "main"⟩
        (.object (some "order") [("id", .primitive .integer)]) = .ok file ∧
      Target.java.compile ⟨true, "main"⟩ (.object (some "order") [("id", .primitive .integer)])
        = .ok (Target.java.textUnder "public " file) ∧
      ∀ d ∈ file.declarations, (Target.java.form.lines d).filterMap Line.declared?
        = [("", "class order \x7b"), ("    ", "int id;")]) ∧
    ∃ file, Target.go.assemble ⟨false, "main"⟩
        (.object (some "order") [("id", .primitive .integer)]) = .ok file ∧
      DeclaresGo false [⟨"order", [⟨"id", .primitive .integer⟩]⟩] file := by
  obtain ⟨-, hmodifies, hgo, -⟩ :=
    compile_options (.object (some "order") [("id", .primitive .integer)]) "main"
  constructor
  · have hjava := hmodifies .java List.mem_cons_self
    refine ⟨_, rfl, (hjava.texts _ rfl).2, ?_⟩
    rintro d (- | ⟨-, ⟨⟩⟩)
    rw [hjava.places]
    rfl
  · obtain ⟨records, file, file', hcollect, -, -, -, hassemble', -, hdeclares⟩ := hgo _ rfl
    obtain rfl := Except.ok.inj hcollect
    exact ⟨file', hassemble', hdeclares⟩

end Target

end SchemaDecl
