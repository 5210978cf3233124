import SchemaDecl.Proofs.Command.Precedence
import SchemaDecl.Proofs.Compile.RootName

/-!
# The title that the arguments give to the root

A call may bring a title for a schema without one.  It is asked whether there is a title before
the schema is compiled, and whether the title is of any use while it is.  The two do not agree on
blank titles: such a title keeps its place, and the root then has no name.

## Main definitions

* `Surroundings.Reads` — a call has a target and a schema.

## Main results

* `Surroundings.firstFault_naming_root_iff` — the calls in which the root has no name.
* `Surroundings.Produces.declares_root` — the name under which an untitled root is declared.
* `Surroundings.generate_of_titled` — a title in the schema is the one that counts.
* `Surroundings.run_named` — **what a title in the arguments does**.
* `Surroundings.not_run_named` — it does not name all roots.
-/

namespace SchemaDecl.Command

/-! ### The title of a schema -/

theorem withDefaultTitle_of_title {name : Option String} {root : Node} {title : String}
    (h : root.title = some title) : withDefaultTitle name root = root := by
  unfold withDefaultTitle
  rw [h]
  cases name <;> rfl

theorem withDefaultTitle_of_untitled {root : Node} (h : root.title = none) (name : String) :
    withDefaultTitle (some name) root = root.withTitle name := by
  unfold withDefaultTitle
  rw [h]

/-- A schema under a title that is not blank has a title that is blank only if it had before. -/
theorem isBlankSource_withDefaultTitle {name : String} (hname : Text.isBlankText name = false)
    (root : Node) :
    isBlankSource (withDefaultTitle (some name) root).title = true ↔
      ∃ title, root.title = some title ∧ Text.isBlankText title = true := by
  cases htitle : root.title with
  | none =>
    rw [withDefaultTitle_of_untitled htitle, Node.title_withTitle, isBlankSource, Option.all_some,
      hname]
    simp
  | some title =>
    rw [withDefaultTitle_of_title htitle, htitle, isBlankSource, Option.all_some]
    simp

/-- The record of a root that takes its name from a title. -/
theorem record_withTitle {name word : String} (h : Text.firstWord? name = some word)
    (root : Node) :
    (root.withTitle name).sorted.record none = ⟨word, Fields.shapes root.sorted.contents⟩ := by
  have hlabel : (root.withTitle name).sorted.label none = word := by
    apply Node.label_of_name?
    rw [Node.name?_sorted, Node.name?, Node.title_withTitle, nodeName?_of_firstWord? h]
  rw [Node.record, hlabel]
  cases root <;> rfl

/-! ### The target of a call -/

theorem namedTarget_cases (name : String) :
    (∃ target ∈ Catalogue.builtin, namedTarget name = .ok target) ∨
      namedTarget name = .error (.unknownTarget name) := by
  cases h : namedTarget name with
  | ok target => exact Or.inl ⟨target, (namedTarget_eq_ok_iff.mp h).1, rfl⟩
  | error e =>
    rw [namedTarget] at h
    split at h
    · cases h
    · exact Or.inr h.symm

theorem selectTarget_cases (g : GenerateArgs) (settings : Settings) :
    (∃ target ∈ Catalogue.builtin, selectTarget g settings = .ok target) ∨
      (∃ name, selectTarget g settings = .error (.unknownTarget name)) ∨
      selectTarget g settings = .error .noTarget := by
  unfold selectTarget
  cases g.lang with
  | some name =>
    dsimp only
    exact (namedTarget_cases name).imp_right fun h => Or.inl ⟨name, h⟩
  | none =>
    cases hpath : g.output.bind targetOfPath? with
    | some target =>
      obtain ⟨path, -, htarget⟩ := Option.bind_eq_some_iff.mp hpath
      exact Or.inl ⟨target, (targetOfPath?_eq_some_iff.mp htarget).1, rfl⟩
    | none =>
      cases settings.backend with
      | some name => exact (namedTarget_cases name).imp_right fun h => Or.inl ⟨name, h⟩
      | none => exact Or.inr (Or.inr rfl)

namespace Surroundings

/-- A call has a target, and the text of its schema is one of a schema. -/
structure Reads (s : Surroundings) (g : GenerateArgs) (target : Target) (root : Node) : Prop where
  selects : selectTarget g s.settings = .ok target
  reads : ∃ text, (s.schemaBytes g).bind textOf = .ok text ∧ Node.ofText text = .ok root

section Reads

variable {s : Surroundings} {g : GenerateArgs} {target : Target} {root : Node}

theorem Reads.target_mem (h : s.Reads g target root) : target ∈ Catalogue.builtin := by
  rcases selectTarget_cases g s.settings with ⟨target', hmem, hselect⟩ | ⟨name, hselect⟩ | hselect
  · obtain rfl := Except.ok.inj (h.selects.symm.trans hselect)
    exact hmem
  · cases h.selects.symm.trans hselect
  · cases h.selects.symm.trans hselect

/-- The schema of the call has the title of the arguments if it has none. -/
theorem Reads.readSchema_eq (h : s.Reads g target root) :
    readSchema g (s.schemaBytes g) = .ok (withDefaultTitle g.name root) := by
  obtain ⟨-, text, hread, hparse⟩ := h
  rw [Command.readSchema_eq, hread]
  dsimp only
  rw [hparse]
  rfl

/-- A schema that does not compile makes the call fail. -/
theorem Reads.generate_eq_fail (h : s.Reads g target root) {cause : CompileError}
    (hcompile : target.compile (options g s.settings) (withDefaultTitle g.name root)
      = .error cause) :
    s.generate g = s.fail (.compiling target.name cause) := by
  rw [generate, Command.generate, h.selects, h.readSchema_eq]
  dsimp only [bind, Except.bind]
  rw [hcompile]
  rfl

/-- The calls that fail in compiling their schema. -/
theorem firstFault_compiling_iff {lang : String} {cause : CompileError} :
    s.FirstFault g (.compiling lang cause) ↔
      ∃ target root, s.Reads g target root ∧ lang = target.name ∧
        target.compile (options g s.settings) (withDefaultTitle g.name root) = .error cause := by
  constructor
  · intro h
    cases h with
    | selecting hselect =>
      -- what is reported of a target is never about a schema
      rcases selectTarget_cases g s.settings with ⟨_, -, h⟩ | ⟨_, h⟩ | h <;>
        cases hselect.symm.trans h
    | compiling hselect hread hparse hcompile =>
      exact ⟨_, _, ⟨hselect, _, hread, hparse⟩, rfl, hcompile⟩
  · rintro ⟨target, root, ⟨hselect, text, hread, hparse⟩, rfl, hcompile⟩
    exact .compiling hselect hread hparse hcompile

/-- Where all schemas that can be read have titles, another title in the arguments reads the
same. -/
theorem readSchema_of_titled {input : Except FileError ByteArray}
    (h : ∀ text root, input.bind textOf = .ok text → Node.ofText text = .ok root →
      root.title ≠ none) (name : Option String) :
    readSchema { g with name := name } input = readSchema g input := by
  rw [Command.readSchema_eq, Command.readSchema_eq]
  cases hread : input.bind textOf with
  | error cause => rfl
  | ok text =>
    dsimp only
    cases hparse : Node.ofText text with
    | error cause => rfl
    | ok root =>
      obtain ⟨title, htitle⟩ := Option.ne_none_iff_exists'.mp (h text root hread hparse)
      show Except.ok (withDefaultTitle name root) = Except.ok (withDefaultTitle g.name root)
      rw [withDefaultTitle_of_title htitle, withDefaultTitle_of_title htitle]

/-- A title in the schema is the one that counts: unless it reads an untitled schema, a call leaves
the same under any other title. -/
theorem generate_of_titled (h : ∀ target root, s.Reads g target root → root.title ≠ none)
    (name : Option String) : s.generate { g with name := name } = s.generate g := by
  have htarget : selectTarget { g with name := name } s.settings = selectTarget g s.settings := rfl
  have hbytes : s.schemaBytes { g with name := name } = s.schemaBytes g := rfl
  have hgenerate : Command.generate { g with name := name } s.settings (s.schemaBytes g)
      = Command.generate g s.settings (s.schemaBytes g) := by
    unfold Command.generate
    rw [htarget]
    cases hselect : selectTarget g s.settings with
    | error e => rfl
    | ok target =>
      rw [readSchema_of_titled fun text root hread hparse =>
        h target root ⟨hselect, text, hread, hparse⟩]
      rfl
  unfold generate
  rw [hbytes, hgenerate]

/-- The calls with a title that is not blank in which the root has no name. -/
theorem firstFault_naming_root_iff {name : String} (hname : g.name = some name)
    (hblank : Text.isBlankText name = false) {lang : String} :
    s.FirstFault g (.compiling lang (.naming Path.root)) ↔
      ∃ target root title, s.Reads g target root ∧ lang = target.name ∧
        root.title = some title ∧ Text.isBlankText title = true := by
  rw [firstFault_compiling_iff, hname]
  constructor
  · rintro ⟨target, root, hreads, hlang, hcompile⟩
    rw [Target.compile_eq_naming_root_iff hreads.target_mem,
      isBlankSource_withDefaultTitle hblank] at hcompile
    obtain ⟨title, htitle⟩ := hcompile
    exact ⟨target, root, title, hreads, hlang, htitle⟩
  · rintro ⟨target, root, title, hreads, hlang, htitle⟩
    refine ⟨target, root, hreads, hlang, ?_⟩
    rw [Target.compile_eq_naming_root_iff hreads.target_mem, isBlankSource_withDefaultTitle hblank]
    exact ⟨title, htitle⟩

/-- An untitled root is declared under the first word of the title that it gets. -/
theorem Produces.declares_root {name word code : String} (h : s.Produces g target root code)
    (hname : g.name = some name) (hword : Text.firstWord? name = some word)
    (htitle : root.title = none) :
    ∃ file, target.assemble (options g s.settings) (root.withTitle name) = .ok file ∧
      code = target.render file ∧ file.declarations.getLast?
        = some (target.declaration (target.showsPublic (options g s.settings))
            ⟨word, Fields.shapes root.sorted.contents⟩) := by
  have hreads : s.Reads g target root := ⟨h.selects, h.reads⟩
  have hcompile := h.compiles
  rw [hname, withDefaultTitle_of_untitled htitle] at hcompile
  obtain ⟨file, hassemble, hcode⟩ := (target.compile_eq_ok_iff _ _ _).mp hcompile
  have hlast := Target.getLast?_declarations hreads.target_mem hassemble
  rw [record_withTitle hword] at hlast
  exact ⟨file, hassemble, hcode, hlast⟩

end Reads

/-- **What a title in the arguments does**, if it is not blank.  An untitled root is declared under
its first word, and never without a name.  If the schema has a title, the call leaves the same
whatever title the arguments bring.  So the root has no name exactly if the schema has a title that
is blank, and then the call fails. -/
theorem run_named {args : List String} {g : GenerateArgs} {name word : String}
    (h : Invocation.parse args = some (.generate g)) (hname : g.name = some name)
    (hword : Text.firstWord? name = some word) (s : Surroundings) :
    (∀ lang, s.FirstFault g (.compiling lang (.naming Path.root)) ↔
      ∃ target root title, s.Reads g target root ∧ lang = target.name ∧
        root.title = some title ∧ Text.isBlankText title = true) ∧
    (∀ target root title, s.Reads g target root → root.title = some title →
      Text.isBlankText title = true →
        s.run args = s.fail (.compiling target.name (.naming Path.root))) ∧
    (∀ target root code, s.Produces g target root code → root.title = none →
      ∃ file, target.assemble (options g s.settings) (root.withTitle name) = .ok file ∧
        code = target.render file ∧ file.declarations.getLast?
          = some (target.declaration (target.showsPublic (options g s.settings))
              ⟨word, Fields.shapes root.sorted.contents⟩)) ∧
    ((∀ target root, s.Reads g target root → root.title ≠ none) →
      ∀ args' name', Invocation.parse args' = some (.generate { g with name := name' }) →
        s.run args' = s.run args) := by
  have hblank : Text.isBlankText name = false := Text.isBlankText_of_firstWord? hword
  have hrun : s.run args = s.generate g := by rw [run, h]
  refine ⟨fun lang => firstFault_naming_root_iff hname hblank, ?_, ?_, ?_⟩
  · intro target root title hreads htitle hblankTitle
    rw [hrun]
    apply hreads.generate_eq_fail
    rw [Target.compile_eq_naming_root_iff hreads.target_mem, hname,
      isBlankSource_withDefaultTitle hblank]
    exact ⟨title, htitle, hblankTitle⟩
  · intro target root code hproduces htitle
    exact hproduces.declares_root hname hword htitle
  · intro htitled args' name' h'
    have hrun' : s.run args' = s.generate { g with name := name' } := by rw [run, h']
    rw [hrun, hrun']
    exact generate_of_titled htitled name'

theorem reads_onInput {g : GenerateArgs} {target : Target} {root : Node} {schema : String}
    (hpath : g.schema = "-") (hlang : g.lang = some target.name)
    (htarget : target ∈ Catalogue.builtin) (hparse : Node.ofText schema = .ok root) :
    (onInput schema).Reads g target root where
  selects := by
    rw [selectTarget, hlang]
    exact namedTarget_eq_ok_iff.mpr ⟨htarget, rfl⟩
  reads := by
    have hbytes : (onInput schema).schemaBytes g = .ok schema.toUTF8 := by
      rw [schemaBytes, GenerateArgs.schemaPath?, if_pos hpath]
      rfl
    refine ⟨schema, ?_, hparse⟩
    rw [hbytes]
    exact textOf_toUTF8 schema

/-- Of this title only the first word is taken. -/
theorem run_named_of_words :
    ∃ root file, Node.ofText orderSchema = .ok root ∧
      Target.go.assemble {} (root.withTitle "Order form") = .ok file ∧
      file.declarations.getLast?
        = some (Target.go.declaration false ⟨"Order", [⟨"id", .primitive .string⟩]⟩) := by
  have hargs : Invocation.parse ["generate", "-", "-l", "go", "--name", "Order form"]
      = some (.generate ⟨"-", some "go", none, false, none, some "Order form"⟩) := by
    decide +kernel
  have hword : Text.firstWord? "Order form" = some "Order" := by decide +kernel
  obtain ⟨-, -, hdeclares, -⟩ := run_named hargs rfl hword (onInput orderSchema)
  have hroot : ((Node.ofText orderSchema).toOption.map fun root =>
        (root.title, Fields.shapes root.sorted.contents,
          (Target.go.compile {} (withDefaultTitle (some "Order form") root)).toOption.isSome))
      = some (none, [⟨"id", .primitive .string⟩], true) := by
    decide +kernel
  obtain ⟨root, hparse, hparts⟩ := Option.map_eq_some_iff.mp hroot
  obtain ⟨htitle, hshapes, hcompiles⟩ := by simpa only [Prod.mk.injEq] using hparts
  obtain ⟨code, hcode⟩ := Option.isSome_iff_exists.mp hcompiles
  have hreads : (onInput orderSchema).Reads
      ⟨"-", some "go", none, false, none, some "Order form"⟩ .go root :=
    reads_onInput rfl rfl (by simp [Catalogue.builtin]) (Except.eq_ok_of_toOption hparse)
  obtain ⟨file, hassemble, -, hlast⟩ := hdeclares .go root code
    ⟨hreads.selects, hreads.reads, Except.eq_ok_of_toOption hcode⟩ htitle
  rw [hshapes] at hlast
  exact ⟨root, file, Except.eq_ok_of_toOption hparse, hassemble, hlast⟩

/-- A schema with a title that is a blank. -/
def blankSchema : String :=
  "\x7b\"title\": \" \", \"properties\": \x7b\"id\": \x7b\"type\": \"integer\"\x7d\x7d\x7d"

/-- **A title in the arguments does not name all roots.**  It does not replace a blank one. -/
theorem not_run_named :
    ¬ ∀ (args : List String) (g : GenerateArgs) (name : String),
      Invocation.parse args = some (.generate g) → g.name = some name →
      Text.isBlankText name = false →
      ∀ (s : Surroundings) (lang : String),
        ¬ s.FirstFault g (.compiling lang (.naming Path.root)) := by
  intro h
  have hargs : Invocation.parse ["generate", "-", "-l", "cpp", "--name", "Ticket"]
      = some (.generate ⟨"-", some "cpp", none, false, none, some "Ticket"⟩) := by
    decide +kernel
  have hroot : ((Node.ofText blankSchema).toOption.map Node.title) = some (some " ") := by
    decide +kernel
  obtain ⟨root, hparse, htitle⟩ := Option.map_eq_some_iff.mp hroot
  have hreads : (onInput blankSchema).Reads
      ⟨"-", some "cpp", none, false, none, some "Ticket"⟩ .cpp root :=
    reads_onInput rfl rfl (by simp [Catalogue.builtin]) (Except.eq_ok_of_toOption hparse)
  have hticket : Text.isBlankText "Ticket" = false := by decide +kernel
  have hblank : Text.isBlankText " " = true := by decide +kernel
  apply h _ _ "Ticket" hargs rfl hticket (onInput blankSchema) "cpp"
  apply (firstFault_naming_root_iff rfl hticket).mpr
  exact ⟨.cpp, root, " ", hreads, rfl, htitle, hblank⟩

end Surroundings

end SchemaDecl.Command
