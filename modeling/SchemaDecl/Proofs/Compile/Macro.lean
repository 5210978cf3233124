import SchemaDecl.Proofs.Compile.Capacity
import SchemaDecl.Proofs.Target.Lines
import SchemaDecl.Proofs.Text.Case

/-!
# Macros and identifiers

The capacities of a C file are macros.  The preprocessor puts the value of a macro wherever its name
stands, so a struct or a member of that name would be lost.  Names of macros are put together from
upper-case forms, while structs and members keep the names of the schema, and compiling compares
types with types and fields with fields only.  So nothing is lost exactly if no name of the schema
is that of a capacity.

## Main definitions

* `SourceFile.HasMacro` — the file defines a macro of the name.
* `SourceFile.HasIdentifier` — the file declares a struct of the name, or a member.

## Main results

* `CFamily.isMacroName_capacityName` — what the names of macros look like.
* `Target.compile_macros` — **when macros and identifiers are kept apart**.
* `Target.not_compile_macros` — not always.
-/

namespace SchemaDecl

/-- The file has the line that defines the name as a capacity. -/
def SourceFile.HasMacro (file : SourceFile) (name : String) : Prop :=
  "#define " ++ name ++ " 50" ∈ file.constants.map CFamily.define

/-- The file declares a struct of the name, or a member of one. -/
def SourceFile.HasIdentifier (file : SourceFile) (name : String) : Prop :=
  ∃ d ∈ file.declarations, d.name = name ∨ ∃ f ∈ d.fields, f.name = name

/-- A name of a schema is that of a record, or of a field of one. -/
def Record.HasName (record : Record) (name : String) : Prop :=
  record.name = name ∨ ∃ f ∈ record.fields, f.name = name

instance (record : Record) (name : String) : Decidable (record.HasName name) :=
  inferInstanceAs (Decidable (_ ∨ _))

theorem Block.mem_ifAny {lines : Block} {line : String} (h : line ∈ lines) :
    lines ∈ Block.ifAny lines := by
  rw [ifAny, if_neg]
  · exact List.mem_singleton_self lines
  · rw [List.isEmpty_iff]
    exact List.ne_nil_of_mem h

namespace CFamily

/-! ### The names of macros -/

/-- The line of a constant defines its name. -/
theorem define_eq_iff {c : SizeConstant} (hvalue : c.value = defaultCapacity) (name : String) :
    define c = "#define " ++ name ++ " 50" ↔ c.name = name := by
  have hdefine : define c = "#define " ++ c.name ++ " 50" := by
    rw [define, hvalue, String.append_assoc]
    rfl
  rw [hdefine, String.append_left_inj, String.append_right_inj]

/-- A file whose constants have the value of capacities defines their names. -/
theorem hasMacro_iff {file : SourceFile} (hvalue : ∀ c ∈ file.constants, c.value = defaultCapacity)
    (name : String) : file.HasMacro name ↔ name ∈ file.constants.map (·.name) := by
  rw [SourceFile.HasMacro, List.mem_map, List.mem_map]
  exact exists_congr fun c => and_congr_right fun hc => define_eq_iff (hvalue c hc) name

/-- A text in upper case has no small letter of ASCII. -/
theorem not_isLower_of_mem_uppercaseText {s : String} {c : Char}
    (h : c ∈ (Text.uppercaseText s).toList) : c.isLower = false := by
  rw [Text.uppercaseText, String.toList_ofList, List.mem_flatMap] at h
  obtain ⟨d, -, hc⟩ := h
  exact Text.not_isLower_of_mem_uppercase hc

/-- What the names of macros look like: they end in a common word, and have no small letter. -/
theorem isMacroName_capacityName (owner field : String) :
    (∃ s, capacityName owner field = s ++ "_SIZE") ∧
      ∀ c ∈ (capacityName owner field).toList, c.isLower = false := by
  have hsign : ("_".toList.all fun c => !c.isLower) = true := rfl
  have hword : ("_SIZE".toList.all fun c => !c.isLower) = true := rfl
  simp only [List.all_eq_true, Bool.not_eq_true'] at hsign hword
  refine ⟨⟨_, rfl⟩, ?_⟩
  intro c hc
  simp only [capacityName, String.toList_append, List.mem_append, or_assoc] at hc
  rcases hc with howner | hc | hfield | hc
  · exact not_isLower_of_mem_uppercaseText howner
  · exact hsign c hc
  · exact not_isLower_of_mem_uppercaseText hfield
  · exact hword c hc

end CFamily

namespace Target

variable {options : Options} {root : Node} {records : List Record}

/-! ### The names of an output file -/

/-- In C an array has the capacity named for it, and no other field has one. -/
theorem capacity_declaredField_eq_some_iff (isPublic : Bool) (owner : String) (field : RecordField)
    (name : String) :
    (Target.c.declaredField isPublic owner field).token.capacity = some name ↔
      field.shape.isArray = true ∧ capacityName owner field.name = name := by
  rw [declaredField, token]
  cases field.shape.isArray <;> simp [Target.c]

/-- The constants of a C file are those of its arrays. -/
theorem mem_names_constants_iff (name : String) :
    name ∈ (Target.c.sourceFile options root records).constants.map (·.name) ↔
      ∃ r ∈ records, ∃ f ∈ r.fields, f.shape.isArray = true ∧
        capacityName r.name f.name = name := by
  have hnames := MapContext.names_takeAll (.start (Target.c.showsPublic options))
    ((Target.c.sourceFile options root records).declarations.flatMap (·.fields)) name
  refine hnames.trans ⟨?_, ?_⟩
  · rintro (⟨field, hfield, hcapacity⟩ | hstart)
    · obtain ⟨d, hd, hfield⟩ := List.mem_flatMap.mp hfield
      obtain ⟨r, hr, rfl⟩ := List.mem_map.mp hd
      obtain ⟨f, hf, rfl⟩ := List.mem_map.mp hfield
      exact ⟨r, hr, f, hf, (capacity_declaredField_eq_some_iff _ _ _ _).mp hcapacity⟩
    · cases hstart
  · rintro ⟨r, hr, f, hf, harray⟩
    refine Or.inl ⟨_, List.mem_flatMap.mpr ⟨_, List.mem_map_of_mem hr, List.mem_map_of_mem hf⟩, ?_⟩
    exact (capacity_declaredField_eq_some_iff _ _ _ _).mpr harray

/-- A C file declares the names of its records. -/
theorem hasIdentifier_iff (name : String) :
    (Target.c.sourceFile options root records).HasIdentifier name ↔
      ∃ r ∈ records, r.HasName name := by
  simp [SourceFile.HasIdentifier, Record.HasName, sourceFile, declaration, declaredField, Target.c]

theorem hasMacro_sourceFile_iff (name : String) :
    (Target.c.sourceFile options root records).HasMacro name ↔
      ∃ r ∈ records, ∃ f ∈ r.fields, f.shape.isArray = true ∧
        capacityName r.name f.name = name := by
  have hvalue : ∀ c ∈ (Target.c.sourceFile options root records).constants,
      c.value = defaultCapacity :=
    MapContext.value_takeAll _ fun _ hc => absurd hc List.not_mem_nil
  rw [CFamily.hasMacro_iff hvalue, mem_names_constants_iff]

/-- The definition of a macro is a line of the file. -/
theorem standsIn_of_hasMacro {file : SourceFile} {name : String} (h : file.HasMacro name) :
    Block.StandsIn ["#define " ++ name ++ " 50"] (Target.c.render file) := by
  have hblock : file.constants.map CFamily.define ∈ Target.c.layout file :=
    List.mem_append_left _ (List.mem_append_left _ (List.mem_append_right _ (Block.mem_ifAny h)))
  obtain ⟨before, after, hlines⟩ := List.append_of_mem h
  refine Layout.standsIn_text hblock ⟨before, after, ?_⟩
  rw [hlines, List.append_assoc, List.singleton_append]

/-- **When macros and identifiers are kept apart.**  The macros of a C file stand in its text.  None
has the name of a struct or of a member exactly if no record and no field of the schema has the name
of a capacity of an array.  So a clash needs a name without small letters of ASCII that ends in the
word of capacities, since all names of macros are such. -/
theorem compile_macros (options : Options) (root : Node) {text : String}
    (h : Target.c.compile options root = .ok text) :
    ∃ records file, collectRecords root = .ok records ∧
      Target.c.assemble options root = .ok file ∧ text = Target.c.render file ∧
      (∀ name, file.HasMacro name → Block.StandsIn ["#define " ++ name ++ " 50"] text) ∧
      ((∀ name, file.HasMacro name → ¬ file.HasIdentifier name) ↔
        ∀ r ∈ records, ∀ f ∈ r.fields, f.shape.isArray = true →
          ∀ s ∈ records, ¬ s.HasName (capacityName r.name f.name)) ∧
      ∀ name, file.HasMacro name →
        (∃ s, name = s ++ "_SIZE") ∧ ∀ c ∈ name.toList, c.isLower = false := by
  have hc : Target.c ∈ Catalogue.builtin := by simp [Catalogue.builtin]
  obtain ⟨file, hassemble, rfl⟩ := (compile_eq_ok_iff _ options root text).mp h
  obtain ⟨records, hcollect, -, rfl⟩ := (assemble_eq_ok_iff hc options root file).mp hassemble
  refine ⟨records, _, hcollect, hassemble, rfl, fun _ => standsIn_of_hasMacro, ⟨?_, ?_⟩, ?_⟩
  · intro hapart r hr f hf harray s hs hname
    apply hapart (capacityName r.name f.name)
    · exact (hasMacro_sourceFile_iff _).mpr ⟨r, hr, f, hf, harray, rfl⟩
    · exact (hasIdentifier_iff _).mpr ⟨s, hs, hname⟩
  · intro hapart name hdefined hdeclared
    obtain ⟨r, hr, f, hf, harray, rfl⟩ := (hasMacro_sourceFile_iff name).mp hdefined
    obtain ⟨s, hs, hname⟩ := (hasIdentifier_iff _).mp hdeclared
    exact hapart r hr f hf harray s hs hname
  · intro name hdefined
    obtain ⟨r, -, f, -, -, rfl⟩ := (hasMacro_sourceFile_iff name).mp hdefined
    exact CFamily.isMacroName_capacityName r.name f.name

/-- A member can end in the word of capacities without being lost. -/
theorem compile_macros_of_page_size :
    ∃ text file,
      Target.c.compile {} (.object (some "Page")
        [("PAGE_SIZE", .primitive .integer), ("items", .array (.primitive .integer))])
        = .ok text ∧
      Target.c.assemble {} (.object (some "Page")
        [("PAGE_SIZE", .primitive .integer), ("items", .array (.primitive .integer))])
        = .ok file ∧
      file.HasMacro "PAGE_ITEMS_SIZE" ∧ file.HasIdentifier "PAGE_SIZE" ∧
      ∀ name, file.HasMacro name → ¬ file.HasIdentifier name := by
  have htext : Target.c.compile {} (.object (some "Page")
      [("PAGE_SIZE", .primitive .integer), ("items", .array (.primitive .integer))])
      = .ok _ := rfl
  obtain ⟨records, file, hcollect, hassemble, -, -, hapart, -⟩ := compile_macros _ _ htext
  obtain rfl := Except.ok.inj hcollect
  obtain rfl := Except.ok.inj hassemble
  refine ⟨_, _, htext, hassemble, List.mem_cons_self, ⟨_, List.mem_cons_self, Or.inr ?_⟩,
    hapart.mpr ?_⟩
  · exact ⟨_, List.mem_cons_self, rfl⟩
  · decide +kernel

/-- **Macros and identifiers are not always kept apart.**  A member has the name of the capacity of
the member beside it. -/
theorem not_compile_macros :
    ¬ ∀ (options : Options) (root : Node) (text : String),
      Target.c.compile options root = .ok text →
      ∃ file, Target.c.assemble options root = .ok file ∧ text = Target.c.render file ∧
        ∀ name, file.HasMacro name → ¬ file.HasIdentifier name := by
  intro h
  obtain ⟨file, hassemble, -, hapart⟩ := h {} (.object (some "Order")
    [("ORDER_ITEMS_SIZE", .primitive .integer), ("items", .array (.primitive .integer))]) _ rfl
  obtain rfl := Except.ok.inj hassemble
  refine hapart "ORDER_ITEMS_SIZE" List.mem_cons_self ⟨_, List.mem_cons_self, Or.inr ?_⟩
  exact ⟨_, List.mem_cons_self, rfl⟩

end Target

end SchemaDecl
