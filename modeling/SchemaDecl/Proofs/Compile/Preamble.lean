import SchemaDecl.Proofs.Compile.Fault
import SchemaDecl.Proofs.Record.Feature
import SchemaDecl.Proofs.Text.Affix

/-!
# Preambles

Which headers and imports an output file begins with is decided by the features of the whole
schema, before any type is declared.  The declarations are made from the records.  The two agree:
a header is there exactly if a declared field asks for it.

## Main definitions

* `CFamily.cPreamble`, `CFamily.cppPreamble`, `Java.preamble` — what stands before the
  declarations.
* `SourceFile.HasLeaf`, `SourceFile.HasArray` — a declared field ends in a primitive kind, or is
  an array.

## Main results

* `Target.uses_iff_of_assemble` — a file uses the features of its declared fields.
* `Target.compile_preamble` — **headers and imports are those that the declared fields ask for**.
-/

namespace SchemaDecl

/-! ### Preambles -/

theorem Block.flatten_ifAny (lines : Block) : (Block.ifAny lines).flatten = lines := by
  cases lines with
  | nil => rfl
  | cons line rest => exact List.append_nil _

namespace CFamily

/-- What stands before the structs of a C file: headers, capacities, and the structs named in
advance. -/
def cPreamble (file : SourceFile) : Layout :=
  [cIncludes file] ++ Block.ifAny (file.constants.map define) ++
    Block.ifAny (file.declarations.map typedef)

/-- What stands before the structs of a C++ file. -/
def cppPreamble (file : SourceFile) : Layout := Block.ifAny (cppIncludes file)

theorem define_ne (c : SizeConstant) : define c ≠ "#include <stdbool.h>" := by
  unfold define
  simp only [String.append_assoc]
  exact Text.append_ne_of_not_prefix (by decide) _

theorem typedef_ne (decl : Declaration) : typedef decl ≠ "#include <stdbool.h>" := by
  unfold typedef
  simp only [String.append_assoc]
  exact Text.append_ne_of_not_prefix (by decide) _

theorem stdbool_mem_cPreamble_iff (file : SourceFile) :
    "#include <stdbool.h>" ∈ (cPreamble file).flatten ↔ file.uses .boolean = true := by
  rw [cPreamble, List.flatten_append, List.flatten_append, Block.flatten_ifAny,
    Block.flatten_ifAny, List.flatten_singleton]
  simp [cIncludes, define_ne, typedef_ne]

theorem string_mem_cppPreamble_iff (file : SourceFile) :
    "#include <string>" ∈ (cppPreamble file).flatten ↔ file.uses .string = true := by
  rw [cppPreamble, Block.flatten_ifAny]
  simp [cppIncludes]

theorem vector_mem_cppPreamble_iff (file : SourceFile) :
    "#include <vector>" ∈ (cppPreamble file).flatten ↔ file.uses .array = true := by
  rw [cppPreamble, Block.flatten_ifAny]
  simp [cppIncludes]

end CFamily

/-- What stands before the classes of a Java file. -/
def Java.preamble (file : SourceFile) : Layout :=
  if file.uses .array then [["import java.util.List;"]] else []

theorem Java.list_mem_preamble_iff (file : SourceFile) :
    "import java.util.List;" ∈ (Java.preamble file).flatten ↔ file.uses .array = true := by
  rw [Java.preamble]
  split <;> simp [*]

/-! ### Declared fields -/

namespace SourceFile

/-- A declared field ends in a primitive kind, through any arrays. -/
def HasLeaf (file : SourceFile) (kind : Primitive) : Prop :=
  ∃ d ∈ file.declarations, ∃ f ∈ d.fields, f.shape.leaf? = some kind

/-- A declared field is an array. -/
def HasArray (file : SourceFile) : Prop :=
  ∃ d ∈ file.declarations, ∃ f ∈ d.fields, f.shape.isArray = true

end SourceFile

namespace Target

section Assembled

variable {target : Target} (htarget : target ∈ Catalogue.builtin) {options : Options}
  {root : Node} {file : SourceFile} (h : target.assemble options root = .ok file)

include htarget h

/-- **A file uses the features of its declared fields**, though they are looked for in the
schema. -/
theorem uses_iff_of_assemble (f : Feature) :
    file.uses f = true ↔
      ∃ d ∈ file.declarations, ∃ field ∈ d.fields, field.shape.uses f = true := by
  obtain ⟨records, hcollect, -, rfl⟩ := (assemble_eq_ok_iff htarget options root file).mp h
  -- the features are looked for in the schema, but those of its records are the same
  have hfeatures : (target.sourceFile options root records).features = Record.features records :=
    features_eq_of_collectRecords hcollect
  rw [SourceFile.uses, hfeatures, List.contains_iff_mem, Record.mem_features]
  simp only [sourceFile, declaration, declaredField, Record.uses_iff, List.mem_map,
    exists_exists_and_eq_and]

theorem uses_feature_iff_of_assemble (kind : Primitive) :
    file.uses kind.feature = true ↔ file.HasLeaf kind := by
  rw [uses_iff_of_assemble htarget h, SourceFile.HasLeaf]
  simp only [Shape.uses_feature_iff]

theorem uses_array_iff_of_assemble : file.uses .array = true ↔ file.HasArray := by
  rw [uses_iff_of_assemble htarget h, SourceFile.HasArray]
  simp only [Shape.uses_array_iff]

end Assembled

/-- **Headers and imports are those that the declared fields ask for.**  A schema whose records
can be collected has the features of its records.  So a file that compiles begins with the
header of truth values in C, those of strings and vectors in C++, and the import of lists in
Java, exactly if a declared field needs it. -/
theorem compile_preamble (options : Options) (root : Node) :
    (∀ records, collectRecords root = .ok records → root.features = Record.features records) ∧
    (∀ text, Target.c.compile options root = .ok text →
      ∃ file, Target.c.assemble options root = .ok file ∧
        text = Layout.text (CFamily.cPreamble file ++
          file.declarations.map (CFamily.struct CFamily.cMember)) ∧
        ("#include <stdbool.h>" ∈ (CFamily.cPreamble file).flatten ↔ file.HasLeaf .boolean)) ∧
    (∀ text, Target.cpp.compile options root = .ok text →
      ∃ file, Target.cpp.assemble options root = .ok file ∧
        text = Layout.text (CFamily.cppPreamble file ++
          file.declarations.map (CFamily.struct CFamily.cppMember)) ∧
        ("#include <string>" ∈ (CFamily.cppPreamble file).flatten ↔ file.HasLeaf .string) ∧
        ("#include <vector>" ∈ (CFamily.cppPreamble file).flatten ↔ file.HasArray)) ∧
    (∀ text, Target.java.compile options root = .ok text →
      ∃ file, Target.java.assemble options root = .ok file ∧
        text = Layout.text (Java.preamble file ++
          file.declarations.map (Java.classDecl (Java.visibility file))) ∧
        ("import java.util.List;" ∈ (Java.preamble file).flatten ↔ file.HasArray)) := by
  have hc : Target.c ∈ Catalogue.builtin := by simp [Catalogue.builtin]
  have hcpp : Target.cpp ∈ Catalogue.builtin := by simp [Catalogue.builtin]
  have hjava : Target.java ∈ Catalogue.builtin := by simp [Catalogue.builtin]
  refine ⟨fun _ hcollect => features_eq_of_collectRecords hcollect, ?_, ?_, ?_⟩
  · intro text htext
    obtain ⟨file, hfile, rfl⟩ := (compile_eq_ok_iff _ options root text).mp htext
    refine ⟨file, hfile, rfl, ?_⟩
    rw [CFamily.stdbool_mem_cPreamble_iff]
    exact uses_feature_iff_of_assemble hc hfile .boolean
  · intro text htext
    obtain ⟨file, hfile, rfl⟩ := (compile_eq_ok_iff _ options root text).mp htext
    refine ⟨file, hfile, rfl, ?_, ?_⟩
    · rw [CFamily.string_mem_cppPreamble_iff]
      exact uses_feature_iff_of_assemble hcpp hfile .string
    · rw [CFamily.vector_mem_cppPreamble_iff]
      exact uses_array_iff_of_assemble hcpp hfile
  · intro text htext
    obtain ⟨file, hfile, rfl⟩ := (compile_eq_ok_iff _ options root text).mp htext
    refine ⟨file, hfile, rfl, ?_⟩
    rw [Java.list_mem_preamble_iff]
    exact uses_array_iff_of_assemble hjava hfile

/-- The truth value stands in a type that is used twice and declared once. -/
theorem compile_preamble_of_shared :
    ∃ text file,
      Target.c.compile ⟨false, "main"⟩ (.object (some "Panel")
        [("left", .object (.object (some "Lamp") [("on", .primitive .boolean)])),
          ("right", .object (.object (some "Lamp") [("on", .primitive .boolean)]))]) = .ok text ∧
      text = Layout.text (CFamily.cPreamble file ++
        file.declarations.map (CFamily.struct CFamily.cMember)) ∧
      "#include <stdbool.h>" ∈ (CFamily.cPreamble file).flatten := by
  obtain ⟨file, hfile, htext, hbool⟩ := (compile_preamble ⟨false, "main"⟩ (.object (some "Panel")
    [("left", .object (.object (some "Lamp") [("on", .primitive .boolean)])),
      ("right", .object (.object (some "Lamp") [("on", .primitive .boolean)]))])).2.1 _ rfl
  obtain rfl := Except.ok.inj hfile
  exact ⟨_, _, rfl, htext, hbool.mpr ⟨_, List.mem_cons_self, _, List.mem_cons_self, rfl⟩⟩

end Target

end SchemaDecl
