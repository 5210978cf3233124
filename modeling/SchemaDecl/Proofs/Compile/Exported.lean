import SchemaDecl.Proofs.Compile.Fault
import SchemaDecl.Proofs.Target.Spelling
import SchemaDecl.Proofs.Text.Capital

/-!
# What public Go exports

Go exports what begins with a capital letter, so the public option respells names: a type is
capitalized, and a field is written in camel case.  The two treat names differently.  Camel case
passes over what stands before the first word, but leaves nothing if there is no word;
capitalizing changes the first character only, whatever it is.  Neither makes a capital of a digit
or of a letter without case.

## Main definitions

* `Declaration.Exported` — the type and all its fields have identifiers that Go exports.
* `Record.HasCapitals` — the characters that are to become capitals have one.

## Main results

* `Target.exported_declaration_iff` — one record.
* `Target.compile_exports` — **public Go exports the types whose names have capitals**.
* `Target.not_compile_exports` — and not all types that it declares.
-/

namespace SchemaDecl

/-- Go exports the type and its fields: their identifiers are not empty and begin with capital
letters. -/
def Declaration.Exported (d : Declaration) : Prop :=
  (d.name ≠ "" ∧ Text.beginsWithCapital d.name = true) ∧
    ∀ f ∈ d.fields, f.ident ≠ "" ∧ Text.beginsWithCapital f.ident = true

/-- The first character of the type's name has a capital, and so has the first character of a word
in the name of each field. -/
def Record.HasCapitals (r : Record) : Prop :=
  r.name.toList.head?.any Text.hasCapital = true ∧
    ∀ f ∈ r.fields, (f.name.toList.find? Text.isWordChar).any Text.hasCapital = true

theorem Text.ne_empty_of_beginsWithCapital {s : String} (h : beginsWithCapital s = true) :
    s ≠ "" := by
  rintro rfl
  cases h

namespace Target

@[simp] theorem fieldIdent_go_true (name : String) :
    Target.go.fieldIdent true name = Text.upperCamelCase name := by
  simp only [Target.go, if_true]

/-- **A record is exported exactly if its names have capitals.** -/
theorem exported_declaration_iff (r : Record) :
    (Target.go.declaration true r).Exported ↔ r.HasCapitals := by
  have hexported : ∀ ident : String,
      (ident ≠ "" ∧ Text.beginsWithCapital ident = true) ↔ Text.beginsWithCapital ident = true :=
    fun ident => and_iff_right_of_imp Text.ne_empty_of_beginsWithCapital
  simp only [Declaration.Exported, hexported]
  simp only [Record.HasCapitals, declaration, declaredField, List.forall_mem_map,
    typeIdent_go_true, fieldIdent_go_true, Text.beginsWithCapital_capitalize,
    Text.beginsWithCapital_upperCamelCase]

theorem name_ne_empty_of_collectRecords {root : Node} {records : List Record}
    (h : collectRecords root = .ok records) {r : Record} (hr : r ∈ records) : r.name ≠ "" :=
  (Text.firstWord?_eq_some_iff.mp (firstWord?_of_collectRecords h hr)).2

/-- **Public Go exports the types whose names have capitals.**  The identifier of a type is never
empty; that of a field is, if there is no word in its name.  A type is exported with all its fields
exactly if the first character of its name has a capital, and so has the first character of a word
in the name of each field. -/
theorem compile_exports {options : Options} (hpublic : options.isPublic = true) {root : Node}
    {text : String} (h : Target.go.compile options root = .ok text) :
    ∃ records file, collectRecords root = .ok records ∧
      Target.go.assemble options root = .ok file ∧ text = Target.go.render file ∧
      List.Forall₂ (fun d r => d.name ≠ "" ∧ (d.Exported ↔ r.HasCapitals))
        file.declarations records ∧
      ∀ d ∈ file.declarations, ∀ f ∈ d.fields,
        f.ident = "" ↔ ∀ c ∈ f.name.toList, Text.isWordChar c = false := by
  have hgo : Target.go ∈ Catalogue.builtin := by simp [Catalogue.builtin]
  obtain ⟨file, hassemble, htext⟩ := (compile_eq_ok_iff _ options root text).mp h
  obtain ⟨records, hcollect, -, rfl⟩ := (assemble_eq_ok_iff hgo options root file).mp hassemble
  have hshows : Target.go.showsPublic options = true := by
    rw [showsPublic, hpublic]
    rfl
  refine ⟨records, _, hcollect, hassemble, htext, ?_, ?_⟩
  · rw [sourceFile, hshows, List.forall₂_map_left_iff, List.forall₂_same]
    intro r hr
    refine ⟨?_, exported_declaration_iff r⟩
    rw [declaration, typeIdent_go_true]
    exact Text.capitalize_ne_empty (name_ne_empty_of_collectRecords hcollect hr)
  · rw [sourceFile, hshows]
    intro d hd f hf
    obtain ⟨r, -, rfl⟩ := List.mem_map.mp hd
    obtain ⟨field, -, rfl⟩ := List.mem_map.mp hf
    rw [declaredField, fieldIdent_go_true]
    exact Text.upperCamelCase_eq_empty_iff field.name

/-- Both names of this schema have capitals, though the field begins with an underscore. -/
theorem compile_exports_of_capitals :
    ∃ text file, Target.go.compile ⟨true, "main"⟩
        (.object (some "order") [("_id", .primitive .string)]) = .ok text ∧
      Target.go.assemble ⟨true, "main"⟩
        (.object (some "order") [("_id", .primitive .string)]) = .ok file ∧
      ∀ d ∈ file.declarations, d.Exported := by
  have htext : Target.go.compile ⟨true, "main"⟩
      (.object (some "order") [("_id", .primitive .string)]) = .ok _ := rfl
  obtain ⟨records, file, hcollect, hassemble, -, hexports, -⟩ := compile_exports rfl htext
  obtain rfl := Except.ok.inj hcollect
  obtain rfl := Except.ok.inj hassemble
  have hname : Text.hasCapital 'o' = true := Text.hasCapital_of_isAlpha (by decide)
  have hfirst : "_id".toList.find? Text.isWordChar = some 'i' := by decide +kernel
  have hfield : Text.hasCapital 'i' = true := Text.hasCapital_of_isAlpha (by decide)
  have hcapitals : (Record.mk "order" [⟨"_id", .primitive .string⟩]).HasCapitals := by
    refine ⟨hname, List.forall_mem_singleton.mpr ?_⟩
    rw [hfirst]
    exact hfield
  cases hexports with
  | cons hhead htail =>
    cases htail
    exact ⟨_, _, htext, hassemble, List.forall_mem_singleton.mpr (hhead.2.mpr hcapitals)⟩

/-- **Public Go does not export all types that it declares.**  An underscore is its own upper-case
form, so this type keeps its name. -/
theorem not_compile_exports :
    ¬ ∀ (options : Options) (root : Node) (text : String), options.isPublic = true →
      Target.go.compile options root = .ok text →
      ∃ file, Target.go.assemble options root = .ok file ∧ text = Target.go.render file ∧
        ∀ d ∈ file.declarations, d.Exported := by
  intro h
  obtain ⟨file, hassemble, -, hexported⟩ := h ⟨true, "main"⟩
    (.object (some "_order") [("_id", .primitive .string)]) _ rfl rfl
  obtain rfl := Except.ok.inj hassemble
  have horder := (hexported _ List.mem_cons_self).1.2
  exact absurd horder (by decide +kernel)

end Target

end SchemaDecl
