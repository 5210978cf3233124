import SchemaDecl.Proofs.Compile.Reference
import SchemaDecl.Proofs.Target.GoTag
import SchemaDecl.Proofs.Target.Lines
import SchemaDecl.Proofs.Target.RustLiteral

/-!
# Names in documents

Rust and Go respell the names of fields, and keep beside each field the name that it has in
documents: Rust in an attribute above it, Go in a tag behind it.  Both write the name as it is into
a literal.  So a name is kept unless it has a character to which the literal, or what stands in it,
gives a meaning of its own.

## Main results

* `Target.declared_names` — declared fields have their names from the schema.
* `Target.compile_rust_attributes`, `Target.compile_go_tags` — **which names are kept**.
* `Target.not_compile_rust_attributes`, `Target.not_compile_go_tags` — not all names are.
-/

namespace SchemaDecl

namespace Rust

theorem member_infix_struct (modifier : String) {d : Declaration} {f : DeclaredField}
    (hf : f ∈ d.fields) : member modifier f <:+: struct modifier d := by
  obtain ⟨before, after, hfields⟩ := List.append_of_mem hf
  refine ⟨["#[derive(Debug, Serialize, Deserialize)]",
    modifier ++ "struct " ++ d.name ++ " \x7b"] ++ before.flatMap (member modifier),
    after.flatMap (member modifier) ++ ["\x7d"], ?_⟩
  rw [struct, hfields, List.flatMap_append, List.flatMap_cons]
  simp only [List.append_assoc]

end Rust

namespace Go

theorem member_infix_struct {d : Declaration} {f : DeclaredField} (hf : f ∈ d.fields) :
    [member f] <:+: struct d := by
  obtain ⟨before, after, hfields⟩ := List.append_of_mem hf
  refine ⟨["type " ++ d.name ++ " struct \x7b"] ++ before.map member,
    after.map member ++ ["\x7d"], ?_⟩
  rw [struct, hfields, List.map_append, List.map_cons]
  simp only [List.append_assoc, List.cons_append, List.nil_append]

end Go

namespace Target

variable {target : Target} {options : Options} {root : Node} {text : String}

/-- The declarations have the field names of the records of the schema. -/
theorem declared_names (htarget : target ∈ Catalogue.builtin) {file : SourceFile}
    (h : target.assemble options root = .ok file) :
    ∃ records, collectRecords root = .ok records ∧
      file.declarations.map (fun d => d.fields.map (·.name))
        = records.map fun r => r.fields.map (·.name) := by
  obtain ⟨records, hcollect, -, rfl⟩ := (assemble_eq_ok_iff htarget options root file).mp h
  refine ⟨records, hcollect, ?_⟩
  rw [sourceFile, List.map_map]
  exact List.map_congr_left fun r _ => declaration_field_names r

/-- **Rust keeps the names of plain characters.**  The declared fields have the names that they have
in the records of the schema.  The attribute of each stands in the text, above the field.  The
literal in it means the name of the field, and no other, exactly if no quote, no backslash and no
carriage return is in the name. -/
theorem compile_rust_attributes (h : Target.rust.compile options root = .ok text) :
    ∃ records file, collectRecords root = .ok records ∧
      Target.rust.assemble options root = .ok file ∧ text = Target.rust.render file ∧
      file.declarations.map (fun d => d.fields.map (·.name))
        = (records.map fun r => r.fields.map (·.name)) ∧
      ∀ d ∈ file.declarations, ∀ f ∈ d.fields,
        Block.StandsIn [Rust.renameAttribute f.name,
          "    " ++ Rust.visibility file ++ f.ident ++ ": " ++ f.token.type ++ ","] text ∧
        ((∀ name, Rust.Keeps (Rust.renameAttribute f.name) name ↔ name = f.name) ↔
          f.name.toList.all Rust.isPlain = true) := by
  obtain ⟨file, hassemble, rfl⟩ := (compile_eq_ok_iff _ options root text).mp h
  obtain ⟨records, hcollect, hnames⟩ := declared_names (by simp [Catalogue.builtin]) hassemble
  refine ⟨records, file, hcollect, hassemble, rfl, hnames,
    fun d hd f hf => ⟨?_, Rust.renameAttribute_keeps_iff f.name⟩⟩
  have hblock : Rust.struct (Rust.visibility file) d ∈ Target.rust.layout file :=
    List.mem_cons_of_mem _ (List.mem_map_of_mem hd)
  exact Layout.standsIn_text hblock (Rust.member_infix_struct _ hf)

/-- The literal of this name is written on two lines. -/
theorem compile_rust_attributes_of_break :
    ∃ text file, Target.rust.compile {} (.object (some "Order") [("it\n'em", .primitive .string)])
        = .ok text ∧
      Target.rust.assemble {} (.object (some "Order") [("it\n'em", .primitive .string)])
        = .ok file ∧
      ∀ d ∈ file.declarations, ∀ f ∈ d.fields,
        ∀ name, Rust.Keeps (Rust.renameAttribute f.name) name ↔ name = f.name := by
  have htext : Target.rust.compile {} (.object (some "Order") [("it\n'em", .primitive .string)])
      = .ok _ := rfl
  obtain ⟨-, file, -, hassemble, -, -, hfields⟩ := compile_rust_attributes htext
  obtain rfl := Except.ok.inj hassemble
  refine ⟨_, _, htext, hassemble, fun d hd f hf => (hfields d hd f hf).2.mpr ?_⟩
  obtain rfl := List.mem_singleton.mp hd
  obtain rfl := List.mem_singleton.mp hf
  decide +kernel

/-- **Rust does not keep every name.**  A quote in the name ends the literal. -/
theorem not_compile_rust_attributes :
    ¬ ∀ (options : Options) (root : Node) (text : String),
      Target.rust.compile options root = .ok text →
      ∃ file, Target.rust.assemble options root = .ok file ∧ text = Target.rust.render file ∧
        ∀ d ∈ file.declarations, ∀ f ∈ d.fields,
          Rust.Keeps (Rust.renameAttribute f.name) f.name := by
  intro h
  obtain ⟨file, hassemble, -, hkeeps⟩ := h {}
    (.object (some "Root") [("a\"b", .primitive .string)]) _ rfl
  obtain rfl := Except.ok.inj hassemble
  have hname := (Rust.keeps_renameAttribute_self_iff _).mp
    (hkeeps _ List.mem_cons_self _ List.mem_cons_self)
  exact absurd hname (by decide)

/-- **Go keeps the names of verbatim characters.**  The declared fields have the names that they have
in the records of the schema.  The tag of each stands in the text, behind the field.  Read as a tag
it gives the field its name and no other, without options, exactly if the name is no dash and has no
backquote, no carriage return, no quote, no backslash, no line break and no comma.  The name is
taken as a key of documents exactly if, besides, it is not empty and consists of letters, digits and
some signs. -/
theorem compile_go_tags (h : Target.go.compile options root = .ok text) :
    ∃ records file, collectRecords root = .ok records ∧
      Target.go.assemble options root = .ok file ∧ text = Target.go.render file ∧
      file.declarations.map (fun d => d.fields.map (·.name))
        = (records.map fun r => r.fields.map (·.name)) ∧
      ∀ d ∈ file.declarations, ∀ f ∈ d.fields,
        Block.StandsIn ["\t" ++ f.ident ++ " " ++ f.token.type ++ " " ++ Go.tag f.name] text ∧
        ((∀ key, Go.Names (Go.tag f.name) key ↔ key = f.name) ↔
          f.name ≠ "-" ∧ f.name.toList.all Go.isVerbatim = true) ∧
        ∀ alphabet : Go.Alphabet,
          (∀ key, alphabet.Takes (Go.tag f.name) key ↔ key = f.name) ↔
            f.name ≠ "-" ∧ alphabet.isKey f.name = true := by
  obtain ⟨file, hassemble, rfl⟩ := (compile_eq_ok_iff _ options root text).mp h
  obtain ⟨records, hcollect, hnames⟩ := declared_names (by simp [Catalogue.builtin]) hassemble
  refine ⟨records, file, hcollect, hassemble, rfl, hnames,
    fun d hd f hf => ⟨?_, Go.tag_names_iff f.name, fun alphabet => alphabet.tag_takes_iff f.name⟩⟩
  have hblock : Go.struct d ∈ Target.go.layout file :=
    List.mem_cons_of_mem _ (List.mem_map_of_mem hd)
  exact Layout.standsIn_text hblock (Go.member_infix_struct hf)

/-- The letters and digits of ASCII, and no others. -/
def asciiAlphabet : Go.Alphabet := ⟨Char.isAlphanum, fun _ _ => rfl⟩

/-- Signs that a key can have. -/
theorem compile_go_tags_of_signs :
    ∃ text file, Target.go.compile {} (.object (some "Order") [("$ref/id", .primitive .string)])
        = .ok text ∧
      Target.go.assemble {} (.object (some "Order") [("$ref/id", .primitive .string)])
        = .ok file ∧
      ∀ d ∈ file.declarations, ∀ f ∈ d.fields,
        (∀ key, Go.Names (Go.tag f.name) key ↔ key = f.name) ∧
        ∀ key, asciiAlphabet.Takes (Go.tag f.name) key ↔ key = f.name := by
  have htext : Target.go.compile {} (.object (some "Order") [("$ref/id", .primitive .string)])
      = .ok _ := rfl
  obtain ⟨-, file, -, hassemble, -, -, hfields⟩ := compile_go_tags htext
  obtain rfl := Except.ok.inj hassemble
  refine ⟨_, _, htext, hassemble, fun d hd f hf => ?_⟩
  obtain ⟨-, hnames, htakes⟩ := hfields d hd f hf
  obtain rfl := List.mem_singleton.mp hd
  obtain rfl := List.mem_singleton.mp hf
  exact ⟨hnames.mpr ⟨by decide, by decide +kernel⟩,
    (htakes asciiAlphabet).mpr ⟨by decide, by decide +kernel⟩⟩

/-- **Go does not keep every name.**  The tag of a dash hides the field. -/
theorem not_compile_go_tags :
    ¬ ∀ (options : Options) (root : Node) (text : String),
      Target.go.compile options root = .ok text →
      ∃ file, Target.go.assemble options root = .ok file ∧ text = Target.go.render file ∧
        ∀ d ∈ file.declarations, ∀ f ∈ d.fields, Go.Names (Go.tag f.name) f.name := by
  intro h
  obtain ⟨file, hassemble, -, hnames⟩ := h {}
    (.object (some "Root") [("-", .primitive .string)]) _ rfl
  obtain rfl := Except.ok.inj hassemble
  have hname := (Go.names_tag_self_iff _).mp
    (hnames _ List.mem_cons_self _ List.mem_cons_self)
  exact hname.1 rfl

end Target

end SchemaDecl
