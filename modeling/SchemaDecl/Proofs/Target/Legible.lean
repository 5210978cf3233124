import SchemaDecl.Proofs.Compile.Token
import SchemaDecl.Proofs.Target.Form
import SchemaDecl.Proofs.Text.Identifier

/-!
# Reading a file back

Where all names are ASCII identifiers, the lines of a file can be told apart: none of them is
empty, a block that declares a type is the one that ends in a brace, and in the line of a field
the name and the type end where a character comes that they have no place for.  So the blocks can
be read back from the text, and the names and types from the blocks.  In Rust the attributes of a
declaration stand in lines of their own; it is left out here.

## Main definitions

* `DeclaredField.Plain`, `Declaration.Plain`, `SourceFile.Plain` — names are identifiers, and types
  are spelled without spaces.
* `Form.Legible` — what a form writes of plain names can stand as lines.
* `Target.brace` — the line by which the declarations of a file are known.

## Main results

* `Target.member_injective`, `Target.name_eq_of_block_eq` — the line of a field shows its name and
  its type, and a block the name of its own.
* `Target.blocks_eq_of_render_eq` — **the text of a file shows the blocks of its declarations**.
-/

namespace SchemaDecl

/-! ### Plain files -/

/-- The field keeps its name, which is an identifier, and its type is one word. -/
structure DeclaredField.Plain (f : DeclaredField) : Prop where
  name : Text.isIdentifier f.name = true
  ident : f.ident = f.name
  type : f.token.type.toList.all Text.isTypeChar = true
  capacity : ∀ name, f.token.capacity = some name → Text.isUnbroken name = true

/-- The type and its fields have plain names. -/
structure Declaration.Plain (d : Declaration) : Prop where
  name : Text.isIdentifier d.name = true
  fields : ∀ f ∈ d.fields, f.Plain

/-- Something is declared, and all of it has plain names. -/
structure SourceFile.Plain (file : SourceFile) : Prop where
  declarations : ∀ d ∈ file.declarations, d.Plain
  declares : file.declarations ≠ []
  constants : ∀ c ∈ file.constants, Text.isUnbroken c.name = true
  values : ∀ c ∈ file.constants, c.value = defaultCapacity

theorem Script.isIdentifier_of_isIdentifier {name : String} (h : Text.isIdentifier name = true) :
    Script.isIdentifier name = true := by
  unfold Text.isIdentifier at h
  unfold Script.isIdentifier
  generalize name.toList = cs at h ⊢
  cases cs with
  | nil => cases h
  | cons c rest =>
    obtain ⟨hc, hrest⟩ := Bool.and_eq_true_iff.mp h
    have hstart : Script.isIdentStart c = true := by
      rw [Script.isIdentStart, hc, Bool.true_or]
    have hchars : rest.all Script.isIdentChar = true := by
      refine List.all_eq_true.mpr fun d hd => ?_
      have hchar : Text.isIdentifierChar d = true := List.all_eq_true.mp hrest d hd
      rw [Text.isIdentifierChar] at hchar
      rw [Script.isIdentChar, hchar, Bool.true_or]
    exact Bool.and_eq_true_iff.mpr ⟨hstart, hchars⟩

/-! ### The lines of fields -/

/-- What stands behind the name of a member in C. -/
def CFamily.suffix : Option String → String
  | some capacity => "[" ++ capacity ++ "];"
  | none => ";"

theorem CFamily.cMember_eq (f : DeclaredField) :
    cMember f = "    " ++ f.token.type ++ " " ++ f.name ++ suffix f.token.capacity := by
  rw [cMember]
  cases f.token.capacity <;> simp only [suffix, String.append_assoc]

theorem CFamily.stops_suffix (capacity : Option String) :
    Text.stops Text.isIdentifierChar (suffix capacity) = true := by
  cases capacity with
  | none => rfl
  | some capacity =>
    rw [suffix, String.append_assoc]
    exact Text.stops_append (by decide) _

theorem CFamily.isSome_eq_of_suffix_eq {a b : Option String} (h : suffix a = suffix b) :
    a.isSome = b.isSome := by
  have hne : ∀ name, suffix (some name) ≠ suffix none := by
    intro name
    rw [suffix, String.append_assoc]
    exact Text.append_ne_of_not_prefix (by decide) _
  cases a with
  | none =>
    cases b with
    | none => rfl
    | some name => exact absurd h.symm (hne name)
  | some name =>
    cases b with
    | none => exact absurd h (hne name)
    | some name' => rfl

theorem Script.all_defaultValue {f : DeclaredField} (h : f.Plain) :
    (defaultValue f).toList.all (fun c => c != ';') = true := by
  have htype : f.token.type.toList.all (fun c => c != ';') = true := by
    refine List.all_eq_true.mpr fun c hc => ?_
    have hchar := List.all_eq_true.mp h.type c hc
    exact (Bool.and_eq_true_iff.mp hchar).2
  unfold defaultValue
  split
  case h_7 => simp only [String.toList_append, List.all_append, htype]; decide
  all_goals decide

section Members

variable {f g : DeclaredField} (hf : f.Plain) (hg : g.Plain)

include hf hg

theorem CFamily.cMember_injective (h : cMember f = cMember g) :
    f.name = g.name ∧ f.token.Agrees g.token := by
  rw [cMember_eq, cMember_eq] at h
  obtain ⟨htype, hname, hsuffix⟩ := Text.append_append_inj_of_stops hf.type hg.type (by decide)
    (Text.all_isIdentifierChar hf.name) (Text.all_isIdentifierChar hg.name)
    (stops_suffix _) (stops_suffix _) h
  exact ⟨hname, htype, isSome_eq_of_suffix_eq hsuffix⟩

/-- In C++ and Java the type stands before the name. -/
theorem DeclaredField.typed_injective {indent : String}
    (h : indent ++ f.token.type ++ " " ++ f.name ++ ";"
      = indent ++ g.token.type ++ " " ++ g.name ++ ";") :
    f.name = g.name ∧ f.token.type = g.token.type := by
  obtain ⟨htype, hname, -⟩ := Text.append_append_inj_of_stops hf.type hg.type (by decide)
    (Text.all_isIdentifierChar hf.name) (Text.all_isIdentifierChar hg.name)
    (by decide) (by decide) h
  exact ⟨hname, htype⟩

theorem Go.member_injective (h : member f = member g) :
    f.name = g.name ∧ f.token.type = g.token.type := by
  have hspelled : ∀ f : DeclaredField, f.Plain →
      member f = "\t" ++ f.name ++ " " ++ f.token.type ++ (" " ++ tag f.name) := by
    intro f hf
    rw [member, hf.ident]
    simp only [String.append_assoc]
  rw [hspelled f hf, hspelled g hg] at h
  obtain ⟨hname, htype, -⟩ := Text.append_append_inj_of_stops
    (Text.all_isIdentifierChar hf.name) (Text.all_isIdentifierChar hg.name) (by decide)
    hf.type hg.type (Text.stops_append (by decide) _) (Text.stops_append (by decide) _) h
  exact ⟨hname, htype⟩

/-- In TypeScript a colon stands between the name and the type. -/
theorem Script.property_injective
    (h : "  " ++ propertyKey f.name ++ ": " ++ f.token.type ++ ";"
      = "  " ++ propertyKey g.name ++ ": " ++ g.token.type ++ ";") :
    f.name = g.name ∧ f.token.type = g.token.type := by
  have hkey : ∀ f : DeclaredField, f.Plain → propertyKey f.name = f.name := fun f hf =>
    if_pos (isIdentifier_of_isIdentifier hf.name)
  rw [hkey f hf, hkey g hg] at h
  obtain ⟨hname, htype, -⟩ := Text.append_append_inj_of_stops
    (Text.all_isIdentifierChar hf.name) (Text.all_isIdentifierChar hg.name) (by decide)
    hf.type hg.type (by decide) (by decide) h
  exact ⟨hname, htype⟩

/-- In JavaScript the type stands in a comment, behind the default value. -/
theorem Script.assignment_injective (h : assignment f = assignment g) :
    f.name = g.name ∧ f.token.type = g.token.type := by
  have hspelled : ∀ f : DeclaredField, f.Plain →
      assignment f
        = "    this." ++ f.name ++ " = " ++ defaultValue f ++ ("; // " ++ f.token.type) := by
    intro f hf
    rw [assignment, memberOfThis, if_pos (isIdentifier_of_isIdentifier hf.name)]
    simp only [← String.append_assoc]
    rfl
  rw [hspelled f hf, hspelled g hg] at h
  obtain ⟨hname, -, hcomment⟩ := Text.append_append_inj_of_stops
    (Text.all_isIdentifierChar hf.name) (Text.all_isIdentifierChar hg.name) (by decide)
    (all_defaultValue hf) (all_defaultValue hg)
    (Text.stops_append (by decide) _) (Text.stops_append (by decide) _) h
  exact ⟨hname, (String.append_right_inj _).mp hcomment⟩

end Members

namespace Target

section Lines

variable {target : Target} (htarget : target ∈ Catalogue.builtin) (hrust : target.name ≠ "rust")

include htarget hrust

/-- **The line of a field shows its name and its type**, and in C whether it is an array. -/
theorem member_injective {f g : DeclaredField} (hf : f.Plain) (hg : g.Plain) {modifier : String}
    (h : (target.form.member f).map (Line.text modifier)
      = (target.form.member g).map (Line.text modifier)) :
    f.name = g.name ∧ f.token.type = g.token.type ∧
      (target.name = "c" → f.token.capacity.isSome = g.token.capacity.isSome) := by
  rcases mem_builtin.mp htarget with rfl | rfl | rfl | rfl | rfl | rfl | rfl
  · obtain ⟨hname, htype, hcapacity⟩ :=
      CFamily.cMember_injective hf hg (List.singleton_inj.mp h)
    exact ⟨hname, htype, fun _ => hcapacity⟩
  · obtain ⟨hname, htype⟩ := DeclaredField.typed_injective hf hg (List.singleton_inj.mp h)
    exact ⟨hname, htype, fun hc => absurd hc (by decide)⟩
  · have hline := List.singleton_inj.mp h
    simp only [Line.text_declaring, ← String.append_assoc] at hline
    obtain ⟨hname, htype⟩ := DeclaredField.typed_injective hf hg hline
    exact ⟨hname, htype, fun hc => absurd hc (by decide)⟩
  · obtain ⟨hname, htype⟩ := Go.member_injective hf hg (List.singleton_inj.mp h)
    exact ⟨hname, htype, fun hc => absurd hc (by decide)⟩
  · exact absurd rfl hrust
  · obtain ⟨hname, htype⟩ := Script.property_injective hf hg (List.singleton_inj.mp h)
    exact ⟨hname, htype, fun hc => absurd hc (by decide)⟩
  · obtain ⟨hname, htype⟩ := Script.assignment_injective hf hg (List.singleton_inj.mp h)
    exact ⟨hname, htype, fun hc => absurd hc (by decide)⟩

theorem length_member (f : DeclaredField) : (target.form.member f).length = 1 := by
  rcases mem_builtin.mp htarget with rfl | rfl | rfl | rfl | rfl | rfl | rfl
  case inr.inr.inr.inr.inl => exact absurd rfl hrust
  all_goals rfl

end Lines

/-- **A block shows the name of its type**, and the lines of its fields. -/
theorem name_eq_of_block_eq {target : Target} (htarget : target ∈ Catalogue.builtin)
    {modifier : String} {d d' : Declaration}
    (h : target.form.block modifier d = target.form.block modifier d') :
    d.name = d'.name ∧
      d.fields.flatMap (fun f => (target.form.member f).map (Line.text modifier))
        = d'.fields.flatMap (fun f => (target.form.member f).map (Line.text modifier)) := by
  -- the opening has as many lines for one name as for another
  have hlength : ((target.form.opening d.name).map (Line.text modifier)).length
      = ((target.form.opening d'.name).map (Line.text modifier)).length := by
    rcases mem_builtin.mp htarget with rfl | rfl | rfl | rfl | rfl | rfl | rfl <;> rfl
  rw [Form.block_eq, Form.block_eq, List.append_left_inj] at h
  obtain ⟨hopening, hmembers⟩ := List.append_inj h hlength
  refine ⟨?_, hmembers⟩
  have hline : ∀ {before name name' after : String},
      before ++ name ++ after = before ++ name' ++ after → name = name' := fun heq =>
    (String.append_right_inj _).mp ((String.append_left_inj _).mp heq)
  have hdeclaring : ∀ {word name name' : String},
      ([.declaring "" (word ++ name ++ " \x7b")] : List Line).map (Line.text modifier)
        = ([.declaring "" (word ++ name' ++ " \x7b")] : List Line).map (Line.text modifier) →
      name = name' := fun heq =>
    hline ((String.append_right_inj _).mp (List.singleton_inj.mp heq))
  -- the name stands between fixed words in the last line of the opening, or in the first
  rcases mem_builtin.mp htarget with rfl | rfl | rfl | rfl | rfl | rfl | rfl
  · exact hline (List.singleton_inj.mp hopening)
  · exact hline (List.singleton_inj.mp hopening)
  · exact hdeclaring hopening
  · exact hline (List.singleton_inj.mp hopening)
  · exact hdeclaring (List.cons.inj hopening).2
  · exact hdeclaring hopening
  · exact hline ((String.append_right_inj _).mp (List.cons.inj hopening).1)

end Target

/-! ### The lines of a block -/

/-- What a form writes of plain names can stand as lines. -/
structure Form.Legible (form : Form) : Prop where
  opening : ∀ {name modifier : String}, Text.isIdentifier name = true →
    Text.isUnbroken modifier = true →
      ∀ l ∈ form.opening name, Text.isLine (l.text modifier) = true
  member : ∀ {f : DeclaredField} {modifier : String}, f.Plain → Text.isUnbroken modifier = true →
      ∀ l ∈ form.member f, Text.isLine (l.text modifier) = true
  closing : ∀ modifier : String, ∀ l ∈ form.closing, Text.isLine (l.text modifier) = true

/-- A block of a legible form has lines only. -/
theorem Form.Legible.isLine_of_mem_block {form : Form} (h : form.Legible) {modifier : String}
    (hmodifier : Text.isUnbroken modifier = true) {d : Declaration} (hd : d.Plain) :
    ∀ l ∈ form.block modifier d, Text.isLine l = true := by
  intro l hl
  obtain ⟨line, hline, rfl⟩ := List.mem_map.mp hl
  rw [Form.lines, List.mem_append, List.mem_append, List.mem_flatMap] at hline
  rcases hline with (hline | ⟨f, hf, hline⟩) | hline
  · exact h.opening hd.name hmodifier line hline
  · exact h.member (hd.fields f hf) hmodifier line hline
  · exact h.closing modifier line hline

/-- The name and the type of a plain field have no breaks. -/
theorem DeclaredField.Plain.isUnbroken {f : DeclaredField} (h : f.Plain) :
    Text.isUnbroken f.name = true ∧ Text.isUnbroken f.token.type = true :=
  ⟨Text.isUnbroken_of_isIdentifier h.name, Text.isUnbroken_of_all_isTypeChar h.type⟩

theorem CFamily.legible_form {member : DeclaredField → String}
    (hmember : ∀ f : DeclaredField, f.Plain → Text.isLine (member f) = true) :
    (form member).Legible where
  opening hname _ := by
    have hunbroken := Text.isUnbroken_of_isIdentifier hname
    simp +decide [form, hunbroken]
  member {f} _ hf _ := by simp [form, hmember f hf]
  closing _ := by simp +decide [form]

theorem CFamily.isLine_cMember {f : DeclaredField} (h : f.Plain) :
    Text.isLine (cMember f) = true := by
  obtain ⟨hname, htype⟩ := h.isUnbroken
  have hsuffix : Text.isUnbroken (suffix f.token.capacity) = true := by
    cases hcapacity : f.token.capacity with
    | none => decide
    | some capacity => simp +decide [suffix, h.capacity capacity hcapacity]
  rw [cMember_eq]
  simp +decide [hname, htype, hsuffix]

theorem CFamily.isLine_cppMember {f : DeclaredField} (h : f.Plain) :
    Text.isLine (cppMember f) = true := by
  obtain ⟨hname, htype⟩ := h.isUnbroken
  simp +decide [cppMember, hname, htype]

theorem Java.legible_form : form.Legible where
  opening hname hmodifier := by
    have hunbroken := Text.isUnbroken_of_isIdentifier hname
    simp +decide [form, hunbroken, hmodifier]
  member hf hmodifier := by
    obtain ⟨hname, htype⟩ := hf.isUnbroken
    simp +decide [form, hname, htype, hmodifier]
  closing _ := by simp +decide [form]

theorem Go.legible_form : form.Legible where
  opening hname _ := by
    have hunbroken := Text.isUnbroken_of_isIdentifier hname
    simp +decide [form, hunbroken]
  member hf _ := by
    obtain ⟨hname, htype⟩ := hf.isUnbroken
    simp +decide [form, Go.member, tag, hf.ident, hname, htype]
  closing _ := by simp +decide [form]

theorem Script.legible_interfaceForm : interfaceForm.Legible where
  opening hname hmodifier := by
    have hunbroken := Text.isUnbroken_of_isIdentifier hname
    simp +decide [interfaceForm, hunbroken, hmodifier]
  member hf _ := by
    obtain ⟨hname, htype⟩ := hf.isUnbroken
    simp +decide [interfaceForm, propertyKey, isIdentifier_of_isIdentifier hf.name, hname, htype]
  closing _ := by simp +decide [interfaceForm]

theorem Script.isUnbroken_defaultValue {f : DeclaredField} (h : f.Plain) :
    Text.isUnbroken (defaultValue f) = true := by
  unfold defaultValue
  split
  case h_7 => simp +decide [h.isUnbroken.2]
  all_goals decide

theorem Script.legible_classForm : classForm.Legible where
  opening hname hmodifier := by
    have hunbroken := Text.isUnbroken_of_isIdentifier hname
    simp +decide [classForm, hunbroken, hmodifier]
  member hf _ := by
    obtain ⟨hname, htype⟩ := hf.isUnbroken
    have hdefault := isUnbroken_defaultValue hf
    simp +decide [classForm, assignment, memberOfThis, isIdentifier_of_isIdentifier hf.name, hname,
      htype, hdefault]
  closing _ := by simp +decide [classForm]

namespace Target

theorem legible_form {target : Target} (htarget : target ∈ Catalogue.builtin)
    (hrust : target.name ≠ "rust") : target.form.Legible := by
  rcases mem_builtin.mp htarget with rfl | rfl | rfl | rfl | rfl | rfl | rfl
  · exact CFamily.legible_form fun _ => CFamily.isLine_cMember
  · exact CFamily.legible_form fun _ => CFamily.isLine_cppMember
  · exact Java.legible_form
  · exact Go.legible_form
  · exact absurd rfl hrust
  · exact Script.legible_interfaceForm
  · exact Script.legible_classForm

theorem isUnbroken_shownModifier {target : Target} (htarget : target ∈ Catalogue.builtin)
    (isPublic : Bool) : Text.isUnbroken (target.shownModifier isPublic) = true := by
  have hall : ∀ target ∈ Catalogue.builtin, ∀ isPublic : Bool,
      Text.isUnbroken (target.shownModifier isPublic) = true := by
    decide +kernel
  exact hall target htarget isPublic

end Target

/-! ### The blocks of a file -/

theorem Layout.legible_ifAny {lines : Block} (h : ∀ l ∈ lines, Text.isLine l = true) :
    Layout.Legible (Block.ifAny lines) := by
  intro b hb l hl
  have hflat : l ∈ (Block.ifAny lines).flatten := List.mem_flatten_of_mem hb hl
  rw [Block.flatten_ifAny] at hflat
  exact h l hflat

theorem CFamily.isLine_define {c : SizeConstant} (hname : Text.isUnbroken c.name = true)
    (hvalue : c.value = defaultCapacity) : Text.isLine (define c) = true := by
  rw [define, hvalue]
  simp +decide [hname]

theorem CFamily.isLine_typedef {d : Declaration} (h : d.Plain) :
    Text.isLine (typedef d) = true := by
  have hname := Text.isUnbroken_of_isIdentifier h.name
  unfold typedef
  simp +decide [hname]

theorem CFamily.legible_cPreamble {file : SourceFile} (h : file.Plain) :
    Layout.Legible (cPreamble file) := by
  have hincludes : Layout.Legible [cIncludes file] := by
    simp only [Layout.Legible, List.forall_mem_singleton, cIncludes]
    cases file.uses .boolean <;> decide
  have hconstants : ∀ l ∈ file.constants.map define, Text.isLine l = true :=
    List.forall_mem_map.mpr fun c hc => isLine_define (h.constants c hc) (h.values c hc)
  have htypedefs : ∀ l ∈ file.declarations.map typedef, Text.isLine l = true :=
    List.forall_mem_map.mpr fun d hd => isLine_typedef (h.declarations d hd)
  rw [cPreamble, Layout.legible_append, Layout.legible_append]
  exact ⟨⟨hincludes, Layout.legible_ifAny hconstants⟩, Layout.legible_ifAny htypedefs⟩

theorem CFamily.legible_cppPreamble (file : SourceFile) : Layout.Legible (cppPreamble file) := by
  refine Layout.legible_ifAny ?_
  rw [cppIncludes]
  cases file.uses .string <;> cases file.uses .array <;> decide

theorem Java.legible_preamble (file : SourceFile) : Layout.Legible (preamble file) := by
  unfold preamble Layout.Legible
  cases file.uses .array <;> decide

/-- Before the structs of a C file no line is a brace. -/
theorem CFamily.brace_not_mem_cPreamble (file : SourceFile) :
    "\x7d;" ∉ (cPreamble file).flatten := by
  have hdefine : ∀ c, define c ≠ "\x7d;" := by
    intro c
    rw [define, String.append_assoc, String.append_assoc]
    exact Text.append_ne_of_not_prefix (by decide) _
  have htypedef : ∀ d, typedef d ≠ "\x7d;" := by
    intro d
    unfold typedef
    simp only [String.append_assoc]
    exact Text.append_ne_of_not_prefix (by decide) _
  rw [cPreamble, List.flatten_append, List.flatten_append, Block.flatten_ifAny,
    Block.flatten_ifAny, List.flatten_singleton]
  simp [cIncludes, hdefine, htypedef]

namespace Target

/-- The last line of a declaration.  No line before the declarations is like it. -/
def brace (target : Target) : String :=
  if target.name = "c" ∨ target.name = "cpp" then "\x7d;" else "\x7d"

section Files

variable {target : Target} (htarget : target ∈ Catalogue.builtin)

include htarget

theorem brace_mem_block (modifier : String) (d : Declaration) :
    target.brace ∈ target.form.block modifier d := by
  rw [Form.block_eq]
  refine List.mem_append_right _ ?_
  rcases mem_builtin.mp htarget with rfl | rfl | rfl | rfl | rfl | rfl | rfl
  case inr.inr.inr.inr.inr.inr => exact List.mem_cons_of_mem _ List.mem_cons_self
  all_goals exact List.mem_cons_self

theorem brace_not_mem_preamble (file : SourceFile) :
    target.brace ∉ (target.preamble file).flatten := by
  rcases mem_builtin.mp htarget with rfl | rfl | rfl | rfl | rfl | rfl | rfl
  · exact CFamily.brace_not_mem_cPreamble file
  · have hpreamble : Target.cpp.preamble file = CFamily.cppPreamble file := rfl
    have hbrace : Target.cpp.brace = "\x7d;" := rfl
    rw [hpreamble, hbrace, CFamily.cppPreamble, Block.flatten_ifAny, CFamily.cppIncludes]
    cases file.uses .string <;> cases file.uses .array <;> decide
  · have hpreamble : Target.java.preamble file = Java.preamble file := rfl
    have hbrace : Target.java.brace = "\x7d" := rfl
    rw [hpreamble, hbrace, Java.preamble]
    cases file.uses .array <;> decide
  · intro hmem
    have hline : "package " ++ file.package = "\x7d" := (List.mem_singleton.mp hmem).symm
    exact Text.append_ne_of_not_prefix (by decide) _ hline
  · intro hmem
    exact absurd (List.mem_singleton.mp hmem) (by decide)
  · exact List.not_mem_nil
  · exact List.not_mem_nil

/-- The blocks with a brace are those of the declarations. -/
theorem filter_layout (file : SourceFile) :
    (target.layout file).filter (fun b => target.brace ∈ b)
      = file.declarations.map (target.form.block (target.shownModifier file.isPublic)) := by
  rw [layout_eq htarget, List.filter_append]
  -- a brace closes each declaration, and there is none before them
  have hpreamble : (target.preamble file).filter (fun b => target.brace ∈ b) = [] := by
    refine List.filter_eq_nil_iff.mpr fun b hb hbrace => ?_
    exact brace_not_mem_preamble htarget file
      (List.mem_flatten_of_mem hb (of_decide_eq_true hbrace))
  have hblocks : ∀ b ∈ file.declarations.map
      (target.form.block (target.shownModifier file.isPublic)), decide (target.brace ∈ b) = true :=
    List.forall_mem_map.mpr fun d _ => decide_eq_true (brace_mem_block htarget _ d)
  rw [hpreamble, List.nil_append, List.filter_eq_self.mpr hblocks]

/-- All lines of a plain file can stand as such, but for the package of a Go file, whose name is the
caller's choice. -/
theorem legible_layout (hrust : target.name ≠ "rust") (hgo : target.name ≠ "go")
    {file : SourceFile} (h : file.Plain) : (target.layout file).Legible := by
  have hpreamble : (target.preamble file).Legible := by
    rcases mem_builtin.mp htarget with rfl | rfl | rfl | rfl | rfl | rfl | rfl
    · exact CFamily.legible_cPreamble h
    · exact CFamily.legible_cppPreamble file
    · exact Java.legible_preamble file
    · exact absurd rfl hgo
    · exact absurd rfl hrust
    · exact fun b hb => absurd hb List.not_mem_nil
    · exact fun b hb => absurd hb List.not_mem_nil
  rw [layout_eq htarget, Layout.legible_append]
  refine ⟨hpreamble, List.forall_mem_map.mpr fun d hd => ?_⟩
  exact (legible_form htarget hrust).isLine_of_mem_block
    (isUnbroken_shownModifier htarget file.isPublic) (h.declarations d hd)

/-- A plain file can be read back up to its layout. -/
theorem layout_eq_of_render_eq (hrust : target.name ≠ "rust") {file file' : SourceFile}
    (h : file.Plain) (h' : file'.Plain) (hpackage : file.package = file'.package)
    (htext : target.render file = target.render file') :
    target.layout file = target.layout file' := by
  by_cases hgo : target.name = "go"
  · -- the package line is the same in both, whatever it looks like
    obtain rfl : target = .go := eq_of_name_eq htarget (by simp [Catalogue.builtin]) hgo
    have hlayout : ∀ file : SourceFile, Target.go.layout file
        = ["package " ++ file.package] :: file.declarations.map Go.struct := fun _ => rfl
    have hblocks : ∀ {file : SourceFile}, file.Plain →
        Layout.Legible (file.declarations.map Go.struct) := by
      intro file h
      refine List.forall_mem_map.mpr fun d hd => ?_
      have hstruct : Go.struct d = Go.form.block "" d := by
        simp [Form.block_eq, Go.form, Go.struct, List.map_eq_flatMap]
      rw [hstruct]
      exact Go.legible_form.isLine_of_mem_block (by decide) (h.declarations d hd)
    rw [render, render, hlayout, hlayout, hpackage] at htext
    rw [hlayout, hlayout, hpackage, Layout.text_cons_injective _ (hblocks h) (hblocks h') htext]
  · have hne : ∀ {file : SourceFile}, file.Plain → target.layout file ≠ [] := by
      intro file h
      rw [layout_eq htarget]
      exact List.append_ne_nil_of_right_ne_nil _ fun hnil =>
        h.declares (List.map_eq_nil_iff.mp hnil)
    exact Layout.text_injective (hne h) (hne h') (legible_layout htarget hrust hgo h)
      (legible_layout htarget hrust hgo h') htext

/-- **The text of a file shows the blocks of its declarations.** -/
theorem blocks_eq_of_render_eq (hrust : target.name ≠ "rust") {file file' : SourceFile}
    (h : file.Plain) (h' : file'.Plain) (hpackage : file.package = file'.package)
    (hpublic : file.isPublic = file'.isPublic)
    (htext : target.render file = target.render file') :
    file.declarations.map (target.form.block (target.shownModifier file.isPublic))
      = file'.declarations.map (target.form.block (target.shownModifier file.isPublic)) := by
  have hlayout := layout_eq_of_render_eq htarget hrust h h' hpackage htext
  have hfilter := filter_layout htarget file'
  rw [← hlayout, filter_layout htarget file, ← hpublic] at hfilter
  exact hfilter

end Files

end Target

end SchemaDecl
