import SchemaDecl.Proofs.Compile.Token
import SchemaDecl.Proofs.Target.Lines
import SchemaDecl.Proofs.Target.PropertyName
import SchemaDecl.Proofs.Text.FirstWord

/-!
# The lines of scripts

A line of a script ends at a line feed, but also at a carriage return and at the separators of
lines and of paragraphs.  What a schema contributes to a script has none of them: the name of a
type is a word, and all that ends a line is blank; the name of a field is bare, or quoted with
escapes for each of them.  So a script has the lines it was laid out in, and a comment goes up to
the end of its own line.

## Main definitions

* `Script.endsLine`, `Script.lines` — the lines of a script.
* `Script.isOneLine` — a text stays in one line.
* `Script.WrittenIn` — the lines of a text are those of a layout.

## Main results

* `Script.isOneLine_propertyKey`, `Script.isOneLine_memberOfThis` — names of fields.
* `Script.isOneLine_name_of_collectRecords` — names of types.
* `Target.compile_script_lines` — **scripts have the lines of their declarations**.
-/

namespace SchemaDecl

namespace Script

/-! ### Lines -/

/-- Whether a character ends a line of a script. -/
def endsLine (c : Char) : Bool := c == '\n' || c == '\r' || c == '\u2028' || c == '\u2029'

/-- The lines of a script, each without its end. -/
def lines (text : String) : List String :=
  (text.toList.splitOnP endsLine).dropLast.map String.ofList

/-- Whether a text stays in one line of a script. -/
def isOneLine (s : String) : Bool := s.toList.all fun c => !endsLine c

/-- The lines of the text are those of the layout, with an empty line between two blocks.  Each of
them ends in a line feed, and so does nothing else. -/
structure WrittenIn (text : String) (blocks : Layout) : Prop where
  lines_eq : lines text = [""].intercalate blocks
  text_eq : text = Block.text (lines text)
  eq_of_endsLine : ∀ c ∈ text.toList, endsLine c = true → c = '\n'

@[simp] theorem isOneLine_append (s t : String) :
    isOneLine (s ++ t) = (isOneLine s && isOneLine t) := by
  rw [isOneLine, String.toList_append, List.all_append]
  rfl

theorem isOneLine_iff (s : String) :
    isOneLine s = true ↔ ∀ c ∈ s.toList, endsLine c = false := by
  simp [isOneLine]

/-- **Lines without an end in them can be told from their text.** -/
theorem lines_text {block : Block} (h : ∀ l ∈ block, isOneLine l = true) :
    lines (Block.text block) = block := by
  induction block with
  | nil => rfl
  | cons line rest ih =>
    obtain ⟨hline, hrest⟩ := List.forall_mem_cons.mp h
    have htext : (Block.text (line :: rest)).toList
        = line.toList ++ '\n' :: (Block.text rest).toList := by
      rw [Block.text_cons]
      simp
    -- the first line ends at the first line feed, since there is none in it
    have hsplit := List.splitOnP_append_cons_of_forall_mem ((isOneLine_iff line).mp hline) '\n'
      (by decide) (Block.text rest).toList
    have hlines : lines (Block.text (line :: rest)) = line :: lines (Block.text rest) := by
      rw [lines, htext, hsplit, List.dropLast_cons_of_ne_nil (List.splitOnP_ne_nil _ _),
        List.map_cons, String.ofList_toList]
      rfl
    rw [hlines, ih hrest]

/-- Only line feeds end lines in the text of single lines. -/
theorem eq_of_endsLine_of_mem_text {block : Block} (h : ∀ l ∈ block, isOneLine l = true)
    {c : Char} (hc : c ∈ (Block.text block).toList) (hend : endsLine c = true) : c = '\n' := by
  induction block with
  | nil => cases hc
  | cons line rest ih =>
    obtain ⟨hline, hrest⟩ := List.forall_mem_cons.mp h
    rw [Block.text_cons, String.toList_append, String.toList_append, List.mem_append,
      List.mem_append] at hc
    rcases hc with (hc | hc) | hc
    · rw [(isOneLine_iff line).mp hline c hc] at hend
      cases hend
    · exact List.mem_singleton.mp hc
    · exact ih hrest hc

/-- A layout of single lines is written in its lines. -/
theorem writtenIn_text {blocks : Layout} (h : ∀ b ∈ blocks, ∀ l ∈ b, isOneLine l = true) :
    WrittenIn blocks.text blocks := by
  have hall : ∀ l ∈ [""].intercalate blocks, isOneLine l = true := by
    intro l hl
    rcases List.eq_or_mem_of_mem_intercalate hl with rfl | ⟨b, hb, hl⟩
    · rfl
    · exact h b hb l hl
  have hlines : lines blocks.text = [""].intercalate blocks := by
    rw [Layout.text_eq_block_text, lines_text hall]
  refine ⟨hlines, ?_, ?_⟩
  · rw [hlines, Layout.text_eq_block_text]
  · intro c hc hend
    rw [Layout.text_eq_block_text] at hc
    exact eq_of_endsLine_of_mem_text hall hc hend

/-! ### What has no line ends -/

/-- All that ends a line is blank. -/
theorem isBlank_of_endsLine {c : Char} (h : endsLine c = true) : Text.isBlank c = true := by
  simp only [endsLine, Bool.or_eq_true, beq_iff_eq] at h
  rcases h with ((rfl | rfl) | rfl) | rfl <;> decide

/-- A word stays in one line. -/
theorem isOneLine_of_firstWord? {s w : String} (h : Text.firstWord? s = some w) :
    isOneLine w = true := by
  obtain ⟨hchars, -⟩ := Text.firstWord?_eq_some_iff.mp h
  rw [isOneLine_iff, ← hchars]
  intro c hc
  rw [Bool.eq_false_iff]
  intro hend
  have hblank := Text.not_isBlank_of_mem_firstWordChars hc
  rw [isBlank_of_endsLine hend] at hblank
  cases hblank

/-- The names of records are words, whether they are made of titles or of fields. -/
theorem isOneLine_name_of_collectRecords {root : Node} {records : List Record}
    (h : collectRecords root = .ok records) {r : Record} (hr : r ∈ records) :
    isOneLine r.name = true :=
  isOneLine_of_firstWord? (firstWord?_of_collectRecords h hr)

theorem not_endsLine_of_isIdentChar {c : Char} (h : isIdentChar c = true) :
    endsLine c = false := by
  rw [Bool.eq_false_iff]
  intro hend
  simp only [endsLine, Bool.or_eq_true, beq_iff_eq] at hend
  rcases hend with ((rfl | rfl) | rfl) | rfl <;> exact absurd h (by decide)

theorem isOneLine_of_isIdentifier {name : String} (h : isIdentifier name = true) :
    isOneLine name = true := by
  obtain ⟨-, -, -, -, hchars⟩ := (isIdentifier_iff name).mp h
  rw [isOneLine_iff]
  intro c hc
  exact not_endsLine_of_isIdentChar ((isIdentChar_iff c).mpr (hchars c hc))

/-- **No character is spelled with the end of a line**: what would end a line is escaped. -/
theorem not_endsLine_of_mem_escape {c d : Char} (h : d ∈ Text.escape c) : endsLine d = false := by
  have hfixed : ∀ cs : List Char, cs.all (fun e => !endsLine e) = true →
      ∀ e ∈ cs, endsLine e = false := by
    intro cs hcs e he
    simpa using List.all_eq_true.mp hcs e he
  have hdigits : ∀ n < 16, endsLine (Nat.digitChar n) = false := by decide
  unfold Text.escape at h
  split_ifs at h with hquote hbackslash hline hreturn htab hnull hhex
  · exact hfixed _ rfl d h
  · exact hfixed _ rfl d h
  · exact hfixed _ rfl d h
  · exact hfixed _ rfl d h
  · exact hfixed _ rfl d h
  · exact hfixed _ rfl d h
  · unfold Text.hexEscape at h
    rcases List.mem_append.mp h with h | h
    · rcases List.mem_append.mp h with h | h
      · exact hfixed _ rfl d h
      · obtain ⟨n, hn, rfl⟩ := exists_digitChar_of_mem_toDigits h
        exact hdigits n hn
    · exact hfixed _ rfl d h
  · -- the separators of lines and paragraphs have no glyph, so they are not spelled like this
    obtain rfl := List.mem_singleton.mp h
    have hprintable : ∀ {e : Char}, Text.isUnprintable e = true → d ≠ e := by
      rintro e hunprintable rfl
      exact hhex (by rw [hunprintable, Bool.or_true])
    have hlineSeparator : d ≠ '\u2028' := hprintable (by decide +kernel)
    have hparagraphSeparator : d ≠ '\u2029' := hprintable (by decide +kernel)
    simp [endsLine, hline, hreturn, hlineSeparator, hparagraphSeparator]

theorem isOneLine_quoted (s : String) : isOneLine (Text.quoted s) = true := by
  rw [isOneLine_iff, toList_quoted]
  intro c hc
  rcases List.mem_cons.mp hc with rfl | hc
  · decide
  · rcases List.mem_append.mp hc with hc | hc
    · obtain ⟨d, -, hd⟩ := List.mem_flatMap.mp hc
      exact not_endsLine_of_mem_escape hd
    · rw [List.mem_singleton.mp hc]
      decide

theorem isOneLine_propertyKey (name : String) : isOneLine (propertyKey name) = true := by
  rw [propertyKey]
  split
  · next hident => exact isOneLine_of_isIdentifier hident
  · exact isOneLine_quoted name

theorem isOneLine_memberOfThis (name : String) : isOneLine (memberOfThis name) = true := by
  rw [memberOfThis]
  split
  · next hident => simp +decide [isOneLine_of_isIdentifier hident]
  · simp +decide [isOneLine_quoted]

theorem isOneLine_defaultValue {f : DeclaredField} (h : isOneLine f.token.type = true) :
    isOneLine (defaultValue f) = true := by
  unfold defaultValue
  split
  case h_7 => simp +decide [h]
  all_goals decide

/-! ### Declarations -/

/-- The type can be declared in lines: its name and the types of its fields stay in one line. -/
structure Writable (d : Declaration) : Prop where
  name : isOneLine d.name = true
  type : ∀ f ∈ d.fields, isOneLine f.token.type = true

theorem isOneLine_visibility (file : SourceFile) : isOneLine (visibility file) = true := by
  unfold visibility
  split <;> decide

theorem isOneLine_interface {modifier : String} (hmodifier : isOneLine modifier = true)
    {d : Declaration} (h : Writable d) : ∀ l ∈ interface modifier d, isOneLine l = true := by
  intro l hl
  rw [interface, List.mem_append, List.mem_append, List.mem_singleton, List.mem_singleton,
    List.mem_map] at hl
  rcases hl with (rfl | ⟨f, hf, rfl⟩) | rfl
  · simp +decide [hmodifier, h.name]
  · simp +decide [isOneLine_propertyKey, h.type f hf]
  · decide

theorem isOneLine_assignment {f : DeclaredField} (h : isOneLine f.token.type = true) :
    isOneLine (assignment f) = true := by
  simp +decide [assignment, isOneLine_memberOfThis, isOneLine_defaultValue h, h]

theorem isOneLine_classDecl {modifier : String} (hmodifier : isOneLine modifier = true)
    {d : Declaration} (h : Writable d) : ∀ l ∈ classDecl modifier d, isOneLine l = true := by
  have hopening : ∀ l ∈ [modifier ++ "class " ++ d.name ++ " \x7b", "  constructor() \x7b"],
      isOneLine l = true := by
    simp +decide [hmodifier, h.name]
  have hclosing : ∀ l ∈ ["  \x7d", "\x7d"], isOneLine l = true := by decide
  intro l hl
  rw [classDecl, List.mem_append, List.mem_append, List.mem_map] at hl
  rcases hl with (hl | ⟨f, hf, rfl⟩) | hl
  · exact hopening l hl
  · exact isOneLine_assignment (h.type f hf)
  · exact hclosing l hl

theorem length_interface (modifier : String) (d : Declaration) :
    (interface modifier d).length = 2 + d.fields.length := by
  simp [interface]
  omega

theorem length_classDecl (modifier : String) (d : Declaration) :
    (classDecl modifier d).length = 4 + d.fields.length := by
  simp [classDecl]
  omega

end Script

namespace Target

/-- TypeScript and JavaScript. -/
def IsScript (target : Target) : Prop := target = .typescript ∨ target = .javascript

theorem IsScript.mem_builtin {target : Target} (h : target.IsScript) :
    target ∈ Catalogue.builtin := by
  rcases h with rfl | rfl <;> simp [Catalogue.builtin]

theorem IsScript.typeIdent {target : Target} (h : target.IsScript) (isPublic : Bool)
    (name : String) : target.typeIdent isPublic name = name := by
  rcases h with rfl | rfl <;> rfl

/-- In scripts the spelling of a shape stays in one line if the name it refers to does. -/
theorem IsScript.isOneLine_spell {target : Target} (h : target.IsScript) (isPublic : Bool)
    {shape : Shape} (hname : ∀ name, shape.ref? = some name → Script.isOneLine name = true)
    (asElement : Bool) :
    Script.isOneLine (target.spell isPublic shape asElement) = true := by
  induction shape generalizing asElement with
  | primitive kind =>
    have hkinds : ∀ kind ∈ Primitive.all, Script.isOneLine (Script.primitive kind) = true := by
      decide
    rcases h with rfl | rfl <;> cases asElement <;> exact hkinds kind kind.mem_all
  | object name =>
    rw [spell_object, h.typeIdent]
    exact hname name rfl
  | array element ih =>
    have hcontainer : ∀ inner, target.container inner = inner ++ "[]" := by
      intro inner
      rcases h with rfl | rfl <;> rfl
    rw [spell_array, hcontainer, Script.isOneLine_append, ih hname true]
    rfl

/-- The declarations of a script can be written in lines. -/
theorem IsScript.writable {target : Target} (h : target.IsScript) {options : Options}
    {root : Node} {file : SourceFile} (hassemble : target.assemble options root = .ok file) :
    ∀ d ∈ file.declarations, Script.Writable d := by
  obtain ⟨records, hcollect, -, rfl⟩ :=
    (assemble_eq_ok_iff h.mem_builtin options root file).mp hassemble
  have hname : ∀ {r : Record}, r ∈ records → Script.isOneLine r.name = true :=
    fun hr => Script.isOneLine_name_of_collectRecords hcollect hr
  intro d hd
  refine ⟨?_, ?_⟩
  · obtain ⟨r, hr, rfl⟩ := List.mem_map.mp hd
    rw [declaration, h.typeIdent]
    exact hname hr
  · intro f hf
    obtain ⟨r, hr, field, hfield, rfl⟩ := exists_of_mem_sourceFile hd hf
    refine h.isOneLine_spell _ (fun name href => ?_) false
    -- the shape of a field refers to a record
    have hrefs : name ∈ r.refs := List.mem_filterMap.mpr ⟨field, hfield, href⟩
    obtain ⟨d, hd, rfl⟩ := List.mem_map.mp
      ((refersBack_of_collectRecords hcollect).mem_names hr hrefs)
    exact hname hd

/-- **Scripts have the lines of their declarations.**  Whatever the titles and the names of fields
are, nothing but line feeds ends a line in them.  In TypeScript a type with `k` fields has `2 + k`
lines and in JavaScript `4 + k`, and an empty line stands between two types.  In JavaScript the
comment behind the default value of a field goes up to the end of a line, and has the type of the
field. -/
theorem compile_script_lines (options : Options) (root : Node) (text : String) :
    (Target.typescript.compile options root = .ok text →
      ∃ file, Target.typescript.assemble options root = .ok file ∧
        Script.WrittenIn text (file.declarations.map (Script.interface (Script.visibility file))) ∧
        ∀ d ∈ file.declarations,
          (Script.interface (Script.visibility file) d).length = 2 + d.fields.length) ∧
    (Target.javascript.compile options root = .ok text →
      ∃ file, Target.javascript.assemble options root = .ok file ∧
        Script.WrittenIn text (file.declarations.map (Script.classDecl (Script.visibility file))) ∧
        ∀ d ∈ file.declarations,
          (Script.classDecl (Script.visibility file) d).length = 4 + d.fields.length ∧
          ∀ f ∈ d.fields, ∃ statement,
            statement ++ "; // " ++ f.token.type ∈ Script.lines text) := by
  refine ⟨?_, ?_⟩
  · intro h
    obtain ⟨file, hassemble, rfl⟩ := (compile_eq_ok_iff _ options root text).mp h
    have hwritable := IsScript.writable (Or.inl rfl) hassemble
    have hlines := Script.writtenIn_text (List.forall_mem_map.mpr fun d hd =>
      Script.isOneLine_interface (Script.isOneLine_visibility file) (hwritable d hd))
    exact ⟨file, hassemble, hlines, fun d _ => Script.length_interface _ d⟩
  · intro h
    obtain ⟨file, hassemble, rfl⟩ := (compile_eq_ok_iff _ options root text).mp h
    have hwritable := IsScript.writable (Or.inr rfl) hassemble
    have hlines := Script.writtenIn_text (List.forall_mem_map.mpr fun d hd =>
      Script.isOneLine_classDecl (Script.isOneLine_visibility file) (hwritable d hd))
    refine ⟨file, hassemble, hlines, fun d hd => ⟨Script.length_classDecl _ d, ?_⟩⟩
    intro f hf
    -- the type is what comes last in the line of its field
    have hmem : Script.assignment f ∈ Script.classDecl (Script.visibility file) d :=
      List.mem_append_left _ (List.mem_append_right _ (List.mem_map_of_mem hf))
    have hline := (List.infix_intercalate (List.mem_map_of_mem hd) [""]).subset hmem
    rw [← hlines.lines_eq] at hline
    exact ⟨_, hline⟩

/-- The title and the name of the field have separators in them, but the script has five lines. -/
theorem compile_script_lines_of_separators :
    ∃ text, Target.javascript.compile ⟨true, "main"⟩
        (.object (some "Order\u2028Line") [("\u2029\n//", .primitive .string)]) = .ok text ∧
      Script.lines text =
        ["export class Order \x7b", "  constructor() \x7b",
          "    this[\"\\u\x7b2029\x7d\\n//\"] = ''; // string", "  \x7d", "\x7d"] := by
  obtain ⟨file, hassemble, hlines, -⟩ := (compile_script_lines ⟨true, "main"⟩
    (.object (some "Order\u2028Line") [("\u2029\n//", .primitive .string)]) _).2 rfl
  obtain rfl := Except.ok.inj hassemble
  refine ⟨_, rfl, ?_⟩
  rw [hlines.lines_eq]
  decide +kernel

end Target

end SchemaDecl
