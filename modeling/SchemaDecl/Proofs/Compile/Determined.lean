import SchemaDecl.Proofs.Compile.Capacity
import SchemaDecl.Proofs.Target.Legible

/-!
# The text of a file determines its types

Two schemas that compile to the same text have the same records, if their types and fields are
named by ASCII identifiers and no type is named like a primitive kind of the target.  The blocks
of the file show the names and the types of all fields, and then the spellings of types tell the
shapes.  TypeScript and JavaScript have one spelling for all kinds of numbers, so there the
records are the same but for these.

## Main definitions

* `Record.mapKind` — a record with other kinds in the shapes of its fields.
* `Target.IsTypeName` — the names that no spelling of a kind or an array is like.
* `Target.PlainlyNamed` — records with such names.

## Main results

* `Target.not_spelledIn` — such a name is spelled like nothing else.
* `Target.mapKind_eq_of_block_eq` — a block determines its record.
* `Target.compile_determines` — **the text of a file determines its records**.
-/

/-- Two lists have one image under `k` if they make one list of pieces of a fixed length, and one
piece determines the image. -/
theorem List.map_eq_of_flatMap_eq {α β γ : Type*} {f : α → List β} {k : α → γ} {n : Nat}
    (hlength : ∀ a, (f a).length = n + 1) {l l' : List α}
    (hk : ∀ a ∈ l, ∀ b ∈ l', f a = f b → k a = k b) (h : l.flatMap f = l'.flatMap f) :
    l.map k = l'.map k := by
  have hne : ∀ a, f a ≠ [] := by
    intro a hnil
    have hlen := hlength a
    rw [hnil] at hlen
    cases hlen
  -- along the first list: a first piece can be cut off, since its length is known
  induction l generalizing l' with
  | nil =>
    cases l' with
    | nil => rfl
    | cons b l' =>
      rw [List.flatMap_nil, List.flatMap_cons] at h
      exact absurd (List.append_eq_nil_iff.mp h.symm).1 (hne b)
  | cons a l ih =>
    cases l' with
    | nil =>
      rw [List.flatMap_nil, List.flatMap_cons] at h
      exact absurd (List.append_eq_nil_iff.mp h).1 (hne a)
    | cons b l' =>
      rw [List.flatMap_cons, List.flatMap_cons] at h
      obtain ⟨hhead, hrest⟩ := List.append_inj h ((hlength a).trans (hlength b).symm)
      have htail := ih (fun a ha b hb => hk a (List.mem_cons_of_mem _ ha) b
        (List.mem_cons_of_mem _ hb)) hrest
      rw [List.map_cons, List.map_cons, htail,
        hk a List.mem_cons_self b List.mem_cons_self hhead]

namespace SchemaDecl

/-! ### Kinds that are spelled alike -/

/-- The field with another kind at the end of its shape. -/
def RecordField.mapKind (f : Primitive → Primitive) (field : RecordField) : RecordField :=
  ⟨field.name, field.shape.mapKind f⟩

/-- The record with other kinds in the shapes of its fields. -/
def Record.mapKind (f : Primitive → Primitive) (record : Record) : Record :=
  ⟨record.name, record.fields.map (RecordField.mapKind f)⟩

theorem Shape.mapKind_of_forall {f : Primitive → Primitive} (h : ∀ kind, f kind = kind)
    (shape : Shape) : shape.mapKind f = shape := by
  induction shape with
  | primitive kind => exact congrArg Shape.primitive (h kind)
  | object name => rfl
  | array element ih => exact congrArg Shape.array ih

theorem Record.mapKind_of_forall {f : Primitive → Primitive} (h : ∀ kind, f kind = kind) :
    Record.mapKind f = id := by
  funext record
  have hfield : RecordField.mapKind f = id := funext fun field => by
    rw [RecordField.mapKind, Shape.mapKind_of_forall h]
    rfl
  rw [Record.mapKind, hfield, List.map_id]
  rfl

namespace Target

/-! ### Names of types -/

/-- The name is an ASCII identifier, and no primitive kind is spelled like it, be it as an element
or not. -/
def IsTypeName (target : Target) (name : String) : Prop :=
  Text.isIdentifier name = true ∧ ∀ kind asElement, name ≠ target.spellKind kind asElement

/-- The records have such names, and their fields are named by ASCII identifiers. -/
def PlainlyNamed (target : Target) (records : List Record) : Prop :=
  ∀ r ∈ records, target.IsTypeName r.name ∧ ∀ f ∈ r.fields, Text.isIdentifier f.name = true

/-- The names that plainly named records refer to are such names. -/
theorem PlainlyNamed.isTypeName {target : Target} {records : List Record}
    (h : target.PlainlyNamed records) (hback : RefersBack records) {r : Record}
    (hr : r ∈ records) {field : RecordField} (hfield : field ∈ r.fields) {name : String}
    (hname : field.shape.ref? = some name) : target.IsTypeName name := by
  have hmem := hback.mem_names hr (List.mem_filterMap.mpr ⟨field, hfield, hname⟩)
  obtain ⟨s, hs, rfl⟩ := List.mem_map.mp hmem
  exact (h s hs).1

section Names

variable {target : Target} (htarget : target ∈ Catalogue.builtin)

include htarget

/-- A growing array is written between brackets, of which an identifier has none. -/
theorem container_eq (hname : target.name ≠ "c") :
    ∃ before after : String, (∀ element, target.container element = before ++ element ++ after) ∧
      before.toList.all Text.isTypeChar = true ∧ after.toList.all Text.isTypeChar = true ∧
      (before ++ after).toList.all Text.isIdentifierChar = false := by
  rcases mem_builtin.mp htarget with rfl | rfl | rfl | rfl | rfl | rfl | rfl
  · exact absurd rfl hname
  · exact ⟨"std::vector<", ">", fun _ => rfl, by decide⟩
  · exact ⟨"List<", ">", fun _ => rfl, by decide⟩
  · exact ⟨"[]", "", fun _ => String.append_empty.symm, by decide⟩
  · exact ⟨"Vec<", ">", fun _ => rfl, by decide⟩
  · exact ⟨"", "[]", fun _ => congrArg (· ++ "[]") String.empty_append.symm, by decide⟩
  · exact ⟨"", "[]", fun _ => congrArg (· ++ "[]") String.empty_append.symm, by decide⟩

theorem isIdentifier_container (hname : target.name ≠ "c") (element : String) :
    Text.isIdentifier (target.container element) = false := by
  obtain ⟨before, after, hspell, -, -, hbrackets⟩ := container_eq htarget hname
  rw [Bool.eq_false_iff]
  intro h
  have hchars := Text.all_isIdentifierChar h
  simp only [hspell, String.toList_append, List.all_append, Bool.and_eq_true] at hchars
  rw [String.toList_append, List.all_append, hchars.1.1, hchars.2] at hbrackets
  cases hbrackets

theorem all_isTypeChar_container {element : String}
    (h : element.toList.all Text.isTypeChar = true) :
    (target.container element).toList.all Text.isTypeChar = true := by
  rcases array_of_mem_builtin htarget with ⟨-, -, hcontainer⟩ | ⟨hname, -⟩
  · rw [hcontainer]
    exact h
  · obtain ⟨before, after, hspell, hbefore, hafter, -⟩ := container_eq htarget hname
    simp only [hspell, String.toList_append, List.all_append, hbefore, h, hafter, Bool.and_self]

/-- **The name of a type is spelled like nothing else**, if it is one. -/
theorem not_spelledIn {isPublic : Bool} {name : String} (h : target.IsTypeName name)
    (shape : Shape) : ¬ target.SpelledIn isPublic name shape := by
  intro hspelled
  induction hspelled with
  | kind kind asElement => exact h.2 kind asElement rfl
  | array hname element =>
    have hident := h.1
    rw [isIdentifier_container htarget hname] at hident
    cases hident
  | element _ ih => exact ih h

/-- A shape is spelled without spaces if it refers to identifiers only. -/
theorem all_isTypeChar_spell {isPublic : Bool} (shape : Shape) (asElement : Bool)
    (h : ∀ name, shape.ref? = some name →
      Text.isIdentifier (target.typeIdent isPublic name) = true) :
    (target.spell isPublic shape asElement).toList.all Text.isTypeChar = true := by
  induction shape generalizing asElement with
  | primitive kind =>
    have hkinds : ∀ target ∈ Catalogue.builtin, ∀ kind ∈ Primitive.all, ∀ asElement : Bool,
        (target.spellKind kind asElement).toList.all Text.isTypeChar = true := by
      decide +kernel
    rw [spell_primitive]
    exact hkinds target htarget kind kind.mem_all asElement
  | object name => exact Text.all_isTypeChar_of_isIdentifier (h name rfl)
  | array element ih => exact all_isTypeChar_container htarget (ih true h)

/-! ### Plain files -/

variable {isPublic : Bool}
  (hself : ¬ (target.name = "rust" ∨ target.name = "go" ∧ isPublic = true))

include hself

theorem plain_declaredField {records : List Record} (hback : RefersBack records)
    (h : target.PlainlyNamed records) {r : Record} (hr : r ∈ records) {field : RecordField}
    (hfield : field ∈ r.fields) : (target.declaredField isPublic r.name field).Plain where
  name := (h r hr).2 field hfield
  ident := (ident_eq_self htarget hself field.name).2
  type := by
    refine all_isTypeChar_spell htarget field.shape false fun name hname => ?_
    rw [(ident_eq_self htarget hself name).1]
    exact (h.isTypeName hback hr hfield hname).1
  capacity := by
    intro name hname
    have howner := Text.isUnbroken_of_isIdentifier (h r hr).1.1
    have hfield' := Text.isUnbroken_of_isIdentifier ((h r hr).2 field hfield)
    have hcapacity : name = capacityName r.name field.name := by
      simp only [declaredField, token] at hname
      split at hname
      · exact (Option.some.inj hname).symm
      · cases hname
    simp +decide [hcapacity, capacityName, Text.isUnbroken_uppercaseText howner,
      Text.isUnbroken_uppercaseText hfield']

theorem plain_sourceFile {options : Options} (hoptions : target.showsPublic options = isPublic)
    {root : Node} {records : List Record} (hcollect : collectRecords root = .ok records)
    (h : target.PlainlyNamed records) : (target.sourceFile options root records).Plain := by
  have hback := refersBack_of_collectRecords hcollect
  have hfield : ∀ d ∈ (target.sourceFile options root records).declarations, ∀ f ∈ d.fields,
      f.Plain := by
    intro d hd f hf
    obtain ⟨r, hr, field, hfield, rfl⟩ := exists_of_mem_sourceFile hd hf
    rw [hoptions]
    exact plain_declaredField htarget hself hback h hr hfield
  refine ⟨fun d hd => ⟨?_, hfield d hd⟩, ?_, ?_, ?_⟩
  · obtain ⟨r, hr, rfl⟩ := List.mem_map.mp hd
    rw [declaration, hoptions, (ident_eq_self htarget hself r.name).1]
    exact (h r hr).1.1
  · -- the root at least is declared
    intro hnil
    have hlast := getLast?_of_collectRecords hcollect
    rw [List.map_eq_nil_iff.mp hnil] at hlast
    cases hlast
  · intro c hc
    have hname := (MapContext.names_takeAll _ _ c.name).mp (List.mem_map_of_mem hc)
    rcases hname with ⟨f, hf, hcapacity⟩ | hnil
    · obtain ⟨d, hd, hf⟩ := List.mem_flatMap.mp hf
      exact (hfield d hd f hf).capacity c.name hcapacity
    · cases hnil
  · exact MapContext.value_takeAll _ fun _ hmem => absurd hmem List.not_mem_nil

/-! ### Blocks and records -/

/-- No shape of plainly named records refers to a type that is spelled like something else. -/
theorem not_shadows {records : List Record} (hback : RefersBack records)
    (h : target.PlainlyNamed records) {r : Record} (hr : r ∈ records) {field : RecordField}
    (hfield : field ∈ r.fields) (shape : Shape) :
    ¬ target.Shadows isPublic field.shape shape := by
  rintro ⟨name, hname, hspelled⟩
  rw [(ident_eq_self htarget hself name).1] at hspelled
  exact not_spelledIn htarget (h.isTypeName hback hr hfield hname) shape hspelled

variable {records records' : List Record} (hback : RefersBack records)
  (hback' : RefersBack records') (hnamed : target.PlainlyNamed records)
  (hnamed' : target.PlainlyNamed records') (hfaults : target.faults isPublic records = [])
  (hfaults' : target.faults isPublic records' = []) {r r' : Record} (hr : r ∈ records)
  (hr' : r' ∈ records')

include hback hback' hnamed hnamed' hfaults hfaults' hr hr'

/-- The line of a field determines the field, up to kinds that are spelled alike. -/
theorem mapKind_eq_of_member_eq (hname : r.name = r'.name) {f g : RecordField}
    (hf : f ∈ r.fields) (hg : g ∈ r'.fields) {modifier : String}
    (h : (target.form.member (target.declaredField isPublic r.name f)).map (Line.text modifier)
      = (target.form.member (target.declaredField isPublic r.name g)).map (Line.text modifier)) :
    f.mapKind target.coarseKind = g.mapKind target.coarseKind := by
  have hsupported : ∀ {records : List Record}, target.faults isPublic records = [] →
      ∀ r ∈ records, ∀ f ∈ r.fields, target.unsupported? r.name f = none := by
    intro records hfaults r hr f hf
    rw [unsupported?_eq_none_iff]
    exact fun hc => ((faults_eq_nil_iff target isPublic records).mp hfaults).2.2 hc r hr f hf
  have hplain := plain_declaredField htarget hself hback' hnamed' hr' hg
  have hsupported' := hsupported hfaults' r' hr' g hg
  rw [← hname] at hplain hsupported'
  obtain ⟨hfield, htype, hcapacity⟩ := member_injective htarget (fun hrust => hself (Or.inl hrust))
    (plain_declaredField htarget hself hback hnamed hr hf) hplain h
  -- only in C a token can have a capacity
  have hagrees : (target.token isPublic r.name f).capacity.isSome
      = (target.token isPublic r.name g).capacity.isSome := by
    by_cases hc : target.name = "c"
    · exact hcapacity hc
    · simp [token, hc]
  have hinj : ∀ m n, f.shape.ref? = some m → g.shape.ref? = some n →
      target.typeIdent isPublic m = target.typeIdent isPublic n → m = n := by
    intro m n _ _ hspell
    rwa [(ident_eq_self htarget hself m).1, (ident_eq_self htarget hself n).1] at hspell
  have hshape := token_injective htarget (hsupported hfaults r hr f hf) hsupported' hinj
    (not_shadows htarget hself hback hnamed hr hf _)
    (not_shadows htarget hself hback' hnamed' hr' hg _) htype hagrees
  rw [RecordField.mapKind, RecordField.mapKind, hshape]
  exact congrArg (RecordField.mk · _) hfield

/-- **A block determines its record**, up to kinds that are spelled alike. -/
theorem mapKind_eq_of_block_eq {modifier : String}
    (h : target.form.block modifier (target.declaration isPublic r)
      = target.form.block modifier (target.declaration isPublic r')) :
    r.mapKind target.coarseKind = r'.mapKind target.coarseKind := by
  obtain ⟨hident, hmembers⟩ := name_eq_of_block_eq htarget h
  have hname : r.name = r'.name := by
    rwa [declaration, declaration, (ident_eq_self htarget hself r.name).1,
      (ident_eq_self htarget hself r'.name).1] at hident
  rw [declaration, declaration, ← hname, List.flatMap_map, List.flatMap_map] at hmembers
  have hfields : r.fields.map (RecordField.mapKind target.coarseKind)
      = r'.fields.map (RecordField.mapKind target.coarseKind) := by
    refine List.map_eq_of_flatMap_eq (n := 0) (fun f => ?_) (fun f hf g hg hline => ?_) hmembers
    · rw [List.length_map, length_member htarget fun hrust => hself (Or.inl hrust)]
    · exact mapKind_eq_of_member_eq htarget hself hback hback' hnamed hnamed' hfaults hfaults' hr hr'
        hname hf hg hline
  rw [Record.mapKind, Record.mapKind, hfields]
  exact congrArg (Record.mk · _) hname

end Names

theorem coarseKind_eq_self {target : Target} (htypescript : target.name ≠ "typescript")
    (hjavascript : target.name ≠ "javascript") (kind : Primitive) :
    target.coarseKind kind = kind :=
  if_neg (not_or.mpr ⟨htypescript, hjavascript⟩)

/-- **The text of a file determines its records.**  Let two schemas compile to the same text, in
any language but Rust, and in Go without the modifier of public declarations.  If the types and
the fields of both are named by ASCII identifiers, and no type is named like a primitive kind of
the language, then both have the same records; in TypeScript and JavaScript this holds up to the
kinds of numbers. -/
theorem compile_determines {target : Target} (htarget : target ∈ Catalogue.builtin)
    (hrust : target.name ≠ "rust") {options : Options}
    (hgo : target.name = "go" → options.isPublic = false) {root root' : Node} {text : String}
    (h : target.compile options root = .ok text) (h' : target.compile options root' = .ok text) :
    ∃ records records', collectRecords root = .ok records ∧ collectRecords root' = .ok records' ∧
      (target.PlainlyNamed records → target.PlainlyNamed records' →
        records.map (Record.mapKind target.coarseKind)
            = records'.map (Record.mapKind target.coarseKind) ∧
          (target.name ≠ "typescript" → target.name ≠ "javascript" → records = records')) := by
  obtain ⟨file, hfile, htext⟩ := (compile_eq_ok_iff target options root text).mp h
  obtain ⟨file', hfile', htext'⟩ := (compile_eq_ok_iff target options root' text).mp h'
  obtain ⟨records, hcollect, hfaults, rfl⟩ := (assemble_eq_ok_iff htarget options root file).mp hfile
  obtain ⟨records', hcollect', hfaults', rfl⟩ :=
    (assemble_eq_ok_iff htarget options root' file').mp hfile'
  refine ⟨records, records', hcollect, hcollect', fun hnamed hnamed' => ?_⟩
  have hself : ¬ (target.name = "rust" ∨ target.name = "go" ∧ target.showsPublic options = true) := by
    rintro (hname | ⟨hname, hpublic⟩)
    · exact hrust hname
    · rw [showsPublic, hgo hname] at hpublic
      cases hpublic
  -- the text shows the blocks of its declarations, since all that stands in them is legible
  have hblocks := blocks_eq_of_render_eq htarget hrust
    (plain_sourceFile htarget hself rfl hcollect hnamed)
    (plain_sourceFile htarget hself rfl hcollect' hnamed') rfl rfl (htext.symm.trans htext')
  -- and a block shows its record, but for kinds that are spelled alike
  have hmap : records.map (Record.mapKind target.coarseKind)
      = records'.map (Record.mapKind target.coarseKind) := by
    rw [sourceFile, sourceFile] at hblocks
    dsimp only at hblocks
    rw [List.map_map, List.map_map, List.map_eq_flatMap, List.map_eq_flatMap] at hblocks
    refine List.map_eq_of_flatMap_eq (n := 0) (fun _ => rfl) (fun r hr r' hr' hblock => ?_) hblocks
    exact mapKind_eq_of_block_eq htarget hself (refersBack_of_collectRecords hcollect)
      (refersBack_of_collectRecords hcollect') hnamed hnamed' hfaults hfaults' hr hr'
      (List.singleton_inj.mp hblock)
  refine ⟨hmap, fun htypescript hjavascript => ?_⟩
  rwa [Record.mapKind_of_forall (coarseKind_eq_self htypescript hjavascript), List.map_id,
    List.map_id] at hmap

/-- An array and a node with one field of the name of its items have one text in C, and so they
have the same records. -/
theorem compile_determines_of_items :
    ∃ text records,
      Target.c.compile ⟨false, "main"⟩
        (.arrayRoot (some "Scores of a game") (.primitive .integer)) = .ok text ∧
      Target.c.compile ⟨false, "main"⟩
        (.object (some "Scores") [("items", .array (.primitive .integer))]) = .ok text ∧
      collectRecords (.arrayRoot (some "Scores of a game") (.primitive .integer)) = .ok records ∧
      collectRecords (.object (some "Scores") [("items", .array (.primitive .integer))])
        = .ok records := by
  have hc : Target.c ∈ Catalogue.builtin := by simp [Catalogue.builtin]
  have htext : Target.c.compile ⟨false, "main"⟩
      (.arrayRoot (some "Scores of a game") (.primitive .integer)) = .ok _ := rfl
  have htext' : Target.c.compile ⟨false, "main"⟩
      (.object (some "Scores") [("items", .array (.primitive .integer))]) = .ok _ := rfl
  obtain ⟨records, records', hcollect, hcollect', hsame⟩ :=
    compile_determines hc (by decide) (fun _ => rfl) htext htext'
  have hplain : Target.c.PlainlyNamed [⟨"Scores", [⟨"items", .array (.primitive .integer)⟩]⟩] := by
    refine List.forall_mem_singleton.mpr ⟨⟨by decide, ?_⟩, List.forall_mem_singleton.mpr (by decide)⟩
    intro kind asElement
    cases kind <;> cases asElement <;> decide
  obtain rfl := Except.ok.inj hcollect
  obtain rfl := Except.ok.inj hcollect'
  exact ⟨_, _, rfl, rfl, hcollect, hcollect'.trans (congrArg _ ((hsame hplain hplain).2 (by decide)
    (by decide)).symm)⟩

end Target

end SchemaDecl
