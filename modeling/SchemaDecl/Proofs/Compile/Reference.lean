import Mathlib.Logic.Function.Iterate
import Mathlib.Order.WellFounded
import SchemaDecl.Proofs.Compile.Fault
import SchemaDecl.Proofs.Record.Dependency
import SchemaDecl.Proofs.Schema.Distinct

/-!
# References between declarations

A field that holds a nested type names it in its token, in the spelling of the target.  The
declaration of a type is spelled by the same rule, and compiling refuses two types of one
spelling, so the name leads to one declaration.  That declaration stands before the field, as
the record of the type stands before the one that refers to it.

## Main definitions

* `Shape.depth` — the number of arrays around the end of a shape.
* `SourceFile.Constructs` — the constructor of one class makes an instance of another.
* `Target.Resolves` — the references of an output file lead to its declarations.

## Main results

* `Target.spell_of_ref` — a reference is spelled as the declaration, inside its arrays.
* `Target.exists_declaration_of_ref` — a reference leads to one declaration, at an earlier place.
* `Target.wellFounded_constructs` — constructors that call each other come to an end.
* `Target.compile_resolves` — **every reference of an output file resolves**.
-/

namespace SchemaDecl

/-- The number of arrays around the end of a shape. -/
def Shape.depth : Shape → Nat
  | .primitive _ => 0
  | .object _ => 0
  | .array element => element.depth + 1

/-- The constructor of the class `b` makes an instance of the class `a`: a field of `b` that is
neither of a primitive kind nor an array has the type `a`. -/
def SourceFile.Constructs (file : SourceFile) (a b : String) : Prop :=
  ∃ d ∈ file.declarations, d.name = b ∧
    ∃ f ∈ d.fields, (∃ name, f.shape = .object name) ∧ f.token.type = a

namespace Target

/-- A reference is spelled as the declaration of its type, inside the arrays around it. -/
theorem spell_of_ref (target : Target) (isPublic : Bool) {shape : Shape} {name : String}
    (h : shape.ref? = some name) (asElement : Bool) :
    target.spell isPublic shape asElement
      = target.container^[shape.depth] (target.typeIdent isPublic name) := by
  induction shape generalizing asElement with
  | primitive kind => cases h
  | object name' =>
    obtain rfl := Option.some.inj h
    rfl
  | array element ih =>
    rw [Shape.depth, Function.iterate_succ_apply', ← ih h true]
    rfl

/-! ### Declarations of records -/

section Records

variable {target : Target} {isPublic : Bool} {records : List Record}

/-- Types that are spelled apart have declarations of distinct names. -/
theorem nodup_declaration_names (hnodup : (records.map (·.name)).Nodup)
    (hspell : (records.map (·.name)).InjOn (target.typeIdent isPublic)) :
    ((records.map (target.declaration isPublic)).map (·.name)).Nodup := by
  have hnames : (records.map (target.declaration isPublic)).map (·.name)
      = (records.map (·.name)).map (target.typeIdent isPublic) := by
    rw [List.map_map, List.map_map]
    rfl
  rw [hnames]
  exact hnodup.map_on hspell

theorem nodup_declaration_idents {record : Record}
    (hascend : (record.fields.map (·.name)).Pairwise (· < ·))
    (hspell : (record.fields.map (·.name)).InjOn (target.fieldIdent isPublic)) :
    ((target.declaration isPublic record).fields.map (·.ident)).Nodup := by
  have hidents : (target.declaration isPublic record).fields.map (·.ident)
      = (record.fields.map (·.name)).map (target.fieldIdent isPublic) := by
    rw [declaration, List.map_map, List.map_map]
    rfl
  rw [hidents]
  have hnodup : (record.fields.map (·.name)).Nodup := hascend.imp ne_of_lt
  exact hnodup.map_on hspell

theorem declaration_field_names (record : Record) :
    (target.declaration isPublic record).fields.map (·.name) = record.fields.map (·.name) := by
  rw [declaration, List.map_map]
  rfl

/-- **A reference leads to one declaration**, that of the type it refers to, at an earlier
place. -/
theorem exists_declaration_of_ref (hback : RefersBack records) {i : Nat} {d : Declaration}
    (hd : (records.map (target.declaration isPublic))[i]? = some d) {f : DeclaredField}
    (hf : f ∈ d.fields) {name : String} (href : f.shape.ref? = some name) :
    ∃ j r, j < i ∧ records[j]? = some r ∧ r.name = name ∧
      f.token.type = target.container^[f.shape.depth] (target.declaration isPublic r).name := by
  rw [List.getElem?_map, Option.map_eq_some_iff] at hd
  obtain ⟨record, hrecord, rfl⟩ := hd
  obtain ⟨field, hfield, rfl⟩ := List.mem_map.mp hf
  obtain ⟨hi, hget⟩ := List.getElem?_eq_some_iff.mp hrecord
  have hname : name ∈ records[i].refs := by
    rw [hget]
    exact List.mem_filterMap.mpr ⟨field, hfield, href⟩
  obtain ⟨j, hj, rfl⟩ := hback.exists_lt i hi name hname
  exact ⟨j, records[j], hj, List.getElem?_eq_getElem (hj.trans hi), rfl,
    target.spell_of_ref isPublic href false⟩

/-- The place of a declaration is where its name is first found. -/
theorem idxOf_declaration_name {declarations : List Declaration}
    (hnodup : (declarations.map (·.name)).Nodup) {i : Nat} {d : Declaration}
    (hd : declarations[i]? = some d) : (declarations.map (·.name)).idxOf d.name = i := by
  obtain ⟨hi, rfl⟩ := List.getElem?_eq_some_iff.mp hd
  have := hnodup.idxOf_getElem i (by rwa [List.length_map])
  rwa [List.getElem_map] at this

/-- Constructors that make instances of other classes come to an end, since these classes are
declared before. -/
theorem wellFounded_constructs (hback : RefersBack records)
    (hnodup : ((records.map (target.declaration isPublic)).map (·.name)).Nodup)
    {file : SourceFile} (hfile : file.declarations = records.map (target.declaration isPublic)) :
    WellFounded file.Constructs := by
  -- what is constructed is declared earlier, so places fall along constructors
  have hrank : ∀ {a b}, file.Constructs a b →
      (file.declarations.map (·.name)).idxOf a < (file.declarations.map (·.name)).idxOf b := by
    rintro a b ⟨d, hd, rfl, f, hf, ⟨name, hshape⟩, rfl⟩
    rw [hfile] at hd ⊢
    obtain ⟨i, hi⟩ := List.mem_iff_getElem?.mp hd
    have href : f.shape.ref? = some name := by rw [hshape, Shape.ref?]
    obtain ⟨j, r, hj, hr, -, htype⟩ := exists_declaration_of_ref hback hi hf href
    have hj' : (records.map (target.declaration isPublic))[j]?
        = some (target.declaration isPublic r) := by rw [List.getElem?_map, hr, Option.map_some]
    rw [hshape] at htype
    rw [htype, idxOf_declaration_name hnodup hi]
    exact (idxOf_declaration_name hnodup hj').trans_lt hj
  exact Subrelation.wf hrank (InvImage.wf _ wellFounded_lt)

end Records

/-- The declarations of the records in an output file, and what their references lead to. -/
structure Resolves (target : Target) (isPublic : Bool) (records : List Record)
    (file : SourceFile) : Prop where
  /-- The records are declared one by one and in their order. -/
  declarations : file.declarations = records.map (target.declaration isPublic)
  names : (file.declarations.map (·.name)).Nodup
  idents : ∀ d ∈ file.declarations, (d.fields.map (·.ident)).Nodup
  /-- Fields stand in the order of the bytes of their names. -/
  ascend : ∀ d ∈ file.declarations, (d.fields.map fun f => Text.bytes f.name).Pairwise (· < ·)
  /-- A type name in the token of a field is the name of one declaration only, which is that of
  the record referred to and stands before. -/
  refs : ∀ i d, file.declarations[i]? = some d → ∀ f ∈ d.fields, ∀ name,
    f.shape.ref? = some name → ∃ (j : Nat) (r : Record) (e : Declaration),
      j < i ∧ records[j]? = some r ∧ r.name = name ∧ file.declarations[j]? = some e ∧
      f.token.type = target.container^[f.shape.depth] e.name ∧
      ∀ (k : Nat) (e' : Declaration), file.declarations[k]? = some e' → e'.name = e.name → k = j
  /-- Constructors that call others come to an end. -/
  constructs : WellFounded file.Constructs

/-- The output file of records that refer back, spelled without clash. -/
theorem resolves_of_spelled {target : Target} {isPublic : Bool} {records : List Record}
    {file : SourceFile} (hback : RefersBack records) (hnodup : (records.map (·.name)).Nodup)
    (hascend : ∀ r ∈ records, (r.fields.map (·.name)).Pairwise (· < ·))
    (htypes : (records.map (·.name)).InjOn (target.typeIdent isPublic))
    (hfields : ∀ r ∈ records, (r.fields.map (·.name)).InjOn (target.fieldIdent isPublic))
    (hfile : file.declarations = records.map (target.declaration isPublic)) :
    Resolves target isPublic records file := by
  have hnames := nodup_declaration_names hnodup htypes
  refine ⟨hfile, ?_, ?_, ?_, ?_, wellFounded_constructs hback hnames hfile⟩ <;> rw [hfile]
  · exact hnames
  · rw [List.forall_mem_map]
    exact fun r hr => nodup_declaration_idents (hascend r hr) (hfields r hr)
  · rw [List.forall_mem_map]
    intro r hr
    have hbytes : (target.declaration isPublic r).fields.map (fun f => Text.bytes f.name)
        = (r.fields.map (·.name)).map Text.bytes := by
      rw [← declaration_field_names, List.map_map]
      rfl
    rw [hbytes, List.pairwise_map]
    exact (hascend r hr).imp (Text.lt_iff_bytes_lt _ _).mp
  · intro i d hd f hf name href
    obtain ⟨j, r, hj, hr, hname, htype⟩ := exists_declaration_of_ref hback hd hf href
    have he : (records.map (target.declaration isPublic))[j]?
        = some (target.declaration isPublic r) := by rw [List.getElem?_map, hr, Option.map_some]
    refine ⟨j, r, _, hj, hr, hname, he, htype, fun k e' hk hname' => ?_⟩
    -- both places are where the name is first found
    have hplace := idxOf_declaration_name hnames hk
    rw [hname', idxOf_declaration_name hnames he] at hplace
    exact hplace.symm

/-- **Every reference of an output file resolves.**  The records of a schema that compiles are
declared one by one, under distinct names and with their fields in order.  A type name in the
token of a field is the name of one declaration only, that of the record referred to, which
stands before. -/
theorem compile_resolves {target : Target} (htarget : target ∈ Catalogue.builtin)
    (options : Options) {root : Node} (hdistinct : root.Distinct) {text : String}
    (h : target.compile options root = .ok text) :
    ∃ records file, collectRecords root = .ok records ∧
      target.assemble options root = .ok file ∧ text = target.render file ∧
      Resolves target (target.showsPublic options) records file := by
  obtain ⟨file, hassemble, htext⟩ := (compile_eq_ok_iff target options root text).mp h
  obtain ⟨records, hcollect, hfaults, hfile⟩ :=
    (assemble_eq_ok_iff htarget options root file).mp hassemble
  obtain ⟨htypes, hfields, -⟩ := (faults_eq_nil_iff target _ records).mp hfaults
  have hascend : ∀ r ∈ records, (r.fields.map (·.name)).Pairwise (· < ·) := by
    obtain ⟨-, rfl⟩ := (collectRecords_eq_ok_iff root records).mp hcollect
    exact fun r hr => hdistinct.fields_ascend (List.mem_of_mem_keepFirst hr)
  exact ⟨records, file, hcollect, hassemble, htext,
    resolves_of_spelled (refersBack_of_collectRecords hcollect) (nodup_of_collectRecords hcollect)
      hascend htypes hfields (congrArg SourceFile.declarations hfile)⟩

/-- Public Go respells both types of this schema, and the list still leads to the first. -/
theorem compile_resolves_of_capitals :
    ∃ text records file,
      Target.go.compile ⟨true, "main"⟩ (.object (some "order")
        [("lines", .array (.object (.object (some "line") [("sku", .primitive .string)])))])
          = .ok text ∧
      Target.go.Resolves true records file ∧
      ∃ e, file.declarations[0]? = some e ∧ "[]Line" = "[]" ++ e.name := by
  have hgo : Target.go ∈ Catalogue.builtin := by simp [Catalogue.builtin]
  have hdistinct : Node.Distinct (.object (some "order")
      [("lines", .array (.object (.object (some "line") [("sku", .primitive .string)])))]) := by
    simp [Node.Distinct, Fields.Distinct, FieldType.Distinct]
  obtain ⟨records, file, -, hassemble, -, hresolves⟩ :=
    compile_resolves hgo ⟨true, "main"⟩ hdistinct rfl
  obtain rfl := Except.ok.inj hassemble
  obtain ⟨j, r, e, hj, -, -, he, htype, -⟩ := hresolves.refs 1 _ rfl _ List.mem_cons_self _ rfl
  obtain rfl : j = 0 := by omega
  exact ⟨_, records, _, rfl, hresolves, e, he, htype⟩

end Target

end SchemaDecl
