import SchemaDecl.Proofs.Compile.Preamble
import SchemaDecl.Proofs.Target.Constant
import SchemaDecl.Proofs.Text.ByteOrder

/-!
# Capacity constants

C gives every array member a capacity, and its file defines a constant for each.  The constants
are collected while the members are spelled, in the order of their names, and one name may be
asked for twice, since names of records and fields can join to the same one.  What is collected is
just what the members use.

## Main definitions

* `Target.Capacities` — the capacities of an output file and the constants that it defines.

## Main results

* `MapContext.names_takeAll`, `MapContext.ascending_takeAll` — the constants of many fields.
* `Target.compile_capacities` — **the constants of a C file are those that its members use**.
-/

namespace SchemaDecl

/-! ### The constants of many fields -/

namespace MapContext

/-- The names afterwards are the capacities of the fields, with those that were there before. -/
theorem names_takeAll (ctx : MapContext) (fields : List DeclaredField) (name : String) :
    name ∈ (ctx.takeAll fields).constants.map (·.name) ↔
      (∃ f ∈ fields, f.token.capacity = some name) ∨ name ∈ ctx.constants.map (·.name) := by
  induction fields generalizing ctx with
  | nil => simp
  | cons field rest ih =>
    rw [takeAll_cons, ih, names_take, List.exists_mem_cons_iff, ← or_assoc]
    exact or_congr_left or_comm

theorem ascending_takeAll (ctx : MapContext) (fields : List DeclaredField)
    (h : (ctx.constants.map (·.name)).Pairwise (· < ·)) :
    ((ctx.takeAll fields).constants.map (·.name)).Pairwise (· < ·) := by
  induction fields generalizing ctx with
  | nil => exact h
  | cons field rest ih => exact ih _ (ascending_take field.token h)

theorem value_takeAll {ctx : MapContext} (fields : List DeclaredField)
    (h : ∀ c ∈ ctx.constants, c.value = defaultCapacity) :
    ∀ c ∈ (ctx.takeAll fields).constants, c.value = defaultCapacity := by
  induction fields generalizing ctx with
  | nil => exact h
  | cons field rest ih => exact ih (value_take field.token h)

end MapContext

namespace Target

/-- The capacities of the records in an output file and the constants that the file defines. -/
structure Capacities (records : List Record) (file : SourceFile) : Prop where
  /-- The constants are in the order of the bytes of their names, which differ. -/
  ascend : (file.constants.map fun c => Text.bytes c.name).Pairwise (· < ·)
  value : ∀ c ∈ file.constants, c.value = 50
  /-- A constant is defined exactly if a declared field uses it. -/
  names : ∀ name, (∃ c ∈ file.constants, c.name = name) ↔
    ∃ d ∈ file.declarations, ∃ f ∈ d.fields, f.token.capacity = some name
  /-- The declared arrays have a capacity, named for the record and the field, and no other field
  has one. -/
  capacity : List.Forall₂ (fun d r => d.name = r.name ∧ ∀ f ∈ d.fields,
    f.token.capacity = if f.shape.isArray then some (capacityName r.name f.name) else none)
    file.declarations records

/-- **The constants of a C file are those that its members use.**  The file defines constants of
ascending names and of the value 50.  Their names are the capacities of the declared arrays, each
of which has the one named for its record and field.  So a name that several members have in
common is defined once. -/
theorem compile_capacities (options : Options) (root : Node) {text : String}
    (h : Target.c.compile options root = .ok text) :
    ∃ records file, collectRecords root = .ok records ∧
      Target.c.assemble options root = .ok file ∧
      text = Layout.text ([CFamily.cIncludes file] ++
        Block.ifAny (file.constants.map fun c => "#define " ++ c.name ++ " " ++ toString c.value) ++
        Block.ifAny (file.declarations.map CFamily.typedef) ++
        file.declarations.map (CFamily.struct CFamily.cMember)) ∧
      Capacities records file := by
  have hc : Target.c ∈ Catalogue.builtin := by simp [Catalogue.builtin]
  obtain ⟨file, hassemble, htext⟩ := (compile_eq_ok_iff _ options root text).mp h
  obtain ⟨records, hcollect, -, hfile⟩ := (assemble_eq_ok_iff hc options root file).mp hassemble
  refine ⟨records, file, hcollect, hassemble, htext, ?_⟩
  subst hfile
  refine ⟨?_, MapContext.value_takeAll _ fun _ hmem => absurd hmem List.not_mem_nil, ?_, ?_⟩
  · have hnames := MapContext.ascending_takeAll (.start (Target.c.showsPublic options))
      ((Target.c.sourceFile options root records).declarations.flatMap (·.fields))
      List.Pairwise.nil
    rw [List.pairwise_map] at hnames ⊢
    exact hnames.imp (Text.lt_iff_bytes_lt _ _).mp
  · -- no constant is there at the start, so each is the capacity of a field
    intro name
    have hnames := MapContext.names_takeAll (.start (Target.c.showsPublic options))
      ((Target.c.sourceFile options root records).declarations.flatMap (·.fields)) name
    rw [List.mem_map] at hnames
    refine hnames.trans ⟨?_, ?_⟩
    · rintro (⟨f, hf, hcapacity⟩ | hnil)
      · obtain ⟨d, hd, hf⟩ := List.mem_flatMap.mp hf
        exact ⟨d, hd, f, hf, hcapacity⟩
      · cases hnil
    · rintro ⟨d, hd, f, hf, hcapacity⟩
      exact Or.inl ⟨f, List.mem_flatMap.mpr ⟨d, hd, hf⟩, hcapacity⟩
  · rw [sourceFile, List.forall₂_map_left_iff, List.forall₂_same]
    intro record _
    refine ⟨rfl, List.forall_mem_map.mpr fun field _ => ?_⟩
    simp [declaredField, token, Target.c]

/-- Two arrays of this schema have one constant, which is defined once. -/
theorem compile_capacities_of_joined :
    ∃ text records file,
      Target.c.compile ⟨false, "main"⟩ (.object (some "a") [("b_C", .array (.primitive .integer)),
        ("n", .object (.object (some "A_b") [("c", .array (.primitive .boolean))]))]) = .ok text ∧
      Capacities records file ∧ file.constants = [⟨"A_B_C_SIZE", 50⟩] ∧
      ∃ d e, file.declarations = [d, e] ∧ ∃ f ∈ d.fields, ∃ g ∈ e.fields,
        f.token.capacity = some "A_B_C_SIZE" ∧ g.token.capacity = some "A_B_C_SIZE" := by
  obtain ⟨records, file, hcollect, hassemble, -, hcapacities⟩ :=
    compile_capacities ⟨false, "main"⟩ (.object (some "a")
      [("b_C", .array (.primitive .integer)),
        ("n", .object (.object (some "A_b") [("c", .array (.primitive .boolean))]))]) rfl
  obtain rfl := Except.ok.inj hassemble
  exact ⟨_, records, _, rfl, hcapacities, rfl, _, _, rfl, _, List.mem_cons_self, _,
    List.mem_cons_self, rfl, rfl⟩

end Target

end SchemaDecl
