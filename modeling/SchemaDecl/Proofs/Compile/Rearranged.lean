import Mathlib.Data.List.Nodup
import SchemaDecl.Compile
import SchemaDecl.Proofs.Record.Feature
import SchemaDecl.Proofs.Schema.Distinct
import SchemaDecl.Target.Rust

/-!
# Rearranged fields

Fields are given in some order.  Two schemas that differ only in that order, in any of their
nodes, are the same tree once they are sorted, since the names of the fields of a node differ.
All that is made of a schema is made of the sorted tree, but for the features, which do not
depend on the order either.

## Main definitions

* `Node.Rearranged` — one tree is the other with the fields of its nodes in another order.

## Main results

* `Node.sorted_eq_of_rearranged` — rearranged schemas are one schema in order.
* `Target.compile_rearranged` — **rearranged schemas compile alike, errors included**.
-/

namespace SchemaDecl

mutual

/-- The second node is the first with its fields, and those of the nodes inside it, in another
order. -/
inductive Node.Rearranged : Node → Node → Prop
  | object {title : Option String} {fields inside fields' : List (String × FieldType)} :
      Fields.Rearranged fields inside → inside.Perm fields' →
      Node.Rearranged (.object title fields) (.object title fields')
  | arrayRoot {title : Option String} {item item' : FieldType} :
      FieldType.Rearranged item item' →
      Node.Rearranged (.arrayRoot title item) (.arrayRoot title item')

/-- The same for the node that a type holds. -/
inductive FieldType.Rearranged : FieldType → FieldType → Prop
  | primitive (kind : Primitive) : FieldType.Rearranged (.primitive kind) (.primitive kind)
  | object {node node' : Node} :
      Node.Rearranged node node' → FieldType.Rearranged (.object node) (.object node')
  | array {element element' : FieldType} :
      FieldType.Rearranged element element' →
      FieldType.Rearranged (.array element) (.array element')

/-- The same for the types of fields, which stay in their places themselves. -/
inductive Fields.Rearranged : List (String × FieldType) → List (String × FieldType) → Prop
  | nil : Fields.Rearranged [] []
  | cons {name : String} {type type' : FieldType} {rest rest' : List (String × FieldType)} :
      FieldType.Rearranged type type' → Fields.Rearranged rest rest' →
      Fields.Rearranged ((name, type) :: rest) ((name, type') :: rest')

end

/-- Fields of distinct names have one order, whatever the order in which they are given. -/
theorem Fields.sorted_eq_of_perm {fields fields' : Fields}
    (hperm : (fields.map fun f => (f.1, f.2.sorted)).Perm (fields'.map fun f => (f.1, f.2.sorted)))
    (hnodup : (fields.map Prod.fst).Nodup) : sorted fields = sorted fields' := by
  have hnames : ((sorted fields).map Prod.fst).Nodup := by
    have hfst := (sorted_perm fields).map Prod.fst
    rw [List.map_map] at hfst
    exact hfst.nodup_iff.mpr hnodup
  have hsorted : (sorted fields).Perm (sorted fields') :=
    (sorted_perm fields).trans (hperm.trans (sorted_perm fields').symm)
  refine hsorted.eq_of_pairwise ?_ (ascending_sorted fields) (ascending_sorted fields')
  -- two fields that may stand in either order have one name, so they are one field
  intro f g hf hg hfg hgf
  exact List.inj_on_of_nodup_map hnames hf (hsorted.mem_iff.mpr hg) (le_antisymm hfg hgf)

mutual

/-- **Rearranged schemas are one schema in order.** -/
theorem Node.sorted_eq_of_rearranged : ∀ {node node' : Node}, node.Rearranged node' →
    node.Distinct → node.sorted = node'.sorted
  | .object title fields, .object _ fields', h, hdistinct => by
    cases h with
    | object hinside hperm =>
      have hsorted : Fields.sorted fields = Fields.sorted fields' := by
        refine Fields.sorted_eq_of_perm ?_ ((Fields.distinct_iff fields).mp hdistinct).1
        rw [Fields.map_sorted_eq_of_rearranged hinside hdistinct]
        exact hperm.map _
      rw [Node.sorted, Node.sorted, hsorted]
  | .arrayRoot title item, .arrayRoot _ item', h, hdistinct => by
    cases h with
    | arrayRoot hitem =>
      rw [Node.sorted, Node.sorted, FieldType.sorted_eq_of_rearranged hitem hdistinct]

theorem FieldType.sorted_eq_of_rearranged : ∀ {type type' : FieldType}, type.Rearranged type' →
    type.Distinct → type.sorted = type'.sorted
  | .primitive _, .primitive _, h, _ => by
    cases h
    rfl
  | .object node, .object node', h, hdistinct => by
    cases h with
    | object hnode => exact congrArg FieldType.object (Node.sorted_eq_of_rearranged hnode hdistinct)
  | .array element, .array element', h, hdistinct => by
    cases h with
    | array helement =>
      exact congrArg FieldType.array (FieldType.sorted_eq_of_rearranged helement hdistinct)

theorem Fields.map_sorted_eq_of_rearranged : ∀ {fields fields' : List (String × FieldType)},
    Fields.Rearranged fields fields' → Fields.Distinct fields →
    fields.map (fun f => (f.1, f.2.sorted)) = fields'.map fun f => (f.1, f.2.sorted)
  | [], [], _, _ => rfl
  | (name, type) :: rest, (name', type') :: rest', h, hdistinct => by
    cases h with
    | cons htype hrest =>
      obtain ⟨-, hdtype, hdrest⟩ := hdistinct
      rw [List.map_cons, List.map_cons, FieldType.sorted_eq_of_rearranged htype hdtype,
        Fields.map_sorted_eq_of_rearranged hrest hdrest]

end

theorem Node.features_eq_of_rearranged {root root' : Node} (h : root.Rearranged root')
    (hdistinct : root.Distinct) : root.features = root'.features := by
  refine List.filter_congr fun f _ => ?_
  rw [← Node.uses_sorted f root, Node.sorted_eq_of_rearranged h hdistinct, Node.uses_sorted]

/-- Rearranged schemas have the same records, or the same error. -/
theorem collectRecords_eq_of_rearranged {root root' : Node} (h : root.Rearranged root')
    (hdistinct : root.Distinct) : collectRecords root = collectRecords root' := by
  rw [collectRecords, Node.sorted_eq_of_rearranged h hdistinct, collectRecords]

/-- **Rearranged schemas compile alike, errors included.**  The order in which the fields of any
node of a schema are given decides neither its records nor its features, and so neither the text
that any target makes of it nor the error that is reported. -/
theorem Target.compile_rearranged {root root' : Node} (h : root.Rearranged root')
    (hdistinct : root.Distinct) :
    collectRecords root = collectRecords root' ∧ root.features = root'.features ∧
      ∀ (target : Target) (options : Options),
        target.compile options root = target.compile options root' := by
  have hrecords := collectRecords_eq_of_rearranged h hdistinct
  have hfeatures := Node.features_eq_of_rearranged h hdistinct
  refine ⟨hrecords, hfeatures, fun target options => ?_⟩
  rw [compile, assemble, hrecords, hfeatures, compile, assemble]

/-- In either order the second `Point` is refused, and its path and that of the first stay. -/
theorem Target.compile_rearranged_of_collision :
    Target.rust.compile ⟨true, "main"⟩ (.object (some "Pair")
        [("b", .object (.object (some "Point") [("y", .primitive .integer)])),
          ("a", .array (.object (.object (some "Point")
            [("x", .primitive .integer), ("t", .primitive .string)])))])
      = .error (.nameCollision "Point" "$.b" "$.a[]") := by
  have hrearranged : Node.Rearranged
      (.object (some "Pair")
        [("a", .array (.object (.object (some "Point")
            [("t", .primitive .string), ("x", .primitive .integer)]))),
          ("b", .object (.object (some "Point") [("y", .primitive .integer)]))])
      (.object (some "Pair")
        [("b", .object (.object (some "Point") [("y", .primitive .integer)])),
          ("a", .array (.object (.object (some "Point")
            [("x", .primitive .integer), ("t", .primitive .string)])))]) :=
    .object
      (.cons (.array (.object (.object
          (.cons (.primitive .string) (.cons (.primitive .integer) .nil)) (.swap _ _ _))))
        (.cons (.object (.object (.cons (.primitive .integer) .nil) (.refl _))) .nil))
      (.swap _ _ _)
  have hdistinct : Node.Distinct (.object (some "Pair")
      [("a", .array (.object (.object (some "Point")
          [("t", .primitive .string), ("x", .primitive .integer)]))),
        ("b", .object (.object (some "Point") [("y", .primitive .integer)]))]) := by
    simp [Node.Distinct, Fields.Distinct, FieldType.Distinct]
  rw [← (compile_rearranged hrearranged hdistinct).2.2]
  rfl

end SchemaDecl
