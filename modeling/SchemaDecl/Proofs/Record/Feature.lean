import SchemaDecl.Feature
import SchemaDecl.Proofs.Record.Dependency

/-!
# The features of a schema and of its records

The features of a schema are looked for in the whole tree, while a type that stands in several
places has one record.  Nothing is missed by reading them off the records: what a node adds to
its tree is what its record shows, and nodes of one name have one record.

## Main definitions

* `Shape.uses`, `Record.uses`, `Record.features` — the features that occur in records.
* `Shape.leaf?` — the primitive kind at the end of a shape, through any arrays.

## Main results

* `Node.uses_sorted` — the features of a tree do not depend on the order of its fields.
* `Node.uses_iff` — a tree uses what the records of its nodes use.
* `features_eq_of_collectRecords` — **a schema has the features of its records**.
-/

namespace SchemaDecl

/-! ### The features of records -/

/-- Whether a feature occurs in a shape: the kind at its end, or the reference, and the arrays
around it. -/
def Shape.uses : Shape → Feature → Bool
  | .primitive kind, f => f == kind.feature
  | .object _, f => f == .object
  | .array element, f => f == .array || element.uses f

/-- Whether a feature occurs in one of the fields of a record. -/
def Record.uses (record : Record) (f : Feature) : Bool :=
  record.fields.any fun field => field.shape.uses f

/-- The features that occur in some records, in order. -/
def Record.features (records : List Record) : List Feature :=
  Feature.all.filter fun f => records.any fun record => record.uses f

/-- The primitive kind at the end of a shape, through any arrays. -/
def Shape.leaf? : Shape → Option Primitive
  | .primitive kind => some kind
  | .object _ => none
  | .array element => element.leaf?

theorem Primitive.feature_inj {kind kind' : Primitive} (h : kind.feature = kind'.feature) :
    kind = kind' := by
  cases kind <;> cases kind' <;> first | rfl | cases h

theorem Shape.uses_feature_iff (kind : Primitive) (shape : Shape) :
    shape.uses kind.feature = true ↔ shape.leaf? = some kind := by
  induction shape with
  | primitive kind' =>
    rw [Shape.uses, Shape.leaf?, beq_iff_eq, Option.some.injEq]
    exact ⟨fun h => (Primitive.feature_inj h).symm, fun h => congrArg _ h.symm⟩
  | object name => cases kind <;> simp [Shape.uses, Shape.leaf?, Primitive.feature]
  | array element ih =>
    have hne : kind.feature ≠ .array := by cases kind <;> decide
    rw [Shape.uses, Shape.leaf?, ← ih, beq_false_of_ne hne, Bool.false_or]

theorem Shape.uses_array_iff (shape : Shape) :
    shape.uses .array = true ↔ shape.isArray = true := by
  cases shape with
  | primitive kind => cases kind <;> decide
  | object name => simp [Shape.uses, Shape.isArray]
  | array element => simp [Shape.uses]

theorem Record.uses_iff {record : Record} {f : Feature} :
    record.uses f = true ↔ ∃ field ∈ record.fields, field.shape.uses f = true := by
  rw [Record.uses, List.any_eq_true]

@[simp] theorem Record.mem_features {records : List Record} {f : Feature} :
    f ∈ Record.features records ↔ ∃ record ∈ records, record.uses f = true := by
  simp [Record.features, Feature.mem_all]

/-! ### The features of trees in order -/

theorem Fields.uses_eq_any (f : Feature) (fields : Fields) :
    Fields.uses fields f = fields.any fun p => p.2.uses f := by
  induction fields with
  | nil => rfl
  | cons head rest ih => rw [Fields.uses, ih, List.any_cons]

mutual

/-- The features of a node do not depend on the order of fields. -/
theorem Node.uses_sorted (f : Feature) : ∀ node : Node, node.sorted.uses f = node.uses f
  | .object _ fields => Fields.uses_sorted f fields
  | .arrayRoot _ item => congrArg (f == .array || ·) (FieldType.uses_sorted f item)

theorem FieldType.uses_sorted (f : Feature) : ∀ type : FieldType, type.sorted.uses f = type.uses f
  | .primitive _ => rfl
  | .object node => congrArg (f == .object || ·) (Node.uses_sorted f node)
  | .array element => congrArg (f == .array || ·) (FieldType.uses_sorted f element)

theorem Fields.uses_sorted (f : Feature) : ∀ fields : List (String × FieldType),
    Fields.uses (Fields.sorted fields) f = Fields.uses fields f
  | [] => rfl
  | (name, type) :: rest => by
    rw [Fields.sorted, Fields.uses_eq_any,
      (Fields.insertSorted_perm name type.sorted (Fields.sorted rest)).any_eq, List.any_cons,
      ← Fields.uses_eq_any, FieldType.uses_sorted f type, Fields.uses_sorted f rest, Fields.uses]

end

/-! ### Features of trees and features of records -/

mutual

/-- A node uses what its record and the records of the nodes inside it use. -/
theorem Node.uses_iff (f : Feature) : ∀ (node : Node) (owner : Option String),
    node.uses f = true ↔ (node.record owner).uses f = true ∨
      ∃ o ∈ node.inner, o.record.uses f = true
  | .object title fields, owner => by
    rw [Node.uses, Fields.uses_iff f fields, Record.uses_iff]
    rfl
  | .arrayRoot title item, owner => by
    -- the record of an array has the one field that holds its items
    have hrecord : ((Node.arrayRoot title item).record owner).uses f
        = (f == .array || (item.shape itemsField).uses f) := Bool.or_false _
    rw [Node.uses, Bool.or_eq_true, FieldType.uses_iff f item itemsField, ← or_assoc,
      ← Bool.or_eq_true, hrecord]
    rfl

/-- A type uses what its shape and the records of the nodes that it holds use. -/
theorem FieldType.uses_iff (f : Feature) : ∀ (type : FieldType) (field : String),
    type.uses f = true ↔ (type.shape field).uses f = true ∨
      ∃ o ∈ type.inner field, o.record.uses f = true
  | .primitive kind, field => by
    simp [FieldType.uses, FieldType.shape, Shape.uses, FieldType.inner]
  | .object node, field => by
    have hself : (∃ o ∈ (FieldType.object node).inner field, o.record.uses f = true) ↔
        (node.record (some field)).uses f = true ∨ ∃ o ∈ node.inner, o.record.uses f = true := by
      simp only [FieldType.inner_object, Node.mem_occurrences, or_and_right, exists_or,
        exists_eq_left]
      exact or_comm
    rw [hself, ← Node.uses_iff f node (some field), FieldType.uses, Bool.or_eq_true]
    rfl
  | .array element, field => by
    rw [FieldType.uses, Bool.or_eq_true, FieldType.uses_iff f element field, ← or_assoc,
      ← Bool.or_eq_true]
    rfl

/-- Fields use what their shapes and the records of the nodes that they hold use. -/
theorem Fields.uses_iff (f : Feature) : ∀ fields : List (String × FieldType),
    Fields.uses fields f = true ↔ (∃ field ∈ Fields.shapes fields, field.shape.uses f = true) ∨
      ∃ o ∈ Fields.inner fields, o.record.uses f = true
  | [] => by simp [Fields.uses, Fields.inner]
  | (name, type) :: rest => by
    rw [Fields.uses, Bool.or_eq_true, FieldType.uses_iff f type name, Fields.uses_iff f rest,
      Fields.shapes_cons, Fields.inner]
    simp only [List.mem_cons, List.mem_append, or_and_right, exists_or, exists_eq_left]
    exact or_or_or_comm

end

/-- **A schema has the features of its records**, though these show a type that stands in several
places only once. -/
theorem features_eq_of_collectRecords {root : Node} {records : List Record}
    (h : collectRecords root = .ok records) : root.features = Record.features records := by
  have hrecords : ∀ f, root.uses f = true ↔ ∃ record ∈ records, record.uses f = true := by
    intro f
    rw [← Node.uses_sorted, Node.uses_iff f root.sorted none]
    constructor
    · rintro (hroot | ⟨o, ho, huses⟩)
      · have hself := Node.self_mem_occurrences none root.sorted
        exact ⟨_, record_mem_of_collectRecords h hself, hroot⟩
      · have hmem : o ∈ root.sorted.occurrences none := Node.mem_occurrences.mpr (Or.inl ho)
        exact ⟨o.record, record_mem_of_collectRecords h hmem, huses⟩
    · -- a record is that of the root, or of a node inside it
      rintro ⟨record, hrecord, huses⟩
      obtain ⟨-, rfl⟩ := (collectRecords_eq_ok_iff root records).mp h
      obtain ⟨o, ho, rfl⟩ := List.mem_map.mp (List.mem_of_mem_keepFirst hrecord)
      rcases Node.mem_occurrences.mp ho with ho | rfl
      · exact Or.inr ⟨o, ho, huses⟩
      · exact Or.inl huses
  refine List.filter_congr fun f _ => ?_
  rw [Bool.eq_iff_iff, hrecords, List.any_eq_true]

end SchemaDecl
