import SchemaDecl.Proofs.Record.Occurrence

/-!
# Distinct field names

The fields of a node are a mapping from names to types, so no two of them have one name.  Lists
of fields do not show this; it is a property of trees, and every node inside such a tree has it
too.

## Main definitions

* `Node.Distinct` — in no node of a tree do two fields have one name.

## Main results

* `Node.Distinct.of_mem_occurrences` — the nodes of such a tree are such trees.
* `Node.Distinct.fields_ascend` — the records of such a tree have their fields in strictly
  ascending order.
* `Node.distinct_and_sorted_of_ascending` — a tree in strictly ascending order is such a tree, and
  sorting leaves it as it is.
-/

namespace SchemaDecl

mutual

/-- No two fields of the node have one name, nor do two of any node inside it. -/
def Node.Distinct : Node → Prop
  | .object _ fields => Fields.Distinct fields
  | .arrayRoot _ item => item.Distinct
termination_by structural node => node

/-- The same for the nodes that a type holds. -/
def FieldType.Distinct : FieldType → Prop
  | .primitive _ => True
  | .object node => node.Distinct
  | .array element => element.Distinct
termination_by structural type => type

/-- The same for fields and the nodes that they hold. -/
def Fields.Distinct : List (String × FieldType) → Prop
  | [] => True
  | (name, type) :: rest => (∀ f ∈ rest, f.1 ≠ name) ∧ type.Distinct ∧ Fields.Distinct rest
termination_by structural fields => fields

end

theorem Fields.distinct_iff (fields : Fields) :
    Fields.Distinct fields ↔ (fields.map Prod.fst).Nodup ∧ ∀ f ∈ fields, f.2.Distinct := by
  induction fields with
  | nil => simp [Fields.Distinct]
  | cons head rest ih =>
    obtain ⟨name, type⟩ := head
    have hnames : name ∉ rest.map Prod.fst ↔ ∀ f ∈ rest, f.1 ≠ name := by
      simp only [List.mem_map, not_exists, not_and, ne_eq]
    rw [Fields.Distinct, ih, List.map_cons, List.nodup_cons, hnames, List.forall_mem_cons]
    tauto

theorem Node.Distinct.nodup_contents {node : Node} (h : node.Distinct) :
    (node.contents.map Prod.fst).Nodup := by
  cases node with
  | object title fields => exact ((Fields.distinct_iff fields).mp h).1
  | arrayRoot title item => exact List.pairwise_singleton _ _

mutual

/-- The nodes inside a node with distinct names have distinct names. -/
theorem Node.distinct_of_mem_inner : ∀ node : Node, node.Distinct →
    ∀ o ∈ node.inner, o.node.Distinct
  | .object _ fields, h => Fields.distinct_of_mem_inner fields h
  | .arrayRoot _ item, h => FieldType.distinct_of_mem_inner item h itemsField

theorem FieldType.distinct_of_mem_inner : ∀ type : FieldType, type.Distinct →
    ∀ field, ∀ o ∈ type.inner field, o.node.Distinct
  | .primitive _, _, _ => fun _ ho => absurd ho List.not_mem_nil
  | .object node, h, field => by
    intro o ho
    rcases Node.mem_occurrences.mp ho with ho | rfl
    · exact Node.distinct_of_mem_inner node h o ho
    · exact h
  | .array element, h, field => FieldType.distinct_of_mem_inner element h field

theorem Fields.distinct_of_mem_inner : ∀ fields : List (String × FieldType),
    Fields.Distinct fields → ∀ o ∈ Fields.inner fields, o.node.Distinct
  | [], _ => fun _ ho => absurd ho List.not_mem_nil
  | (name, type) :: rest, h => by
    intro o ho
    obtain ⟨-, htype, hrest⟩ := h
    rw [Fields.inner, List.mem_append] at ho
    rcases ho with ho | ho
    · exact FieldType.distinct_of_mem_inner type htype name o ho
    · exact Fields.distinct_of_mem_inner rest hrest o ho

end

/-- All nodes of a schema with distinct names have distinct names. -/
theorem Node.Distinct.of_mem_occurrences {node : Node} (h : node.Distinct)
    {owner : Option String} {o : Occurrence} (ho : o ∈ node.occurrences owner) :
    o.node.Distinct := by
  rcases Node.mem_occurrences.mp ho with ho | rfl
  · exact Node.distinct_of_mem_inner node h o ho
  · exact h

/-! ### The order of distinct names -/

/-- The fields of a sorted node are those of the node in some order, with sorted types. -/
theorem Node.contents_sorted_perm (node : Node) :
    node.sorted.contents.Perm (node.contents.map fun f => (f.1, f.2.sorted)) := by
  cases node with
  | object title fields => exact Fields.sorted_perm fields
  | arrayRoot title item => exact List.Perm.refl _

theorem Node.ascending_contents_sorted (node : Node) :
    Fields.Ascending node.sorted.contents := by
  cases node with
  | object title fields => exact Fields.ascending_sorted fields
  | arrayRoot title item => exact List.pairwise_singleton _ _

/-- Distinct names of a sorted node ascend strictly. -/
theorem Node.Distinct.contents_sorted {node : Node} (h : node.Distinct) :
    (node.sorted.contents.map Prod.fst).Pairwise (· < ·) := by
  have hnames : (node.sorted.contents.map Prod.fst).Perm (node.contents.map Prod.fst) := by
    have hperm := (Node.contents_sorted_perm node).map Prod.fst
    rwa [List.map_map] at hperm
  have hnodup : (node.sorted.contents.map Prod.fst).Nodup := hnames.nodup_iff.mpr h.nodup_contents
  have hle : (node.sorted.contents.map Prod.fst).Pairwise (· ≤ ·) :=
    List.pairwise_map.mpr (Node.ascending_contents_sorted node)
  exact (hle.and hnodup).imp fun ⟨hle, hne⟩ => lt_of_le_of_ne hle hne

/-- The records of a schema with distinct names have their fields in strictly ascending order. -/
theorem Node.Distinct.fields_ascend {root : Node} (h : root.Distinct) {record : Record}
    (hrecord : record ∈ (root.sorted.occurrences none).map Occurrence.record) :
    (record.fields.map (·.name)).Pairwise (· < ·) := by
  obtain ⟨o, ho, rfl⟩ := List.mem_map.mp hrecord
  obtain ⟨p, hp, rfl⟩ := List.mem_map.mp ((Node.occurrences_sorted none root).mem_iff.mp ho)
  have hfields := (h.of_mem_occurrences hp).contents_sorted
  have hnames : p.sorted.record.fields.map (·.name) = p.node.sorted.contents.map Prod.fst := by
    change (Fields.shapes p.node.sorted.contents).map (·.name) = _
    rw [Fields.shapes, List.map_map]
    rfl
  rwa [hnames]

/-! ### Trees in order -/

mutual

/-- A tree whose fields are in strictly ascending order stays as it is. -/
theorem Node.distinct_and_sorted_of_ascending : ∀ (node : Node) {owner : Option String},
    (∀ o ∈ node.occurrences owner, (o.node.contents.map Prod.fst).Pairwise (· < ·)) →
    node.Distinct ∧ node.sorted = node
  | .object title fields, owner, h => by
    have hnames := h _ (Node.self_mem_occurrences owner _)
    obtain ⟨hdistinct, hsorted⟩ := Fields.distinct_and_sorted_of_ascending fields hnames
      fun o ho => h o (Node.mem_occurrences.mpr (Or.inl ho))
    exact ⟨hdistinct, congrArg (Node.object title) hsorted⟩
  | .arrayRoot title item, _, h => by
    obtain ⟨hdistinct, hsorted⟩ := FieldType.distinct_and_sorted_of_ascending item
      fun o ho => h o (Node.mem_occurrences.mpr (Or.inl ho))
    exact ⟨hdistinct, congrArg (Node.arrayRoot title) hsorted⟩

theorem FieldType.distinct_and_sorted_of_ascending : ∀ (type : FieldType) {field : String},
    (∀ o ∈ type.inner field, (o.node.contents.map Prod.fst).Pairwise (· < ·)) →
    type.Distinct ∧ type.sorted = type
  | .primitive _, _, _ => ⟨trivial, rfl⟩
  | .object node, _, h => by
    obtain ⟨hdistinct, hsorted⟩ := Node.distinct_and_sorted_of_ascending node h
    exact ⟨hdistinct, congrArg FieldType.object hsorted⟩
  | .array element, _, h => by
    obtain ⟨hdistinct, hsorted⟩ := FieldType.distinct_and_sorted_of_ascending element h
    exact ⟨hdistinct, congrArg FieldType.array hsorted⟩

theorem Fields.distinct_and_sorted_of_ascending : ∀ fields : List (String × FieldType),
    (fields.map Prod.fst).Pairwise (· < ·) →
    (∀ o ∈ Fields.inner fields, (o.node.contents.map Prod.fst).Pairwise (· < ·)) →
    Fields.Distinct fields ∧ Fields.sorted fields = fields
  | [], _, _ => ⟨trivial, rfl⟩
  | (name, type) :: rest, hnames, h => by
    obtain ⟨hhead, hrest⟩ := List.pairwise_cons.mp hnames
    have hlt : ∀ f ∈ rest, name < f.1 := fun f hf => hhead f.1 (List.mem_map_of_mem hf)
    obtain ⟨hdtype, hstype⟩ := FieldType.distinct_and_sorted_of_ascending type
      fun o ho => h o (List.mem_append_left _ ho)
    obtain ⟨hdrest, hsrest⟩ := Fields.distinct_and_sorted_of_ascending rest hrest
      fun o ho => h o (List.mem_append_right _ ho)
    refine ⟨⟨fun f hf => (hlt f hf).ne', hdtype, hdrest⟩, ?_⟩
    rw [Fields.sorted, hstype, hsrest, Fields.insertSorted_of_le fun f hf => (hlt f hf).le]

end

theorem Node.Distinct.sorted {root : Node} (h : root.Distinct) : root.sorted.Distinct := by
  have hascend : ∀ o ∈ root.sorted.occurrences none,
      (o.node.contents.map Prod.fst).Pairwise (· < ·) := by
    refine Node.forall_occurrences_sorted.mpr ?_
    intro o ho
    exact (h.of_mem_occurrences ho).contents_sorted
  exact (Node.distinct_and_sorted_of_ascending root.sorted hascend).1

end SchemaDecl
