import SchemaDecl.Proofs.Schema.Sorted
import SchemaDecl.Proofs.Text.FirstWord

/-!
# The nodes of a schema and their records

Every node below the root of a schema is owned by a field, through any number of arrays.
An occurrence is a node with the name of its owner, which is all that its own record
depends on: its fields are written down with the names of the nodes they hold, and nothing
is said of what those nodes hold in turn.

## Main definitions

* `Node.contents` — the fields of a node, a node that is an array having one of them.
* `Node.name?`, `Node.label` — the name of a node under its owner.
* `FieldType.shape`, `Node.record` — the shape of a type and the record of a node, read off
  the tree without any registry.
* `Occurrence` — a node and its owner.
* `Node.inner`, `Node.occurrences` — the nodes strictly inside a node, and with the node
  itself at the end; each stands after those it holds.

## Main results

* `Node.inner_sorted` — the nodes inside a sorted node are the sorted ones inside the node.
* `Node.inner_trans` — a node inside a node inside a node is inside the latter.
-/

namespace SchemaDecl

/-! ### Names and records -/

/-- The fields of a node.  A node that is an array has one, which holds its items. -/
def Node.contents : Node → Fields
  | .object _ fields => fields
  | .arrayRoot _ item => [(itemsField, .array item)]

/-- The name of a node under its owner, if it has one. -/
def Node.name? (owner : Option String) (node : Node) : Option String := nodeName? node.title owner

/-- The name of a node as a reference spells it.  It is empty for a node without a name,
which no record refers to. -/
def Node.label (owner : Option String) (node : Node) : String := (node.name? owner).getD ""

/-- The shape of the type of a field. -/
def FieldType.shape (field : String) : FieldType → Shape
  | .primitive kind => .primitive kind
  | .object node => .object (node.label (some field))
  | .array element => .array (element.shape field)

/-- The fields of a record. -/
def Fields.shapes (fields : Fields) : List RecordField := fields.map fun f => ⟨f.1, f.2.shape f.1⟩

/-- The record of a node: its name, and its fields with nested nodes replaced by their names. -/
def Node.record (owner : Option String) (node : Node) : Record :=
  ⟨node.label owner, Fields.shapes node.contents⟩

@[simp] theorem Fields.shapes_nil : Fields.shapes [] = [] := rfl

@[simp] theorem Fields.shapes_cons (name : String) (type : FieldType) (rest : Fields) :
    Fields.shapes ((name, type) :: rest) = ⟨name, type.shape name⟩ :: Fields.shapes rest := rfl

@[simp] theorem Node.name_record (owner : Option String) (node : Node) :
    (node.record owner).name = node.label owner := rfl

theorem Node.label_of_name? {owner : Option String} {node : Node} {name : String}
    (h : node.name? owner = some name) : node.label owner = name := by
  rw [Node.label, h, Option.getD_some]

@[simp] theorem Node.name?_sorted (owner : Option String) (node : Node) :
    node.sorted.name? owner = node.name? owner := by
  rw [Node.name?, Node.name?, Node.title_sorted]

@[simp] theorem Node.label_sorted (owner : Option String) (node : Node) :
    node.sorted.label owner = node.label owner := by
  rw [Node.label, Node.label, Node.name?_sorted]

/-! ### Occurrences -/

/-- A node of a schema and the field that owns it, if any. -/
structure Occurrence where
  owner : Option String
  node : Node

namespace Occurrence

/-- The name of the node. -/
def name? (o : Occurrence) : Option String := o.node.name? o.owner

/-- The name of the node as references spell it. -/
def label (o : Occurrence) : String := o.node.label o.owner

/-- The record of the node. -/
def record (o : Occurrence) : Record := o.node.record o.owner

/-- The same place of the sorted tree. -/
def sorted (o : Occurrence) : Occurrence := ⟨o.owner, o.node.sorted⟩

@[simp] theorem name_record (o : Occurrence) : o.record.name = o.label := rfl

@[simp] theorem name?_sorted (o : Occurrence) : o.sorted.name? = o.name? :=
  Node.name?_sorted o.owner o.node

@[simp] theorem label_sorted (o : Occurrence) : o.sorted.label = o.label :=
  Node.label_sorted o.owner o.node

end Occurrence

mutual

/-- The nodes strictly inside a node, each after those inside it. -/
def Node.inner : Node → List Occurrence
  | .object _ fields => Fields.inner fields
  | .arrayRoot _ item => item.inner itemsField
termination_by structural node => node

/-- The nodes that the type of a field holds. -/
def FieldType.inner (field : String) : FieldType → List Occurrence
  | .primitive _ => []
  | .object node => node.inner ++ [⟨some field, node⟩]
  | .array element => element.inner field
termination_by structural type => type

/-- The nodes that the fields hold, one field after the other. -/
def Fields.inner : List (String × FieldType) → List Occurrence
  | [] => []
  | (name, type) :: rest => type.inner name ++ Fields.inner rest
termination_by structural fields => fields

end

/-- The nodes inside a node, and itself at the end. -/
def Node.occurrences (owner : Option String) (node : Node) : List Occurrence :=
  node.inner ++ [⟨owner, node⟩]

/-- The nodes strictly inside the node of an occurrence. -/
def Occurrence.inner (o : Occurrence) : List Occurrence := o.node.inner

theorem Node.inner_eq (node : Node) : node.inner = Fields.inner node.contents := by
  cases node with
  | object title fields => rfl
  | arrayRoot title item => exact (List.append_nil _).symm

theorem FieldType.inner_object (field : String) (node : Node) :
    (FieldType.object node).inner field = node.occurrences (some field) := rfl

theorem Fields.inner_eq_flatMap (fields : Fields) :
    Fields.inner fields = fields.flatMap fun f => f.2.inner f.1 := by
  induction fields with
  | nil => rfl
  | cons head rest ih => rw [Fields.inner, ih, List.flatMap_cons]

theorem Node.mem_occurrences {owner : Option String} {node : Node} {o : Occurrence} :
    o ∈ node.occurrences owner ↔ o ∈ node.inner ∨ o = ⟨owner, node⟩ := by
  rw [Node.occurrences, List.mem_append, List.mem_singleton]

theorem Node.self_mem_occurrences (owner : Option String) (node : Node) :
    ⟨owner, node⟩ ∈ node.occurrences owner := Node.mem_occurrences.mpr (Or.inr rfl)

/-! ### The nodes of a sorted tree -/

mutual

/-- The nodes inside a sorted node are those inside the node, sorted, in some order. -/
theorem Node.inner_sorted : ∀ node : Node,
    node.sorted.inner.Perm (node.inner.map Occurrence.sorted)
  | .object _ fields => Fields.inner_sorted fields
  | .arrayRoot _ item => FieldType.inner_sorted itemsField item

theorem FieldType.inner_sorted (field : String) : ∀ type : FieldType,
    (type.sorted.inner field).Perm ((type.inner field).map Occurrence.sorted)
  | .primitive _ => List.Perm.refl _
  | .object node => by
    rw [FieldType.sorted, FieldType.inner, FieldType.inner, List.map_append]
    exact (Node.inner_sorted node).append_right _
  | .array element => FieldType.inner_sorted field element

theorem Fields.inner_sorted : ∀ fields : List (String × FieldType),
    (Fields.inner (Fields.sorted fields)).Perm ((Fields.inner fields).map Occurrence.sorted)
  | [] => List.Perm.refl _
  | (name, type) :: rest => by
    -- the first field moves to its place, and its nodes move with it
    have hinsert : (Fields.inner (Fields.sorted ((name, type) :: rest))).Perm
        (Fields.inner ((name, type.sorted) :: Fields.sorted rest)) := by
      rw [Fields.sorted, Fields.inner_eq_flatMap, Fields.inner_eq_flatMap]
      exact (Fields.insertSorted_perm name type.sorted (Fields.sorted rest)).flatMap_right _
    rw [Fields.inner, List.map_append]
    exact hinsert.trans ((FieldType.inner_sorted name type).append (Fields.inner_sorted rest))

end

/-- The occurrences of a sorted node are those of the node, sorted, in some order. -/
theorem Node.occurrences_sorted (owner : Option String) (node : Node) :
    (node.sorted.occurrences owner).Perm ((node.occurrences owner).map Occurrence.sorted) := by
  rw [Node.occurrences, Node.occurrences, List.map_append]
  exact (Node.inner_sorted node).append_right _

/-- A property of names and normal forms can be checked on the sorted tree. -/
theorem Node.forall_occurrences_sorted {owner : Option String} {node : Node}
    {P : Occurrence → Prop} :
    (∀ o ∈ node.sorted.occurrences owner, P o) ↔ ∀ o ∈ node.occurrences owner, P o.sorted := by
  constructor
  · intro h o ho
    exact h _ ((Node.occurrences_sorted owner node).mem_iff.mpr (List.mem_map_of_mem ho))
  · intro h o ho
    obtain ⟨p, hp, rfl⟩ := List.mem_map.mp ((Node.occurrences_sorted owner node).mem_iff.mp ho)
    exact h p hp

/-! ### Nodes inside nodes -/

mutual

/-- What is inside a node inside a node is inside the latter. -/
theorem Node.inner_trans : ∀ (node : Node) {o d : Occurrence}, o ∈ node.inner → d ∈ o.inner →
    d ∈ node.inner
  | .object _ fields, _, _, ho, hd => Fields.inner_trans fields ho hd
  | .arrayRoot _ item, _, _, ho, hd => FieldType.inner_trans itemsField item ho hd

theorem FieldType.inner_trans (field : String) : ∀ (type : FieldType) {o d : Occurrence},
    o ∈ type.inner field → d ∈ o.inner → d ∈ type.inner field
  | .primitive _, _, _, ho, _ => absurd ho List.not_mem_nil
  | .object node, _, _, ho, hd => by
    rw [FieldType.inner_object, Node.mem_occurrences] at ho ⊢
    rcases ho with ho | rfl
    · exact Or.inl (Node.inner_trans node ho hd)
    · exact Or.inl hd
  | .array element, _, _, ho, hd => FieldType.inner_trans field element ho hd

theorem Fields.inner_trans : ∀ (fields : List (String × FieldType)) {o d : Occurrence},
    o ∈ Fields.inner fields → d ∈ o.inner → d ∈ Fields.inner fields
  | [], _, _, ho, _ => absurd ho List.not_mem_nil
  | (name, type) :: rest, _, _, ho, hd => by
    rw [Fields.inner, List.mem_append] at ho ⊢
    rcases ho with ho | ho
    · exact Or.inl (FieldType.inner_trans name type ho hd)
    · exact Or.inr (Fields.inner_trans rest ho hd)

end

theorem Node.occurrences_trans {owner : Option String} {node : Node} {o d : Occurrence}
    (ho : o ∈ node.occurrences owner) (hd : d ∈ o.inner) : d ∈ node.inner := by
  rcases Node.mem_occurrences.mp ho with ho | rfl
  · exact Node.inner_trans node ho hd
  · exact hd

theorem Node.occurrences_subset {owner : Option String} {node : Node} {o : Occurrence}
    (ho : o ∈ node.occurrences owner) : o.node.occurrences o.owner ⊆ node.occurrences owner := by
  intro d hd
  rcases Node.mem_occurrences.mp hd with hd | rfl
  · exact Node.mem_occurrences.mpr (Or.inl (Node.occurrences_trans ho hd))
  · exact ho

end SchemaDecl
