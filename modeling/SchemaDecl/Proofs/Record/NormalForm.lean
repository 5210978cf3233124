import SchemaDecl.Proofs.Record.Dependency

/-!
# Records and the trees they stand for

The registry compares records, which show one level of a tree: what a nested node holds is
hidden behind its name.  Nothing is lost by that.  A normal form is a tree in which every
node bears its name and holds ordered fields, and when the records of one name agree, so
do the normal forms of the nodes of that name.  The references of the collected records
can then be followed back to the normal form of the schema.

## Main definitions

* `Node.named` — the tree with names for titles, and the items of an array as a field.
* `Node.normalForm` — the same with the fields in order.
* `Shape.deref`, `Record.unfold` — the tree of a record: each reference is replaced by the tree
  of the record of that name.
* `Declares` — the records are those of some nodes, in the order of references.

## Main results

* `Node.named_eq_of_label_eq` — nodes of one name have one normal form, if their records
  agree.
* `Node.coherent_sorted_iff` — records agree exactly if normal forms do.
* `Node.unfold_record` — the record of a node unfolds to the normal form of the node.
* `collectRecords_normalForm` — **records are consistent exactly if normal forms are, unfold
  to the normal form of the schema, and are the records of that form**.
-/

namespace SchemaDecl

/-! ### Normal forms -/

mutual

/-- The node with its name for a title, and likewise all nodes inside it.  A node that is an
array gets a field that holds its items. -/
def Node.named (owner : Option String) : Node → Node
  | .object title fields => .object (nodeName? title owner) (Fields.named fields)
  | .arrayRoot title item =>
    .object (nodeName? title owner) [(itemsField, .array (item.named itemsField))]
termination_by structural node => node

/-- The type with all nodes that it holds named. -/
def FieldType.named (field : String) : FieldType → FieldType
  | .primitive kind => .primitive kind
  | .object node => .object (node.named (some field))
  | .array element => .array (element.named field)
termination_by structural type => type

/-- The fields with all nodes that they hold named. -/
def Fields.named : List (String × FieldType) → Fields
  | [] => []
  | (name, type) :: rest => (name, type.named name) :: Fields.named rest
termination_by structural fields => fields

end

/-- The normal form of a node: nodes named, and fields in order, at every depth. -/
def Node.normalForm (owner : Option String) (node : Node) : Node := node.sorted.named owner

namespace Occurrence

/-- The occurrence of the named node. -/
def named (o : Occurrence) : Occurrence := ⟨o.owner, o.node.named o.owner⟩

/-- The normal form of the node. -/
def normalForm (o : Occurrence) : Node := o.node.normalForm o.owner

end Occurrence

theorem Node.named_eq (owner : Option String) (node : Node) :
    node.named owner = .object (node.name? owner) (Fields.named node.contents) := by
  cases node <;> rfl

theorem Fields.named_eq_map (fields : Fields) :
    Fields.named fields = fields.map fun f => (f.1, f.2.named f.1) := by
  induction fields with
  | nil => rfl
  | cons head rest ih => rw [Fields.named, ih, List.map_cons]

@[simp] theorem Node.contents_named (owner : Option String) (node : Node) :
    (node.named owner).contents = Fields.named node.contents := by
  rw [Node.named_eq]
  rfl

@[simp] theorem Node.name?_named (owner : Option String) (node : Node) :
    (node.named owner).name? owner = node.name? owner := by
  rw [Node.named_eq]
  exact nodeName?_nodeName? node.title owner

@[simp] theorem Node.label_named (owner : Option String) (node : Node) :
    (node.named owner).label owner = node.label owner := by
  rw [Node.label, Node.name?_named, Node.label]

@[simp] theorem FieldType.shape_named (field : String) (type : FieldType) :
    (type.named field).shape field = type.shape field := by
  cases type with
  | primitive kind => rfl
  | object node => exact congrArg Shape.object (Node.label_named (some field) node)
  | array element => exact congrArg Shape.array (FieldType.shape_named field element)

@[simp] theorem Fields.shapes_named (fields : Fields) :
    Fields.shapes (Fields.named fields) = Fields.shapes fields := by
  rw [Fields.named_eq_map, Fields.shapes, Fields.shapes, List.map_map]
  simp

@[simp] theorem Node.record_named (owner : Option String) (node : Node) :
    (node.named owner).record owner = node.record owner := by
  rw [Node.record, Node.label_named, Node.contents_named, Fields.shapes_named, Node.record]

@[simp] theorem Occurrence.record_named (o : Occurrence) : o.named.record = o.record :=
  Node.record_named o.owner o.node

/-! ### Named nodes inside named nodes -/

mutual

/-- The nodes inside a named node are the named ones inside the node. -/
theorem Node.inner_named : ∀ (node : Node) (owner : Option String),
    (node.named owner).inner = node.inner.map Occurrence.named
  | .object title fields, _ => Fields.inner_named fields
  | .arrayRoot title item, _ => by
    rw [Node.inner_eq, Node.contents_named, Node.contents, Fields.named, FieldType.named,
      Fields.named, Fields.inner, Fields.inner, List.append_nil, FieldType.inner,
      FieldType.inner_named item]
    rfl

theorem FieldType.inner_named : ∀ (type : FieldType) (field : String),
    (type.named field).inner field = (type.inner field).map Occurrence.named
  | .primitive _, _ => rfl
  | .object node, field => by
    rw [FieldType.named, FieldType.inner, FieldType.inner, Node.inner_named node, List.map_append]
    rfl
  | .array element, field => FieldType.inner_named element field

theorem Fields.inner_named : ∀ fields : List (String × FieldType),
    Fields.inner (Fields.named fields) = (Fields.inner fields).map Occurrence.named
  | [] => rfl
  | (name, type) :: rest => by
    rw [Fields.named, Fields.inner, Fields.inner, FieldType.inner_named type,
      Fields.inner_named rest, List.map_append]

end

theorem Node.occurrences_named (owner : Option String) (node : Node) :
    (node.named owner).occurrences owner = (node.occurrences owner).map Occurrence.named := by
  rw [Node.occurrences, Node.inner_named, Node.occurrences, List.map_append]
  rfl

mutual

/-- Nodes can be named before or after their fields are sorted. -/
theorem Node.sorted_named : ∀ (node : Node) (owner : Option String),
    (node.named owner).sorted = node.sorted.named owner
  | .object title fields, owner => by
    rw [Node.named, Node.sorted, Node.sorted, Node.named, Fields.sorted_named fields]
  | .arrayRoot title item, owner => by
    rw [Node.named, Node.sorted, Node.sorted, Node.named, ← FieldType.sorted_named item]
    rfl

theorem FieldType.sorted_named : ∀ (type : FieldType) (field : String),
    (type.named field).sorted = type.sorted.named field
  | .primitive _, _ => rfl
  | .object node, field => congrArg FieldType.object (Node.sorted_named node (some field))
  | .array element, field => congrArg FieldType.array (FieldType.sorted_named element field)

theorem Fields.sorted_named : ∀ fields : List (String × FieldType),
    Fields.sorted (Fields.named fields) = Fields.named (Fields.sorted fields)
  | [] => rfl
  | (name, type) :: rest => by
    rw [Fields.named, Fields.sorted, Fields.sorted, Fields.sorted_named rest,
      FieldType.sorted_named type, Fields.named_eq_map, Fields.named_eq_map,
      Fields.map_insertSorted fun name type => type.named name]

end

theorem Node.sorted_normalForm (owner : Option String) (node : Node) :
    (node.normalForm owner).sorted = node.normalForm owner := by
  rw [Node.normalForm, Node.sorted_named, Node.sorted_sorted]

/-! ### Records of one name and normal forms of one name -/

/-- Fields with the shape of a single array are the field of a single array. -/
theorem Fields.eq_singleton_of_shapes {fields : Fields} {name : String} {shape : Shape}
    (h : Fields.shapes fields = [⟨name, .array shape⟩]) :
    ∃ element, fields = [(name, .array element)] ∧ element.shape name = shape := by
  match fields, h with
  | [(_, .array element)], h =>
    simp only [Fields.shapes_cons, Fields.shapes_nil, FieldType.shape, List.cons.injEq,
      RecordField.mk.injEq, Shape.array.injEq, and_true] at h
    obtain ⟨rfl, hshape⟩ := h
    exact ⟨element, rfl, hshape⟩

mutual

/-- **Records decide normal forms.**  Among nodes whose records are consistent, those of one
name have one normal form. -/
theorem Node.named_eq_of_label_eq {S : List Occurrence} (h : Coherent S) :
    ∀ (n m : Node) (o p : Option String),
    n.occurrences o ⊆ S → m.occurrences p ⊆ S → n.label o = m.label p →
    n.named o = m.named p
  | .object title fields, m, o, p, hn, hm, hlabel => by
    have hno := hn (Node.self_mem_occurrences o _)
    have hmp := hm (Node.self_mem_occurrences p m)
    have hname := (h.named _ hno).name?_congr (h.named _ hmp) hlabel
    have hrecord := h.record_eq hno hmp hlabel
    have hshapes : Fields.shapes fields = Fields.shapes m.contents := congrArg Record.fields hrecord
    have hname : (Node.object title fields).name? o = m.name? p := hname
    rw [Node.occurrences, List.append_subset, Node.inner_eq] at hn hm
    rw [Node.named_eq, Node.named_eq p, hname]
    exact congrArg _ (Fields.named_eq_of_shapes_eq h fields m.contents hn.1 hm.1 hshapes)
  | .arrayRoot title item, m, o, p, hn, hm, hlabel => by
    have hno := hn (Node.self_mem_occurrences o _)
    have hmp := hm (Node.self_mem_occurrences p m)
    have hname := (h.named _ hno).name?_congr (h.named _ hmp) hlabel
    have hrecord := h.record_eq hno hmp hlabel
    have hname : (Node.arrayRoot title item).name? o = m.name? p := hname
    -- the other node need not be an array, but it has the one field that this one gets
    have hshapes : Fields.shapes m.contents = [⟨itemsField, .array (item.shape itemsField)⟩] :=
      (congrArg Record.fields hrecord).symm
    obtain ⟨element, hcontents, hshape⟩ := Fields.eq_singleton_of_shapes hshapes
    rw [Node.occurrences, List.append_subset] at hn hm
    rw [Node.inner_eq m, hcontents, Fields.inner, List.append_subset] at hm
    have hitem : item.named itemsField = element.named itemsField :=
      FieldType.named_eq_of_shape_eq h item element itemsField hn.1 hm.1.1 hshape.symm
    rw [Node.named_eq, Node.named_eq p, hname, hcontents]
    simp only [Node.contents, Fields.named, FieldType.named, hitem]

theorem FieldType.named_eq_of_shape_eq {S : List Occurrence} (h : Coherent S) :
    ∀ (t u : FieldType) (field : String),
    t.inner field ⊆ S → u.inner field ⊆ S → t.shape field = u.shape field →
    t.named field = u.named field
  | .primitive kind, u, field, _, _, hshape => by
    cases u with
    | primitive kind' => rw [Shape.primitive.inj hshape]
    | object m => cases hshape
    | array u => cases hshape
  | .object n, u, field, ht, hu, hshape => by
    cases u with
    | primitive kind => cases hshape
    | object m =>
      exact congrArg FieldType.object
        (Node.named_eq_of_label_eq h n m _ _ ht hu (Shape.object.inj hshape))
    | array u => cases hshape
  | .array t, u, field, ht, hu, hshape => by
    cases u with
    | primitive kind => cases hshape
    | object m => cases hshape
    | array u =>
      exact congrArg FieldType.array
        (FieldType.named_eq_of_shape_eq h t u field ht hu (Shape.array.inj hshape))

theorem Fields.named_eq_of_shapes_eq {S : List Occurrence} (h : Coherent S) :
    ∀ fs gs : List (String × FieldType),
    Fields.inner fs ⊆ S → Fields.inner gs ⊆ S → Fields.shapes fs = Fields.shapes gs →
    Fields.named fs = Fields.named gs
  | [], gs, _, _, hshapes => by
    cases gs with
    | nil => rfl
    | cons g gs => cases hshapes
  | (name, t) :: fs, gs, hfs, hgs, hshapes => by
    cases gs with
    | nil => cases hshapes
    | cons g gs =>
      obtain ⟨name', u⟩ := g
      rw [Fields.inner, List.append_subset] at hfs hgs
      simp only [Fields.shapes_cons, List.cons.injEq, RecordField.mk.injEq] at hshapes
      obtain ⟨⟨rfl, hshape⟩, hrest⟩ := hshapes
      rw [Fields.named, Fields.named,
        FieldType.named_eq_of_shape_eq h t u name hfs.1 hgs.1 hshape,
        Fields.named_eq_of_shapes_eq h fs gs hfs.2 hgs.2 hrest]

end

/-- The record of a node in order can be read off its normal form. -/
theorem Occurrence.record_sorted (o : Occurrence) :
    o.sorted.record = ⟨o.label, Fields.shapes o.normalForm.contents⟩ := by
  rw [Occurrence.normalForm, Node.normalForm, Node.contents_named, Fields.shapes_named]
  exact congrArg (Record.mk · _) (Node.label_sorted o.owner o.node)

/-- The nodes of a schema in order are coherent exactly if all have names, and those of one
name have one normal form. -/
theorem Node.coherent_sorted_iff (root : Node) :
    Coherent (root.sorted.occurrences none) ↔
      (∀ o ∈ root.occurrences none, o.Named) ∧
      ∀ o ∈ root.occurrences none, ∀ p ∈ root.occurrences none,
        o.name? = p.name? → o.normalForm = p.normalForm := by
  have hnamed : ∀ o : Occurrence, o.sorted.Named ↔ o.Named := by
    intro o
    rw [Occurrence.Named, Occurrence.name?_sorted, Occurrence.Named]
  constructor
  · intro h
    have hsorted : ∀ o ∈ root.occurrences none, o.sorted ∈ root.sorted.occurrences none :=
      Node.forall_occurrences_sorted.mp fun _ ho => ho
    refine ⟨fun o ho => (hnamed o).mp (h.named _ (hsorted o ho)), fun o ho p hp hname => ?_⟩
    refine Node.named_eq_of_label_eq h o.node.sorted p.node.sorted o.owner p.owner
      (Node.occurrences_subset (hsorted o ho)) (Node.occurrences_subset (hsorted p hp)) ?_
    rw [Node.label_sorted, Node.label_sorted]
    exact congrArg (Option.getD · "") hname
  · rintro ⟨hall, hforms⟩
    refine ⟨Node.forall_occurrences_sorted.mpr fun o ho => (hnamed o).mpr (hall o ho), ?_⟩
    rw [List.InjOn, List.forall_mem_map, Node.forall_occurrences_sorted]
    intro o ho
    rw [List.forall_mem_map, Node.forall_occurrences_sorted]
    intro p hp hlabel
    -- a record is one level of the normal form
    rw [Occurrence.record_sorted, Occurrence.record_sorted] at hlabel ⊢
    have hname : o.name? = p.name? := (hall o ho).name?_congr (hall p hp) hlabel
    rw [hforms o ho p hp hname, show o.label = p.label from hlabel]

/-! ### Unfolding -/

/-- The type that a shape stands for, where a name stands for the tree given by `tree`. -/
def Shape.deref (tree : String → Option Node) : Shape → Option FieldType
  | .primitive kind => some (.primitive kind)
  | .object name => (tree name).map .object
  | .array element => (element.deref tree).map .array

/-- The fields that the fields of a record stand for. -/
def RecordField.derefAll (tree : String → Option Node) : List RecordField → Option Fields
  | [] => some []
  | field :: rest => do
    let type ← field.shape.deref tree
    let types ← derefAll tree rest
    some ((field.name, type) :: types)

/-- The tree that a record stands for among the others, if no reference leads more than `depth`
records away from it. -/
def Record.unfold (records : List Record) : Nat → Record → Option Node
  | 0, _ => none
  | depth + 1, record =>
    (RecordField.derefAll
      (fun name => (records.find? fun r => r.name = name).bind (Record.unfold records depth))
      record.fields).map (.object (some record.name))

/-- The tree that a name stands for. -/
def tree? (records : List Record) (depth : Nat) (name : String) : Option Node :=
  (records.find? fun r => r.name = name).bind (Record.unfold records depth)

@[simp] theorem Record.unfold_succ (records : List Record) (depth : Nat) (record : Record) :
    record.unfold records (depth + 1)
      = (RecordField.derefAll (tree? records depth) record.fields).map
          (.object (some record.name)) := rfl

/-- The nodes have names, by which their records are found, and the records are in the order
of their references. -/
structure Declares (records : List Record) (os : List Occurrence) : Prop where
  named : ∀ o ∈ os, o.Named
  find : ∀ o ∈ os, (records.find? fun r => r.name = o.label) = some o.record
  falls : Falls (rank records) os

/-- The record of a node unfolds as its fields do. -/
theorem Node.unfold_record_of_contents {records : List Record} {node : Node}
    {owner : Option String} {depth : Nat} (hnamed : Occurrence.Named ⟨owner, node⟩)
    (h : RecordField.derefAll (tree? records depth) (Fields.shapes node.contents)
      = some (Fields.named node.contents)) :
    (node.record owner).unfold records (depth + 1) = some (node.named owner) := by
  have hname : node.name? owner = some (node.label owner) := hnamed.name?_eq
  rw [Record.unfold_succ, Node.named_eq, hname, Node.record, h, Option.map_some]

mutual

/-- **The record of a node unfolds to the normal form of the node**, in as many steps as its
rank allows for. -/
theorem Node.unfold_record {records : List Record} {S : List Occurrence}
    (h : Declares records S) : ∀ (node : Node) (owner : Option String) (depth : Nat),
    node.occurrences owner ⊆ S → rank records (node.label owner) < depth →
    (node.record owner).unfold records depth = some (node.named owner)
  | .object title fields, owner, depth + 1, hS, hdepth => by
    have hself : ⟨owner, .object title fields⟩ ∈ S := hS (Node.self_mem_occurrences owner _)
    rw [Node.occurrences, List.append_subset] at hS
    refine Node.unfold_record_of_contents (h.named _ hself)
      (Fields.derefAll_shapes h fields depth hS.1 fun f hf name hname => ?_)
    -- the reference is one of the node, so the rank falls below the steps that are left
    have hlt := h.falls _ hself name (Node.mem_refs_iff.mpr ⟨f, hf, hname⟩)
    exact hlt.trans_le (Nat.lt_succ_iff.mp hdepth)
  | .arrayRoot title item, owner, depth + 1, hS, hdepth => by
    have hself : ⟨owner, .arrayRoot title item⟩ ∈ S := hS (Node.self_mem_occurrences owner _)
    rw [Node.occurrences, List.append_subset] at hS
    have hitem : (item.shape itemsField).deref (tree? records depth)
        = some (item.named itemsField) := by
      refine FieldType.deref_shape h item itemsField depth hS.1 fun name hname => ?_
      have hlt := h.falls _ hself name (Node.mem_refs_iff.mpr ⟨_, List.mem_singleton_self _, hname⟩)
      exact hlt.trans_le (Nat.lt_succ_iff.mp hdepth)
    refine Node.unfold_record_of_contents (h.named _ hself) ?_
    rw [Node.contents, Fields.shapes_cons, RecordField.derefAll, FieldType.shape, Shape.deref, hitem]
    rfl

theorem FieldType.deref_shape {records : List Record} {S : List Occurrence}
    (h : Declares records S) : ∀ (type : FieldType) (field : String) (depth : Nat),
    type.inner field ⊆ S →
    (∀ name, (type.shape field).ref? = some name → rank records name < depth) →
    (type.shape field).deref (tree? records depth) = some (type.named field)
  | .primitive _, _, _, _, _ => rfl
  | .object node, field, depth, hS, href => by
    have hfind := h.find _ (hS (Node.self_mem_occurrences (some field) node))
    have htree : tree? records depth (node.label (some field)) = some (node.named (some field)) := by
      have hunfold := Node.unfold_record h node (some field) depth hS (href _ rfl)
      exact (congrArg (Option.bind · _) hfind).trans hunfold
    exact congrArg (Option.map FieldType.object) htree
  | .array element, field, depth, hS, href => by
    rw [FieldType.shape, Shape.deref, FieldType.deref_shape h element field depth hS href]
    rfl

theorem Fields.derefAll_shapes {records : List Record} {S : List Occurrence}
    (h : Declares records S) : ∀ (fields : List (String × FieldType)) (depth : Nat),
    Fields.inner fields ⊆ S →
    (∀ f ∈ fields, ∀ name, (f.2.shape f.1).ref? = some name → rank records name < depth) →
    RecordField.derefAll (tree? records depth) (Fields.shapes fields) = some (Fields.named fields)
  | [], _, _, _ => rfl
  | (name, type) :: rest, depth, hS, href => by
    rw [Fields.inner, List.append_subset] at hS
    have htype := FieldType.deref_shape h type name depth hS.1 (href _ List.mem_cons_self)
    have hrest := Fields.derefAll_shapes h rest depth hS.2
      fun f hf => href f (List.mem_cons_of_mem _ hf)
    rw [Fields.shapes_cons, RecordField.derefAll, htype, hrest]
    rfl

end

/-! ### Collected records and normal forms -/

section Collected

variable {root : Node} {records : List Record}

/-- The records of a schema are collected from all of its nodes. -/
theorem declares_of_collectRecords (h : collectRecords root = .ok records) :
    Declares records (root.sorted.occurrences none) where
  named := ((collectRecords_eq_ok_iff root records).mp h).1.named
  find o ho := by
    obtain ⟨r, hr⟩ : ∃ r, (records.find? fun r => r.name = o.label) = some r := by
      rw [← Option.isSome_iff_exists, List.find?_isSome]
      exact ⟨o.record, record_mem_of_collectRecords h ho, decide_eq_true rfl⟩
    have hfound := List.find?_some hr
    have hname : r.name = o.record.name := of_decide_eq_true hfound
    have hmem : r ∈ records := List.mem_of_find?_eq_some hr
    rw [hr, List.inj_on_of_nodup_map (nodup_of_collectRecords h) hmem
      (record_mem_of_collectRecords h ho) hname]
  falls := falls_of_collectRecords h

/-- The record of the root unfolds to the normal form of the schema. -/
theorem unfold_root_of_collectRecords (h : collectRecords root = .ok records) {depth : Nat}
    (hdepth : records.length ≤ depth) :
    (root.sorted.record none).unfold records depth = some (root.normalForm none) := by
  have hself : ⟨none, root.sorted⟩ ∈ root.sorted.occurrences none :=
    Node.self_mem_occurrences none root.sorted
  have hrank := rank_lt_length (record_mem_of_collectRecords h hself)
  exact Node.unfold_record (declares_of_collectRecords h) root.sorted none depth
    (List.Subset.refl _) (hrank.trans_le hdepth)

/-- The normal form of a schema has the records of the schema. -/
theorem collectRecords_normalForm_eq (h : collectRecords root = .ok records) :
    collectRecords (root.normalForm none) = .ok records := by
  obtain ⟨hcoherent, rfl⟩ := (collectRecords_eq_ok_iff root records).mp h
  have hoccurrences : (root.normalForm none).sorted.occurrences none
      = (root.sorted.occurrences none).map Occurrence.named := by
    rw [Node.sorted_normalForm, Node.normalForm, Node.occurrences_named]
  have hrecords : ((root.normalForm none).sorted.occurrences none).map Occurrence.record
      = (root.sorted.occurrences none).map Occurrence.record := by
    rw [hoccurrences, List.map_map]
    exact List.map_congr_left fun o _ => Occurrence.record_named o
  refine (collectRecords_eq_ok_iff _ _).mpr ⟨⟨?_, ?_⟩, ?_⟩
  · rw [hoccurrences, List.forall_mem_map]
    intro o ho
    obtain ⟨name, hname⟩ := hcoherent.named o ho
    exact ⟨name, by rw [← hname]; exact Node.name?_named o.owner o.node⟩
  · rw [hrecords]
    exact hcoherent.consistent
  · exact congrArg (List.keepFirst _) hrecords.symm

end Collected

/-- **Records are consistent exactly if normal forms are, and they hide nothing.**  The records
of a schema can be collected exactly if all nodes have names and those of one name have one
normal form.  The last record then unfolds to the normal form of the schema, which in turn
has just these records. -/
theorem collectRecords_normalForm (root : Node) :
    ((∃ records, collectRecords root = .ok records) ↔
      (∀ o ∈ root.occurrences none, ∃ name, o.name? = some name) ∧
      ∀ o ∈ root.occurrences none, ∀ p ∈ root.occurrences none,
        o.name? = p.name? → o.normalForm = p.normalForm) ∧
    ∀ records, collectRecords root = .ok records →
      ∃ last, records.getLast? = some last ∧
        (∀ depth, records.length ≤ depth →
          last.unfold records depth = some (root.normalForm none)) ∧
        collectRecords (root.normalForm none) = .ok records := by
  refine ⟨?_, fun records h => ?_⟩
  · rw [exists_collectRecords_eq_ok_iff]
    exact Node.coherent_sorted_iff root
  · exact ⟨root.sorted.record none, getLast?_of_collectRecords h,
      fun depth hdepth => unfold_root_of_collectRecords h hdepth,
      collectRecords_normalForm_eq h⟩

/-- A type that stands in two places is one record, and both places unfold to it. -/
theorem collectRecords_normalForm_of_shared :
    (Record.mk "Pair" [⟨"a", .object "Point"⟩, ⟨"b", .array (.object "Point")⟩]).unfold
        [⟨"Point", [⟨"x", .primitive .integer⟩]⟩,
          ⟨"Pair", [⟨"a", .object "Point"⟩, ⟨"b", .array (.object "Point")⟩]⟩] 2
      = some (Node.normalForm none (.object (some "Pair")
          [("b", .array (.object (.object (some "Point") [("x", .primitive .integer)]))),
            ("a", .object (.object (some "Point 2") [("x", .primitive .integer)]))])) := by
  obtain ⟨last, hlast, hunfold, -⟩ := (collectRecords_normalForm (.object (some "Pair")
    [("b", .array (.object (.object (some "Point") [("x", .primitive .integer)]))),
      ("a", .object (.object (some "Point 2") [("x", .primitive .integer)]))])).2 _ rfl
  obtain rfl := Option.some.inj hlast
  exact hunfold 2 (Nat.le_refl 2)

end SchemaDecl
