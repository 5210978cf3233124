import Mathlib.Logic.Relation
import SchemaDecl.Proofs.Record.Success

/-!
# The order of records

A node is declared after the nodes that it holds.  So each record refers to earlier ones
only, also when repeated records are left out, and the place of a record is a rank that
falls from every node to the nodes inside it.  A node therefore never has the name of a
node that holds it, and the record of the root is always the last.

## Main definitions

* `Shape.ref?`, `Record.refs` — the names that a shape and a record refer to.
* `RefersBack` — each record of a list refers to earlier ones only.
* `Refers` — one name refers to another.
* `rank` — the place of the record of a name.

## Main results

* `Node.refersBack_records` — the records of the nodes of a schema refer back.
* `Node.rank_lt_of_mem_inner` — ranks fall from a node to the nodes inside it.
* `collectRecords_refers_back` — **collected records are in the order of their references**.
-/

namespace SchemaDecl

/-! ### References -/

/-- The type that a shape refers to, through any arrays. -/
def Shape.ref? : Shape → Option String
  | .primitive _ => none
  | .object name => some name
  | .array element => element.ref?

/-- The types that the fields of a record refer to. -/
def Record.refs (record : Record) : List String := record.fields.filterMap (·.shape.ref?)

/-- The record of the first name refers to the second name. -/
def Refers (records : List Record) (name ref : String) : Prop :=
  ∃ r ∈ records, r.name = name ∧ ref ∈ r.refs

theorem Node.mem_refs_iff {owner : Option String} {node : Node} {name : String} :
    name ∈ (node.record owner).refs ↔
      ∃ f ∈ node.contents, (f.2.shape f.1).ref? = some name := by
  simp [Record.refs, Node.record, Fields.shapes, List.mem_filterMap]

/-- What a shape refers to is a node that the type holds. -/
theorem FieldType.exists_inner_of_ref {name : String} (field : String) : ∀ type : FieldType,
    (type.shape field).ref? = some name → ∃ o ∈ type.inner field, o.label = name
  | .primitive _, h => by simp [FieldType.shape, Shape.ref?] at h
  | .object node, h => by
    have hlabel : node.label (some field) = name := Option.some.inj h
    exact ⟨⟨some field, node⟩, Node.self_mem_occurrences _ _, hlabel⟩
  | .array element, h => FieldType.exists_inner_of_ref field element h

theorem Fields.inner_subset {fields : Fields} {f : String × FieldType} (hf : f ∈ fields) :
    f.2.inner f.1 ⊆ Fields.inner fields := by
  rw [Fields.inner_eq_flatMap]
  exact fun o ho => List.mem_flatMap.mpr ⟨f, hf, ho⟩

theorem Node.inner_subset {node : Node} {f : String × FieldType} (hf : f ∈ node.contents) :
    f.2.inner f.1 ⊆ node.inner := by
  rw [Node.inner_eq]
  exact Fields.inner_subset hf

/-- What the record of a node refers to is a node inside it. -/
theorem Node.exists_inner_of_mem_refs {owner : Option String} {node : Node} {name : String}
    (h : name ∈ (node.record owner).refs) : ∃ o ∈ node.inner, o.label = name := by
  obtain ⟨f, hf, href⟩ := Node.mem_refs_iff.mp h
  obtain ⟨o, ho, hlabel⟩ := FieldType.exists_inner_of_ref f.1 f.2 href
  exact ⟨o, Node.inner_subset hf ho, hlabel⟩

/-! ### Records that refer back -/

/-- Each record refers to earlier ones only. -/
inductive RefersBack : List Record → Prop
  | nil : RefersBack []
  | concat {records : List Record} {record : Record} : RefersBack records →
      (∀ name ∈ record.refs, ∃ d ∈ records, d.name = name) → RefersBack (records ++ [record])

namespace RefersBack

theorem append {rs ss : List Record} (hr : RefersBack rs) (hs : RefersBack ss) :
    RefersBack (rs ++ ss) := by
  induction hs with
  | nil => rwa [List.append_nil]
  | @concat ss s _ href ih =>
    rw [← List.append_assoc]
    refine ih.concat fun name hname => ?_
    obtain ⟨d, hd, hdname⟩ := href name hname
    exact ⟨d, List.mem_append_right _ hd, hdname⟩

/-- Leaving out all but the first record of each name keeps every reference satisfied. -/
theorem keepFirst {records : List Record} (h : RefersBack records) :
    RefersBack (records.keepFirst (·.name)) := by
  induction h with
  | nil => exact RefersBack.nil
  | @concat records record _ href ih =>
    rw [List.keepFirst_concat]
    split
    · exact ih
    · refine ih.concat fun name hname => ?_
      obtain ⟨d, hd, rfl⟩ := href name hname
      exact List.exists_mem_keepFirst (·.name) hd

/-- A reference names a record at an earlier place. -/
theorem exists_lt {records : List Record} (h : RefersBack records) (i : Nat)
    (hi : i < records.length) (name : String) (hname : name ∈ records[i].refs) :
    ∃ j, ∃ hj : j < i, records[j].name = name := by
  induction h with
  | nil => simp at hi
  | @concat records record _ href ih =>
    -- the record at the place is an old one or the last
    by_cases hlt : i < records.length
    · rw [List.getElem_append_left hlt] at hname
      obtain ⟨j, hj, hjname⟩ := ih hlt hname
      exact ⟨j, hj, by rw [List.getElem_append_left (hj.trans hlt), hjname]⟩
    · have hlen : i = records.length := by
        rw [List.length_append, List.length_singleton] at hi
        omega
      subst hlen
      rw [List.getElem_concat_length rfl] at hname
      obtain ⟨d, hd, hdname⟩ := href name hname
      obtain ⟨j, hj, rfl⟩ := List.getElem_of_mem hd
      exact ⟨j, hj, by rw [List.getElem_append_left hj, hdname]⟩

theorem mem_names {records : List Record} (h : RefersBack records) {record : Record}
    (hrecord : record ∈ records) {name : String} (hname : name ∈ record.refs) :
    name ∈ records.map (·.name) := by
  obtain ⟨i, hi, rfl⟩ := List.getElem_of_mem hrecord
  obtain ⟨j, hj, rfl⟩ := h.exists_lt i hi name hname
  exact List.mem_map_of_mem (List.getElem_mem _)

end RefersBack

/-- The record of a node refers to those of the nodes inside it. -/
theorem Node.refersBack_occurrences {node : Node}
    (h : RefersBack (node.inner.map Occurrence.record)) (owner : Option String) :
    RefersBack ((node.occurrences owner).map Occurrence.record) := by
  rw [Node.occurrences, List.map_append]
  refine h.concat fun name hname => ?_
  obtain ⟨o, ho, hlabel⟩ := Node.exists_inner_of_mem_refs hname
  exact ⟨o.record, List.mem_map_of_mem ho, hlabel⟩

mutual

theorem Node.refersBack_inner : ∀ node : Node, RefersBack (node.inner.map Occurrence.record)
  | .object _ fields => Fields.refersBack_inner fields
  | .arrayRoot _ item => FieldType.refersBack_inner itemsField item

theorem FieldType.refersBack_inner (field : String) : ∀ type : FieldType,
    RefersBack ((type.inner field).map Occurrence.record)
  | .primitive _ => RefersBack.nil
  | .object node => Node.refersBack_occurrences (Node.refersBack_inner node) (some field)
  | .array element => FieldType.refersBack_inner field element

theorem Fields.refersBack_inner : ∀ fields : List (String × FieldType),
    RefersBack ((Fields.inner fields).map Occurrence.record)
  | [] => RefersBack.nil
  | (name, type) :: rest => by
    rw [Fields.inner, List.map_append]
    exact (FieldType.refersBack_inner name type).append (Fields.refersBack_inner rest)

end

/-- The records of the nodes of a schema refer back. -/
theorem Node.refersBack_records (root : Node) : RefersBack root.records :=
  Node.refersBack_occurrences (Node.refersBack_inner root.sorted) none

/-! ### Ranks -/

/-- The place of the record of a name. -/
def rank (records : List Record) (name : String) : Nat := (records.map (·.name)).idxOf name

theorem rank_getElem {records : List Record} (h : (records.map (·.name)).Nodup) {i : Nat}
    (hi : i < records.length) : rank records records[i].name = i := by
  have := h.idxOf_getElem i (by rwa [List.length_map])
  rwa [List.getElem_map] at this

theorem rank_lt_length {records : List Record} {r : Record} (h : r ∈ records) :
    rank records r.name < records.length := by
  have := List.idxOf_lt_length_iff.mpr (List.mem_map_of_mem (f := (·.name)) h)
  rwa [List.length_map] at this

/-- Ranks fall along references. -/
theorem RefersBack.rank_lt {records : List Record} (h : RefersBack records)
    (hnodup : (records.map (·.name)).Nodup) {r : Record} (hr : r ∈ records) {name : String}
    (hname : name ∈ r.refs) : rank records name < rank records r.name := by
  obtain ⟨i, hi, rfl⟩ := List.getElem_of_mem hr
  obtain ⟨j, hj, rfl⟩ := h.exists_lt i hi name hname
  rw [rank_getElem hnodup hi, rank_getElem hnodup (hj.trans hi)]
  exact hj

/-- No name refers to itself, not even through others. -/
theorem RefersBack.not_refers_self {records : List Record} (h : RefersBack records)
    (hnodup : (records.map (·.name)).Nodup) (name : String) :
    ¬ Relation.TransGen (Refers records) name name := by
  have hfall : ∀ {a b : String}, Relation.TransGen (Refers records) a b →
      rank records b < rank records a := by
    intro a b hab
    induction hab with
    | single hstep =>
      obtain ⟨r, hr, rfl, href⟩ := hstep
      exact h.rank_lt hnodup hr href
    | tail _ hstep ih =>
      obtain ⟨r, hr, rfl, href⟩ := hstep
      exact (h.rank_lt hnodup hr href).trans ih
  -- a cycle would lead to a rank below itself
  exact fun hcycle => lt_irrefl _ (hfall hcycle)

/-- A rank of names that falls along the references of the nodes. -/
def Falls (rank : String → Nat) (os : List Occurrence) : Prop :=
  ∀ o ∈ os, ∀ name ∈ o.record.refs, rank name < rank o.label

mutual

/-- Such a rank falls from a node to every node inside it. -/
theorem Node.rank_lt_of_mem_inner {rank : String → Nat} : ∀ (node : Node) (owner : Option String),
    Falls rank (node.occurrences owner) → ∀ d ∈ node.inner, rank d.label < rank (node.label owner)
  | .object title fields, owner, h => by
    have hself := h _ (Node.self_mem_occurrences owner _)
    refine Fields.rank_lt_of_mem_inner fields (fun o ho => ?_) fun f hf name hname => ?_
    · exact h o (Node.mem_occurrences.mpr (Or.inl ho))
    · exact hself name (Node.mem_refs_iff.mpr ⟨f, hf, hname⟩)
  | .arrayRoot title item, owner, h => by
    have hself := h _ (Node.self_mem_occurrences owner _)
    refine FieldType.rank_lt_of_mem_inner item itemsField (fun o ho => ?_) fun name hname => ?_
    · exact h o (Node.mem_occurrences.mpr (Or.inl ho))
    · exact hself name (Node.mem_refs_iff.mpr ⟨_, List.mem_singleton_self _, hname⟩)

/-- A bound on what a type refers to is a bound on all nodes that it holds. -/
theorem FieldType.rank_lt_of_mem_inner {rank : String → Nat} {bound : Nat} :
    ∀ (type : FieldType) (field : String), Falls rank (type.inner field) →
      (∀ name, (type.shape field).ref? = some name → rank name < bound) →
      ∀ d ∈ type.inner field, rank d.label < bound
  | .primitive _, _, _, _ => fun _ hd => absurd hd List.not_mem_nil
  | .object node, field, h, href => by
    have hnode : rank (node.label (some field)) < bound := href _ rfl
    intro d hd
    rcases Node.mem_occurrences.mp hd with hd | rfl
    · exact (Node.rank_lt_of_mem_inner node (some field) h d hd).trans hnode
    · exact hnode
  | .array element, field, h, href => FieldType.rank_lt_of_mem_inner element field h href

theorem Fields.rank_lt_of_mem_inner {rank : String → Nat} {bound : Nat} :
    ∀ (fields : List (String × FieldType)), Falls rank (Fields.inner fields) →
      (∀ f ∈ fields, ∀ name, (f.2.shape f.1).ref? = some name → rank name < bound) →
      ∀ d ∈ Fields.inner fields, rank d.label < bound
  | [], _, _ => fun _ hd => absurd hd List.not_mem_nil
  | (name, type) :: rest, h, href => by
    intro d hd
    rw [Fields.inner] at h hd
    rcases List.mem_append.mp hd with hd | hd
    · exact FieldType.rank_lt_of_mem_inner type name (fun o ho => h o (List.mem_append_left _ ho))
        (href _ List.mem_cons_self) d hd
    · exact Fields.rank_lt_of_mem_inner rest (fun o ho => h o (List.mem_append_right _ ho))
        (fun f hf => href f (List.mem_cons_of_mem _ hf)) d hd

end

/-! ### Collected records -/

section Collected

variable {root : Node} {records : List Record}

/-- Each node of a schema has its record among those collected. -/
theorem record_mem_of_collectRecords (h : collectRecords root = .ok records) {o : Occurrence}
    (ho : o ∈ root.sorted.occurrences none) : o.record ∈ records := by
  obtain ⟨hcoherent, rfl⟩ := (collectRecords_eq_ok_iff root records).mp h
  exact hcoherent.consistent.mem_keepFirst (List.mem_map_of_mem ho)

theorem nodup_of_collectRecords (h : collectRecords root = .ok records) :
    (records.map (·.name)).Nodup := by
  obtain ⟨-, rfl⟩ := (collectRecords_eq_ok_iff root records).mp h
  exact List.nodup_map_keepFirst (·.name) root.records

/-- The name of a record is a word. -/
theorem firstWord?_of_collectRecords (h : collectRecords root = .ok records) {r : Record}
    (hr : r ∈ records) : Text.firstWord? r.name = some r.name := by
  obtain ⟨hcoherent, rfl⟩ := (collectRecords_eq_ok_iff root records).mp h
  obtain ⟨o, ho, rfl⟩ := List.mem_map.mp (List.mem_of_mem_keepFirst hr)
  have hname : Text.firstWord? (nameSource o.node.title o.owner) = some o.label :=
    (hcoherent.named o ho).name?_eq
  exact Text.firstWord?_firstWord hname

theorem refersBack_of_collectRecords (h : collectRecords root = .ok records) :
    RefersBack records := by
  obtain ⟨-, rfl⟩ := (collectRecords_eq_ok_iff root records).mp h
  exact root.refersBack_records.keepFirst

/-- The places of the records fall along the references of all nodes. -/
theorem falls_of_collectRecords (h : collectRecords root = .ok records) :
    Falls (rank records) (root.sorted.occurrences none) := by
  intro o ho name hname
  exact (refersBack_of_collectRecords h).rank_lt (nodup_of_collectRecords h)
    (record_mem_of_collectRecords h ho) hname

/-- The record of a node stands after those of all nodes inside it. -/
theorem rank_lt_of_collectRecords (h : collectRecords root = .ok records) {o d : Occurrence}
    (ho : o ∈ root.sorted.occurrences none) (hd : d ∈ o.inner) :
    rank records d.label < rank records o.label := by
  refine Node.rank_lt_of_mem_inner o.node o.owner (fun p hp => ?_) d hd
  exact falls_of_collectRecords h p (Node.occurrences_subset ho hp)

/-- The record of the root is the last one. -/
theorem getLast?_of_collectRecords (h : collectRecords root = .ok records) :
    records.getLast? = some (root.sorted.record none) := by
  -- the nodes inside the root have smaller ranks, so none of them has its name
  have hnew : ¬ ∃ r ∈ root.sorted.inner.map Occurrence.record,
      r.name = (root.sorted.record none).name := by
    rintro ⟨r, hr, hname⟩
    obtain ⟨d, hd, rfl⟩ := List.mem_map.mp hr
    have hlt := rank_lt_of_collectRecords h (Node.self_mem_occurrences none root.sorted) hd
    exact absurd (congrArg (rank records) hname) hlt.ne
  obtain ⟨-, rfl⟩ := (collectRecords_eq_ok_iff root records).mp h
  rw [Node.records_eq, List.keepFirst_concat, if_neg hnew, List.getLast?_concat]

end Collected

/-- A node that has the name of a node it is inside makes collecting fail. -/
theorem collectRecords_ne_ok_of_inner {root : Node} {o d : Occurrence}
    (ho : o ∈ root.occurrences none) (hd : d ∈ o.inner) (hname : d.name? = o.name?)
    (records : List Record) : collectRecords root ≠ .ok records := by
  intro h
  have hsorted : o.sorted ∈ root.sorted.occurrences none :=
    (Node.occurrences_sorted none root).mem_iff.mpr (List.mem_map_of_mem ho)
  have hinner : d.sorted ∈ o.sorted.inner :=
    (Node.inner_sorted o.node).mem_iff.mpr (List.mem_map_of_mem hd)
  have hlabel : d.sorted.label = o.sorted.label := by
    change d.sorted.name?.getD "" = o.sorted.name?.getD ""
    rw [Occurrence.name?_sorted, Occurrence.name?_sorted, hname]
  have hlt := rank_lt_of_collectRecords h hsorted hinner
  exact absurd (congrArg (rank records) hlabel) hlt.ne

/-- **Collected records are in the order of their references.**  Their names differ, each
refers to earlier ones only, so that no name refers to itself even through others, and the
last is the record of the root.  So a schema in which a node has the name of a node around
it has no records. -/
theorem collectRecords_refers_back (root : Node) :
    (∀ records, collectRecords root = .ok records →
      (records.map (·.name)).Nodup ∧
      (∀ i, ∀ hi : i < records.length, ∀ name ∈ records[i].refs,
        ∃ j, ∃ hj : j < i, records[j].name = name) ∧
      (∀ name, ¬ Relation.TransGen (Refers records) name name) ∧
      records.getLast? = some (root.sorted.record none)) ∧
    (∀ o ∈ root.occurrences none, ∀ d ∈ o.inner, d.name? = o.name? →
      ∃ e, collectRecords root = .error e) := by
  constructor
  · intro records h
    have hnodup := nodup_of_collectRecords h
    have hback := refersBack_of_collectRecords h
    exact ⟨hnodup, hback.exists_lt, hback.not_refers_self hnodup, getLast?_of_collectRecords h⟩
  · intro o ho d hd hname
    cases hcollect : collectRecords root with
    | error e => exact ⟨e, rfl⟩
    | ok records =>
      exact absurd hcollect (collectRecords_ne_ok_of_inner ho hd hname records)

/-- A node with the name of the node around it is refused, though it holds nothing. -/
theorem collectRecords_refers_back_of_self_named :
    ∃ e, collectRecords (.object (some "List")
      [("next", .object (.object (some "List") []))]) = .error e :=
  (collectRecords_refers_back (.object (some "List")
    [("next", .object (.object (some "List") []))])).2
    ⟨none, .object (some "List") [("next", .object (.object (some "List") []))]⟩
    (Node.self_mem_occurrences none _) ⟨some "next", .object (some "List") []⟩
    List.mem_cons_self rfl

end SchemaDecl
