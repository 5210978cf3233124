import SchemaDecl.Proofs.Record.Event

/-!
# When the records of a schema can be collected

The walk over a schema meets no fault exactly if all its nodes have names and no two of
them have records of one name that differ.  Then its records are those of its nodes, the
first of each name.

## Main definitions

* `Occurrence.Named` — a node has a name.
* `Coherent` — nodes have names, and those of one name have one record.
* `Node.records` — the records of all nodes of a schema, each after those inside it.

## Main results

* `Event.firstFault?_eq_none_iff` — when a list of events has no fault.
* `collectRecords_eq_ok_iff` — when the records of a schema can be collected, and which
  they are.
-/

namespace SchemaDecl

/-! ### Events without fault -/

/-- The node has a name. -/
def Occurrence.Named (o : Occurrence) : Prop := ∃ name, o.name? = some name

theorem Occurrence.Named.name?_eq {o : Occurrence} (h : o.Named) : o.name? = some o.label := by
  obtain ⟨name, hname⟩ := h
  rw [hname]
  exact congrArg some (Node.label_of_name? hname).symm

theorem Occurrence.Named.name?_congr {o p : Occurrence} (ho : o.Named) (hp : p.Named)
    (h : o.label = p.label) : o.name? = p.name? := by
  rw [ho.name?_eq, hp.name?_eq, h]

namespace Event

theorem fault?_enter_eq_none_iff (before : List Event) (v : Visit) :
    fault? before (enter v) = none ↔ v.Named := by
  have hname : v.name? = nodeName? v.node.title v.owner := rfl
  rw [fault?, Occurrence.Named, hname, ← Option.ne_none_iff_exists', ne_eq, nodeName?_eq_none_iff,
    ← Bool.and_eq_true]
  split <;> simp_all

theorem fault?_leave_eq_none_iff {before : List Event}
    (h : ((left before).map (·.record)).InjOn Record.name) (v : Visit) :
    fault? before (leave v) = none ↔
      ∀ r ∈ (left before).map (·.record), r.name = v.record.name → r = v.record := by
  rw [fault?]
  cases hfind : (left before).find? fun w => w.record.name = v.record.name with
  | none =>
    refine iff_of_true rfl fun r hr hname => ?_
    obtain ⟨w, hw, rfl⟩ := List.mem_map.mp hr
    exact absurd (decide_eq_true hname) (List.find?_eq_none.mp hfind w hw)
  | some first =>
    have hfirst : first.record ∈ (left before).map (·.record) :=
      List.mem_map_of_mem (List.mem_of_find?_eq_some hfind)
    have hname := Visit.name_of_find? hfind
    simp only [ite_eq_left_iff, reduceCtorEq, imp_false, not_not]
    constructor
    · intro heq r hr hr'
      -- the earliest record of the name stands for all of them
      rw [h r hr _ hfirst (hr'.trans hname.symm), heq]
    · intro hall
      exact hall _ hfirst hname

/-- A list of events has no fault exactly if every node entered has a name and the records
of the nodes left are consistent. -/
theorem firstFault?_eq_none_iff (events before : List Event)
    (h : ((left before).map (·.record)).InjOn Record.name) :
    firstFault? before events = none ↔
      (∀ v, enter v ∈ events → v.Named) ∧
        ((left (before ++ events)).map (·.record)).InjOn Record.name := by
  induction events generalizing before with
  | nil => simp [firstFault?, h]
  | cons e events ih =>
    rw [firstFault?, Option.or_eq_none_iff]
    have hassoc : before ++ e :: events = before ++ [e] ++ events := by simp
    cases e with
    | enter v =>
      -- entering a node adds no record
      have hleft : left (before ++ [enter v]) = left before := by simp
      rw [fault?_enter_eq_none_iff, ih (before ++ [enter v]) (by rw [hleft]; exact h), hassoc]
      simp only [List.mem_cons, enter.injEq, forall_eq_or_imp, and_assoc]
    | leave v =>
      -- leaving one adds its record, which the earlier ones must agree with
      have hleft : (left (before ++ [leave v])).map (·.record)
          = (left before).map (·.record) ++ [v.record] := by simp
      rw [fault?_leave_eq_none_iff h, hassoc]
      have hnot : ∀ w, enter w ∈ leave v :: events ↔ enter w ∈ events := by simp
      simp only [hnot]
      constructor
      · rintro ⟨hv, hrest⟩
        refine (ih (before ++ [leave v]) ?_).mp hrest
        rw [hleft, List.injOn_concat_iff]
        exact ⟨h, hv⟩
      · rintro ⟨hnamed, hall⟩
        have hpre : ((left (before ++ [leave v])).map (·.record)).InjOn Record.name := by
          rw [left_append, List.map_append] at hall
          exact hall.left
        refine ⟨?_, (ih (before ++ [leave v]) hpre).mpr ⟨hnamed, hall⟩⟩
        rw [hleft, List.injOn_concat_iff] at hpre
        exact hpre.2

end Event

/-! ### The events of a tree -/

mutual

/-- Exactly the nodes that are entered are left. -/
theorem Node.enter_mem_events_iff : ∀ (node : Node) (owner : Option String) (path : String)
    (v : Visit), Event.enter v ∈ node.events owner path ↔ Event.leave v ∈ node.events owner path
  | .object title fields, owner, path, v => by
    have := Fields.enter_mem_events_iff fields path v
    simp [Node.events, this, or_comm]
  | .arrayRoot title item, owner, path, v => by
    have := FieldType.enter_mem_events_iff item itemsField (Path.element path) v
    simp [Node.events, this, or_comm]

theorem FieldType.enter_mem_events_iff : ∀ (type : FieldType) (field path : String) (v : Visit),
    Event.enter v ∈ type.events field path ↔ Event.leave v ∈ type.events field path
  | .primitive _, _, _, _ => by simp [FieldType.events]
  | .object node, field, path, v => Node.enter_mem_events_iff node (some field) path v
  | .array element, field, path, v =>
    FieldType.enter_mem_events_iff element field (Path.element path) v

theorem Fields.enter_mem_events_iff : ∀ (fields : List (String × FieldType)) (path : String)
    (v : Visit), Event.enter v ∈ Fields.events path fields ↔ Event.leave v ∈ Fields.events path fields
  | [], _, _ => by simp [Fields.events]
  | (name, type) :: rest, path, v => by
    rw [Fields.events, List.mem_append, List.mem_append,
      FieldType.enter_mem_events_iff type, Fields.enter_mem_events_iff rest]

end

mutual

/-- The nodes are left in the order of their occurrences. -/
theorem Node.left_events : ∀ (node : Node) (owner : Option String) (path : String),
    (Event.left (node.events owner path)).map Visit.toOccurrence = node.occurrences owner
  | .object title fields, owner, path => by
    rw [Node.events, List.cons_append, Event.left_enter, Event.left_append, List.map_append,
      Fields.left_events fields]
    rfl
  | .arrayRoot title item, owner, path => by
    rw [Node.events, List.cons_append, Event.left_enter, Event.left_append, List.map_append,
      FieldType.left_events item]
    rfl

theorem FieldType.left_events : ∀ (type : FieldType) (field path : String),
    (Event.left (type.events field path)).map Visit.toOccurrence = type.inner field
  | .primitive _, _, _ => rfl
  | .object node, field, path => Node.left_events node (some field) path
  | .array element, field, path => FieldType.left_events element field (Path.element path)

theorem Fields.left_events : ∀ (fields : List (String × FieldType)) (path : String),
    (Event.left (Fields.events path fields)).map Visit.toOccurrence = Fields.inner fields
  | [], _ => rfl
  | (name, type) :: rest, path => by
    rw [Fields.events, Event.left_append, List.map_append, FieldType.left_events type,
      Fields.left_events rest, Fields.inner]

end

/-! ### Success -/

/-- All of the nodes have names, and no two of one name have different records. -/
structure Coherent (os : List Occurrence) : Prop where
  named : ∀ o ∈ os, o.Named
  consistent : (os.map Occurrence.record).InjOn Record.name

theorem Coherent.record_eq {os : List Occurrence} (h : Coherent os) {a b : Occurrence}
    (ha : a ∈ os) (hb : b ∈ os) (hlabel : a.label = b.label) : a.record = b.record :=
  h.consistent _ (List.mem_map_of_mem ha) _ (List.mem_map_of_mem hb) hlabel

/-- The records of all nodes of a schema, each after those of the nodes inside it. -/
def Node.records (root : Node) : List Record :=
  (root.sorted.occurrences none).map Occurrence.record

theorem Node.records_eq (root : Node) :
    root.records = root.sorted.inner.map Occurrence.record ++ [root.sorted.record none] := by
  rw [Node.records, Node.occurrences, List.map_append]
  rfl

/-- Collecting the records of a schema succeeds exactly if its nodes are coherent; what is
collected are their records, the first of each name. -/
theorem collectRecords_eq_ok_iff (root : Node) (records : List Record) :
    collectRecords root = .ok records ↔
      Coherent (root.sorted.occurrences none) ∧ records = root.records.keepFirst (·.name) := by
  have hleft := Node.left_events root.sorted none Path.root
  have hrecords : (Event.left (root.sorted.events none Path.root)).map (·.record)
      = root.records := by
    rw [Node.records, ← hleft, List.map_map]
    rfl
  have hnamed : (∀ v, Event.enter v ∈ root.sorted.events none Path.root → v.Named) ↔
      ∀ o ∈ root.sorted.occurrences none, o.Named := by
    rw [← hleft]
    simp only [Node.enter_mem_events_iff, Event.leave_mem_iff, List.forall_mem_map]
  -- the walk has no fault exactly if its nodes are coherent
  have hfault := Event.firstFault?_eq_none_iff (root.sorted.events none Path.root) []
    (fun r hr => absurd hr List.not_mem_nil)
  rw [List.nil_append, hrecords, hnamed] at hfault
  have hcoherent : Coherent (root.sorted.occurrences none) ↔
      Event.firstFault? [] (root.sorted.events none Path.root) = none := by
    rw [hfault]
    exact ⟨fun h => ⟨h.named, h.consistent⟩, fun h => ⟨h.1, h.2⟩⟩
  rw [collectRecords_eq_run, Registry.run_empty, hcoherent]
  cases Event.firstFault? [] (root.sorted.events none Path.root) with
  | some err => simp [Except.map]
  | none =>
    simp only [Except.map, Registry.records_ofLeft, hrecords, Except.ok.injEq, true_and]
    exact eq_comm

theorem exists_collectRecords_eq_ok_iff (root : Node) :
    (∃ records, collectRecords root = .ok records) ↔
      Coherent (root.sorted.occurrences none) := by
  simp only [collectRecords_eq_ok_iff, exists_and_left, exists_eq, and_true]

end SchemaDecl
