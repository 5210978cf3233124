import SchemaDecl.Proofs.Record.NormalForm

/-!
# Records apart from paths

The walk over a schema carries paths along for its messages.  They decide nothing: what a list of
events gives, and at which event it fails, depends only on the names that nodes are entered with
and on the records that they leave.  So a schema and the tree in which every node bears its name
have the same records, or they fail alike but for the paths that are named.

## Main definitions

* `CompileError.withoutPaths` — an error apart from the paths in it.
* `Event.outline` — an event apart from its place.
* `Outline.fault?` — what is wrong at an event, told from the records left before.

## Main results

* `Event.withoutPaths_firstFault?` — events of one outline have one first fault, paths apart.
* `collectRecords_eq_of_outline` — **schemas of one outline have the same records**.
* `collectRecords_named` — and so a schema has the records of the tree that bears its names.
-/

namespace SchemaDecl

/-- The error with nothing in the place of its paths. -/
def CompileError.withoutPaths : CompileError → CompileError
  | naming _ => naming ""
  | nameCollision name _ _ => nameCollision name "" ""
  | unsupportedKind target shape field owner => unsupportedKind target shape field owner
  | identifierClash target ident first second scope =>
    identifierClash target ident first second scope

/-! ### Outlines of events -/

/-- What matters of an event. -/
inductive Outline
  /-- A node is entered under its name, if it has one. -/
  | enter (name : Option String)
  /-- A node is left with its record. -/
  | leave (record : Record)

/-- The event apart from its place. -/
def Event.outline : Event → Outline
  | enter v => .enter v.name?
  | leave v => .leave v.record

namespace Outline

/-- The record that is left. -/
def record? : Outline → Option Record
  | enter _ => none
  | leave record => some record

/-- What is wrong at an event, given the records left before, apart from paths. -/
def fault? (before : List Record) : Outline → Option CompileError
  | enter name => if name = none then some (.naming "") else none
  | leave record =>
    (before.find? fun r => r.name = record.name).bind fun first =>
      if first = record then none else some (.nameCollision record.name "" "")

end Outline

namespace Event

theorem records_left (events : List Event) :
    (left events).map (·.record) = (events.map outline).filterMap Outline.record? := by
  rw [left, List.map_filterMap, List.filterMap_map]
  refine List.filterMap_congr fun e _ => ?_
  cases e <;> rfl

/-- The fault of an event is that of its outline. -/
theorem withoutPaths_fault? (before : List Event) (e : Event) :
    (fault? before e).map CompileError.withoutPaths
      = Outline.fault? ((left before).map (·.record)) e.outline := by
  cases e with
  | enter v =>
    have hname : v.name? = none ↔
        (isBlankSource v.node.title && isBlankSource v.owner) = true := by
      rw [Bool.and_eq_true, ← nodeName?_eq_none_iff]
      rfl
    rw [fault?, outline, Outline.fault?]
    simp only [hname]
    split <;> rfl
  | leave v =>
    rw [fault?, outline, Outline.fault?, List.find?_map]
    simp only [Function.comp_def]
    cases (left before).find? fun w => w.record.name = v.record.name with
    | none => rfl
    | some first =>
      simp only [Option.map_some, Option.bind_some]
      split <;> rfl

/-- **Events of one outline** have one first fault, apart from paths. -/
theorem withoutPaths_firstFault? {before before' events events' : List Event}
    (hbefore : before.map outline = before'.map outline)
    (hevents : events.map outline = events'.map outline) :
    (firstFault? before events).map CompileError.withoutPaths
      = (firstFault? before' events').map CompileError.withoutPaths := by
  induction events generalizing before before' events' with
  | nil =>
    obtain rfl : events' = [] := List.map_eq_nil_iff.mp hevents.symm
    rfl
  | cons e events ih =>
    obtain ⟨e', events', rfl, he, hrest⟩ := List.map_eq_cons_iff.mp hevents.symm
    have hstep : (before ++ [e]).map outline = (before' ++ [e']).map outline := by
      rw [List.map_append, List.map_append, hbefore, List.map_singleton, List.map_singleton, he]
    rw [firstFault?, firstFault?, Option.map_or, Option.map_or, withoutPaths_fault?,
      withoutPaths_fault?, records_left, records_left, hbefore, he, ih hstep hrest.symm]

end Event

/-- **Schemas of one outline have the same records**, or the same error apart from paths. -/
theorem collectRecords_eq_of_outline {root root' : Node}
    (h : (root.sorted.events none Path.root).map Event.outline
      = (root'.sorted.events none Path.root).map Event.outline) :
    (collectRecords root).mapError CompileError.withoutPaths
      = (collectRecords root').mapError CompileError.withoutPaths := by
  have hfault :
      (Event.firstFault? [] (root.sorted.events none Path.root)).map CompileError.withoutPaths
        = (Event.firstFault? [] (root'.sorted.events none Path.root)).map
            CompileError.withoutPaths :=
    Event.withoutPaths_firstFault? rfl h
  rw [collectRecords_eq_run, collectRecords_eq_run, Registry.run_empty, Registry.run_empty]
  revert hfault
  cases Event.firstFault? [] (root.sorted.events none Path.root) <;>
    cases Event.firstFault? [] (root'.sorted.events none Path.root) <;>
    simp [Except.map, Except.mapError, Registry.records_ofLeft, Event.records_left, h]

/-! ### Outlines of named trees -/

theorem Event.map_outline_visit (v : Visit) (inner : List Event) :
    (Event.enter v :: inner ++ [Event.leave v]).map outline
      = .enter v.name? :: inner.map outline ++ [Outline.leave v.record] := by
  rw [List.cons_append, List.map_cons, List.map_append]
  rfl

/-- A visit of a named node has the outline of one of the node, if what the node holds has. -/
theorem Event.map_outline_visit_named (o : Occurrence) (path path' : String)
    {inner inner' : List Event} (h : inner'.map outline = inner.map outline) :
    (Event.enter ⟨o.named, path'⟩ :: inner' ++ [Event.leave ⟨o.named, path'⟩]).map outline
      = (Event.enter ⟨o, path⟩ :: inner ++ [Event.leave ⟨o, path⟩]).map outline := by
  have hname : o.named.name? = o.name? := Node.name?_named o.owner o.node
  rw [map_outline_visit, map_outline_visit, hname, Occurrence.record_named, h]

mutual

/-- A named node has the outline of the node. -/
theorem Node.outline_events_named : ∀ (node : Node) (owner : Option String) (path path' : String),
    ((node.named owner).events owner path').map Event.outline
      = (node.events owner path).map Event.outline
  | .object title fields, owner, path, path' =>
    Event.map_outline_visit_named ⟨owner, .object title fields⟩ path path'
      (Fields.outline_events_named fields path path')
  | .arrayRoot title item, owner, path, path' => by
    -- the items are reached through the field that holds them
    refine Event.map_outline_visit_named ⟨owner, .arrayRoot title item⟩ path path' ?_
    rw [Fields.events, Fields.events, List.append_nil, FieldType.events]
    exact FieldType.outline_events_named item itemsField _ _

theorem FieldType.outline_events_named : ∀ (type : FieldType) (field path path' : String),
    ((type.named field).events field path').map Event.outline
      = (type.events field path).map Event.outline
  | .primitive _, _, _, _ => rfl
  | .object node, field, path, path' => Node.outline_events_named node (some field) path path'
  | .array element, field, path, path' =>
    FieldType.outline_events_named element field (Path.element path) (Path.element path')

theorem Fields.outline_events_named : ∀ (fields : List (String × FieldType)) (path path' : String),
    (Fields.events path' (Fields.named fields)).map Event.outline
      = (Fields.events path fields).map Event.outline
  | [], _, _ => rfl
  | (name, type) :: rest, path, path' => by
    rw [Fields.named, Fields.events, Fields.events, List.map_append, List.map_append,
      FieldType.outline_events_named type name (Path.field path name) (Path.field path' name),
      Fields.outline_events_named rest path path']

end

/-- A schema has the records of the tree of its names, or its error apart from paths. -/
theorem collectRecords_named (root : Node) :
    (collectRecords (root.named none)).mapError CompileError.withoutPaths
      = (collectRecords root).mapError CompileError.withoutPaths := by
  refine collectRecords_eq_of_outline ?_
  rw [Node.sorted_named, Node.outline_events_named root.sorted none Path.root Path.root]

end SchemaDecl
