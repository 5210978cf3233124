import SchemaDecl.Proofs.Record.Occurrence
import SchemaDecl.Proofs.Record.Registry

/-!
# The events of the walk

The walk that declares the nodes of a schema enters each node, walks over what it holds,
and leaves it.  It needs a name when it enters a node, and it declares the record of the
node when it leaves.  Both can fail, so what the walk gives is decided by the order of
these events alone.

The list of events is a function of the tree.  What is wrong at an event is said here in
terms of the events before it: no registry is carried along, the earliest node of a name
is looked up among those that have been left.

## Main definitions

* `Visit` — an occurrence and its path.
* `Event`, `Node.events` — the events of the walk over a node.
* `Event.left` — the nodes that have been left, in order.
* `Event.fault?`, `Event.firstFault?` — what is wrong at an event, and at the first event
  at which something is.
* `Node.referenceRecords` — the records of a schema, or its first fault.
* `Registry.run` — the registry carried through a list of events.

## Main results

* `Node.declare_eq_run` — the walk over a node is the run of its events.
* `Registry.run_ofLeft` — a run of events gives their first fault, or the registry of the
  nodes left.
* `collectRecords_eq_error` — which nodes an error of the walk is about.
* `collectRecords_eq_referenceRecords` — **the walk gives what the events say**.
-/

namespace SchemaDecl

/-! ### Events -/

/-- A node met on the walk: its owner, and its path in messages. -/
structure Visit extends Occurrence where
  path : String

/-- A step of the walk over a schema. -/
inductive Event
  /-- The node is reached.  Here it gets its name. -/
  | enter (visit : Visit)
  /-- All that the node holds has been walked over.  Here it is declared. -/
  | leave (visit : Visit)

mutual

/-- The events of the walk over a node. -/
def Node.events (owner : Option String) (path : String) : Node → List Event
  | .object title fields =>
    .enter ⟨⟨owner, .object title fields⟩, path⟩ :: Fields.events path fields ++
      [.leave ⟨⟨owner, .object title fields⟩, path⟩]
  | .arrayRoot title item =>
    .enter ⟨⟨owner, .arrayRoot title item⟩, path⟩ :: item.events itemsField (Path.element path) ++
      [.leave ⟨⟨owner, .arrayRoot title item⟩, path⟩]
termination_by structural node => node

/-- The events of the walk over the type of a field, which looks through arrays. -/
def FieldType.events (field path : String) : FieldType → List Event
  | .primitive _ => []
  | .object node => node.events (some field) path
  | .array element => element.events field (Path.element path)
termination_by structural type => type

/-- The events of the walk over fields, in the order in which they are given. -/
def Fields.events (path : String) : List (String × FieldType) → List Event
  | [] => []
  | (name, type) :: rest => type.events name (Path.field path name) ++ Fields.events path rest
termination_by structural fields => fields

end

theorem Visit.name_of_find? {visits : List Visit} {name : String} {v : Visit}
    (h : (visits.find? fun w => w.record.name = name) = some v) : v.record.name = name := by
  have := List.find?_some h
  exact of_decide_eq_true this

namespace Event

/-- The visit that ends with the event. -/
def leave? : Event → Option Visit
  | enter _ => none
  | leave v => some v

/-- The visits that have ended, in order. -/
def left (events : List Event) : List Visit := events.filterMap leave?

@[simp] theorem left_nil : left [] = [] := rfl

@[simp] theorem left_enter (v : Visit) (events : List Event) :
    left (enter v :: events) = left events := rfl

@[simp] theorem left_leave (v : Visit) (events : List Event) :
    left (leave v :: events) = v :: left events := rfl

@[simp] theorem left_append (es fs : List Event) : left (es ++ fs) = left es ++ left fs :=
  List.filterMap_append

theorem leave_mem_iff (events : List Event) (v : Visit) :
    leave v ∈ events ↔ v ∈ left events := by
  induction events with
  | nil => simp
  | cons e events ih => cases e <;> simp [ih]

/-! ### Faults, without a registry -/

/-- What is wrong at an event, given those before it.  A node is entered without a name if
both its title and its owner are missing or blank.  A node that is left must have the
record of the earliest node of its name that has been left before. -/
def fault? (before : List Event) : Event → Option CompileError
  | enter v =>
    if isBlankSource v.node.title && isBlankSource v.owner then some (.naming v.path) else none
  | leave v =>
    match (left before).find? fun w => w.record.name = v.record.name with
    | none => none
    | some first =>
      if first.record = v.record then none
      else some (.nameCollision v.record.name v.path first.path)

/-- What is wrong at the first event at which something is, after those before. -/
def firstFault? (before : List Event) : List Event → Option CompileError
  | [] => none
  | e :: rest => (fault? before e).or (firstFault? (before ++ [e]) rest)

/-- A fault is that a node is entered without a name, or left with another record than an earlier
node of its name. -/
theorem fault?_eq_some {before : List Event} {event : Event} {e : CompileError}
    (h : fault? before event = some e) :
    (∃ v, event = enter v ∧ v.name? = none ∧ e = .naming v.path) ∨
      ∃ v, event = leave v ∧ ∃ first ∈ left before, first.record.name = v.record.name ∧
        first.record ≠ v.record ∧ e = .nameCollision v.record.name v.path first.path := by
  cases event with
  | enter v =>
    rw [fault?, Option.ite_none_right_eq_some, Bool.and_eq_true] at h
    obtain ⟨hblank, he⟩ := h
    exact Or.inl ⟨v, rfl, (nodeName?_eq_none_iff _ _).mpr hblank, (Option.some.inj he).symm⟩
  | leave v =>
    rw [fault?] at h
    split at h
    · cases h
    · next first hfind =>
      rw [Option.ite_none_left_eq_some] at h
      obtain ⟨hrecord, he⟩ := h
      exact Or.inr ⟨v, rfl, first, List.mem_of_find?_eq_some hfind, Visit.name_of_find? hfind,
        hrecord, (Option.some.inj he).symm⟩

/-- The first fault is a fault of one of the events, given those before it. -/
theorem exists_fault?_of_firstFault? {before events : List Event} {e : CompileError}
    (h : firstFault? before events = some e) :
    ∃ done event rest, events = done ++ event :: rest ∧ fault? (before ++ done) event = some e := by
  induction events generalizing before with
  | nil => cases h
  | cons event events ih =>
    rw [firstFault?, Option.or_eq_some_iff] at h
    rcases h with h | ⟨-, h⟩
    · exact ⟨[], event, events, rfl, by rwa [List.append_nil]⟩
    · obtain ⟨done, later, rest, rfl, hfault⟩ := ih h
      rw [List.append_assoc] at hfault
      exact ⟨event :: done, later, rest, rfl, hfault⟩

end Event

/-- The records of a schema read off the events of the walk over it: the first fault, or
the records of the nodes in the order in which they are left, the first of each name. -/
def Node.referenceRecords (root : Node) : Except CompileError (List Record) :=
  let events := root.sorted.events none Path.root
  match Event.firstFault? [] events with
  | some e => .error e
  | none => .ok (((Event.left events).map (·.record)).keepFirst (·.name))

/-! ### Runs of the registry -/

/-- The registry after an event. -/
def Event.step (reg : Registry) : Event → Except CompileError Registry
  | enter v => (nodeName v.node.title v.owner v.path).map fun _ => reg
  | leave v => (reg.register v.record v.path).map Prod.snd

namespace Registry

/-- The registry after a list of events. -/
def run (reg : Registry) (events : List Event) : Except CompileError Registry :=
  events.foldlM Event.step reg

@[simp] theorem run_nil (reg : Registry) : reg.run [] = .ok reg := rfl

theorem run_cons (reg : Registry) (e : Event) (events : List Event) :
    reg.run (e :: events) = (Event.step reg e).bind fun reg => reg.run events := rfl

theorem run_append (reg : Registry) (es fs : List Event) :
    reg.run (es ++ fs) = (reg.run es).bind fun reg => reg.run fs := by
  induction es generalizing reg with
  | nil => rfl
  | cons e es ih =>
    rw [List.cons_append, run_cons, run_cons]
    cases Event.step reg e with
    | error err => rfl
    | ok reg => exact ih reg

end Registry

/-- The run over a visit: the node is named, then comes what it holds, and then its record is
declared. -/
theorem Registry.run_visit (reg : Registry) (v : Visit) (inner : List Event) :
    reg.run (.enter v :: inner ++ [.leave v])
      = match v.name? with
        | none => .error (.naming v.path)
        | some _ => (reg.run inner).bind fun reg => (reg.register v.record v.path).map Prod.snd := by
  have hleave : ∀ reg : Registry,
      reg.run [.leave v] = (reg.register v.record v.path).map Prod.snd := by
    intro reg
    rw [Registry.run_cons, Event.step]
    cases reg.register v.record v.path <;> rfl
  have hname : v.name? = nodeName? v.node.title v.owner := rfl
  rw [List.cons_append, Registry.run_cons, Event.step, nodeName_eq, hname]
  cases nodeName? v.node.title v.owner with
  | none => rfl
  | some name =>
    change reg.run (inner ++ [.leave v]) = _
    rw [Registry.run_append]
    simp only [hleave]

mutual

/-- The walk over a node is the run of its events, and gives the name of the node. -/
theorem Node.declare_eq_run : ∀ (node : Node) (owner : Option String) (path : String)
    (reg : Registry),
    node.declare owner path reg
      = (reg.run (node.events owner path)).map fun reg => (node.label owner, reg)
  | .object title fields, owner, path, reg => by
    have hname : Occurrence.name? ⟨owner, .object title fields⟩ = nodeName? title owner := rfl
    rw [Node.declare, Node.events, Registry.run_visit, hname, nodeName_eq,
      Fields.resolve_eq_run fields]
    cases h : nodeName? title owner with
    -- without a name the fields are not visited
    | none => rfl
    | some name =>
      have hlabel : (Node.object title fields).label owner = name := Node.label_of_name? h
      cases reg.run (Fields.events path fields) with
      | error err => rfl
      | ok reg =>
        simp only [Occurrence.record, Node.record, Node.contents, hlabel, Except.map, Except.bind,
          bind]
        cases reg.register ⟨name, Fields.shapes fields⟩ path <;> rfl
  | .arrayRoot title item, owner, path, reg => by
    have hname : Occurrence.name? ⟨owner, .arrayRoot title item⟩ = nodeName? title owner := rfl
    rw [Node.declare, Node.events, Registry.run_visit, hname, nodeName_eq,
      FieldType.resolve_eq_run item]
    cases h : nodeName? title owner with
    | none => rfl
    | some name =>
      have hlabel : (Node.arrayRoot title item).label owner = name := Node.label_of_name? h
      cases reg.run (item.events itemsField (Path.element path)) with
      | error err => rfl
      | ok reg =>
        have hshapes : Fields.shapes [(itemsField, .array item)]
            = [⟨itemsField, .array (item.shape itemsField)⟩] := rfl
        simp only [Occurrence.record, Node.record, Node.contents, hlabel, hshapes, Except.map,
          Except.bind, bind]
        cases reg.register ⟨name, [⟨itemsField, .array (item.shape itemsField)⟩]⟩ path <;> rfl

/-- The walk over a type is the run of its events, and gives the shape of the type. -/
theorem FieldType.resolve_eq_run : ∀ (type : FieldType) (field path : String) (reg : Registry),
    type.resolve field path reg
      = (reg.run (type.events field path)).map fun reg => (type.shape field, reg)
  | .primitive kind, field, path, reg => rfl
  | .object node, field, path, reg => by
    rw [FieldType.resolve, FieldType.events, Node.declare_eq_run node]
    cases reg.run (node.events (some field) path) <;> rfl
  | .array element, field, path, reg => by
    rw [FieldType.resolve, FieldType.events, FieldType.resolve_eq_run element]
    cases reg.run (element.events field (Path.element path)) <;> rfl

/-- The walk over fields is the run of their events, and gives the fields of a record. -/
theorem Fields.resolve_eq_run : ∀ (fields : List (String × FieldType)) (path : String)
    (reg : Registry),
    Fields.resolve path reg fields
      = (reg.run (Fields.events path fields)).map fun reg => (Fields.shapes fields, reg)
  | [], path, reg => rfl
  | (name, type) :: rest, path, reg => by
    rw [Fields.resolve, Fields.events, Registry.run_append, FieldType.resolve_eq_run type]
    cases reg.run (type.events name (Path.field path name)) with
    | error err => rfl
    | ok reg =>
      simp only [Except.map, Except.bind, bind]
      rw [Fields.resolve_eq_run rest]
      cases reg.run (Fields.events path rest) <;> rfl

end

/-! ### The registry after a run -/

/-- What the registry keeps of a visit. -/
def Visit.declared (v : Visit) : Declared := ⟨v.record, v.path⟩

@[simp] theorem Visit.record_declared (v : Visit) : v.declared.record = v.record := rfl

@[simp] theorem Visit.path_declared (v : Visit) : v.declared.path = v.path := rfl

/-- The registry that keeps the first visit of each name. -/
def Registry.ofLeft (visits : List Visit) : Registry :=
  ⟨(visits.keepFirst fun v => v.record.name).map Visit.declared⟩

/-- The nodes left are calls of the registry. -/
theorem Registry.ofLeft_eq_ofCalls (visits : List Visit) :
    Registry.ofLeft visits = Registry.ofCalls (visits.map Visit.declared) := by
  rw [Registry.ofLeft, Registry.ofCalls, ← List.map_keepFirst]
  rfl

theorem Registry.firstUse?_declared (visits : List Visit) (name : String) :
    Registry.firstUse? (visits.map Visit.declared) name
      = (visits.find? fun v => v.record.name = name).map Visit.declared := by
  rw [Registry.firstUse?, List.find?_map]
  rfl

/-- **One event.**  The registry of the nodes left so far either meets the fault of the event
or becomes the registry of the nodes left after it. -/
theorem Event.step_ofLeft (before : List Event) (e : Event) :
    Event.step (Registry.ofLeft (Event.left before)) e
      = match Event.fault? before e with
        | some err => .error err
        | none => .ok (Registry.ofLeft (Event.left (before ++ [e]))) := by
  cases e with
  | enter v =>
    rw [Event.step, Event.fault?, nodeName_eq]
    cases h : nodeName? v.node.title v.owner with
    | none =>
      obtain ⟨htitle, howner⟩ := (nodeName?_eq_none_iff _ _).mp h
      simp [htitle, howner, Except.map]
    | some name =>
      have hblank : (isBlankSource v.node.title && isBlankSource v.owner) = false := by
        rw [Bool.eq_false_iff, ne_eq, Bool.and_eq_true, ← nodeName?_eq_none_iff, h]
        simp
      simp [hblank, Except.map]
  | leave v =>
    have hregister := Registry.register_ofCalls ((Event.left before).map Visit.declared) v.declared
    have hleft : Registry.ofLeft (Event.left (before ++ [Event.leave v]))
        = Registry.ofCalls ((Event.left before).map Visit.declared ++ [v.declared]) := by
      rw [Event.left_append, Registry.ofLeft_eq_ofCalls, List.map_append]
      rfl
    rw [Visit.record_declared, Visit.path_declared, Registry.firstUse?_declared] at hregister
    rw [Event.step, Event.fault?, hleft, Registry.ofLeft_eq_ofCalls, hregister]
    cases h : (Event.left before).find? fun w => w.record.name = v.record.name with
    | none => rfl
    | some first =>
      -- the names agree, so the records differ only in their fields
      have hfields : first.record.fields = v.record.fields ↔ first.record = v.record := by
        rw [Record.eq_iff, and_iff_right (Visit.name_of_find? h)]
      simp only [Option.map_some, Visit.declared, hfields]
      split <;> rfl

/-- **A run of events** gives their first fault, or the registry of the nodes left. -/
theorem Registry.run_ofLeft (events before : List Event) :
    (Registry.ofLeft (Event.left before)).run events
      = match Event.firstFault? before events with
        | some err => .error err
        | none => .ok (Registry.ofLeft (Event.left (before ++ events))) := by
  induction events generalizing before with
  | nil => simp [Event.firstFault?]
  | cons e events ih =>
    rw [Registry.run_cons, Event.step_ofLeft, Event.firstFault?]
    cases Event.fault? before e with
    | some err => rfl
    | none =>
      change (Registry.ofLeft (Event.left (before ++ [e]))).run events = _
      rw [ih (before ++ [e]), List.append_assoc, List.singleton_append, Option.none_or]

theorem Registry.run_empty (events : List Event) :
    Registry.empty.run events
      = match Event.firstFault? [] events with
        | some err => .error err
        | none => .ok (Registry.ofLeft (Event.left events)) :=
  Registry.run_ofLeft events []

theorem Registry.records_ofLeft (visits : List Visit) :
    (Registry.ofLeft visits).records = (visits.map (·.record)).keepFirst (·.name) := by
  rw [Registry.records, Registry.ofLeft, List.map_map, ← List.map_keepFirst]
  rfl

/-- Collecting the records of a schema is a run over the events of its walk. -/
theorem collectRecords_eq_run (root : Node) :
    collectRecords root
      = (Registry.empty.run (root.sorted.events none Path.root)).map Registry.records := by
  rw [collectRecords, Node.declare_eq_run]
  cases Registry.empty.run (root.sorted.events none Path.root) <;> rfl

/-- Collecting records fails exactly with the first fault of the walk. -/
theorem collectRecords_eq_error_iff (root : Node) (e : CompileError) :
    collectRecords root = .error e ↔
      Event.firstFault? [] (root.sorted.events none Path.root) = some e := by
  rw [collectRecords_eq_run, Registry.run_empty]
  cases Event.firstFault? [] (root.sorted.events none Path.root) <;> simp [Except.map]

/-- Collecting records fails only for a node that is entered without a name, and for two nodes of
one name that are left with different records. -/
theorem collectRecords_eq_error {root : Node} {e : CompileError}
    (h : collectRecords root = .error e) :
    (∃ v, .enter v ∈ root.sorted.events none Path.root ∧ v.name? = none ∧ e = .naming v.path) ∨
      ∃ v first, .leave v ∈ root.sorted.events none Path.root ∧
        .leave first ∈ root.sorted.events none Path.root ∧
        first.record.name = v.record.name ∧ first.record ≠ v.record ∧
        e = .nameCollision v.record.name v.path first.path := by
  rw [collectRecords_eq_error_iff] at h
  obtain ⟨done, event, rest, hevents, hfault⟩ := Event.exists_fault?_of_firstFault? h
  rw [hevents]
  have hevent : event ∈ done ++ event :: rest := by simp
  rcases Event.fault?_eq_some hfault with ⟨v, rfl, hname, he⟩ | ⟨v, rfl, first, hfirst, hrest⟩
  · exact Or.inl ⟨v, hevent, hname, he⟩
  · have hdone : Event.leave first ∈ done := (Event.leave_mem_iff done first).mpr hfirst
    exact Or.inr ⟨v, first, hevent, List.mem_append_left _ hdone, hrest⟩

/-- **The records of a schema are those that the events of the walk say, and so are its
errors.** -/
theorem collectRecords_eq_referenceRecords (root : Node) :
    collectRecords root = root.referenceRecords := by
  rw [collectRecords_eq_run, Node.referenceRecords, Registry.run_empty]
  cases Event.firstFault? [] (root.sorted.events none Path.root) with
  | some err => rfl
  | none => exact congrArg Except.ok (Registry.records_ofLeft _)

-- the second `Point` is the one refused, and the first one is named
example : collectRecords (.object (some "Pair")
    [("b", .object (.object (some "Point") [("y", .primitive .integer)])),
      ("a", .object (.object (some "Point") [("x", .primitive .integer)]))])
    = .error (.nameCollision "Point" "$.b" "$.a") := by
  rfl

end SchemaDecl
