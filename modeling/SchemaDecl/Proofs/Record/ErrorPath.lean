import SchemaDecl.Proofs.Record.Place

/-!
# The nodes that errors point at

An error of the walk over a schema names the place of a node by its path, and a collision names two
of them.  A path is only a text, and field names go into it as they are.  As long as no name
contains what begins a step, the text still tells the node.

## Main definitions

* `Node.Denotes` — a path denotes a node of a schema, and no other.

## Main results

* `Node.Distinct.mem_left_iff` — the nodes that the walk over a schema meets, and their paths.
* `collectRecords_error_denotes` — **error paths tell their nodes**.
-/

namespace SchemaDecl

/-- The path is that of the steps, which lead to the node, and of no other steps that lead to a
node of the schema. -/
structure Node.Denotes (root : Node) (path : String) (steps : List Step) (o : Occurrence) :
    Prop where
  leads : root.at? none steps = some o
  path_eq : Path.walk Path.root steps = path
  unique : ∀ steps' o', root.at? none steps' = some o' → Path.walk Path.root steps' = path →
    steps' = steps

/-- At one path there is one node. -/
theorem Node.Denotes.occurrence_eq {root : Node} {path : String} {steps steps' : List Step}
    {o o' : Occurrence} (h : root.Denotes path steps o) (h' : root.Denotes path steps' o') :
    o = o' := by
  obtain rfl := h.unique steps' o' h'.leads h'.path_eq
  exact Option.some.inj (h.leads.symm.trans h'.leads)

/-- **The walk over a schema** meets exactly its nodes, sorted, each with the path of the steps that
lead to it. -/
theorem Node.Distinct.mem_left_iff {root : Node} (h : root.Distinct) (v : Visit) :
    v ∈ Event.left (root.sorted.events none Path.root) ↔
      ∃ steps o, root.at? none steps = some o ∧ v = ⟨o.sorted, Path.walk Path.root steps⟩ := by
  rw [Node.mem_left_events_iff root.sorted none Path.root v h.sorted]
  simp only [Node.at?_sorted, Option.map_eq_some_iff]
  constructor
  · rintro ⟨steps, _, ⟨o, hat, rfl⟩, hv⟩
    exact ⟨steps, o, hat, hv⟩
  · rintro ⟨steps, o, hat, hv⟩
    exact ⟨steps, o.sorted, ⟨o, hat, rfl⟩, hv⟩

section Plain

variable {root : Node} (hdistinct : root.Distinct)
  (hnames : ∀ name ∈ root.fieldNames, '.' ∉ name.toList ∧ '[' ∉ name.toList)

include hnames

/-- Nodes at different places have different paths. -/
theorem Node.eq_of_walk_eq {steps steps' : List Step} {o o' : Occurrence}
    (hat : root.at? none steps = some o) (hat' : root.at? none steps' = some o')
    (h : Path.walk Path.root steps = Path.walk Path.root steps') : steps = steps' :=
  Path.walk_injective (Node.isPlain_of_at? root hnames hat) (Node.isPlain_of_at? root hnames hat') h

include hdistinct

/-- The path with which the walk meets a node denotes it. -/
theorem Node.exists_denotes {v : Visit}
    (h : v ∈ Event.left (root.sorted.events none Path.root)) :
    ∃ steps o, root.Denotes v.path steps o ∧ v.toOccurrence = o.sorted := by
  obtain ⟨steps, o, hat, rfl⟩ := (hdistinct.mem_left_iff v).mp h
  exact ⟨steps, o, ⟨hat, rfl, fun _ _ hat' => Node.eq_of_walk_eq hnames hat' hat⟩, rfl⟩

/-- No two nodes of a schema are met with one path. -/
theorem Node.nodup_paths :
    ((Event.left (root.sorted.events none Path.root)).map (·.path)).Nodup := by
  refine Node.nodup_paths_events root.sorted none Path.root hdistinct.sorted ?_
  intro steps o hat
  rw [Node.at?_sorted, Option.map_eq_some_iff] at hat
  obtain ⟨p, hat, -⟩ := hat
  exact Node.isPlain_of_at? root hnames hat

/-- An error for want of a name denotes a node without one. -/
theorem exists_denotes_of_naming {path : String}
    (h : collectRecords root = .error (.naming path)) :
    ∃ steps o, root.Denotes path steps o ∧ o.name? = none := by
  rcases collectRecords_eq_error h with ⟨v, hv, hname, he⟩ | ⟨_, _, _, _, _, _, he⟩
  · obtain rfl := CompileError.naming.inj he
    -- a node that is entered is left somewhere in the walk
    rw [Node.enter_mem_events_iff, Event.leave_mem_iff] at hv
    obtain ⟨steps, o, hdenotes, ho⟩ := Node.exists_denotes hdistinct hnames hv
    rw [ho, Occurrence.name?_sorted] at hname
    exact ⟨steps, o, hdenotes, hname⟩
  · cases he

/-- A collision denotes two nodes of one name with different records. -/
theorem exists_denotes_of_nameCollision {name path first : String}
    (h : collectRecords root = .error (.nameCollision name path first)) :
    ∃ steps o steps' o', root.Denotes path steps o ∧ root.Denotes first steps' o' ∧
      o.label = name ∧ o'.label = name ∧ o.sorted.record ≠ o'.sorted.record := by
  rcases collectRecords_eq_error h with ⟨_, _, _, he⟩ | ⟨v, w, hv, hw, hname, hrecord, he⟩
  · cases he
  · obtain ⟨rfl, rfl, rfl⟩ := CompileError.nameCollision.inj he
    rw [Event.leave_mem_iff] at hv hw
    obtain ⟨steps, o, hdenotes, ho⟩ := Node.exists_denotes hdistinct hnames hv
    obtain ⟨steps', o', hdenotes', ho'⟩ := Node.exists_denotes hdistinct hnames hw
    rw [ho, ho', Occurrence.name_record, Occurrence.name_record, Occurrence.label_sorted,
      Occurrence.label_sorted] at hname
    rw [ho, ho'] at hrecord
    have hlabel : o.label = v.record.name := by
      rw [ho, Occurrence.name_record, Occurrence.label_sorted]
    exact ⟨steps, o, steps', o', hdenotes, hdenotes', hlabel, hname.trans hlabel, hrecord.symm⟩

/-- **Error paths tell their nodes.**  In a schema whose field names have neither points nor opening
brackets, the walk that collects the records meets every node once and with a path of its own.  So
an error for want of a name points at one node, which has none, and a collision points at two
different ones, which have one name and different records. -/
theorem collectRecords_error_denotes :
    collectRecords root
      = (Registry.empty.run (root.sorted.events none Path.root)).map Registry.records ∧
    ((Event.left (root.sorted.events none Path.root)).map (·.path)).Nodup ∧
    (∀ v, v ∈ Event.left (root.sorted.events none Path.root) ↔
      ∃ steps o, root.at? none steps = some o ∧ v = ⟨o.sorted, Path.walk Path.root steps⟩) ∧
    (∀ steps o steps' o', root.at? none steps = some o → root.at? none steps' = some o' →
      steps ≠ steps' → Path.walk Path.root steps ≠ Path.walk Path.root steps') ∧
    (∀ path, collectRecords root = .error (.naming path) →
      ∃ steps o, root.Denotes path steps o ∧ o.name? = none) ∧
    ∀ name path first, collectRecords root = .error (.nameCollision name path first) →
      path ≠ first ∧
      ∃ steps o steps' o', root.Denotes path steps o ∧ root.Denotes first steps' o' ∧
        o.label = name ∧ o'.label = name ∧ o.sorted.record ≠ o'.sorted.record := by
  refine ⟨collectRecords_eq_run root, Node.nodup_paths hdistinct hnames, hdistinct.mem_left_iff,
    ?_, ?_, ?_⟩
  · intro steps o steps' o' hat hat' hne heq
    exact hne (Node.eq_of_walk_eq hnames hat hat' heq)
  · intro path h
    exact exists_denotes_of_naming hdistinct hnames h
  · intro name path first h
    obtain ⟨steps, o, steps', o', hdenotes, hdenotes', hlabel, hlabel', hrecord⟩ :=
      exists_denotes_of_nameCollision hdistinct hnames h
    refine ⟨?_, steps, o, steps', o', hdenotes, hdenotes', hlabel, hlabel', hrecord⟩
    -- at one path there is one node, which has one record
    rintro rfl
    obtain rfl := hdenotes.occurrence_eq hdenotes'
    exact hrecord rfl

end Plain

/-- A field without a name and the items of a node that is an array have places of their own. -/
theorem collectRecords_error_denotes_of_items :
    ∃ o o', Node.Denotes (.object (some "Root")
        [("", .array (.object (.object (some "Point") [("x", .primitive .integer)]))),
          ("b]", .object (.arrayRoot none
            (.object (.object (some "Point") [("x", .primitive .string)]))))])
        "$.b][]" [.field "b]", .element] o ∧
      Node.Denotes (.object (some "Root")
        [("", .array (.object (.object (some "Point") [("x", .primitive .integer)]))),
          ("b]", .object (.arrayRoot none
            (.object (.object (some "Point") [("x", .primitive .string)]))))])
        "$.[]" [.field "", .element] o' ∧
      o.label = "Point" ∧ o'.label = "Point" ∧ o.sorted.record ≠ o'.sorted.record := by
  have hdistinct : Node.Distinct (.object (some "Root")
      [("", .array (.object (.object (some "Point") [("x", .primitive .integer)]))),
        ("b]", .object (.arrayRoot none
          (.object (.object (some "Point") [("x", .primitive .string)]))))]) := by
    simp [Node.Distinct, Fields.Distinct, FieldType.Distinct]
  obtain ⟨-, steps, o, steps', o', hdenotes, hdenotes', hrest⟩ :=
    (collectRecords_error_denotes hdistinct (by decide)).2.2.2.2.2 "Point" "$.b][]" "$.[]" rfl
  obtain rfl := hdenotes.unique [.field "b]", .element] _ rfl rfl
  obtain rfl := hdenotes'.unique [.field "", .element] _ rfl rfl
  exact ⟨o, o', hdenotes, hdenotes', hrest⟩

-- with a point in a name, both nodes are pointed at by one path
example : collectRecords (.object (some "Root")
    [("a.b", .object (.object (some "Point") [("x", .primitive .integer)])),
      ("a", .object (.object none
        [("b", .object (.object (some "Point") [("x", .primitive .string)]))]))])
    = .error (.nameCollision "Point" "$.a.b" "$.a.b") := by
  rfl

end SchemaDecl
