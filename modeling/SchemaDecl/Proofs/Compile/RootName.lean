import SchemaDecl.Proofs.Compile.Fault
import SchemaDecl.Proofs.Record.Dependency

/-!
# The name of the root

No field owns the root of a schema, so only its title can name it.  The path of a node inside is
longer than that of the root, so a fault of names at the path of the root is one of the root
itself.

## Main results

* `Node.eq_or_length_lt_of_enter_mem` — the nodes inside a node have longer paths.
* `collectRecords_eq_naming_root_iff`, `Target.compile_eq_naming_root_iff` — **the root is without
  a name exactly if its title is missing or blank**.
* `Target.getLast?_declarations` — the last declaration is that of the root.
-/

namespace SchemaDecl

/-! ### Paths of nodes -/

theorem Path.length_lt_length_field (path name : String) :
    path.length < (Path.field path name).length := by
  rw [Path.field, String.length_append, String.length_append]
  change path.length < path.length + 1 + name.length
  omega

theorem Path.length_lt_length_element (path : String) :
    path.length < (Path.element path).length := by
  rw [Path.element, String.length_append]
  change path.length < path.length + 2
  omega

mutual

/-- The walk over a node enters the node at its path, and all others at longer paths. -/
theorem Node.eq_or_length_lt_of_enter_mem : ∀ (node : Node) (owner : Option String)
    (path : String) (v : Visit), Event.enter v ∈ node.events owner path →
      v = ⟨⟨owner, node⟩, path⟩ ∨ path.length < v.path.length
  | .object title fields, owner, path, v, h => by
    simp only [Node.events, List.cons_append, List.mem_cons, List.mem_append, Event.enter.injEq,
      reduceCtorEq, List.not_mem_nil, or_false] at h
    exact h.imp_right (Fields.length_lt_of_enter_mem fields path v)
  | .arrayRoot title item, owner, path, v, h => by
    simp only [Node.events, List.cons_append, List.mem_cons, List.mem_append, Event.enter.injEq,
      reduceCtorEq, List.not_mem_nil, or_false] at h
    refine h.imp_right fun h => ?_
    have hitem := FieldType.length_le_of_enter_mem item itemsField (Path.element path) v h
    exact (Path.length_lt_length_element path).trans_le hitem

/-- The nodes that a type holds are entered at its path or at longer ones. -/
theorem FieldType.length_le_of_enter_mem : ∀ (type : FieldType) (field path : String) (v : Visit),
    Event.enter v ∈ type.events field path → path.length ≤ v.path.length
  | .primitive _, _, _, _, h => by cases h
  | .object node, field, path, v, h => by
    rcases Node.eq_or_length_lt_of_enter_mem node (some field) path v h with rfl | hlt
    · exact le_rfl
    · exact hlt.le
  | .array element, field, path, v, h => by
    have helement := FieldType.length_le_of_enter_mem element field (Path.element path) v h
    exact (Path.length_lt_length_element path).le.trans helement

/-- The nodes that fields hold are entered at longer paths. -/
theorem Fields.length_lt_of_enter_mem : ∀ (fields : List (String × FieldType)) (path : String)
    (v : Visit), Event.enter v ∈ Fields.events path fields → path.length < v.path.length
  | [], _, _, h => by cases h
  | (name, type) :: rest, path, v, h => by
    rw [Fields.events, List.mem_append] at h
    rcases h with h | h
    · have htype := FieldType.length_le_of_enter_mem type name (Path.field path name) v h
      exact (Path.length_lt_length_field path name).trans_le htype
    · exact Fields.length_lt_of_enter_mem rest path v h

end

/-! ### A root without a name -/

/-- A node without a title and without an owner is the first fault of the walk over it. -/
theorem Node.firstFault?_events_of_blank {node : Node} (h : isBlankSource node.title = true)
    (path : String) : Event.firstFault? [] (node.events none path) = some (.naming path) := by
  have hfault : Event.fault? [] (.enter ⟨⟨none, node⟩, path⟩) = some (.naming path) := by
    rw [Event.fault?, h]
    rfl
  cases node <;> rw [Node.events, List.cons_append, Event.firstFault?, hfault, Option.some_or]

/-- **When the root is without a name.** -/
theorem collectRecords_eq_naming_root_iff (root : Node) :
    collectRecords root = .error (.naming Path.root) ↔ isBlankSource root.title = true := by
  constructor
  · intro h
    rcases collectRecords_eq_error h with ⟨v, hv, hname, he⟩ | ⟨_, _, _, _, _, _, he⟩
    · obtain ⟨htitle, -⟩ := (nodeName?_eq_none_iff _ _).mp hname
      rcases Node.eq_or_length_lt_of_enter_mem root.sorted none Path.root v hv with rfl | hlt
      · rwa [Node.title_sorted] at htitle
      · rw [← CompileError.naming.inj he] at hlt
        exact absurd hlt (lt_irrefl _)
    · cases he
  · intro h
    rw [← Node.title_sorted] at h
    rw [collectRecords_eq_error_iff]
    exact Node.firstFault?_events_of_blank h Path.root

namespace Target

variable {target : Target} (htarget : target ∈ Catalogue.builtin) (options : Options) (root : Node)

include htarget

theorem compile_eq_naming_root_iff :
    target.compile options root = .error (.naming Path.root) ↔ isBlankSource root.title = true := by
  rw [← collectRecords_eq_naming_root_iff]
  refine ⟨fun h => by_contra fun hcollect => ?_, target.compile_of_collectRecords_error options⟩
  cases fault_of_compile htarget options root h hcollect

/-- The last declaration is that of the root. -/
theorem getLast?_declarations {options : Options} {root : Node} {file : SourceFile}
    (h : target.assemble options root = .ok file) :
    file.declarations.getLast?
      = some (target.declaration (target.showsPublic options) (root.sorted.record none)) := by
  obtain ⟨records, hcollect, -, rfl⟩ := (assemble_eq_ok_iff htarget options root file).mp h
  rw [sourceFile, List.getLast?_map, getLast?_of_collectRecords hcollect, Option.map_some]

end Target

end SchemaDecl
