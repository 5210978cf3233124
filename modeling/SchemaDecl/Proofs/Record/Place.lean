import SchemaDecl.Proofs.Record.Success
import SchemaDecl.Proofs.Schema.Distinct
import SchemaDecl.Proofs.Schema.Path

/-!
# The places of nodes

Steps lead from the root of a schema to each of its nodes: to the fields of an object, and to the
elements of an array, be it a type or a node.  The walk over a schema carries a path along.  It
meets every node once, with the path of the steps that lead there.

## Main definitions

* `Node.at?` — the node that steps lead to.
* `Node.fieldNames` — the names of all fields in a tree.

## Main results

* `Node.at?_sorted` — sorting a tree leaves its nodes at their places.
* `Node.isPlain_of_at?` — the steps to a node go through fields of the tree.
* `Node.mem_left_events_iff` — **the walk meets exactly the nodes at places, with their paths**.
* `Node.nodup_paths_events` — **no two nodes are met with one path**.
-/

namespace SchemaDecl

/-! ### Following steps -/

mutual

/-- The node that steps from a node lead to, with the field that owns it. -/
def Node.at? (owner : Option String) (steps : List Step) : Node → Option Occurrence
  | .object title fields =>
    match steps with
    | [] => some ⟨owner, .object title fields⟩
    | .field name :: rest => Fields.at? name rest fields
    | .element :: _ => none
  | .arrayRoot title item =>
    match steps with
    | [] => some ⟨owner, .arrayRoot title item⟩
    | .field _ :: _ => none
    | .element :: rest => item.at? itemsField rest
termination_by structural node => node

/-- The node that steps from the type of a field lead to. -/
def FieldType.at? (field : String) (steps : List Step) : FieldType → Option Occurrence
  | .primitive _ => none
  | .object node => node.at? (some field) steps
  | .array element =>
    match steps with
    | .element :: rest => element.at? field rest
    | _ => none
termination_by structural type => type

/-- The node that steps from the field of a given name lead to. -/
def Fields.at? (name : String) (steps : List Step) :
    List (String × FieldType) → Option Occurrence
  | [] => none
  | (n, type) :: rest => if n = name then type.at? n steps else Fields.at? name steps rest
termination_by structural fields => fields

end

mutual

/-- The names of all fields of a node and of the nodes inside it. -/
def Node.fieldNames : Node → List String
  | .object _ fields => Fields.fieldNames fields
  | .arrayRoot _ item => item.fieldNames
termination_by structural node => node

/-- The names of all fields of the nodes that a type holds. -/
def FieldType.fieldNames : FieldType → List String
  | .primitive _ => []
  | .object node => node.fieldNames
  | .array element => element.fieldNames
termination_by structural type => type

/-- The names of fields, and of all fields of the nodes that they hold. -/
def Fields.fieldNames : List (String × FieldType) → List String
  | [] => []
  | (name, type) :: rest => name :: (type.fieldNames ++ Fields.fieldNames rest)
termination_by structural fields => fields

end

theorem Fields.exists_mem_of_at? {name : String} {steps : List Step} {fields : Fields}
    {o : Occurrence} (h : Fields.at? name steps fields = some o) : ∃ f ∈ fields, f.1 = name := by
  induction fields with
  | nil => cases h
  | cons head rest ih =>
    obtain ⟨n, type⟩ := head
    by_cases hname : n = name
    · exact ⟨(n, type), List.mem_cons_self, hname⟩
    · rw [Fields.at?, if_neg hname] at h
      obtain ⟨f, hf, hfname⟩ := ih h
      exact ⟨f, List.mem_cons_of_mem _ hf, hfname⟩

/-- What is reached through fields of other names is not reached by this name. -/
theorem Fields.ne_of_at? {n name : String} {steps : List Step} {fields : Fields} {o : Occurrence}
    (hnames : ∀ f ∈ fields, f.1 ≠ n) (h : Fields.at? name steps fields = some o) : n ≠ name := by
  obtain ⟨f, hf, rfl⟩ := Fields.exists_mem_of_at? h
  exact (hnames f hf).symm

/-! ### Sorted trees -/

/-- A field that is inserted among others is found as if it stood before them. -/
theorem Fields.at?_insertSorted (name n : String) (steps : List Step) (type : FieldType)
    (fields : Fields) :
    Fields.at? name steps (Fields.insertSorted n type fields)
      = Fields.at? name steps ((n, type) :: fields) := by
  induction fields with
  | nil => rfl
  | cons head rest ih =>
    obtain ⟨m, t⟩ := head
    rw [Fields.insertSorted]
    split
    · next hlt =>
      -- the field that is passed over has another name
      rw [Fields.at?, ih, Fields.at?, Fields.at?, Fields.at?]
      by_cases hm : m = name
      · have hn : n ≠ name := fun hn => absurd (hm.trans hn.symm) hlt.ne
        rw [if_pos hm, if_neg hn, if_pos hm]
      · rw [if_neg hm, if_neg hm]
    · rfl

mutual

/-- At a place of the sorted tree there is the node of the tree, sorted. -/
theorem Node.at?_sorted : ∀ (node : Node) (owner : Option String) (steps : List Step),
    node.sorted.at? owner steps = (node.at? owner steps).map Occurrence.sorted
  | .object title fields, owner, steps => by
    cases steps with
    | nil => rfl
    | cons s rest =>
      cases s with
      | field name => exact Fields.at?_sorted fields name rest
      | element => rfl
  | .arrayRoot title item, owner, steps => by
    cases steps with
    | nil => rfl
    | cons s rest =>
      cases s with
      | field name => rfl
      | element => exact FieldType.at?_sorted item itemsField rest

theorem FieldType.at?_sorted : ∀ (type : FieldType) (field : String) (steps : List Step),
    type.sorted.at? field steps = (type.at? field steps).map Occurrence.sorted
  | .primitive _, _, _ => rfl
  | .object node, field, steps => Node.at?_sorted node (some field) steps
  | .array element, field, steps => by
    cases steps with
    | nil => rfl
    | cons s rest =>
      cases s with
      | field name => rfl
      | element => exact FieldType.at?_sorted element field rest

theorem Fields.at?_sorted : ∀ (fields : List (String × FieldType)) (name : String)
    (steps : List Step),
    Fields.at? name steps (Fields.sorted fields)
      = (Fields.at? name steps fields).map Occurrence.sorted
  | [], _, _ => rfl
  | (n, type) :: rest, name, steps => by
    rw [Fields.sorted, Fields.at?_insertSorted, Fields.at?, Fields.at?]
    split
    · exact FieldType.at?_sorted type n steps
    · exact Fields.at?_sorted rest name steps

end

/-! ### Names on the way -/

mutual

/-- The steps to a node are plain if the names of all fields are. -/
theorem Node.isPlain_of_at? : ∀ (node : Node) {owner : Option String} {steps : List Step}
    {o : Occurrence}, (∀ name ∈ node.fieldNames, (Step.field name).IsPlain) →
    node.at? owner steps = some o → ∀ s ∈ steps, s.IsPlain
  | _, _, [], _, _, _ => List.forall_mem_nil _
  | .object title fields, _, .field name :: rest, _, hnames, h =>
    Fields.isPlain_of_at? fields hnames h
  | .object _ _, _, .element :: _, _, _, h => by cases h
  | .arrayRoot _ _, _, .field _ :: _, _, _, h => by cases h
  | .arrayRoot title item, _, .element :: rest, _, hnames, h =>
    List.forall_mem_cons.mpr ⟨trivial, FieldType.isPlain_of_at? item hnames h⟩

theorem FieldType.isPlain_of_at? : ∀ (type : FieldType) {field : String} {steps : List Step}
    {o : Occurrence}, (∀ name ∈ type.fieldNames, (Step.field name).IsPlain) →
    type.at? field steps = some o → ∀ s ∈ steps, s.IsPlain
  | .primitive _, _, _, _, _, h => by cases h
  | .object node, _, _, _, hnames, h => Node.isPlain_of_at? node hnames h
  | .array _, _, [], _, _, h => by cases h
  | .array _, _, .field _ :: _, _, _, h => by cases h
  | .array element, _, .element :: rest, _, hnames, h =>
    List.forall_mem_cons.mpr ⟨trivial, FieldType.isPlain_of_at? element hnames h⟩

theorem Fields.isPlain_of_at? : ∀ (fields : List (String × FieldType)) {name : String}
    {steps : List Step} {o : Occurrence},
    (∀ name ∈ Fields.fieldNames fields, (Step.field name).IsPlain) →
    Fields.at? name steps fields = some o → ∀ s ∈ Step.field name :: steps, s.IsPlain
  | [], _, _, _, _, h => by cases h
  | (n, type) :: rest, name, steps, o, hnames, h => by
    rw [Fields.fieldNames, List.forall_mem_cons, List.forall_mem_append] at hnames
    obtain ⟨hname, htype, hrest⟩ := hnames
    rw [Fields.at?] at h
    split at h
    · next heq =>
      subst heq
      exact List.forall_mem_cons.mpr ⟨hname, FieldType.isPlain_of_at? type htype h⟩
    · exact Fields.isPlain_of_at? rest hrest h

end

/-! ### The paths of the walk -/

theorem Event.left_visit (u : Visit) (inner : List Event) :
    left (.enter u :: inner ++ [.leave u]) = left inner ++ [u] := by
  rw [List.cons_append, left_enter, left_append]
  rfl

theorem Event.mem_left_visit {u v : Visit} {inner : List Event} :
    v ∈ left (.enter u :: inner ++ [.leave u]) ↔ v ∈ left inner ∨ v = u := by
  rw [left_visit, List.mem_append, List.mem_singleton]

mutual

/-- **The walk over a node meets what steps lead to**, with the path of these steps. -/
theorem Node.mem_left_events_iff : ∀ (node : Node) (owner : Option String) (path : String)
    (v : Visit), node.Distinct →
    (v ∈ Event.left (node.events owner path) ↔
      ∃ steps o, node.at? owner steps = some o ∧ v = ⟨o, Path.walk path steps⟩)
  | .object title fields, owner, path, v, h => by
    rw [Node.events, Event.mem_left_visit, Fields.mem_left_events_iff fields path v h]
    -- no steps lead to the node itself, and all others begin at one of its fields
    constructor
    · rintro (⟨name, rest, o, hat, rfl⟩ | rfl)
      · exact ⟨.field name :: rest, o, hat, rfl⟩
      · exact ⟨[], _, rfl, rfl⟩
    · rintro ⟨steps, o, hat, rfl⟩
      cases steps with
      | nil =>
        obtain rfl := Option.some.inj hat
        exact Or.inr rfl
      | cons s rest =>
        cases s with
        | field name => exact Or.inl ⟨name, rest, o, hat, rfl⟩
        | element => cases hat
  | .arrayRoot title item, owner, path, v, h => by
    rw [Node.events, Event.mem_left_visit,
      FieldType.mem_left_events_iff item itemsField (Path.element path) v h]
    constructor
    · rintro (⟨rest, o, hat, rfl⟩ | rfl)
      · exact ⟨.element :: rest, o, hat, rfl⟩
      · exact ⟨[], _, rfl, rfl⟩
    · rintro ⟨steps, o, hat, rfl⟩
      cases steps with
      | nil =>
        obtain rfl := Option.some.inj hat
        exact Or.inr rfl
      | cons s rest =>
        cases s with
        | field name => cases hat
        | element => exact Or.inl ⟨rest, o, hat, rfl⟩

theorem FieldType.mem_left_events_iff : ∀ (type : FieldType) (field path : String) (v : Visit),
    type.Distinct →
    (v ∈ Event.left (type.events field path) ↔
      ∃ steps o, type.at? field steps = some o ∧ v = ⟨o, Path.walk path steps⟩)
  | .primitive _, _, _, _, _ => by simp [FieldType.events, FieldType.at?]
  | .object node, field, path, v, h => Node.mem_left_events_iff node (some field) path v h
  | .array element, field, path, v, h => by
    rw [FieldType.events, FieldType.mem_left_events_iff element field (Path.element path) v h]
    constructor
    · rintro ⟨rest, o, hat, rfl⟩
      exact ⟨.element :: rest, o, hat, rfl⟩
    · rintro ⟨steps, o, hat, rfl⟩
      cases steps with
      | nil => cases hat
      | cons s rest =>
        cases s with
        | field name => cases hat
        | element => exact ⟨rest, o, hat, rfl⟩

theorem Fields.mem_left_events_iff : ∀ (fields : List (String × FieldType)) (path : String)
    (v : Visit), Fields.Distinct fields →
    (v ∈ Event.left (Fields.events path fields) ↔
      ∃ name steps o, Fields.at? name steps fields = some o ∧
        v = ⟨o, Path.walk (Path.field path name) steps⟩)
  | [], _, _, _ => by simp [Fields.events, Fields.at?]
  | (n, type) :: rest, path, v, h => by
    obtain ⟨hnames, htype, hrest⟩ := h
    rw [Fields.events, Event.left_append, List.mem_append,
      FieldType.mem_left_events_iff type n (Path.field path n) v htype,
      Fields.mem_left_events_iff rest path v hrest]
    constructor
    · rintro (⟨steps, o, hat, rfl⟩ | ⟨name, steps, o, hat, rfl⟩)
      · exact ⟨n, steps, o, by rwa [Fields.at?, if_pos rfl], rfl⟩
      · -- a later field has another name, so the first one is passed over
        exact ⟨name, steps, o, by rwa [Fields.at?, if_neg (Fields.ne_of_at? hnames hat)], rfl⟩
    · rintro ⟨name, steps, o, hat, rfl⟩
      rw [Fields.at?] at hat
      split at hat
      · next heq =>
        subst heq
        exact Or.inl ⟨steps, o, hat, rfl⟩
      · exact Or.inr ⟨name, steps, o, hat, rfl⟩

end

/-! ### Different paths -/

/-- The paths of a visit differ if those inside it do, and none of them is its own. -/
theorem Event.nodup_paths_visit {u : Visit} {inner : List Event}
    (hinner : ((left inner).map (·.path)).Nodup) (hself : ∀ v ∈ left inner, v.path ≠ u.path) :
    ((left (.enter u :: inner ++ [.leave u])).map (·.path)).Nodup := by
  rw [left_visit, List.map_append, List.map_singleton, List.nodup_append]
  refine ⟨hinner, List.nodup_singleton _, ?_⟩
  intro path hpath other hother
  obtain ⟨v, hv, rfl⟩ := List.mem_map.mp hpath
  rw [List.mem_singleton] at hother
  rw [hother]
  exact hself v hv

mutual

/-- **The walk over a node meets no two nodes with one path**, if all ways to them are plain. -/
theorem Node.nodup_paths_events : ∀ (node : Node) (owner : Option String) (path : String),
    node.Distinct →
    (∀ steps o, node.at? owner steps = some o → ∀ s ∈ steps, s.IsPlain) →
    ((Event.left (node.events owner path)).map (·.path)).Nodup
  | .object title fields, owner, path, h, hplain => by
    have hfields : ∀ name steps o, Fields.at? name steps fields = some o →
        ∀ s ∈ Step.field name :: steps, s.IsPlain :=
      fun name steps => hplain (.field name :: steps)
    refine Event.nodup_paths_visit (Fields.nodup_paths_events fields path h hfields) ?_
    -- the path of the node itself is that of no steps
    intro v hv heq
    obtain ⟨name, steps, o, hat, rfl⟩ := (Fields.mem_left_events_iff fields path v h).mp hv
    have hwalk : Path.walk path (.field name :: steps) = Path.walk path [] := heq
    cases Path.walk_injective (hfields name steps o hat) (List.forall_mem_nil _) hwalk
  | .arrayRoot title item, owner, path, h, hplain => by
    have hitem : ∀ steps o, item.at? itemsField steps = some o →
        ∀ s ∈ Step.element :: steps, s.IsPlain :=
      fun steps => hplain (.element :: steps)
    refine Event.nodup_paths_visit (FieldType.nodup_paths_events item itemsField
      (Path.element path) h fun steps o hat => (List.forall_mem_cons.mp (hitem steps o hat)).2) ?_
    intro v hv heq
    obtain ⟨steps, o, hat, rfl⟩ :=
      (FieldType.mem_left_events_iff item itemsField (Path.element path) v h).mp hv
    have hwalk : Path.walk path (.element :: steps) = Path.walk path [] := heq
    cases Path.walk_injective (hitem steps o hat) (List.forall_mem_nil _) hwalk

theorem FieldType.nodup_paths_events : ∀ (type : FieldType) (field path : String),
    type.Distinct →
    (∀ steps o, type.at? field steps = some o → ∀ s ∈ steps, s.IsPlain) →
    ((Event.left (type.events field path)).map (·.path)).Nodup
  | .primitive _, _, _, _, _ => List.nodup_nil
  | .object node, field, path, h, hplain => Node.nodup_paths_events node (some field) path h hplain
  | .array element, field, path, h, hplain =>
    FieldType.nodup_paths_events element field (Path.element path) h
      fun steps o hat => (List.forall_mem_cons.mp (hplain (.element :: steps) o hat)).2

theorem Fields.nodup_paths_events : ∀ (fields : List (String × FieldType)) (path : String),
    Fields.Distinct fields →
    (∀ name steps o, Fields.at? name steps fields = some o →
      ∀ s ∈ Step.field name :: steps, s.IsPlain) →
    ((Event.left (Fields.events path fields)).map (·.path)).Nodup
  | [], _, _, _ => List.nodup_nil
  | (n, type) :: rest, path, h, hplain => by
    obtain ⟨hnames, hdistinct, hdistinct'⟩ := h
    have htype : ∀ steps o, type.at? n steps = some o →
        ∀ s ∈ Step.field n :: steps, s.IsPlain := by
      intro steps o hat
      exact hplain n steps o (by rwa [Fields.at?, if_pos rfl])
    have hrest : ∀ name steps o, Fields.at? name steps rest = some o →
        ∀ s ∈ Step.field name :: steps, s.IsPlain := by
      intro name steps o hat
      exact hplain name steps o (by rwa [Fields.at?, if_neg (Fields.ne_of_at? hnames hat)])
    rw [Fields.events, Event.left_append, List.map_append, List.nodup_append]
    refine ⟨FieldType.nodup_paths_events type n (Path.field path n) hdistinct fun steps o hat =>
      (List.forall_mem_cons.mp (htype steps o hat)).2,
      Fields.nodup_paths_events rest path hdistinct' hrest, ?_⟩
    intro p hp q hq heq
    obtain ⟨v, hv, rfl⟩ := List.mem_map.mp hp
    obtain ⟨w, hw, rfl⟩ := List.mem_map.mp hq
    obtain ⟨steps, o, hat, rfl⟩ :=
      (FieldType.mem_left_events_iff type n (Path.field path n) v hdistinct).mp hv
    obtain ⟨name, steps', o', hat', rfl⟩ :=
      (Fields.mem_left_events_iff rest path w hdistinct').mp hw
    -- the two ways begin with fields of different names
    have hwalk : Path.walk path (.field n :: steps) = Path.walk path (.field name :: steps') := heq
    have hsteps := Path.walk_injective (htype steps o hat) (hrest name steps' o' hat') hwalk
    exact Fields.ne_of_at? hnames hat' (Step.field.inj (List.cons.inj hsteps).1)

end

end SchemaDecl
