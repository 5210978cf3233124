import Mathlib.Logic.Relation
import SchemaDecl.Proofs.Compile.Fault
import SchemaDecl.Proofs.Record.Outline

/-!
# Other spellings of a schema

One schema can be written in several ways.  A title counts by its first word only, a nested node
without a title has the name of the field that owns it, and a node that is an array stands for one
with a field that holds the items.  None of this shows in the tree in which every node bears its
name, and all that is made of a schema, apart from the paths in errors, is made of that tree.

## Main definitions

* `Retitled` — a title is replaced by another that gives the node the same name.
* `Node.Respelled` — a tree with other titles, and with fields of items for arrays, at any nodes.

## Main results

* `Node.named_eq_of_respelled` — schemas that are spelled differently have one tree of names.
* `Target.withoutPaths_compile_named` — a schema compiles as the tree of its names does.
* `Target.compile_respelled` — **schemas that are spelled differently compile alike**.
-/

namespace SchemaDecl

/-- The second title can replace the first one, if the node is owned by the given field. -/
inductive Retitled (owner : Option String) : Option String → Option String → Prop
  | same (title : Option String) : Retitled owner title title
  /-- Another title with the same first word. -/
  | firstWord {title title' word : String} (h : Text.firstWord? title = some word)
      (h' : Text.firstWord? title' = some word) : Retitled owner (some title) (some title')
  /-- The name of the field that owns the node, for a title that is missing or blank. -/
  | owner {title : Option String} {field : String} (hblank : isBlankSource title = true)
      (howner : owner = some field) : Retitled owner title (some field)

mutual

/-- The second node is the first in another spelling: some nodes have other titles, and some
that are arrays have become nodes with a field that holds the items. -/
inductive Node.Respelled : Option String → Node → Node → Prop
  | object {owner title title' : Option String} {fields fields' : List (String × FieldType)} :
      Retitled owner title title' → Fields.Respelled fields fields' →
      Node.Respelled owner (.object title fields) (.object title' fields')
  | arrayRoot {owner title title' : Option String} {item item' : FieldType} :
      Retitled owner title title' → FieldType.Respelled itemsField item item' →
      Node.Respelled owner (.arrayRoot title item) (.arrayRoot title' item')
  | itemsField {owner title title' : Option String} {item item' : FieldType} :
      Retitled owner title title' → FieldType.Respelled itemsField item item' →
      Node.Respelled owner (.arrayRoot title item) (.object title' [(itemsField, .array item')])

/-- The same for the node that the type of a field holds. -/
inductive FieldType.Respelled : String → FieldType → FieldType → Prop
  | primitive (field : String) (kind : Primitive) :
      FieldType.Respelled field (.primitive kind) (.primitive kind)
  | object {field : String} {node node' : Node} :
      Node.Respelled (some field) node node' →
      FieldType.Respelled field (.object node) (.object node')
  | array {field : String} {element element' : FieldType} :
      FieldType.Respelled field element element' →
      FieldType.Respelled field (.array element) (.array element')

/-- The same for the types of fields. -/
inductive Fields.Respelled : List (String × FieldType) → List (String × FieldType) → Prop
  | nil : Fields.Respelled [] []
  | cons {name : String} {type type' : FieldType} {rest rest' : List (String × FieldType)} :
      FieldType.Respelled name type type' → Fields.Respelled rest rest' →
      Fields.Respelled ((name, type) :: rest) ((name, type') :: rest')

end

/-! ### Names of respelled schemas -/

/-- A title is replaced by one that gives the same name. -/
theorem Retitled.nodeName?_eq {owner title title' : Option String}
    (h : Retitled owner title title') : nodeName? title owner = nodeName? title' owner := by
  cases h with
  | same => rfl
  | firstWord h h' =>
    rw [nodeName?_of_firstWord? h, nodeName?_of_firstWord? h']
  | @owner _ field hblank howner =>
    -- as a title the name of the field is taken unless it is blank, and then it is asked again
    rw [nodeName?, nameSource_of_blank hblank, nodeName?, howner, Option.getD_some]
    by_cases hfield : isBlankSource (some field) = true
    · rw [nameSource_of_blank hfield, Option.getD_some]
    · rw [nameSource_of_not_blank (Bool.eq_false_iff.mpr hfield)]

mutual

/-- **Schemas that are spelled differently have one tree of names.** -/
theorem Node.named_eq_of_respelled : ∀ {node node' : Node} {owner : Option String},
    Node.Respelled owner node node' → node.named owner = node'.named owner
  | .object title fields, .object title' fields', owner, h => by
    cases h with
    | object htitle hfields =>
      rw [Node.named, Node.named, htitle.nodeName?_eq, Fields.named_eq_of_respelled hfields]
  | .arrayRoot title item, .arrayRoot title' item', owner, h => by
    cases h with
    | arrayRoot htitle hitem =>
      rw [Node.named, Node.named, htitle.nodeName?_eq, FieldType.named_eq_of_respelled hitem]
  | .arrayRoot title item, .object title' fields', owner, h => by
    cases h with
    | itemsField htitle hitem =>
      rw [Node.named, Node.named, htitle.nodeName?_eq, FieldType.named_eq_of_respelled hitem]
      rfl

theorem FieldType.named_eq_of_respelled : ∀ {type type' : FieldType} {field : String},
    FieldType.Respelled field type type' → type.named field = type'.named field
  | .primitive _, .primitive _, _, h => by
    cases h
    rfl
  | .object node, .object node', _, h => by
    cases h with
    | object hnode => exact congrArg FieldType.object (Node.named_eq_of_respelled hnode)
  | .array element, .array element', _, h => by
    cases h with
    | array helement => exact congrArg FieldType.array (FieldType.named_eq_of_respelled helement)

theorem Fields.named_eq_of_respelled : ∀ {fields fields' : List (String × FieldType)},
    Fields.Respelled fields fields' → Fields.named fields = Fields.named fields'
  | [], [], _ => rfl
  | (name, type) :: rest, (name', type') :: rest', h => by
    cases h with
    | cons htype hrest =>
      rw [Fields.named, Fields.named, FieldType.named_eq_of_respelled htype,
        Fields.named_eq_of_respelled hrest]

end

/-! ### What is made of the tree of names -/

mutual

/-- A node with names for titles uses the same features. -/
theorem Node.uses_named (f : Feature) : ∀ (node : Node) (owner : Option String),
    (node.named owner).uses f = node.uses f
  | .object _ fields, _ => Fields.uses_named f fields
  | .arrayRoot _ item, _ => by
    rw [Node.named, Node.uses, Fields.uses, Fields.uses, Bool.or_false, FieldType.uses,
      FieldType.uses_named f item, Node.uses]

theorem FieldType.uses_named (f : Feature) : ∀ (type : FieldType) (field : String),
    (type.named field).uses f = type.uses f
  | .primitive _, _ => rfl
  | .object node, field => congrArg (f == .object || ·) (Node.uses_named f node (some field))
  | .array element, field => congrArg (f == .array || ·) (FieldType.uses_named f element field)

theorem Fields.uses_named (f : Feature) : ∀ fields : List (String × FieldType),
    Fields.uses (Fields.named fields) f = Fields.uses fields f
  | [] => rfl
  | (name, type) :: rest => by
    rw [Fields.named, Fields.uses, Fields.uses, FieldType.uses_named f type,
      Fields.uses_named f rest]

end

theorem Node.features_named (root : Node) : (root.named none).features = root.features :=
  List.filter_congr fun f _ => Node.uses_named f root none

namespace Target

/-- Schemas with the same records and features compile alike, and those that fail to have records
fail alike. -/
theorem compile_congr (target : Target) (options : Options) {root root' : Node}
    {f : CompileError → CompileError}
    (hrecords : (collectRecords root).mapError f = (collectRecords root').mapError f)
    (hfeatures : root.features = root'.features) :
    (target.compile options root).mapError f = (target.compile options root').mapError f := by
  cases h : collectRecords root with
  | error e =>
    cases h' : collectRecords root' with
    | error e' =>
      rw [h, h'] at hrecords
      rw [target.compile_of_collectRecords_error options h,
        target.compile_of_collectRecords_error options h']
      exact congrArg Except.error (Except.error.inj hrecords)
    | ok records' =>
      rw [h, h'] at hrecords
      cases hrecords
  | ok records =>
    cases h' : collectRecords root' with
    | error e' =>
      rw [h, h'] at hrecords
      cases hrecords
    | ok records' =>
      rw [h, h'] at hrecords
      obtain rfl : records = records' := Except.ok.inj hrecords
      rw [compile, assemble, h, hfeatures, compile, assemble, h']

/-- A schema compiles as the tree of its names does, apart from the paths in errors. -/
theorem withoutPaths_compile_named (target : Target) (options : Options) (root : Node) :
    (target.compile options (root.named none)).mapError CompileError.withoutPaths
      = (target.compile options root).mapError CompileError.withoutPaths := by
  exact compile_congr target options (collectRecords_named root) (Node.features_named root)

/-- **Schemas that are spelled differently compile alike.**  Other titles with the same first
words, the names of owning fields for titles that are missing, and nodes with a field of items for
nodes that are arrays: however many of these changes are made at any nodes, the text is the same,
or the error is, apart from the paths in it. -/
theorem compile_respelled {root root' : Node}
    (h : Relation.ReflTransGen (Node.Respelled none) root root') (target : Target)
    (options : Options) :
    (target.compile options root).mapError CompileError.withoutPaths
      = (target.compile options root').mapError CompileError.withoutPaths := by
  have hnamed : root.named none = root'.named none := by
    -- each step keeps the tree of names, and so does the whole chain
    induction h with
    | refl => rfl
    | tail _ hstep ih => exact ih.trans (Node.named_eq_of_respelled hstep)
  rw [← withoutPaths_compile_named, hnamed, withoutPaths_compile_named]

/-- Both spellings of this schema fail for the second `Shop`, which stands at other paths. -/
theorem compile_respelled_of_items :
    Target.c.compile ⟨false, "main"⟩ (.object (some "Shop Front")
        [("tags", .object (.arrayRoot none (.object (.object (some "Shop") []))))])
      = .error (.nameCollision "Shop" "$" "$.tags[]") ∧
    (Target.c.compile ⟨false, "main"⟩ (.object (some "Shop")
        [("tags", .object (.object (some "tags")
          [("items", .array (.object (.object (some "Shop 2") [])))]))])).mapError
        CompileError.withoutPaths
      = .error (.nameCollision "Shop" "" "") := by
  have htags : Node.Respelled (some "tags")
      (.arrayRoot none (.object (.object (some "Shop") [])))
      (.object (some "tags") [("items", .array (.object (.object (some "Shop 2") [])))]) :=
    .itemsField (.owner rfl rfl) (.object (.object (.firstWord rfl rfl) .nil))
  have hroot : Node.Respelled none
      (.object (some "Shop Front")
        [("tags", .object (.arrayRoot none (.object (.object (some "Shop") []))))])
      (.object (some "Shop")
        [("tags", .object (.object (some "tags")
          [("items", .array (.object (.object (some "Shop 2") [])))]))]) :=
    .object (.firstWord rfl rfl) (.cons (.object htags) .nil)
  rw [← compile_respelled (.single hroot)]
  exact ⟨rfl, rfl⟩

end Target

end SchemaDecl
