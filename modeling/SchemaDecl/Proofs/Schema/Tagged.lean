import Mathlib.Logic.Basic
import SchemaDecl.Proofs.Json.RoundTrip
import SchemaDecl.Proofs.Schema.Distinct
import SchemaDecl.Schema.Tagged

/-!
# The tagged form of a schema is read back

Reading the tagged form is more liberal than writing it, but what is read has a form of its own,
which is written with no more brackets around any part.  So a tree whose field names are distinct
is read back from its text if the text is not nested too deep, and every tree that is read from
any text is such a tree.

## Main definitions

* `Node.Fits` — a tree has distinct field names and is written with a bounded number of brackets.

## Main results

* `Fields.ofPairs_of_nodup`, `Fields.nodup_ofPairs` — fields of distinct names, and of any names.
* `Node.asNode?_tagged` — a tree that fits is read back.
* `Json.fits_of_asNode?` — a tree that is read fits.
* `Node.ofTaggedText?_toTaggedText` — **the tagged form of a schema is read back**, and so is that
  of what is read from any text.
-/

namespace SchemaDecl

/-! ### Setting fields one after the other -/

namespace Fields

theorem put_of_forall_ne {name : String} {fields : Fields} (h : ∀ f ∈ fields, f.1 ≠ name)
    (type : FieldType) : put name type fields = fields ++ [(name, type)] := by
  induction fields with
  | nil => rfl
  | cons head rest ih =>
    obtain ⟨hhead, hrest⟩ := List.forall_mem_cons.mp h
    rw [put, if_neg hhead, ih hrest, List.cons_append]

theorem mem_put {name : String} {type : FieldType} {fields : Fields} {f : String × FieldType}
    (h : f ∈ put name type fields) : f = (name, type) ∨ f ∈ fields := by
  induction fields with
  | nil => exact Or.inl (List.mem_singleton.mp h)
  | cons head rest ih =>
    obtain ⟨n, t⟩ := head
    rw [put] at h
    split at h
    · next hname =>
      subst hname
      rcases List.mem_cons.mp h with rfl | h
      · exact Or.inl rfl
      · exact Or.inr (List.mem_cons_of_mem _ h)
    · rcases List.mem_cons.mp h with rfl | h
      · exact Or.inr List.mem_cons_self
      · exact (ih h).imp_right (List.mem_cons_of_mem _)

/-- Setting a field leaves no name twice. -/
theorem nodup_put {fields : Fields} (h : (fields.map Prod.fst).Nodup) (name : String)
    (type : FieldType) : ((put name type fields).map Prod.fst).Nodup := by
  induction fields with
  | nil => exact List.pairwise_singleton _ _
  | cons head rest ih =>
    obtain ⟨n, t⟩ := head
    obtain ⟨hhead, hrest⟩ := List.nodup_cons.mp h
    rw [put]
    split
    · exact h
    · next hname =>
      refine List.nodup_cons.mpr ⟨fun hmem => ?_, ih hrest⟩
      obtain ⟨f, hf, hfst⟩ := List.mem_map.mp hmem
      rcases mem_put hf with rfl | hf
      · exact hname hfst.symm
      · exact hhead (List.mem_map.mpr ⟨f, hf, hfst⟩)

/-- Fields of distinct names are set as they are given. -/
theorem ofPairs_of_nodup {pairs : List (String × FieldType)} (h : (pairs.map Prod.fst).Nodup) :
    ofPairs pairs = pairs := by
  have hfold : ∀ (fields rest : Fields), ((fields ++ rest).map Prod.fst).Nodup →
      rest.foldl (fun fields p => put p.1 p.2 fields) fields = fields ++ rest := by
    intro fields rest
    induction rest generalizing fields with
    | nil => exact fun _ => (List.append_nil fields).symm
    | cons p rest ih =>
      intro hnodup
      have hput : put p.1 p.2 fields = fields ++ [p] := by
        refine put_of_forall_ne (fun f hf hname => ?_) p.2
        rw [List.map_append, List.map_cons, List.nodup_append] at hnodup
        exact hnodup.2.2 f.1 (List.mem_map_of_mem hf) p.1 List.mem_cons_self hname
      rw [List.foldl_cons, hput, ih (fields ++ [p]) (by simpa using hnodup), List.append_assoc,
        List.singleton_append]
  exact hfold [] pairs h

/-- Whatever fields are set, no name is left twice, and each type is one of those given. -/
theorem nodup_ofPairs (pairs : List (String × FieldType)) :
    ((ofPairs pairs).map Prod.fst).Nodup ∧ ∀ f ∈ ofPairs pairs, f ∈ pairs := by
  -- for the induction, fields that have been set before are allowed
  have hfold : ∀ (rest fields : Fields), (fields.map Prod.fst).Nodup →
      ((rest.foldl (fun fields p => put p.1 p.2 fields) fields).map Prod.fst).Nodup ∧
        ∀ f ∈ rest.foldl (fun fields p => put p.1 p.2 fields) fields, f ∈ fields ∨ f ∈ rest := by
    intro rest
    induction rest with
    | nil => exact fun fields h => ⟨h, fun f hf => Or.inl hf⟩
    | cons p rest ih =>
      intro fields h
      obtain ⟨hnodup, hmem⟩ := ih (put p.1 p.2 fields) (nodup_put h p.1 p.2)
      refine ⟨hnodup, fun f hf => ?_⟩
      rcases hmem f hf with hput | hrest
      · rcases mem_put hput with rfl | hfields
        · exact Or.inr List.mem_cons_self
        · exact Or.inl hfields
      · exact Or.inr (List.mem_cons_of_mem p hrest)
  obtain ⟨hnodup, hmem⟩ := hfold pairs [] List.nodup_nil
  exact ⟨hnodup, fun f hf => (hmem f hf).resolve_left List.not_mem_nil⟩

end Fields

/-! ### The written form -/

mutual

/-- There are no numbers in the tagged form of a node. -/
theorem Node.numberless_tagged : ∀ node : Node, node.tagged.Numberless
  | .object none fields => ⟨trivial, ⟨Fields.numberless_tagged fields, trivial⟩, trivial⟩
  | .object (some _) fields => ⟨trivial, ⟨Fields.numberless_tagged fields, trivial⟩, trivial⟩
  | .arrayRoot none item => ⟨trivial, ⟨FieldType.numberless_tagged item, trivial⟩, trivial⟩
  | .arrayRoot (some _) item => ⟨trivial, ⟨FieldType.numberless_tagged item, trivial⟩, trivial⟩

theorem FieldType.numberless_tagged : ∀ type : FieldType, type.tagged.Numberless
  | .primitive _ => ⟨trivial, trivial⟩
  | .object node => ⟨Node.numberless_tagged node, trivial⟩
  | .array element => ⟨FieldType.numberless_tagged element, trivial⟩

theorem Fields.numberless_tagged : ∀ fields : List (String × FieldType),
    Json.NumberlessMembers (Fields.tagged fields)
  | [] => trivial
  | (_, type) :: rest => ⟨FieldType.numberless_tagged type, Fields.numberless_tagged rest⟩

end

/-- A choice has one bracket around what is chosen. -/
theorem Json.nesting_choice (constructor : String) (value : Json String) :
    (Json.choice constructor value).nesting = value.nesting + 1 :=
  congrArg Nat.succ (Nat.max_zero value.nesting)

/-- A node has one bracket around its shape. -/
theorem Json.nesting_taggedNode (title : Option String) (shape : Json String) :
    (Json.taggedNode title shape).nesting = shape.nesting + 1 := by
  have htitle : (Json.optional title).nesting = 0 := by cases title <;> rfl
  rw [Json.taggedNode, Json.nesting, Json.nestingMembers, Json.nestingMembers,
    Json.nestingMembers, htitle, Nat.zero_max, Nat.max_zero]

/-- Fields are as deep as the deepest of them. -/
theorem Fields.nesting_tagged_le_iff (fields : Fields) (depth : Nat) :
    Json.nestingMembers (Fields.tagged fields) ≤ depth ↔
      ∀ f ∈ fields, f.2.tagged.nesting ≤ depth := by
  induction fields with
  | nil => simp [Fields.tagged, Json.nestingMembers]
  | cons head rest ih =>
    rw [Fields.tagged, Json.nestingMembers, Nat.max_le, ih, List.forall_mem_cons]

@[simp] theorem Node.nesting_tagged_titled (title : Option String) (node : Node) :
    (node.titled title).tagged.nesting = node.tagged.nesting := by
  cases node <;>
    rw [Node.titled, Node.tagged, Node.tagged, Json.nesting_taggedNode, Json.nesting_taggedNode]

/-- The tree has distinct field names, and no part of its tagged form has more than `depth` brackets
around it. -/
def Node.Fits (depth : Nat) (node : Node) : Prop :=
  node.Distinct ∧ node.tagged.nesting ≤ depth

/-- The same for types. -/
def FieldType.Fits (depth : Nat) (type : FieldType) : Prop :=
  type.Distinct ∧ type.tagged.nesting ≤ depth

/-- The same for fields, inside the brackets around them. -/
def Fields.Fits (depth : Nat) (fields : Fields) : Prop :=
  Fields.Distinct fields ∧ Json.nestingMembers (Fields.tagged fields) ≤ depth

theorem Fields.fits_iff (depth : Nat) (fields : Fields) :
    Fields.Fits depth fields ↔ (fields.map Prod.fst).Nodup ∧ ∀ f ∈ fields, f.2.Fits depth := by
  simp only [Fields.Fits, FieldType.Fits, Fields.distinct_iff, Fields.nesting_tagged_le_iff,
    forall₂_and, and_assoc]

/-- A bound that leaves room for `k` more is `k` more than some other bound. -/
theorem and_add_le_iff {P : Prop} {n depth : Nat} (k : Nat) :
    P ∧ n + k ≤ depth ↔ ∃ inside, depth = inside + k ∧ P ∧ n ≤ inside := by
  constructor
  · rintro ⟨hP, hdepth⟩
    exact ⟨depth - k, by omega, hP, by omega⟩
  · rintro ⟨inside, rfl, hP, hinside⟩
    exact ⟨hP, by omega⟩

/-- A node with fields fits if its fields fit in three brackets less. -/
theorem Node.fits_object (depth : Nat) (title : Option String) (fields : Fields) :
    (Node.object title fields).Fits depth ↔
      ∃ inside, depth = inside + 3 ∧ Fields.Fits inside fields := by
  rw [Node.Fits, Node.tagged, Json.nesting_taggedNode, Json.nesting_choice, Json.nesting]
  exact and_add_le_iff 3

/-- A node that is an array fits if its items fit in two brackets less. -/
theorem Node.fits_arrayRoot (depth : Nat) (title : Option String) (item : FieldType) :
    (Node.arrayRoot title item).Fits depth ↔
      ∃ inside, depth = inside + 2 ∧ item.Fits inside := by
  rw [Node.Fits, Node.tagged, Json.nesting_taggedNode, Json.nesting_choice]
  exact and_add_le_iff 2

@[simp] theorem Node.fits_titled (depth : Nat) (title : Option String) (node : Node) :
    (node.titled title).Fits depth ↔ node.Fits depth := by
  rw [Node.Fits, Node.nesting_tagged_titled, Node.Fits]
  cases node <;> rfl

theorem FieldType.fits_primitive (depth : Nat) (kind : Primitive) :
    (FieldType.primitive kind).Fits depth ↔ ∃ inside, depth = inside + 1 := by
  rw [FieldType.Fits, FieldType.tagged, Json.nesting_choice]
  refine (and_add_le_iff 1).trans (exists_congr fun inside => and_iff_left ?_)
  exact ⟨trivial, Nat.zero_le inside⟩

theorem FieldType.fits_object (depth : Nat) (node : Node) :
    (FieldType.object node).Fits depth ↔ ∃ inside, depth = inside + 1 ∧ node.Fits inside := by
  rw [FieldType.Fits, FieldType.tagged, Json.nesting_choice]
  exact and_add_le_iff 1

theorem FieldType.fits_array (depth : Nat) (element : FieldType) :
    (FieldType.array element).Fits depth ↔
      ∃ inside, depth = inside + 1 ∧ element.Fits inside := by
  rw [FieldType.Fits, FieldType.tagged, Json.nesting_choice]
  exact and_add_le_iff 1

/-! ### Reading what was written -/

theorem Json.asTitle?_optional (title : Option String) :
    Json.asTitle? ((Json.optional title).map some) = some title := by
  cases title <;> rfl

theorem Json.asNode?_taggedNode {depth : Nat} {shape : Json String} {node : Node}
    (h : Json.asShape? depth (shape.map some) = some node) (title : Option String) :
    Json.asNode? (depth + 1) ((Json.taggedNode title shape).map some)
      = some (node.titled title) := by
  have htitle := Json.asTitle?_optional title
  rw [Json.taggedNode, Json.map, Json.mapMembers, Json.mapMembers, Json.mapMembers, Json.asNode?]
  simp [Json.nodeParts?, htitle, h, NodeParts.node?]

mutual

/-- **A node that fits is read back.** -/
theorem Node.asNode?_tagged : ∀ (node : Node) (depth : Nat), node.Fits depth →
    Json.asNode? depth (node.tagged.map some) = some node
  | .object title fields, depth, h => by
    obtain ⟨inside, rfl, hfields⟩ := (Node.fits_object depth title fields).mp h
    have hnodup := ((Fields.fits_iff inside fields).mp hfields).1
    have hpairs := Fields.fieldPairs?_tagged fields inside hfields
    -- setting the fields in turn gives them back, since no name comes twice
    have hread : Json.asFields? (inside + 1) ((Json.object (Fields.tagged fields)).map some)
        = some fields := by
      rw [Json.map, Json.asFields?, hpairs, Option.map_some, Fields.ofPairs_of_nodup hnodup]
    have hshape : Json.asShape? (inside + 2)
        ((Json.choice "Object" (.object (Fields.tagged fields))).map some)
          = some (.object none fields) := congrArg (Option.map (Node.object none)) hread
    exact Json.asNode?_taggedNode hshape title
  | .arrayRoot title item, depth, h => by
    obtain ⟨inside, rfl, hitem⟩ := (Node.fits_arrayRoot depth title item).mp h
    have hread := FieldType.asFieldType?_tagged item inside hitem
    have hshape : Json.asShape? (inside + 1) ((Json.choice "ArrayRoot" item.tagged).map some)
        = some (.arrayRoot none item) := congrArg (Option.map (Node.arrayRoot none)) hread
    exact Json.asNode?_taggedNode hshape title

theorem FieldType.asFieldType?_tagged : ∀ (type : FieldType) (depth : Nat), type.Fits depth →
    Json.asFieldType? depth (type.tagged.map some) = some type
  | .primitive kind, depth, h => by
    obtain ⟨inside, rfl⟩ := (FieldType.fits_primitive depth kind).mp h
    exact congrArg (Option.map FieldType.primitive) (Primitive.ofName?_name kind)
  | .object node, depth, h => by
    obtain ⟨inside, rfl, hnode⟩ := (FieldType.fits_object depth node).mp h
    exact congrArg (Option.map FieldType.object) (Node.asNode?_tagged node inside hnode)
  | .array element, depth, h => by
    obtain ⟨inside, rfl, helement⟩ := (FieldType.fits_array depth element).mp h
    exact congrArg (Option.map FieldType.array)
      (FieldType.asFieldType?_tagged element inside helement)

theorem Fields.fieldPairs?_tagged : ∀ (fields : List (String × FieldType)) (depth : Nat),
    Fields.Fits depth fields →
    Json.fieldPairs? depth (Json.mapMembers some (Fields.tagged fields)) = some fields
  | [], _, _ => rfl
  | (name, type) :: rest, depth, ⟨⟨_, htype, hrest⟩, hdepth⟩ => by
    obtain ⟨hdepthType, hdepthRest⟩ := Nat.max_le.mp hdepth
    rw [Fields.tagged, Json.mapMembers, Json.fieldPairs?,
      FieldType.asFieldType?_tagged type depth ⟨htype, hdepthType⟩,
      Fields.fieldPairs?_tagged rest depth ⟨hrest, hdepthRest⟩]
    rfl

end

/-! ### What is read -/

/-- The node that the parts of a node say so far fits, if there is one. -/
def NodeParts.Fits (depth : Nat) (parts : NodeParts) : Prop :=
  ∀ node, parts.shape = some node → node.Fits depth

namespace Json

mutual

/-- **A node that is read fits.** -/
theorem fits_of_asNode? : ∀ (json : LenientJson) {depth : Nat} {node : Node},
    asNode? depth json = some node → node.Fits depth
  | .object members, depth + 1, node, h => by
    obtain ⟨parts, hparts, hnode⟩ := Option.bind_eq_some_iff.mp h
    obtain ⟨shape, hshape, rfl⟩ := Option.map_eq_some_iff.mp hnode
    rw [Node.fits_titled]
    exact fits_of_nodeParts? members hparts (fun _ hnone => nomatch hnone) shape hshape
  | .array [title, shape], depth + 1, node, h => by
    obtain ⟨title', -, h⟩ := Option.bind_eq_some_iff.mp h
    obtain ⟨node', hshape, h⟩ := Option.bind_eq_some_iff.mp h
    obtain rfl := Option.some.inj h
    rw [Node.fits_titled]
    exact fits_of_asShape? shape hshape

theorem fits_of_nodeParts? : ∀ (members : List (Option String × LenientJson)) {depth : Nat}
    {parts parts' : NodeParts}, nodeParts? depth members parts = some parts' →
    parts.Fits (depth + 1) → parts'.Fits (depth + 1)
  | [], depth, parts, parts', h, hparts => by
    obtain rfl := Option.some.inj h
    exact hparts
  | (some name, value) :: rest, depth, parts, parts', h, hparts => by
    rw [nodeParts?] at h
    split at h
    · split at h
      · cases h
      · obtain ⟨title, -, h⟩ := Option.bind_eq_some_iff.mp h
        exact fits_of_nodeParts? rest h hparts
    · split at h
      · split at h
        · cases h
        · obtain ⟨node, hnode, h⟩ := Option.bind_eq_some_iff.mp h
          refine fits_of_nodeParts? rest h fun node' hnode' => ?_
          obtain rfl := Option.some.inj hnode'
          exact fits_of_asShape? value hnode
      -- another member says nothing
      · exact fits_of_nodeParts? rest h hparts

theorem fits_of_asShape? : ∀ (json : LenientJson) {depth : Nat} {node : Node},
    asShape? depth json = some node → node.Fits (depth + 1)
  | .object [(some name, value)], depth + 1, node, h => by
    rw [asShape?] at h
    split at h
    · obtain ⟨fields, hfields, rfl⟩ := Option.map_eq_some_iff.mp h
      obtain ⟨inside, rfl, hinside⟩ := fits_of_asFields? value hfields
      exact (Node.fits_object _ none fields).mpr ⟨inside, rfl, hinside⟩
    · split at h
      · obtain ⟨item, hitem, rfl⟩ := Option.map_eq_some_iff.mp h
        exact (Node.fits_arrayRoot _ none item).mpr ⟨depth, rfl, fits_of_asFieldType? value hitem⟩
      · cases h

theorem fits_of_asFields? : ∀ (json : LenientJson) {depth : Nat} {fields : Fields},
    asFields? depth json = some fields → ∃ inside, depth = inside + 1 ∧ fields.Fits inside
  | .object members, depth + 1, fields, h => by
    obtain ⟨pairs, hpairs, rfl⟩ := Option.map_eq_some_iff.mp h
    obtain ⟨hnodup, hmem⟩ := Fields.nodup_ofPairs pairs
    have hfits := fits_of_fieldPairs? members hpairs
    exact ⟨depth, rfl, (Fields.fits_iff depth _).mpr ⟨hnodup, fun f hf => hfits f (hmem f hf)⟩⟩

theorem fits_of_fieldPairs? : ∀ (members : List (Option String × LenientJson)) {depth : Nat}
    {pairs : List (String × FieldType)}, fieldPairs? depth members = some pairs →
    ∀ f ∈ pairs, f.2.Fits depth
  | [], depth, pairs, h => by
    obtain rfl := Option.some.inj h
    exact fun f hf => absurd hf List.not_mem_nil
  | (some name, value) :: rest, depth, pairs, h => by
    obtain ⟨type, htype, h⟩ := Option.bind_eq_some_iff.mp h
    obtain ⟨fields, hfields, h⟩ := Option.bind_eq_some_iff.mp h
    obtain rfl := Option.some.inj h
    exact List.forall_mem_cons.mpr
      ⟨fits_of_asFieldType? value htype, fits_of_fieldPairs? rest hfields⟩

theorem fits_of_asFieldType? : ∀ (json : LenientJson) {depth : Nat} {type : FieldType},
    asFieldType? depth json = some type → type.Fits depth
  | .object [(some name, value)], depth + 1, type, h => by
    rw [asFieldType?] at h
    split at h
    · obtain ⟨kind, -, rfl⟩ := Option.map_eq_some_iff.mp h
      exact (FieldType.fits_primitive _ kind).mpr ⟨depth, rfl⟩
    · split at h
      · obtain ⟨node, hnode, rfl⟩ := Option.map_eq_some_iff.mp h
        exact (FieldType.fits_object _ node).mpr ⟨depth, rfl, fits_of_asNode? value hnode⟩
      · split at h
        · obtain ⟨element, helement, rfl⟩ := Option.map_eq_some_iff.mp h
          exact (FieldType.fits_array _ element).mpr
            ⟨depth, rfl, fits_of_asFieldType? value helement⟩
        · cases h

end

end Json

namespace Node

/-- A tree fits if its names are distinct and its text has no more brackets open at once. -/
theorem fits_iff_textNesting (depth : Nat) (root : Node) :
    root.Fits depth ↔ root.Distinct ∧ Json.textNesting root.toTaggedText ≤ depth := by
  rw [Fits, toTaggedText, Json.textNesting_compact root.numberless_tagged]

/-- The tree that a text stands for fits. -/
theorem fits_of_ofTaggedText? {text : String} {root : Node} (h : ofTaggedText? text = some root) :
    root.Fits Json.depthLimit := by
  obtain ⟨json, -, hjson⟩ := Option.bind_eq_some_iff.mp h
  exact Json.fits_of_asNode? json hjson

/-- A tree that fits is read back from its text. -/
theorem ofTaggedText?_of_fits {root : Node} (h : root.Fits Json.depthLimit) :
    ofTaggedText? root.toTaggedText = some root := by
  rw [ofTaggedText?, toTaggedText, Json.ofTextLenient?_compact root.numberless_tagged,
    Option.bind_some, asNode?_tagged root Json.depthLimit h]

/-- **The tagged form of a schema is read back**, exactly if no node has two fields of one name and
the text has no more than 127 brackets open at once.  Whatever text a tree has been read from, it
is read back from its own text, which is written again as it was. -/
theorem ofTaggedText?_toTaggedText :
    (∀ root : Node, ofTaggedText? root.toTaggedText = some root ↔
      root.Distinct ∧ Json.textNesting root.toTaggedText ≤ 127) ∧
    ∀ (text : String) (root : Node), ofTaggedText? text = some root →
      ofTaggedText? root.toTaggedText = some root ∧
        (ofTaggedText? root.toTaggedText).map toTaggedText = some root.toTaggedText := by
  refine ⟨fun root => ?_, fun text root h => ?_⟩
  · rw [← fits_iff_textNesting]
    exact ⟨fits_of_ofTaggedText?, ofTaggedText?_of_fits⟩
  · have hread := ofTaggedText?_of_fits (fits_of_ofTaggedText? h)
    exact ⟨hread, congrArg (Option.map toTaggedText) hread⟩

/-- A node is read from an array, and a kind from an object. -/
theorem ofTaggedText?_toTaggedText_of_liberal :
    ofTaggedText?
        "[null, \x7b\"ArrayRoot\":\x7b\"Primi\\u0074ive\":\x7b\"integer\":null\x7d\x7d\x7d]"
      = some (.arrayRoot none (.primitive .integer)) ∧
    ofTaggedText? (toTaggedText (.arrayRoot none (.primitive .integer)))
      = some (.arrayRoot none (.primitive .integer)) := by
  have htext : (ofTaggedText?
        "[null, \x7b\"ArrayRoot\":\x7b\"Primi\\u0074ive\":\x7b\"integer\":null\x7d\x7d\x7d]").map
          toTaggedText
      = some (toTaggedText (.arrayRoot none (.primitive .integer))) := by
    decide +kernel
  obtain ⟨root, hread, hroot⟩ := Option.map_eq_some_iff.mp htext
  -- what is read has the text of the tree, and both are read back from it
  have hself : ofTaggedText? (toTaggedText (.arrayRoot none (.primitive .integer)))
      = some (.arrayRoot none (.primitive .integer)) :=
    (ofTaggedText?_toTaggedText.1 _).mpr ⟨trivial, by decide +kernel⟩
  have hback := (ofTaggedText?_toTaggedText.2 _ _ hread).1
  rw [hroot, hself] at hback
  exact ⟨hread.trans hback.symm, hself⟩

end Node

end SchemaDecl
