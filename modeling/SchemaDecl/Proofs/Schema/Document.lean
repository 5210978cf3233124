import SchemaDecl.Proofs.Json.Order
import SchemaDecl.Proofs.Schema.Distinct
import SchemaDecl.Schema.Document

/-!
# Schemas are read back from their documents

A tree whose nodes have named fields, but for the root, which may be an array, is described by
documents that say just what is in the tree.  Only the keyword `type` of a nested node may be left
out.  Each of these documents is read as the tree with its fields in order, and only such trees are
read from any document.

What a document is read as depends on what stands under `type`, `title`, `properties` and `items`,
so it is found by four lookups, of which only some matter at each place.

## Main definitions

* `FieldType.DescribedBy`, `Node.DescribedBy` — a document describes a tree.
* `Node.InOrder` — a node has named fields in strictly ascending order.

## Main results

* `Json.property_eq_ok_iff`, `Node.ofSortedJson_eq_ok_iff` — what a document is read as.
* `FieldType.property_of_describedBy` — a field is read back.
* `Json.inOrder_of_property` — what is read is in order.
* `Node.ofJson_describedBy` — **schemas are read back from their documents**, and no other trees
  are read.
-/

namespace SchemaDecl

/-! ### Documents that describe trees -/

/-- The members of the document of a node, with its title if it has one. -/
def documentMembers (title : Option String) (content : String × Json String) :
    List (String × Json String) :=
  match title with
  | none => [content]
  | some title => [("title", .string title), content]

mutual

/-- The document describes the type of a field.  Nodes with fields may be typed or not. -/
inductive FieldType.DescribedBy : FieldType → Json String → Prop
  | primitive (kind : Primitive) :
      FieldType.DescribedBy (.primitive kind) (.object [("type", .string kind.name)])
  | array {element : FieldType} {items : Json String} :
      FieldType.DescribedBy element items →
      FieldType.DescribedBy (.array element)
        (.object [("type", .string "array"), ("items", items)])
  | untyped {title : Option String} {fields : List (String × FieldType)}
      {members : List (String × Json String)} :
      Fields.DescribedBy fields members →
      FieldType.DescribedBy (.object (.object title fields))
        (.object (documentMembers title ("properties", .object members)))
  | typed {title : Option String} {fields : List (String × FieldType)}
      {members : List (String × Json String)} :
      Fields.DescribedBy fields members →
      FieldType.DescribedBy (.object (.object title fields))
        (.object
          (("type", .string "object") :: documentMembers title ("properties", .object members)))

/-- The members describe the fields under their names. -/
inductive Fields.DescribedBy : List (String × FieldType) → List (String × Json String) → Prop
  | nil : Fields.DescribedBy [] []
  | cons {name : String} {type : FieldType} {json : Json String}
      {rest : List (String × FieldType)} {members : List (String × Json String)} :
      FieldType.DescribedBy type json → Fields.DescribedBy rest members →
      Fields.DescribedBy ((name, type) :: rest) ((name, json) :: members)

end

/-- The document describes the root of a schema, which has no type. -/
inductive Node.DescribedBy : Node → Json String → Prop
  | object {title : Option String} {fields : List (String × FieldType)}
      {members : List (String × Json String)} :
      Fields.DescribedBy fields members →
      Node.DescribedBy (.object title fields)
        (.object (documentMembers title ("properties", .object members)))
  | arrayRoot {title : Option String} {item : FieldType} {items : Json String} :
      FieldType.DescribedBy item items →
      Node.DescribedBy (.arrayRoot title item) (.object (documentMembers title ("items", items)))

mutual

/-- A type is described if all nodes that it holds have fields. -/
theorem FieldType.exists_describedBy_iff : ∀ (type : FieldType) (field : String),
    (∃ json, type.DescribedBy json) ↔ ∀ o ∈ type.inner field, o.node.item? = none
  | .primitive kind, _ =>
    ⟨fun _ o ho => absurd ho List.not_mem_nil, fun _ => ⟨_, .primitive kind⟩⟩
  | .object (.object title fields), field => by
    have hfields := Fields.exists_describedBy_iff fields
    rw [FieldType.inner_object]
    constructor
    · rintro ⟨json, h⟩ o ho
      rcases Node.mem_occurrences.mp ho with ho | rfl
      · cases h with
        | untyped h => exact hfields.mp ⟨_, h⟩ o ho
        | typed h => exact hfields.mp ⟨_, h⟩ o ho
      · rfl
    · intro h
      obtain ⟨members, hmembers⟩ :=
        hfields.mpr fun o ho => h o (Node.mem_occurrences.mpr (Or.inl ho))
      exact ⟨_, .untyped hmembers⟩
  -- only the root can be described as an array
  | .object (.arrayRoot title item), field => by
    constructor
    · rintro ⟨json, h⟩
      cases h
    · intro h
      exact absurd (h _ (Node.self_mem_occurrences _ _)) (Option.some_ne_none item)
  | .array element, field => by
    rw [FieldType.inner, ← FieldType.exists_describedBy_iff element field]
    constructor
    · rintro ⟨json, h⟩
      cases h with
      | array h => exact ⟨_, h⟩
    · rintro ⟨json, h⟩
      exact ⟨_, .array h⟩

theorem Fields.exists_describedBy_iff : ∀ fields : List (String × FieldType),
    (∃ members, Fields.DescribedBy fields members) ↔
      ∀ o ∈ Fields.inner fields, o.node.item? = none
  | [] => ⟨fun _ o ho => absurd ho List.not_mem_nil, fun _ => ⟨_, .nil⟩⟩
  | (name, type) :: rest => by
    rw [Fields.inner, List.forall_mem_append, ← FieldType.exists_describedBy_iff type name,
      ← Fields.exists_describedBy_iff rest]
    constructor
    · rintro ⟨members, h⟩
      cases h with
      | cons htype hrest => exact ⟨⟨_, htype⟩, _, hrest⟩
    · rintro ⟨⟨json, htype⟩, members, hrest⟩
      exact ⟨_, .cons htype hrest⟩

end

/-- A schema is described if all nodes below its root have fields. -/
theorem Node.exists_describedBy_iff (root : Node) :
    (∃ json, root.DescribedBy json) ↔ ∀ o ∈ root.inner, o.node.item? = none := by
  cases root with
  | object title fields =>
    refine Iff.trans ⟨?_, ?_⟩ (Fields.exists_describedBy_iff fields)
    · rintro ⟨json, h⟩
      cases h with
      | object h => exact ⟨_, h⟩
    · rintro ⟨members, h⟩
      exact ⟨_, .object h⟩
  | arrayRoot title item =>
    refine Iff.trans ⟨?_, ?_⟩ (FieldType.exists_describedBy_iff item itemsField)
    · rintro ⟨json, h⟩
      cases h with
      | arrayRoot h => exact ⟨_, h⟩
    · rintro ⟨items, h⟩
      exact ⟨_, .arrayRoot h⟩

/-! ### What a document is read as -/

theorem Primitive.name_injective : Function.Injective Primitive.name := by
  intro kind other h
  have hkind := congrArg ofName? h
  rw [ofName?_name, ofName?_name] at hkind
  exact Option.some_inj.mp hkind

theorem Primitive.ofName?_eq_some_iff {name : String} {kind : Primitive} :
    ofName? name = some kind ↔ name = kind.name := by
  constructor
  · intro h
    have hname : (kind.name == name) = true :=
      List.find?_some (p := fun kind : Primitive => kind.name == name) h
    exact (beq_iff_eq.mp hname).symm
  · rintro rfl
    exact ofName?_name kind

section Steps

variable {ε α β : Type} {x : Except ε α} {a : α} {b : β}

theorem bind_eq_ok_iff {f : α → Except ε β} :
    (x >>= f) = .ok b ↔ ∃ a, x = .ok a ∧ f a = .ok b := by
  cases x <;> simp [bind, Except.bind]

theorem map_eq_ok_iff {f : α → β} : x.map f = .ok b ↔ ∃ a, x = .ok a ∧ b = f a := by
  cases x <;> simp [Except.map, eq_comm (a := b)]

theorem pure_eq_ok_iff {a' : α} : (pure a : Except ε α) = .ok a' ↔ a' = a :=
  ⟨fun h => (Except.ok.inj h).symm, fun h => congrArg Except.ok h.symm⟩

theorem throw_ne_ok {fault : ε} : (throw fault : Except ε α) ≠ .ok a := by
  intro h
  cases h

end Steps

namespace Json

variable {path : String} {members : List (String × Json String)}

/-- The fields are read from what stands under `properties`. -/
theorem propertiesOf_eq : propertiesOf path members =
    (members.lookup "properties").elim (.ok none) fun value =>
      (fieldsIn path value).map some := by
  induction members with
  | nil => rfl
  | cons head rest ih =>
    obtain ⟨name, value⟩ := head
    rw [propertiesOf, List.lookup_cons]
    by_cases h : name = "properties"
    · rw [if_pos h, h]
      rfl
    · rw [if_neg h, ih, beq_eq_false_iff_ne.mpr (Ne.symm h)]

/-- The type of the items is read from what stands under `items`. -/
theorem itemsOf_eq : itemsOf path members =
    (members.lookup "items").elim (.ok none) fun value =>
      (property path value).map some := by
  induction members with
  | nil => rfl
  | cons head rest ih =>
    obtain ⟨name, value⟩ := head
    rw [itemsOf, List.lookup_cons]
    by_cases h : name = "items"
    · rw [if_pos h, h]
      rfl
    · rw [if_neg h, ih, beq_eq_false_iff_ne.mpr (Ne.symm h)]

/-- **What a property is read as**: `type` decides, and if it is missing there have to be
`properties`. -/
theorem property_eq_ok_iff {type : FieldType} : property path (.object members) = .ok type ↔
    (∃ kind : Primitive, members.lookup "type" = some (.string kind.name) ∧
      type = .primitive kind) ∨
    (members.lookup "type" = some (.string "array") ∧
      ∃ element, itemsOf (Path.element path) members = .ok (some element) ∧
        type = .array element) ∨
    ∃ fields?, propertiesOf path members = .ok fields? ∧
      (members.lookup "type" = some (.string "object") ∨
        members.lookup "type" = none ∧ fields?.isSome) ∧
      type = .object (.object (titleOf members) (fields?.getD [])) := by
  have hobject : ∀ kind : Primitive, "object" ≠ kind.name := by intro kind; cases kind <;> decide
  have harray : ∀ kind : Primitive, "array" ≠ kind.name := by intro kind; cases kind <;> decide
  rw [property]
  split
  · next name htype =>
    -- the words for containers are no names of kinds, so only one of the cases can hold
    by_cases hkind : ∃ kind : Primitive, name = kind.name
    · obtain ⟨kind, rfl⟩ := hkind
      simp [htype, (hobject kind).symm, (harray kind).symm, Primitive.name_injective.eq_iff,
        eq_comm (a := type)]
    · have hnone : Primitive.ofName? name = none := by
        refine Option.eq_none_iff_forall_ne_some.mpr fun kind h => ?_
        exact hkind ⟨kind, Primitive.ofName?_eq_some_iff.mp h⟩
      simp only [hnone, htype]
      by_cases hname : name = "object"
      · subst hname
        simp [map_eq_ok_iff, hobject]
      · by_cases hname' : name = "array"
        · subst hname'
          simp [bind_eq_ok_iff, pure_eq_ok_iff, throw_ne_ok, Option.exists, harray]
        · simp [not_exists.mp hkind, hname, hname']
  · next value hstring htype =>
    have hne : ∀ name, value ≠ .string name := hstring
    simp [htype, hne]
  · next htype =>
    simp [bind_eq_ok_iff, pure_eq_ok_iff, throw_ne_ok, Option.exists, htype]

/-- The fields are read from each member in turn. -/
theorem properties_cons_eq_ok_iff {name : String} {value : Json String}
    {rest : List (String × Json String)} {fields : Fields} :
    properties path ((name, value) :: rest) = .ok fields ↔
      ∃ type more, property (Path.field path name) value = .ok type ∧
        properties path rest = .ok more ∧ fields = (name, type) :: more := by
  simp only [properties, bind_eq_ok_iff, pure_eq_ok_iff, exists_and_left]

theorem names_properties {fields : Fields} (h : properties path members = .ok fields) :
    fields.map Prod.fst = members.map Prod.fst := by
  induction members generalizing fields with
  | nil =>
    cases h
    rfl
  | cons head rest ih =>
    obtain ⟨name, value⟩ := head
    obtain ⟨type, more, -, hmore, rfl⟩ := properties_cons_eq_ok_iff.mp h
    rw [List.map_cons, List.map_cons, ih hmore]

end Json

/-- **What a document is read as**: `properties` decide, and if they are missing there have to be
`items`. -/
theorem Node.ofSortedJson_eq_ok_iff {members : List (String × Json String)} {root : Node} :
    ofSortedJson (.object members) = .ok root ↔
      (∃ fields, Json.propertiesOf Path.root members = .ok (some fields) ∧
        root = .object (titleOf members) fields) ∨
      (Json.propertiesOf Path.root members = .ok none ∧
        ∃ item, Json.itemsOf (Path.element Path.root) members = .ok (some item) ∧
          root = .arrayRoot (titleOf members) item) := by
  simp [ofSortedJson, bind_eq_ok_iff, pure_eq_ok_iff, throw_ne_ok, Option.exists, or_comm]

/-! ### Described trees are read back -/

namespace Json

variable {path : String} {members props : List (String × Json String)}

theorem titleOf_sortedMembers (h : (members.map Prod.fst).Nodup) :
    titleOf (sortedMembers members) = titleOf members := by
  rw [titleOf, titleOf, lookup_sortedMembers h]
  rcases members.lookup "title" with - | - | - | - | - | - | - <;> rfl

theorem propertiesOf_sortedMembers (h : (members.map Prod.fst).Nodup)
    (hlookup : members.lookup "properties" = some (.object props)) :
    propertiesOf path (sortedMembers members)
      = (properties path (sortedMembers props)).map some := by
  rw [propertiesOf_eq, lookup_sortedMembers h, hlookup]
  rfl

theorem itemsOf_sortedMembers (h : (members.map Prod.fst).Nodup) {items : Json String}
    (hlookup : members.lookup "items" = some items) :
    itemsOf path (sortedMembers members) = (property path items.sorted).map some := by
  rw [itemsOf_eq, lookup_sortedMembers h, hlookup]
  rfl

/-- A nested node is read from its properties, whether it is typed or not. -/
theorem property_of_lookup {title : Option String} {fields : Fields}
    (h : (members.map Prod.fst).Nodup)
    (hproperties : members.lookup "properties" = some (.object props))
    (htitle : titleOf members = title)
    (htype : members.lookup "type" = some (.string "object") ∨ members.lookup "type" = none)
    (hfields : properties path (sortedMembers props) = .ok fields) :
    property path (.object (sortedMembers members)) = .ok (.object (.object title fields)) := by
  refine property_eq_ok_iff.mpr (Or.inr (Or.inr ⟨some fields, ?_, ?_, ?_⟩))
  · rw [propertiesOf_sortedMembers h hproperties, hfields]
    rfl
  · rw [lookup_sortedMembers h]
    rcases htype with htype | htype <;> rw [htype]
    · exact Or.inl rfl
    · exact Or.inr ⟨rfl, rfl⟩
  · rw [titleOf_sortedMembers h, htitle]
    rfl

/-- A member in its place stands for a field in its place. -/
theorem properties_insertMember {name : String} {value : Json String} {type : FieldType}
    {fields : Fields} (hnew : name ∉ members.map Prod.fst)
    (hvalue : property (Path.field path name) value = .ok type)
    (hmembers : properties path members = .ok fields) :
    properties path (insertMember name value members)
      = .ok (Fields.insertSorted name type fields) := by
  induction members generalizing fields with
  | nil =>
    cases hmembers
    exact properties_cons_eq_ok_iff.mpr ⟨type, [], hvalue, rfl, rfl⟩
  | cons head rest ih =>
    obtain ⟨n, v⟩ := head
    obtain ⟨t, more, hv, hrest, rfl⟩ := properties_cons_eq_ok_iff.mp hmembers
    rw [List.map_cons, List.mem_cons, not_or] at hnew
    rw [insertMember, if_neg (Ne.symm hnew.1), Fields.insertSorted]
    split
    · exact properties_cons_eq_ok_iff.mpr ⟨t, _, hv, ih hnew.2 hrest, rfl⟩
    · exact properties_cons_eq_ok_iff.mpr ⟨type, _, hvalue, hmembers, rfl⟩

end Json

/-- The names in the document of a node differ, and the content and the title are found. -/
theorem documentMembers_spec (title : Option String) (name : String) (content : Json String)
    (h : name ≠ "title") :
    ((documentMembers title (name, content)).map Prod.fst).Nodup ∧
      (documentMembers title (name, content)).lookup name = some content ∧
      titleOf (documentMembers title (name, content)) = title := by
  cases title with
  | none => simp [documentMembers, titleOf, List.lookup_cons, beq_eq_false_iff_ne.mpr h.symm]
  | some title =>
    simp [documentMembers, titleOf, List.lookup_cons, beq_eq_false_iff_ne.mpr h, h.symm]

/-- Nothing else is found there. -/
theorem lookup_documentMembers_of_ne {title : Option String} {name key : String}
    {content : Json String} (hname : key ≠ name) (htitle : key ≠ "title") :
    (documentMembers title (name, content)).lookup key = none := by
  cases title <;>
    simp [documentMembers, List.lookup_cons, beq_eq_false_iff_ne.mpr hname,
      beq_eq_false_iff_ne.mpr htitle]

mutual

/-- **A field is read back**, with all fields below it in order. -/
theorem FieldType.property_of_describedBy : ∀ {type : FieldType} {json : Json String}
    {path : String}, type.DescribedBy json → type.Distinct →
    Json.property path json.sorted = .ok type.sorted
  | .primitive kind, _, _, h, _ => by
    cases h
    refine Json.property_eq_ok_iff.mpr (Or.inl ⟨kind, ?_, rfl⟩)
    rfl
  | .array element, _, path, h, hdistinct => by
    cases h with
    | @array _ items h =>
      have helement : Json.property (Path.element path) items.sorted = .ok element.sorted :=
        FieldType.property_of_describedBy h hdistinct
      refine Json.property_eq_ok_iff.mpr (Or.inr (Or.inl ⟨rfl, element.sorted, ?_, rfl⟩))
      rw [Json.itemsOf_sortedMembers (by simp) rfl, helement]
      rfl
  | .object (.object title fields), _, path, h, hdistinct => by
    cases h with
    | @untyped _ _ members h =>
      obtain ⟨hnodup, hproperties, htitle⟩ :=
        documentMembers_spec title "properties" (.object members) (by decide)
      exact Json.property_of_lookup hnodup hproperties htitle
        (Or.inr (lookup_documentMembers_of_ne (by decide) (by decide)))
        (Fields.properties_of_describedBy h hdistinct)
    | @typed _ _ members h =>
      obtain ⟨hnodup, hproperties, htitle⟩ :=
        documentMembers_spec title "properties" (.object members) (by decide)
      -- `type` is a new name in front of the others
      have hnew :
          "type" ∉ (documentMembers title ("properties", .object members)).map Prod.fst := by
        cases title <;> simp [documentMembers]
      exact Json.property_of_lookup (List.nodup_cons.mpr ⟨hnew, hnodup⟩) hproperties htitle
        (Or.inl rfl) (Fields.properties_of_describedBy h hdistinct)

theorem Fields.properties_of_describedBy : ∀ {fields : List (String × FieldType)}
    {members : List (String × Json String)} {path : String},
    Fields.DescribedBy fields members → Fields.Distinct fields →
    Json.properties path (Json.sortedMembers members) = .ok (Fields.sorted fields)
  | [], _, _, h, _ => by
    cases h
    rfl
  | (name, type) :: rest, _, path, h, hdistinct => by
    cases h with
    | @cons _ _ json _ members htype hrest =>
      obtain ⟨hname, hdtype, hdrest⟩ := hdistinct
      have hmembers : Json.properties path (Json.sortedMembers members)
          = .ok (Fields.sorted rest) := Fields.properties_of_describedBy hrest hdrest
      refine Json.properties_insertMember (fun hmem => ?_)
        (FieldType.property_of_describedBy htype hdtype) hmembers
      rw [← Json.names_properties hmembers] at hmem
      obtain ⟨f, hf, rfl⟩ := List.mem_map.mp hmem
      obtain ⟨g, hg, rfl⟩ := List.mem_map.mp ((Fields.sorted_perm rest).mem_iff.mp hf)
      exact hname g hg rfl

end

/-- **A schema is read back**, with all fields in order. -/
theorem Node.ofJson_of_describedBy {root : Node} {json : Json String} (h : root.DescribedBy json)
    (hdistinct : root.Distinct) : ofJson json = .ok root.sorted := by
  cases h with
  | @object title fields members h =>
    obtain ⟨hnodup, hproperties, htitle⟩ :=
      documentMembers_spec title "properties" (.object members) (by decide)
    refine ofSortedJson_eq_ok_iff.mpr (Or.inl ⟨Fields.sorted fields, ?_, ?_⟩)
    · rw [Json.propertiesOf_sortedMembers hnodup hproperties,
        Fields.properties_of_describedBy h hdistinct]
      rfl
    · rw [Json.titleOf_sortedMembers hnodup, htitle]
      rfl
  | @arrayRoot title item items h =>
    obtain ⟨hnodup, hitems, htitle⟩ := documentMembers_spec title "items" items (by decide)
    refine ofSortedJson_eq_ok_iff.mpr (Or.inr ⟨?_, item.sorted, ?_, ?_⟩)
    · rw [Json.propertiesOf_eq, Json.lookup_sortedMembers hnodup,
        lookup_documentMembers_of_ne (by decide) (by decide)]
      rfl
    · rw [Json.itemsOf_sortedMembers hnodup hitems,
        FieldType.property_of_describedBy h hdistinct]
      rfl
    · rw [Json.titleOf_sortedMembers hnodup, htitle]
      rfl

/-! ### What is read is in order -/

/-- The node has named fields, and their names ascend strictly. -/
def Node.InOrder (node : Node) : Prop :=
  node.item? = none ∧ (node.contents.map Prod.fst).Pairwise (· < ·)

namespace Json

mutual

/-- **What is read is in order**: every node in the type of a field has named fields in strictly
ascending order. -/
theorem inOrder_of_property : ∀ (json : Json String) {path field : String} {type : FieldType},
    json.Ordered → property path json = .ok type → ∀ o ∈ type.inner field, o.node.InOrder
  | .object members, path, field, type, hjson, h => by
    rcases property_eq_ok_iff.mp h with
      ⟨kind, -, rfl⟩ | ⟨-, element, helement, rfl⟩ | ⟨fields?, hfields, -, rfl⟩
    · exact fun o ho => absurd ho List.not_mem_nil
    · have hinner : ∀ o ∈ element.inner field, o.node.InOrder :=
        inOrder_of_itemsOf members hjson helement
      exact hinner
    · -- the node itself, or one below it
      intro o ho
      obtain ⟨hnames, hinner⟩ := inOrder_of_propertiesOf members hjson hfields
      rw [FieldType.inner_object, Node.mem_occurrences] at ho
      rcases ho with ho | rfl
      · exact hinner o ho
      · exact ⟨rfl, hnames⟩
  | .null, _, _, _, _, h => by cases h
  | .bool _, _, _, _, _, h => by cases h
  | .number _, _, _, _, _, h => by cases h
  | .string _, _, _, _, _, h => by cases h
  | .array _, _, _, _, _, h => by cases h

theorem inOrder_of_propertiesOf : ∀ (members : List (String × Json String)) {path : String}
    {fields? : Option Fields}, OrderedMembers members →
    propertiesOf path members = .ok fields? →
    ((fields?.getD []).map Prod.fst).Pairwise (· < ·) ∧
      ∀ o ∈ Fields.inner (fields?.getD []), o.node.InOrder
  | [], _, _, _, h => by
    cases h
    exact ⟨List.Pairwise.nil, fun o ho => absurd ho List.not_mem_nil⟩
  | (name, value) :: rest, _, _, hmembers, h => by
    obtain ⟨-, hvalue, hrest⟩ := hmembers
    rw [propertiesOf] at h
    split at h
    · obtain ⟨fields, hfields, rfl⟩ := map_eq_ok_iff.mp h
      exact inOrder_of_fieldsIn value hvalue hfields
    · exact inOrder_of_propertiesOf rest hrest h

theorem inOrder_of_fieldsIn : ∀ (json : Json String) {path : String} {fields : Fields},
    json.Ordered → fieldsIn path json = .ok fields →
    (fields.map Prod.fst).Pairwise (· < ·) ∧ ∀ o ∈ Fields.inner fields, o.node.InOrder
  | .object members, _, _, hjson, h => inOrder_of_properties members hjson h
  | .null, _, _, _, h => by cases h
  | .bool _, _, _, _, h => by cases h
  | .number _, _, _, _, h => by cases h
  | .string _, _, _, _, h => by cases h
  | .array _, _, _, _, h => by cases h

theorem inOrder_of_properties : ∀ (members : List (String × Json String)) {path : String}
    {fields : Fields}, OrderedMembers members → properties path members = .ok fields →
    (fields.map Prod.fst).Pairwise (· < ·) ∧ ∀ o ∈ Fields.inner fields, o.node.InOrder
  | [], _, _, _, h => by
    cases h
    exact ⟨List.Pairwise.nil, fun o ho => absurd ho List.not_mem_nil⟩
  | (name, value) :: rest, _, _, hmembers, h => by
    obtain ⟨hname, hvalue, hrest⟩ := hmembers
    obtain ⟨type, more, htype, hmore, rfl⟩ := properties_cons_eq_ok_iff.mp h
    obtain ⟨hnames, hinner⟩ := inOrder_of_properties rest hrest hmore
    refine ⟨List.pairwise_cons.mpr ⟨fun n hn => ?_, hnames⟩, fun o ho => ?_⟩
    · -- the names of the other fields are those of the other members
      rw [names_properties hmore] at hn
      obtain ⟨m, hm, rfl⟩ := List.mem_map.mp hn
      exact hname m hm
    · rcases List.mem_append.mp ho with ho | ho
      · exact inOrder_of_property value hvalue htype o ho
      · exact hinner o ho

theorem inOrder_of_itemsOf : ∀ (members : List (String × Json String)) {path field : String}
    {item : FieldType}, OrderedMembers members → itemsOf path members = .ok (some item) →
    ∀ o ∈ item.inner field, o.node.InOrder
  | [], _, _, _, _, h => by cases h
  | (name, value) :: rest, _, _, _, hmembers, h => by
    obtain ⟨-, hvalue, hrest⟩ := hmembers
    rw [itemsOf] at h
    split at h
    · obtain ⟨item, hitem, hsome⟩ := map_eq_ok_iff.mp h
      cases hsome
      exact inOrder_of_property value hvalue hitem
    · exact inOrder_of_itemsOf rest hrest h

end

end Json

namespace Node

/-- The nodes of a schema that is read are in order, the root being in order or an array. -/
theorem inOrder_of_ofJson {json : Json String} {root : Node} (h : ofJson json = .ok root) :
    (∀ o ∈ root.inner, o.node.InOrder) ∧ (root.contents.map Prod.fst).Pairwise (· < ·) := by
  have hjson := Json.ordered_sorted json
  rw [ofJson] at h
  cases hsorted : json.sorted with
  | object members =>
    rw [hsorted] at h hjson
    rcases ofSortedJson_eq_ok_iff.mp h with ⟨fields, hfields, rfl⟩ | ⟨-, item, hitem, rfl⟩
    · exact (Json.inOrder_of_propertiesOf members hjson hfields).symm
    · exact ⟨Json.inOrder_of_itemsOf members hjson hitem, List.pairwise_singleton _ _⟩
  | null | bool _ | number _ | string _ | array _ =>
    rw [hsorted] at h
    cases h

/-- The names of the fields of each node of a schema that is read ascend strictly. -/
theorem ascending_of_ofJson {json : Json String} {root : Node} (h : ofJson json = .ok root) :
    ∀ o ∈ root.occurrences none, (o.node.contents.map Prod.fst).Pairwise (· < ·) := by
  intro o ho
  obtain ⟨hinner, hroot⟩ := inOrder_of_ofJson h
  rcases mem_occurrences.mp ho with ho | rfl
  · exact (hinner o ho).2
  · exact hroot

/-- A schema whose names ascend strictly is read back unchanged. -/
theorem ofJson_of_ascending {root : Node} {document : Json String}
    (hascend : ∀ o ∈ root.occurrences none, (o.node.contents.map Prod.fst).Pairwise (· < ·))
    (h : root.DescribedBy document) : ofJson document = .ok root := by
  obtain ⟨hdistinct, hsorted⟩ := distinct_and_sorted_of_ascending root hascend
  rw [ofJson_of_describedBy h hdistinct, hsorted]

/-- **Schemas are read back from their documents**.  The trees that are described by documents are
those in which only the root may be an array.  If the names of the fields of each node differ, every
document that describes such a tree, with its members in any order, is read as the tree with its
fields in order.  The trees that are read from documents are those of this kind in which the names
of the fields of each node ascend strictly by their bytes, and each of them is read back unchanged
from every document that describes it. -/
theorem ofJson_describedBy :
    (∀ root : Node, (∃ json, root.DescribedBy json) ↔ ∀ o ∈ root.inner, o.node.item? = none) ∧
    (∀ (root : Node) (document json : Json String), root.Distinct → root.DescribedBy document →
      json.sorted = document.sorted → ofJson json = .ok root.sorted) ∧
    (∀ root : Node, (∃ json, ofJson json = .ok root) ↔
      (∀ o ∈ root.inner, o.node.item? = none) ∧
      ∀ o ∈ root.occurrences none,
        (o.node.contents.map fun f => Text.bytes f.1).Pairwise (· < ·)) ∧
    ∀ (root : Node) (json document : Json String), ofJson json = .ok root →
      root.DescribedBy document → ofJson document = .ok root := by
  refine ⟨exists_describedBy_iff, ?_, ?_, ?_⟩
  · intro root document json hdistinct h hjson
    rw [ofJson, hjson]
    exact ofJson_of_describedBy h hdistinct
  · intro root
    simp only [Fields.pairwise_bytes_iff]
    constructor
    · rintro ⟨json, h⟩
      exact ⟨fun o ho => ((inOrder_of_ofJson h).1 o ho).1, ascending_of_ofJson h⟩
    · -- such a tree is read back from a document of its own
      rintro ⟨hitem, hascend⟩
      obtain ⟨document, h⟩ := (exists_describedBy_iff root).mpr hitem
      exact ⟨document, ofJson_of_ascending hascend h⟩
  · intro root json document h
    exact ofJson_of_ascending (ascending_of_ofJson h)

/-- A nested node is read under a titled root, with the members in another order, and read again
without its type. -/
theorem ofJson_describedBy_of_nested :
    ofJson (.object [
        ("properties", .object [
          ("a", .object [("properties", .object []), ("type", .string "object")]),
          ("b", .object [("type", .string "integer")])]),
        ("title", .string "T")])
      = .ok (.object (some "T") [("a", .object (.object none [])), ("b", .primitive .integer)]) ∧
    ofJson (.object [
        ("title", .string "T"),
        ("properties", .object [
          ("a", .object [("properties", .object [])]),
          ("b", .object [("type", .string "integer")])])])
      = .ok (.object (some "T") [("a", .object (.object none [])), ("b", .primitive .integer)]) := by
  have hdistinct : (Node.object (some "T")
      [("b", .primitive .integer), ("a", .object (.object none []))]).Distinct :=
    ⟨by decide, trivial, by decide, trivial, trivial⟩
  have hread := ofJson_describedBy.2.1 _ _
    (.object [
      ("properties", .object [
        ("a", .object [("properties", .object []), ("type", .string "object")]),
        ("b", .object [("type", .string "integer")])]),
      ("title", .string "T")])
    hdistinct (.object (.cons (.primitive .integer) (.cons (.typed .nil) .nil))) rfl
  exact ⟨hread, ofJson_describedBy.2.2.2 _ _ _ hread
    (.object (.cons (.untyped .nil) (.cons (.primitive .integer) .nil)))⟩

end Node

end SchemaDecl
