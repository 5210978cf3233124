import SchemaDecl.Proofs.Schema.Grammar

/-!
# Keywords that are not read

The `type` of a property says which of its other keywords are read: `items` for an array, `title`
and `properties` for a node with fields, and none for anything else.  Documents that agree in what
is read are read alike, whatever else stands in them.

## Main definitions

* `Json.Alike`, `Json.RootAlike` — documents agree in what is read.

## Main results

* `Json.property_eq_of_alike` — one property.
* `Node.ofJson_grammar` — **documents are read by their grammar**: which are read, what matters in
  them, and what is wrong with the others.
-/

namespace SchemaDecl

namespace Json

mutual

/-- The documents agree in what is read of properties.  What is no object is not looked into. -/
inductive Alike : Json String → Json String → Prop
  | other {json json' : Json String} (h : json.isObject = false) (h' : json'.isObject = false) :
      Alike json json'
  | object {members members' : List (String × Json String)}
      (htype : members.lookup "type" = members'.lookup "type")
      (hitems : members.lookup "type" = some (.string "array") →
        ItemsAlike (members.lookup "items") (members'.lookup "items"))
      (htitle : HasContents members → titleOf members = titleOf members')
      (hproperties : HasContents members →
        ContentsAlike (members.lookup "properties") (members'.lookup "properties")) :
      Alike (.object members) (.object members')

/-- What stands under `items` agrees, if there is something. -/
inductive ItemsAlike : Option (Json String) → Option (Json String) → Prop
  | none : ItemsAlike none none
  | some {items items' : Json String} (h : Alike items items') :
      ItemsAlike (some items) (some items')

/-- What stands under `properties` agrees, if there is something. -/
inductive ContentsAlike : Option (Json String) → Option (Json String) → Prop
  | none : ContentsAlike none none
  | other {value value' : Json String} (h : value.isObject = false)
      (h' : value'.isObject = false) : ContentsAlike (some value) (some value')
  | object {props props' : List (String × Json String)} (h : MembersAlike props props') :
      ContentsAlike (some (.object props)) (some (.object props'))

/-- The members have the same names, and agree in what is read of properties. -/
inductive MembersAlike : List (String × Json String) → List (String × Json String) → Prop
  | nil : MembersAlike [] []
  | cons {name : String} {value value' : Json String} {props props' : List (String × Json String)}
      (h : Alike value value') (hprops : MembersAlike props props') :
      MembersAlike ((name, value) :: props) ((name, value') :: props')

end

/-- The documents agree in what is read of roots: the title and the properties, and the items if
there are no properties. -/
inductive RootAlike : Json String → Json String → Prop
  | other {json json' : Json String} (h : json.isObject = false) (h' : json'.isObject = false) :
      RootAlike json json'
  | object {members members' : List (String × Json String)}
      (htitle : titleOf members = titleOf members')
      (hproperties :
        ContentsAlike (members.lookup "properties") (members'.lookup "properties"))
      (hitems : members.lookup "properties" = none →
        ItemsAlike (members.lookup "items") (members'.lookup "items")) :
      RootAlike (.object members) (.object members')

/-- A property is read from what its type tells to read. -/
theorem property_congr {path : String} {members members' : List (String × Json String)}
    (htype : members.lookup "type" = members'.lookup "type")
    (hitems : members.lookup "type" = some (.string "array") →
      itemsOf (Path.element path) members = itemsOf (Path.element path) members')
    (htitle : HasContents members → titleOf members = titleOf members')
    (hproperties : HasContents members → propertiesOf path members = propertiesOf path members') :
    property path (.object members) = property path (.object members') := by
  rw [property, property, ← htype]
  -- the type tells which of the other keywords are read
  cases h : members.lookup "type" with
  | none =>
    have hcontents : HasContents members := Or.inr h
    dsimp only
    rw [hproperties hcontents, htitle hcontents]
  | some type =>
    cases type with
    | string name =>
      dsimp only
      by_cases hobject : name = "object"
      · subst hobject
        have hcontents : HasContents members := Or.inl h
        rw [hproperties hcontents, htitle hcontents]
        rfl
      · rw [if_neg hobject, if_neg hobject]
        by_cases harray : name = "array"
        · subst harray
          rw [hitems h]
        · rw [if_neg harray, if_neg harray]
    | _ => rfl

mutual

/-- **Properties that agree in what is read are read alike.** -/
theorem property_eq_of_alike : ∀ {json json' : Json String}, Alike json json' →
    ∀ path, property path json = property path json'
  | _, _, .other h h', path => by
    rw [property_of_fault (.notObject h), property_of_fault (.notObject h')]
  | _, _, .object htype hitems htitle hproperties, path => by
    refine property_congr htype (fun h => ?_) htitle fun h => ?_
    · rw [itemsOf_eq, itemsOf_eq]
      exact items_eq_of_alike (hitems h) _
    · rw [propertiesOf_eq, propertiesOf_eq]
      exact contents_eq_of_alike (hproperties h) _

theorem items_eq_of_alike : ∀ {items? items?' : Option (Json String)},
    ItemsAlike items? items?' → ∀ path,
    items?.elim (.ok none) (fun value => (property path value).map some)
      = items?'.elim (.ok none) fun value => (property path value).map some
  | _, _, .none, _ => rfl
  | _, _, .some h, path => by
    rw [Option.elim_some, Option.elim_some, property_eq_of_alike h]

theorem contents_eq_of_alike : ∀ {value? value?' : Option (Json String)},
    ContentsAlike value? value?' → ∀ path,
    value?.elim (.ok none) (fun value => (fieldsIn path value).map some)
      = value?'.elim (.ok none) fun value => (fieldsIn path value).map some
  | _, _, .none, _ => rfl
  | _, _, .other h h', path => by
    rw [Option.elim_some, Option.elim_some, fieldsIn_of_not_isObject h,
      fieldsIn_of_not_isObject h']
  | _, _, .object h, path => by
    rw [Option.elim_some, Option.elim_some, fieldsIn, fieldsIn, properties_eq_of_alike h]

theorem properties_eq_of_alike : ∀ {props props' : List (String × Json String)},
    MembersAlike props props' → ∀ path, properties path props = properties path props'
  | _, _, .nil, _ => rfl
  | _, _, .cons h hprops, path => by
    rw [properties, properties, property_eq_of_alike h, properties_eq_of_alike hprops]

end

end Json

namespace Node

theorem ofSortedJson_eq_of_alike {json json' : Json String} (h : json.RootAlike json') :
    ofSortedJson json = ofSortedJson json' := by
  cases h with
  | other h h' => rw [ofSortedJson_of_fault (.notObject h), ofSortedJson_of_fault (.notObject h')]
  | @object members members' htitle hproperties hitems =>
    have hcontents : Json.propertiesOf Path.root members
        = Json.propertiesOf Path.root members' := by
      rw [Json.propertiesOf_eq, Json.propertiesOf_eq]
      exact Json.contents_eq_of_alike hproperties _
    rw [ofSortedJson, ofSortedJson, hcontents, htitle]
    cases hlookup : members.lookup "properties" with
    | none =>
      rw [Json.itemsOf_eq, Json.itemsOf_eq, Json.items_eq_of_alike (hitems hlookup)]
    | some value =>
      -- the items are not read
      rw [← hcontents, Json.propertiesOf_eq, hlookup, Option.elim_some]
      cases Json.fieldsIn Path.root value <;> rfl

/-- **Documents are read by their grammar.**  Exactly the documents of the grammar are read.  No
keyword matters that is not read at its node, nor does a title that is not a string.  Any other
document is refused with the first fault in depth-first order, where names come in the order of
their bytes, and with the path of its node. -/
theorem ofJson_grammar :
    (∀ json : Json String, (∃ root, ofJson json = .ok root) ↔ json.sorted.IsSchema) ∧
    (∀ json json' : Json String, json.sorted.RootAlike json'.sorted →
      ofJson json = ofJson json') ∧
    ∀ (json : Json String) (e : SchemaError), ofJson json = .error e ↔
      ∃ steps, IsFirst (Json.FaultIn json.sorted) steps e ∧
        e.path? = some (Path.walk Path.root steps) := by
  refine ⟨ofJson_isOk_iff, fun json json' h => ofSortedJson_eq_of_alike h, ?_⟩
  intro json e
  rw [ofJson_eq_error_iff]
  constructor
  · rintro ⟨steps, h⟩
    exact ⟨steps, h, h.1.path?_eq⟩
  · rintro ⟨steps, h, -⟩
    exact ⟨steps, h⟩

/-- Neither the items of a string nor the type of the root matter, and of the two faults in the
other document the first one by name is reported. -/
theorem ofJson_grammar_of_items :
    ofJson (.object [
        ("title", .string "T"),
        ("properties", .object [
          ("a", .object [("type", .string "string"), ("items", .number "3")])])])
      = ofJson (.object [
        ("type", .null),
        ("title", .string "T"),
        ("properties", .object [
          ("a", .object [("title", .null), ("type", .string "string")])])]) ∧
    ∃ steps, IsFirst (Json.FaultIn (Json.object [
        ("properties", .object [
          ("c", .null),
          ("b", .object [
            ("type", .string "array"), ("items", .object [("type", .string "null")])])])]).sorted)
        steps (.unknownType "$.b[]" "null") ∧
      some "$.b[]" = some (Path.walk Path.root steps) := by
  refine ⟨?_, (ofJson_grammar.2.2 _ _).mp rfl⟩
  refine ofJson_grammar.2.1 _ _ ?_
  have hnode : Json.Alike
      (.object [("items", .number "3"), ("type", .string "string")])
      (.object [("title", .null), ("type", .string "string")]) := by
    have hcontents :
        ¬ Json.HasContents [("items", .number "3"), ("type", .string "string")] := by
      simp [Json.HasContents, List.lookup_cons]
    refine .object rfl (fun h => ?_) (fun h => absurd h hcontents) fun h => absurd h hcontents
    simp [List.lookup_cons] at h
  exact .object rfl (.object (.cons hnode .nil)) fun h => by cases h

end Node

end SchemaDecl
