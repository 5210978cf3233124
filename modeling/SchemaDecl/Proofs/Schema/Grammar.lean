import SchemaDecl.Proofs.Schema.Document
import SchemaDecl.Proofs.Schema.Path

/-!
# The grammar of documents

A document is a schema if every node that is reached from its root keeps to the rules.  The rules
speak of one node at a time: they say which keywords it must have, and which of them lead to further
nodes.  A node that breaks a rule by itself leads no further, and reading stops at the first such
node in depth-first order, where the fields of a node come in the order of their names.

## Main definitions

* `Json.IsProperty`, `Json.IsSchema` — the grammar.
* `Step.Before` — the order of the fields of a node.
* `Json.Reads`, `Json.RootReads` — the nodes that a node leads to.
* `Json.PropertyFault`, `Json.RootFault` — a node breaks a rule by itself.
* `Json.FaultIn` — somewhere in a document a node breaks a rule.
* `IsFirst` — a fault before all others.

## Main results

* `Json.property_judged` — one property.
* `Node.ofJson_isOk_iff` — **exactly the documents of the grammar are read**.
* `Node.ofJson_eq_error_iff` — **the first fault is reported**.
-/

namespace SchemaDecl

/-! ### Places -/

/-- Fields come in the order of their names' bytes. -/
def Step.Before : Step → Step → Prop
  | field name, field other => Text.bytes name < Text.bytes other
  | _, _ => False

/-- The path that an error names. -/
def SchemaError.path? : SchemaError → Option String
  | .json _ => none
  | .unsupported path _ => some path
  | .unknownType path _ => some path

/-- The fault is at these steps, and all other faults are behind it in depth-first order. -/
def IsFirst (faults : List Step → SchemaError → Prop) (steps : List Step) (e : SchemaError) :
    Prop :=
  faults steps e ∧ ∀ steps' e', faults steps' e' →
    (steps' = steps ∧ e' = e) ∨ List.Lex Step.Before steps steps'

theorem Step.Before.asymm {s t : Step} (h : s.Before t) : ¬ t.Before s := by
  cases s with
  | element => cases h
  | field name =>
    cases t with
    | element => cases h
    | field other =>
      have hlt : Text.bytes name < Text.bytes other := h
      exact List.lt_asymm hlt

theorem IsFirst.unique {faults : List Step → SchemaError → Prop} {steps steps' : List Step}
    {e e' : SchemaError} (h : IsFirst faults steps e) (h' : IsFirst faults steps' e') : e = e' := by
  rcases h.2 steps' e' h'.1 with ⟨-, heq⟩ | hbefore
  · exact heq.symm
  · rcases h'.2 steps e h.1 with ⟨-, heq⟩ | hbehind
    · exact heq
    · exact absurd hbehind (List.lex_asymm Step.Before.asymm hbefore)

/-- A fault of the node itself comes before all others, if it is the only one there. -/
theorem IsFirst.here {faults : List Step → SchemaError → Prop} {e : SchemaError}
    (h : faults [] e) (hunique : ∀ e', faults [] e' → e' = e) : IsFirst faults [] e := by
  refine ⟨h, ?_⟩
  intro steps' e' h'
  cases steps' with
  | nil => exact Or.inl ⟨rfl, hunique e' h'⟩
  | cons s rest => exact Or.inr .nil

/-- The first fault of a node below is the first one there. -/
theorem IsFirst.cons {faults : List Step → SchemaError → Prop} {steps : List Step}
    {e : SchemaError} (h : IsFirst faults steps e) (s : Step) :
    IsFirst (fun steps e => ∃ rest, steps = s :: rest ∧ faults rest e) (s :: steps) e := by
  refine ⟨⟨steps, rfl, h.1⟩, ?_⟩
  rintro _ e' ⟨rest, rfl, hrest⟩
  rcases h.2 rest e' hrest with ⟨rfl, rfl⟩ | hbefore
  · exact Or.inl ⟨rfl, rfl⟩
  · exact Or.inr (.cons hbefore)

theorem IsFirst.congr {faults faults' : List Step → SchemaError → Prop} {steps : List Step}
    {e : SchemaError} (h : IsFirst faults steps e)
    (hfaults : ∀ steps e, faults' steps e ↔ faults steps e) : IsFirst faults' steps e :=
  ⟨(hfaults steps e).mpr h.1, fun steps' e' h' => h.2 steps' e' ((hfaults steps' e').mp h')⟩

/-! ### The grammar -/

namespace Json

/-- The members are those of a node with properties: the type is `object`, or there is none. -/
def HasContents (members : List (String × Json String)) : Prop :=
  members.lookup "type" = some (.string "object") ∨ members.lookup "type" = none

/-- The document describes a property. -/
inductive IsProperty : Json String → Prop
  /-- The type is that of a primitive kind. -/
  | primitive {members : List (String × Json String)} {kind : Primitive}
      (htype : members.lookup "type" = some (.string kind.name)) : IsProperty (.object members)
  /-- The type is `array`, and the items are a property. -/
  | array {members : List (String × Json String)} {items : Json String}
      (htype : members.lookup "type" = some (.string "array"))
      (hitems : members.lookup "items" = some items) (h : IsProperty items) :
      IsProperty (.object members)
  /-- The type is `object`, and there are no properties. -/
  | bare {members : List (String × Json String)}
      (htype : members.lookup "type" = some (.string "object"))
      (hproperties : members.lookup "properties" = none) : IsProperty (.object members)
  /-- The type is `object` or missing, and the properties are such. -/
  | object {members props : List (String × Json String)}
      (htype : HasContents members)
      (hproperties : members.lookup "properties" = some (.object props))
      (h : ∀ m ∈ props, IsProperty m.2) : IsProperty (.object members)

/-- The document describes a schema. -/
inductive IsSchema : Json String → Prop
  /-- There are properties. -/
  | object {members props : List (String × Json String)}
      (hproperties : members.lookup "properties" = some (.object props))
      (h : ∀ m ∈ props, IsProperty m.2) : IsSchema (.object members)
  /-- There are items instead. -/
  | array {members : List (String × Json String)} {items : Json String}
      (hproperties : members.lookup "properties" = none)
      (hitems : members.lookup "items" = some items) (h : IsProperty items) :
      IsSchema (.object members)

/-! ### Faults -/

/-- Reading a property leads to the property one step below. -/
inductive Reads : Json String → Step → Json String → Prop
  | element {members : List (String × Json String)} {items : Json String}
      (htype : members.lookup "type" = some (.string "array"))
      (hitems : members.lookup "items" = some items) : Reads (.object members) .element items
  | field {members props : List (String × Json String)} {name : String} {value : Json String}
      (htype : HasContents members)
      (hproperties : members.lookup "properties" = some (.object props))
      (hmem : (name, value) ∈ props) : Reads (.object members) (.field name) value

/-- Reading the root leads to the property one step below. -/
inductive RootReads : Json String → Step → Json String → Prop
  | element {members : List (String × Json String)} {items : Json String}
      (hproperties : members.lookup "properties" = none)
      (hitems : members.lookup "items" = some items) : RootReads (.object members) .element items
  | field {members props : List (String × Json String)} {name : String} {value : Json String}
      (hproperties : members.lookup "properties" = some (.object props))
      (hmem : (name, value) ∈ props) : RootReads (.object members) (.field name) value

/-- Reading a property leads to the property some steps below. -/
inductive Descends : Json String → List Step → Json String → Prop
  | here (json : Json String) : Descends json [] json
  | step {json child node : Json String} {s : Step} {steps : List Step}
      (hreads : Reads json s child) (h : Descends child steps node) :
      Descends json (s :: steps) node

/-- The property at the path breaks a rule by itself. -/
inductive PropertyFault (path : String) : Json String → SchemaError → Prop
  | notObject {json : Json String} (h : json.isObject = false) :
      PropertyFault path json (.unsupported path .propertyNotObject)
  | typeNotString {members : List (String × Json String)} {type : Json String}
      (htype : members.lookup "type" = some type) (h : ∀ name, type ≠ .string name) :
      PropertyFault path (.object members) (.unsupported path .typeNotString)
  | unknownType {members : List (String × Json String)} {name : String}
      (htype : members.lookup "type" = some (.string name))
      (hprimitive : ∀ kind : Primitive, name ≠ kind.name) (hobject : name ≠ "object")
      (harray : name ≠ "array") : PropertyFault path (.object members) (.unknownType path name)
  | arrayWithoutItems {members : List (String × Json String)}
      (htype : members.lookup "type" = some (.string "array"))
      (hitems : members.lookup "items" = none) :
      PropertyFault path (.object members) (.unsupported path .arrayWithoutItems)
  | propertiesNotObject {members : List (String × Json String)} {value : Json String}
      (htype : HasContents members)
      (hproperties : members.lookup "properties" = some value) (h : value.isObject = false) :
      PropertyFault path (.object members) (.unsupported path .propertiesNotObject)
  | untyped {members : List (String × Json String)} (htype : members.lookup "type" = none)
      (hproperties : members.lookup "properties" = none) :
      PropertyFault path (.object members) (.unsupported path .untypedProperty)

/-- The root breaks a rule by itself. -/
inductive RootFault : Json String → SchemaError → Prop
  | notObject {json : Json String} (h : json.isObject = false) :
      RootFault json (.unsupported Path.root .rootNotObject)
  | propertiesNotObject {members : List (String × Json String)} {value : Json String}
      (hproperties : members.lookup "properties" = some value) (h : value.isObject = false) :
      RootFault (.object members) (.unsupported Path.root .propertiesNotObject)
  | withoutContents {members : List (String × Json String)}
      (hproperties : members.lookup "properties" = none)
      (hitems : members.lookup "items" = none) :
      RootFault (.object members) (.unsupported Path.root .rootWithoutContents)

/-- Some steps below the property at the path, a property breaks a rule by itself. -/
def FaultAt (path : String) (json : Json String) (steps : List Step) (e : SchemaError) : Prop :=
  ∃ node, Descends json steps node ∧ PropertyFault (Path.walk path steps) node e

/-- Some steps below the root of a document, a node breaks a rule by itself. -/
def FaultIn (json : Json String) : List Step → SchemaError → Prop
  | [], e => RootFault json e
  | s :: steps, e =>
    ∃ child, RootReads json s child ∧ FaultAt (Path.step Path.root s) child steps e

/-- The value of `properties` breaks a rule, or a property among them does, at some steps below the
node at the path. -/
inductive ContentsFault (path : String) : Json String → List Step → SchemaError → Prop
  | notObject {value : Json String} (h : value.isObject = false) :
      ContentsFault path value [] (.unsupported path .propertiesNotObject)
  | field {props : List (String × Json String)} {name : String} {value : Json String}
      {steps : List Step} {e : SchemaError} (hmem : (name, value) ∈ props)
      (h : FaultAt (Path.field path name) value steps e) :
      ContentsFault path (.object props) (.field name :: steps) e

section Faults

variable {path : String} {members : List (String × Json String)} {json : Json String}
  {steps : List Step} {e : SchemaError}

theorem faultAt_nil : FaultAt path json [] e ↔ PropertyFault path json e := by
  constructor
  · rintro ⟨node, hnode, h⟩
    cases hnode
    exact h
  · intro h
    exact ⟨json, .here json, h⟩

theorem faultAt_cons {s : Step} : FaultAt path json (s :: steps) e ↔
    ∃ child, Reads json s child ∧ FaultAt (Path.step path s) child steps e := by
  constructor
  · rintro ⟨node, hnode, h⟩
    cases hnode with
    | step hreads hbelow => exact ⟨_, hreads, node, hbelow, h⟩
  · rintro ⟨child, hreads, node, hbelow, h⟩
    exact ⟨node, .step hreads hbelow, h⟩

theorem FaultAt.path?_eq (h : FaultAt path json steps e) :
    e.path? = some (Path.walk path steps) := by
  obtain ⟨node, -, h⟩ := h
  cases h <;> rfl

theorem FaultIn.path?_eq (h : FaultIn json steps e) :
    e.path? = some (Path.walk Path.root steps) := by
  cases steps with
  | nil => cases h <;> rfl
  | cons s steps =>
    obtain ⟨child, -, h⟩ := h
    exact h.path?_eq

theorem faultAt_array_iff (htype : members.lookup "type" = some (.string "array"))
    {items : Json String} (hitems : members.lookup "items" = some items) :
    FaultAt path (.object members) steps e ↔
      ∃ rest, steps = .element :: rest ∧ FaultAt (Path.element path) items rest e := by
  cases steps with
  | nil =>
    rw [faultAt_nil]
    refine iff_of_false ?_ (by simp)
    intro h
    cases h <;> grind [isObject, HasContents]
  | cons s steps =>
    rw [faultAt_cons]
    constructor
    · rintro ⟨child, hreads, h⟩
      cases hreads with
      | element _ hitems' =>
        rw [hitems, Option.some_inj] at hitems'
        subst hitems'
        exact ⟨steps, rfl, h⟩
      | field htype' _ _ => simp [HasContents, htype] at htype'
    · rintro ⟨rest, hsteps, h⟩
      cases hsteps
      exact ⟨items, .element htype hitems, h⟩

theorem faultAt_object_iff
    (htype : HasContents members)
    {value : Json String} (hproperties : members.lookup "properties" = some value) :
    FaultAt path (.object members) steps e ↔ ContentsFault path value steps e := by
  cases steps with
  | nil =>
    rw [faultAt_nil]
    constructor
    · intro h
      cases h with
      | propertiesNotObject _ hproperties' h =>
        rw [hproperties, Option.some_inj] at hproperties'
        subst hproperties'
        exact .notObject h
      -- all other faults want another `type`, or no `properties`
      | _ => grind [isObject, HasContents]
    · intro h
      cases h with
      | notObject h => exact .propertiesNotObject htype hproperties h
  | cons s steps =>
    rw [faultAt_cons]
    constructor
    · rintro ⟨child, hreads, h⟩
      cases hreads with
      | element htype' _ => simp [HasContents, htype'] at htype
      | field _ hproperties' hmem =>
        rw [hproperties, Option.some_inj] at hproperties'
        subst hproperties'
        exact .field hmem h
    · intro h
      cases h with
      | field hmem h => exact ⟨_, .field htype hproperties hmem, h⟩

theorem not_faultAt_of_primitive {kind : Primitive}
    (htype : members.lookup "type" = some (.string kind.name)) :
    ¬ FaultAt path (.object members) steps e := by
  have hkind : kind.name ≠ "array" ∧ kind.name ≠ "object" := by cases kind <;> decide
  cases steps with
  | nil =>
    rw [faultAt_nil]
    intro h
    cases h <;> grind [isObject, HasContents]
  | cons s steps =>
    rw [faultAt_cons]
    rintro ⟨child, hreads, -⟩
    cases hreads <;> grind [HasContents]

theorem not_faultAt_of_bare (htype : members.lookup "type" = some (.string "object"))
    (hproperties : members.lookup "properties" = none) :
    ¬ FaultAt path (.object members) steps e := by
  cases steps with
  | nil =>
    rw [faultAt_nil]
    intro h
    cases h <;> grind [isObject, HasContents]
  | cons s steps =>
    rw [faultAt_cons]
    rintro ⟨child, hreads, -⟩
    cases hreads <;> grind [HasContents]

/-- **No rule is broken in a property of the grammar.** -/
theorem IsProperty.not_faultAt (h : IsProperty json) : ¬ FaultAt path json steps e := by
  induction h generalizing path steps with
  | primitive htype => exact not_faultAt_of_primitive htype
  | array htype hitems _ ih =>
    rw [faultAt_array_iff htype hitems]
    rintro ⟨rest, -, h⟩
    exact ih h
  | bare htype hproperties => exact not_faultAt_of_bare htype hproperties
  | object htype hproperties _ ih =>
    rw [faultAt_object_iff htype hproperties]
    intro h
    cases h with
    | notObject h => cases h
    | field hmem h => exact ih _ hmem h

end Faults

/-! ### Reading properties -/

/-- Reading what may be valid or have faults ends well only in the first case, and else with the
first fault. -/
def Judged {α : Type} (valid : Prop) (faults : List Step → SchemaError → Prop) :
    Except SchemaError α → Prop
  | .ok _ => valid
  | .error e => ∃ steps, IsFirst faults steps e

namespace Judged

variable {α β : Type} {valid valid' : Prop} {faults faults' : List Step → SchemaError → Prop}
  {x : Except SchemaError α}

theorem map (h : Judged valid faults x) (f : α → β) : Judged valid faults (x.map f) := by
  cases x with
  | ok a => exact h
  | error e => exact h

/-- What has the same faults and is valid with it is judged alike. -/
theorem congr (h : Judged valid faults x) (hvalid : valid → valid')
    (hfaults : ∀ steps e, faults' steps e ↔ faults steps e) : Judged valid' faults' x := by
  cases x with
  | ok a => exact hvalid h
  | error e =>
    obtain ⟨steps, hfirst⟩ := h
    exact ⟨steps, hfirst.congr hfaults⟩

/-- What leads to one node below is judged with it. -/
theorem cons (h : Judged valid faults x) (s : Step) :
    Judged valid (fun steps e => ∃ rest, steps = s :: rest ∧ faults rest e) x := by
  cases x with
  | ok a => exact h
  | error e =>
    obtain ⟨steps, hfirst⟩ := h
    exact ⟨s :: steps, hfirst.cons s⟩

/-- If nothing valid has faults, exactly what is valid ends well. -/
theorem isOk_iff (h : Judged valid faults x) (hfree : valid → ∀ steps e, ¬ faults steps e) :
    (∃ a, x = .ok a) ↔ valid := by
  constructor
  · rintro ⟨a, rfl⟩
    exact h
  · intro hvalid
    cases x with
    | ok a => exact ⟨a, rfl⟩
    | error e =>
      obtain ⟨steps, hfirst⟩ := h
      exact absurd hfirst.1 (hfree hvalid steps e)

/-- If nothing valid has faults, exactly the first fault is reported. -/
theorem eq_error_iff (h : Judged valid faults x) (hfree : valid → ∀ steps e, ¬ faults steps e)
    (e : SchemaError) : x = .error e ↔ ∃ steps, IsFirst faults steps e := by
  cases x with
  | ok a =>
    refine iff_of_false (by simp) ?_
    rintro ⟨steps, hfirst⟩
    exact hfree h steps e hfirst.1
  | error e' =>
    obtain ⟨steps', hfirst'⟩ := h
    constructor
    · intro heq
      cases heq
      exact ⟨steps', hfirst'⟩
    · rintro ⟨steps, hfirst⟩
      rw [hfirst'.unique hfirst]

end Judged

section Reading

variable {path : String} {members : List (String × Json String)} {json : Json String}
  {e : SchemaError}

theorem ofName?_eq_none {name : String} (h : ∀ kind : Primitive, name ≠ kind.name) :
    Primitive.ofName? name = none := by
  refine Option.eq_none_iff_forall_ne_some.mpr fun kind hkind => ?_
  exact h kind (Primitive.ofName?_eq_some_iff.mp hkind)

/-- A property of type `array` is read from its items. -/
theorem property_of_array (htype : members.lookup "type" = some (.string "array")) :
    property path (.object members)
      = (members.lookup "items").elim (.error (.unsupported path .arrayWithoutItems)) fun items =>
          (property (Path.element path) items).map .array := by
  rw [property, htype]
  change (itemsOf (Path.element path) members >>= _) = _
  rw [itemsOf_eq]
  cases members.lookup "items" with
  | none => rfl
  | some items =>
    rw [Option.elim_some, Option.elim_some]
    cases property (Path.element path) items <;> rfl

/-- A property of type `object` or without a type is read from its properties, if it has some. -/
theorem property_of_contents
    (htype : HasContents members)
    {value : Json String} (hproperties : members.lookup "properties" = some value) :
    property path (.object members)
      = (fieldsIn path value).map fun fields => .object (.object (titleOf members) fields) := by
  have hfields : propertiesOf path members = (fieldsIn path value).map some := by
    rw [propertiesOf_eq, hproperties]
    rfl
  rcases htype with htype | htype
  · rw [property, htype]
    change (propertiesOf path members).map _ = _
    rw [hfields]
    cases fieldsIn path value <;> rfl
  · rw [property, htype]
    change (propertiesOf path members >>= _) = _
    rw [hfields]
    cases fieldsIn path value <;> rfl

/-- A property of type `object` without properties is empty. -/
theorem property_of_bare (htype : members.lookup "type" = some (.string "object"))
    (hproperties : members.lookup "properties" = none) :
    property path (.object members) = .ok (.object (.object (titleOf members) [])) := by
  rw [property, htype]
  change (propertiesOf path members).map _ = _
  rw [propertiesOf_eq, hproperties]
  rfl

theorem fieldsIn_of_not_isObject {value : Json String} (h : value.isObject = false) :
    fieldsIn path value = .error (.unsupported path .propertiesNotObject) := by
  cases value with
  | object members => cases h
  | _ => rfl

/-- A property that breaks a rule by itself is read no further. -/
theorem property_of_fault (h : PropertyFault path json e) : property path json = .error e := by
  cases h with
  | notObject h =>
    cases json with
    | object members => cases h
    | _ => rfl
  | typeNotString htype h =>
    rw [property, htype]
    split
    · next heq => exact absurd (Option.some.inj heq) (h _)
    · rfl
    · next heq => cases heq
  | unknownType htype hprimitive hobject harray =>
    rw [property, htype]
    simp [ofName?_eq_none hprimitive, hobject, harray]
  | arrayWithoutItems htype hitems =>
    rw [property_of_array htype, hitems]
    rfl
  | propertiesNotObject htype hproperties h =>
    rw [property_of_contents htype hproperties, fieldsIn_of_not_isObject h]
    rfl
  | untyped htype hproperties =>
    rw [property, htype]
    change (propertiesOf path _ >>= _) = _
    rw [propertiesOf_eq, hproperties]
    rfl

/-- Such a property is judged by its own fault, which comes before all others. -/
theorem judged_of_fault (h : PropertyFault path json e) :
    Judged (IsProperty json) (FaultAt path json) (property path json) := by
  rw [property_of_fault h]
  refine ⟨[], IsFirst.here (faultAt_nil.mpr h) fun e' h' => ?_⟩
  have heq := property_of_fault (faultAt_nil.mp h')
  rw [property_of_fault h] at heq
  exact (Except.error.inj heq).symm

/-- The value of `properties` is judged by the members under it, in the order of their names. -/
theorem properties_judged {props : List (String × Json String)} (hprops : OrderedMembers props)
    (h : ∀ m ∈ props, ∀ path, m.2.Ordered →
      Judged (IsProperty m.2) (FaultAt path m.2) (property path m.2)) :
    Judged (∀ m ∈ props, IsProperty m.2) (ContentsFault path (.object props))
      (properties path props) := by
  induction props with
  | nil => exact fun m hm => absurd hm List.not_mem_nil
  | cons head rest ih =>
    obtain ⟨name, value⟩ := head
    obtain ⟨hname, hvalue, hrest⟩ := hprops
    have hhead := h _ List.mem_cons_self (Path.field path name) hvalue
    have htail := ih hrest fun m hm => h m (List.mem_cons_of_mem _ hm)
    rw [properties]
    cases hread : property (Path.field path name) value with
    | error e =>
      -- the other members stand behind this one
      rw [hread] at hhead
      obtain ⟨steps, hfault, hfirst⟩ := hhead
      refine ⟨.field name :: steps, .field List.mem_cons_self hfault, ?_⟩
      intro steps' e' h'
      cases h' with
      | notObject h' => cases h'
      | @field _ name' value' steps' e' hmem h' =>
        rcases List.mem_cons.mp hmem with heq | hmem
        · obtain ⟨rfl, rfl⟩ := Prod.mk.inj heq
          rcases hfirst steps' e' h' with ⟨rfl, rfl⟩ | hbefore
          · exact Or.inl ⟨rfl, rfl⟩
          · exact Or.inr (.cons hbefore)
        · have hlt : Text.bytes name < Text.bytes name' :=
            (Text.lt_iff_bytes_lt _ _).mp (hname _ hmem)
          exact Or.inr (.rel hlt)
    | ok type =>
      rw [hread] at hhead
      cases hmore : properties path rest with
      | error e =>
        -- nothing is wrong with this member, so what is wrong stands behind it
        rw [hmore] at htail
        obtain ⟨steps, hfirst⟩ := htail
        refine ⟨steps, hfirst.congr fun steps' e' => ?_⟩
        constructor
        · intro h'
          cases h' with
          | notObject h' => cases h'
          | field hmem h' =>
            rcases List.mem_cons.mp hmem with heq | hmem
            · obtain ⟨rfl, rfl⟩ := Prod.mk.inj heq
              exact absurd h' hhead.not_faultAt
            · exact .field hmem h'
        · intro h'
          cases h' with
          | notObject h' => cases h'
          | field hmem h' => exact .field (List.mem_cons_of_mem _ hmem) h'
      | ok more =>
        rw [hmore] at htail
        exact List.forall_mem_cons.mpr ⟨hhead, htail⟩

/-- The properties are there, and each of them is of the grammar. -/
def IsContents (value : Json String) : Prop :=
  ∃ props, value = .object props ∧ ∀ m ∈ props, IsProperty m.2

/-- What is under `properties` is judged by the members there. -/
theorem fieldsIn_judged {value : Json String} (hvalue : value.Ordered)
    (h : ∀ props, value = .object props → ∀ m ∈ props, ∀ path, m.2.Ordered →
      Judged (IsProperty m.2) (FaultAt path m.2) (property path m.2)) :
    Judged (IsContents value) (ContentsFault path value) (fieldsIn path value) := by
  cases hobject : value.isObject with
  | true =>
    cases value with
    | object props =>
      refine (properties_judged hvalue (h props rfl)).congr ?_ fun _ _ => Iff.rfl
      exact fun hprops => ⟨props, rfl, hprops⟩
    | _ => cases hobject
  | false =>
    rw [fieldsIn_of_not_isObject hobject]
    refine ⟨[], IsFirst.here (.notObject hobject) fun e' h' => ?_⟩
    cases h' with
    | notObject _ => rfl

/-- An object is judged as a property if what it leads to is. -/
theorem property_object_judged (hmembers : OrderedMembers members)
    (hitems : ∀ m ∈ members, ∀ path, m.2.Ordered →
      Judged (IsProperty m.2) (FaultAt path m.2) (property path m.2))
    (hcontents : ∀ m ∈ members, ∀ path, m.2.Ordered →
      Judged (IsContents m.2) (ContentsFault path m.2) (fieldsIn path m.2)) :
    Judged (IsProperty (.object members)) (FaultAt path (.object members))
      (property path (.object members)) := by
  -- what is under `properties` decides for an object, and where there is no `type`
  have hobject :
      HasContents members →
      ∀ value, members.lookup "properties" = some value →
        Judged (IsProperty (.object members)) (FaultAt path (.object members))
          (property path (.object members)) := by
    intro htype value hproperties
    have hmem := List.mem_of_lookup hproperties
    rw [property_of_contents htype hproperties]
    refine ((hcontents _ hmem path (ordered_of_mem hmembers hmem)).map _).congr ?_ fun _ _ =>
      faultAt_object_iff htype hproperties
    rintro ⟨props, rfl, hprops⟩
    exact .object htype hproperties hprops
  cases htype : members.lookup "type" with
  | none =>
    cases hproperties : members.lookup "properties" with
    | none => exact judged_of_fault (.untyped htype hproperties)
    | some value => exact hobject (Or.inr htype) value hproperties
  | some type =>
    by_cases hstring : ∃ name, type = .string name
    · obtain ⟨name, rfl⟩ := hstring
      -- a kind, one of the two words for containers, or a name that is not known
      by_cases hprimitive : ∃ kind : Primitive, name = kind.name
      · obtain ⟨kind, rfl⟩ := hprimitive
        have hread : property path (.object members) = .ok (.primitive kind) := by
          rw [property, htype]
          simp
        rw [hread]
        exact .primitive htype
      by_cases hname : name = "array"
      · subst hname
        cases hlookup : members.lookup "items" with
        | none => exact judged_of_fault (.arrayWithoutItems htype hlookup)
        | some items =>
          have hmem := List.mem_of_lookup hlookup
          have helement :=
            hitems _ hmem (Path.element path) (ordered_of_mem hmembers hmem)
          rw [property_of_array htype, hlookup]
          exact ((helement.map _).cons .element).congr (.array htype hlookup) fun _ _ =>
            faultAt_array_iff htype hlookup
      by_cases hname' : name = "object"
      · subst hname'
        cases hproperties : members.lookup "properties" with
        | none =>
          rw [property_of_bare htype hproperties]
          exact .bare htype hproperties
        | some value => exact hobject (Or.inl htype) value hproperties
      · exact judged_of_fault (.unknownType htype (not_exists.mp hprimitive) hname' hname)
    · exact judged_of_fault (.typeNotString htype (not_exists.mp hstring))

/-- **Reading a property** ends well exactly if it is of the grammar, and else with the first
fault. -/
theorem property_judged (json : Json String) :
    (∀ path, json.Ordered → Judged (IsProperty json) (FaultAt path json) (property path json)) ∧
      ∀ path, json.Ordered →
        Judged (IsContents json) (ContentsFault path json) (fieldsIn path json) := by
  induction json using object_induction with
  | hobject members ih =>
    refine ⟨fun path hmembers => ?_, fun path hmembers => ?_⟩
    · exact property_object_judged hmembers (fun m hm => (ih m hm).1) fun m hm => (ih m hm).2
    · refine fieldsIn_judged hmembers ?_
      rintro props hprops m hm
      cases hprops
      exact (ih m hm).1
  | hother json h =>
    refine ⟨fun path _ => judged_of_fault (.notObject h), fun path hjson => ?_⟩
    refine fieldsIn_judged hjson ?_
    rintro props rfl
    cases h

end Reading

end Json

/-! ### Reading documents -/

namespace Node

open Json (IsContents IsSchema FaultIn FaultAt ContentsFault Judged)

variable {members : List (String × Json String)} {json : Json String} {steps : List Step}
  {e : SchemaError}

theorem faultIn_object_iff {value : Json String}
    (hproperties : members.lookup "properties" = some value) :
    FaultIn (.object members) steps e ↔ ContentsFault Path.root value steps e := by
  cases steps with
  | nil =>
    constructor
    · intro h
      cases h with
      | propertiesNotObject hproperties' h =>
        rw [hproperties, Option.some_inj] at hproperties'
        subst hproperties'
        exact .notObject h
      | _ => grind [Json.isObject]
    · intro h
      cases h with
      | notObject h => exact .propertiesNotObject hproperties h
  | cons s steps =>
    constructor
    · rintro ⟨child, hreads, h⟩
      cases hreads with
      | element hproperties' _ => grind
      | field hproperties' hmem =>
        rw [hproperties, Option.some_inj] at hproperties'
        subst hproperties'
        exact .field hmem h
    · intro h
      cases h with
      | field hmem h => exact ⟨_, .field hproperties hmem, h⟩

theorem faultIn_array_iff (hproperties : members.lookup "properties" = none) {items : Json String}
    (hitems : members.lookup "items" = some items) :
    FaultIn (.object members) steps e ↔
      ∃ rest, steps = .element :: rest ∧ FaultAt (Path.element Path.root) items rest e := by
  cases steps with
  | nil =>
    refine iff_of_false ?_ (by simp)
    intro h
    cases h <;> grind [Json.isObject]
  | cons s steps =>
    constructor
    · rintro ⟨child, hreads, h⟩
      cases hreads with
      | element _ hitems' =>
        rw [hitems, Option.some_inj] at hitems'
        subst hitems'
        exact ⟨steps, rfl, h⟩
      | field hproperties' _ => grind
    · rintro ⟨rest, hsteps, h⟩
      cases hsteps
      exact ⟨items, .element hproperties hitems, h⟩

/-- No rule is broken in a document of the grammar. -/
theorem not_faultIn_of_isSchema (h : json.IsSchema) : ¬ FaultIn json steps e := by
  cases h with
  | object hproperties hprops =>
    rw [faultIn_object_iff hproperties]
    intro h
    cases h with
    | notObject h => cases h
    | field hmem h => exact (hprops _ hmem).not_faultAt h
  | array hproperties hitems hitem =>
    rw [faultIn_array_iff hproperties hitems]
    rintro ⟨rest, -, h⟩
    exact hitem.not_faultAt h

/-- A root that breaks a rule by itself is read no further. -/
theorem ofSortedJson_of_fault (h : json.RootFault e) : ofSortedJson json = .error e := by
  cases h with
  | notObject h =>
    cases json with
    | object members => cases h
    | _ => rfl
  | propertiesNotObject hproperties h =>
    rw [ofSortedJson, Json.propertiesOf_eq, hproperties, Option.elim_some,
      Json.fieldsIn_of_not_isObject h]
    rfl
  | withoutContents hproperties hitems =>
    rw [ofSortedJson, Json.propertiesOf_eq, hproperties, Json.itemsOf_eq, hitems]
    rfl

theorem judged_of_rootFault (h : json.RootFault e) :
    Judged json.IsSchema (FaultIn json) (ofSortedJson json) := by
  rw [ofSortedJson_of_fault h]
  refine ⟨[], IsFirst.here h fun e' h' => ?_⟩
  have heq := ofSortedJson_of_fault h'
  rw [ofSortedJson_of_fault h] at heq
  exact (Except.error.inj heq).symm

/-- **Reading a document** ends well exactly if it is of the grammar, and else with the first
fault. -/
theorem ofSortedJson_judged (h : json.Ordered) :
    Judged json.IsSchema (FaultIn json) (ofSortedJson json) := by
  cases hobject : json.isObject with
  | false => exact judged_of_rootFault (.notObject hobject)
  | true =>
    cases json with
    | object members =>
      -- `properties` are looked for before `items`
      cases hproperties : members.lookup "properties" with
      | some value =>
        have hmem := List.mem_of_lookup hproperties
        have hcontents := (Json.property_judged value).2 Path.root (Json.ordered_of_mem h hmem)
        have hread : ofSortedJson (.object members)
            = (Json.fieldsIn Path.root value).map (.object (titleOf members)) := by
          rw [ofSortedJson, Json.propertiesOf_eq, hproperties, Option.elim_some]
          cases Json.fieldsIn Path.root value <;> rfl
        rw [hread]
        refine (hcontents.map _).congr ?_ fun _ _ => faultIn_object_iff hproperties
        rintro ⟨props, rfl, hprops⟩
        exact .object hproperties hprops
      | none =>
        cases hitems : members.lookup "items" with
        | some items =>
          have hmem := List.mem_of_lookup hitems
          have hitem := (Json.property_judged items).1 (Path.element Path.root)
            (Json.ordered_of_mem h hmem)
          have hread : ofSortedJson (.object members)
              = (Json.property (Path.element Path.root) items).map
                  (.arrayRoot (titleOf members)) := by
            rw [ofSortedJson, Json.propertiesOf_eq, hproperties, Json.itemsOf_eq, hitems,
              Option.elim_some]
            cases Json.property (Path.element Path.root) items <;> rfl
          rw [hread]
          exact ((hitem.map _).cons .element).congr (.array hproperties hitems) fun _ _ =>
            faultIn_array_iff hproperties hitems
        | none => exact judged_of_rootFault (.withoutContents hproperties hitems)
    | _ => cases hobject

/-- **Exactly the documents of the grammar are read.** -/
theorem ofJson_isOk_iff (json : Json String) :
    (∃ root, ofJson json = .ok root) ↔ json.sorted.IsSchema :=
  (ofSortedJson_judged (Json.ordered_sorted json)).isOk_iff fun h _ _ => not_faultIn_of_isSchema h

/-- **The first fault is reported.** -/
theorem ofJson_eq_error_iff (json : Json String) (e : SchemaError) :
    ofJson json = .error e ↔ ∃ steps, IsFirst (FaultIn json.sorted) steps e :=
  (ofSortedJson_judged (Json.ordered_sorted json)).eq_error_iff
    (fun h _ _ => not_faultIn_of_isSchema h) e

end Node

end SchemaDecl
