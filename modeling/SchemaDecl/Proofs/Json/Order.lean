import SchemaDecl.Json.Basic
import SchemaDecl.Proofs.List
import SchemaDecl.Proofs.Text.ByteOrder

/-!
# Documents with ordered members

`Json.sorted` inserts one member after the other into those already in order.  The names of the
members of every object ascend strictly afterwards, and if they differed before, each name stands
for what it stood for.

## Main definitions

* `Json.Ordered` — the names of the members of every object ascend strictly.

* `Json.isObject` — the document is an object.

## Main results

* `Json.ordered_sorted` — a sorted document is ordered.
* `Json.object_induction` — an object is reached from its members.
* `Json.lookup_sortedMembers` — members of distinct names are found again.
-/

namespace SchemaDecl.Json

variable {name : String} {value : Json String} {members : List (String × Json String)}

/-! ### Order -/

mutual

/-- The names of the members of every object in the document ascend strictly. -/
def Ordered : Json String → Prop
  | .array items => OrderedItems items
  | .object members => OrderedMembers members
  | _ => True
termination_by structural json => json

/-- The same for each item of an array. -/
def OrderedItems : List (Json String) → Prop
  | [] => True
  | item :: rest => item.Ordered ∧ OrderedItems rest
termination_by structural items => items

/-- The same for the members of an object. -/
def OrderedMembers : List (String × Json String) → Prop
  | [] => True
  | (name, value) :: rest => (∀ m ∈ rest, name < m.1) ∧ value.Ordered ∧ OrderedMembers rest
termination_by structural members => members

end

theorem mem_insertMember {m : String × Json String} (h : m ∈ insertMember name value members) :
    m = (name, value) ∨ m ∈ members := by
  induction members with
  | nil => exact Or.inl (List.mem_singleton.mp h)
  | cons head rest ih =>
    obtain ⟨n, v⟩ := head
    rw [insertMember] at h
    split at h
    · exact Or.inr h
    · split at h
      · rcases List.mem_cons.mp h with rfl | h
        · exact Or.inr List.mem_cons_self
        · exact (ih h).imp_right (List.mem_cons_of_mem _)
      · exact List.mem_cons.mp h

theorem orderedMembers_insertMember (hvalue : value.Ordered) (h : OrderedMembers members) :
    OrderedMembers (insertMember name value members) := by
  induction members with
  | nil => exact ⟨fun m hm => absurd hm List.not_mem_nil, hvalue, trivial⟩
  | cons head rest ih =>
    obtain ⟨n, v⟩ := head
    obtain ⟨hhead, hv, hrest⟩ := h
    rw [insertMember]
    split
    · exact ⟨hhead, hv, hrest⟩
    · next hne =>
      split
      · next hlt =>
        refine ⟨fun m hm => ?_, hv, ih hrest⟩
        rcases mem_insertMember hm with rfl | hm
        · exact hlt
        · exact hhead m hm
      · next hge =>
        have hlt : name < n := lt_of_le_of_ne (not_lt.mp hge) (Ne.symm hne)
        refine ⟨fun m hm => ?_, hvalue, hhead, hv, hrest⟩
        rcases List.mem_cons.mp hm with rfl | hm
        · exact hlt
        · exact hlt.trans (hhead m hm)

mutual

theorem ordered_sorted : ∀ json : Json String, json.sorted.Ordered
  | .null => trivial
  | .bool _ => trivial
  | .number _ => trivial
  | .string _ => trivial
  | .array items => orderedItems_sortedItems items
  | .object members => orderedMembers_sortedMembers members

theorem orderedItems_sortedItems : ∀ items : List (Json String), OrderedItems (sortedItems items)
  | [] => trivial
  | item :: rest => ⟨ordered_sorted item, orderedItems_sortedItems rest⟩

theorem orderedMembers_sortedMembers : ∀ members : List (String × Json String),
    OrderedMembers (sortedMembers members)
  | [] => trivial
  | (_, value) :: rest =>
    orderedMembers_insertMember (ordered_sorted value) (orderedMembers_sortedMembers rest)

end

theorem ordered_of_mem (h : OrderedMembers members) {m : String × Json String}
    (hm : m ∈ members) : m.2.Ordered := by
  induction members with
  | nil => cases hm
  | cons head rest ih =>
    obtain ⟨-, hvalue, hrest⟩ := h
    rcases List.mem_cons.mp hm with rfl | hm
    · exact hvalue
    · exact ih hrest hm

/-! ### Induction -/

/-- The document is an object. -/
def isObject : Json String → Bool
  | .object _ => true
  | _ => false

mutual

/-- What holds of objects with their members, and of all other documents, holds of every one. -/
theorem object_induction {P : Json String → Prop}
    (hobject : ∀ members : List (String × Json String), (∀ m ∈ members, P m.2) →
      P (.object members))
    (hother : ∀ json : Json String, json.isObject = false → P json) : ∀ json : Json String, P json
  | .object members => hobject members (members_induction hobject hother members)
  | .null => hother _ rfl
  | .bool _ => hother _ rfl
  | .number _ => hother _ rfl
  | .string _ => hother _ rfl
  | .array _ => hother _ rfl

theorem members_induction {P : Json String → Prop}
    (hobject : ∀ members : List (String × Json String), (∀ m ∈ members, P m.2) →
      P (.object members))
    (hother : ∀ json : Json String, json.isObject = false → P json) :
    ∀ members : List (String × Json String), ∀ m ∈ members, P m.2
  | [], m, hm => absurd hm List.not_mem_nil
  | (name, value) :: rest, m, hm => by
    rcases List.mem_cons.mp hm with rfl | hm
    · exact object_induction hobject hother value
    · exact members_induction hobject hother rest m hm

end

/-! ### Finding members -/

/-- A member of a new name is found wherever it is inserted. -/
theorem lookup_insertMember (h : name ∉ members.map Prod.fst) (key : String) :
    (insertMember name value members).lookup key = ((name, value) :: members).lookup key := by
  induction members with
  | nil => rfl
  | cons head rest ih =>
    obtain ⟨n, v⟩ := head
    rw [List.map_cons, List.mem_cons, not_or] at h
    obtain ⟨hne, hrest⟩ := h
    rw [insertMember, if_neg (Ne.symm hne)]
    split
    · -- the head is passed over, but it is not what is looked for under the new name
      simp only [List.lookup_cons, ih hrest]
      by_cases hkey : key = n
      · have hname : (key == name) = false := beq_eq_false_iff_ne.mpr (hkey ▸ Ne.symm hne)
        rw [hname]
      · rw [beq_eq_false_iff_ne.mpr hkey]
    · rfl

/-- Only names of members are names after sorting. -/
theorem mem_names_of_sortedMembers (h : name ∈ (sortedMembers members).map Prod.fst) :
    name ∈ members.map Prod.fst := by
  induction members with
  | nil => exact h
  | cons head rest ih =>
    obtain ⟨n, v⟩ := head
    obtain ⟨m, hm, rfl⟩ := List.mem_map.mp h
    rw [List.map_cons, List.mem_cons]
    rcases mem_insertMember hm with rfl | hm
    · exact Or.inl rfl
    · exact Or.inr (ih (List.mem_map_of_mem hm))

/-- Members of distinct names are found among the sorted ones. -/
theorem lookup_sortedMembers (h : (members.map Prod.fst).Nodup) (key : String) :
    (sortedMembers members).lookup key = (members.lookup key).map sorted := by
  induction members with
  | nil => rfl
  | cons head rest ih =>
    obtain ⟨n, v⟩ := head
    obtain ⟨hhead, hrest⟩ := List.nodup_cons.mp h
    rw [sortedMembers, lookup_insertMember (fun hmem => hhead (mem_names_of_sortedMembers hmem)),
      List.lookup_cons, List.lookup_cons, ih hrest]
    cases key == n <;> rfl

end SchemaDecl.Json
