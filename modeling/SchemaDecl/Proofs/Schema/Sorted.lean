import SchemaDecl.Proofs.Text.ByteOrder
import SchemaDecl.Schema.Sorted

/-!
# The order of fields

`Fields.sorted` inserts one field after the other into those already in order, and sorts
the types of the fields on the way.  So it only rearranges the fields, their names ascend
afterwards, and a tree that is in order stays as it is.

## Main definitions

* `Fields.Ascending` — the names of the fields ascend.

## Main results

* `Fields.sorted_perm` — sorting rearranges the fields and sorts their types.
* `Fields.ascending_sorted` — the names ascend afterwards.
* `Node.sorted_sorted` — a second sorting changes nothing.
* `Fields.map_insertSorted` — a change of types that keeps the names commutes with the
  insertion of a field.
-/

namespace SchemaDecl

namespace Fields

/-- The names of the fields ascend. -/
def Ascending (fields : Fields) : Prop := fields.Pairwise fun a b => a.1 ≤ b.1

theorem pairwise_bytes_iff (fields : Fields) :
    (fields.map fun f => Text.bytes f.1).Pairwise (· < ·) ↔
      (fields.map Prod.fst).Pairwise (· < ·) := by
  simp only [List.pairwise_map, Text.lt_iff_bytes_lt]

/-! ### Inserting one field -/

theorem insertSorted_perm (name : String) (type : FieldType) (fields : Fields) :
    (insertSorted name type fields).Perm ((name, type) :: fields) := by
  induction fields with
  | nil => rfl
  | cons head rest ih =>
    obtain ⟨n, t⟩ := head
    rw [insertSorted]
    split
    · exact (ih.cons (n, t)).trans (List.Perm.swap _ _ _)
    · rfl

theorem insertSorted_of_le {name : String} {type : FieldType} {fields : Fields}
    (h : ∀ f ∈ fields, name ≤ f.1) : insertSorted name type fields = (name, type) :: fields := by
  cases fields with
  | nil => rfl
  | cons head rest =>
    obtain ⟨n, t⟩ := head
    have hle : name ≤ n := h (n, t) List.mem_cons_self
    rw [insertSorted, if_neg (not_lt.mpr hle)]

theorem ascending_insertSorted {fields : Fields} (h : Ascending fields) (name : String)
    (type : FieldType) : Ascending (insertSorted name type fields) := by
  induction fields with
  | nil => exact List.pairwise_singleton _ _
  | cons head rest ih =>
    obtain ⟨n, t⟩ := head
    obtain ⟨hhead, hrest⟩ := List.pairwise_cons.mp h
    rw [insertSorted]
    split
    · next hlt =>
      refine List.pairwise_cons.mpr ⟨fun f hf => ?_, ih hrest⟩
      -- what stands after `n` is the new field or one of the old ones
      rcases List.mem_cons.mp ((insertSorted_perm name type rest).mem_iff.mp hf) with rfl | hf
      · exact hlt.le
      · exact hhead f hf
    · next hge =>
      refine List.pairwise_cons.mpr ⟨fun f hf => ?_, h⟩
      rcases List.mem_cons.mp hf with rfl | hf
      · exact not_lt.mp hge
      · exact (not_lt.mp hge).trans (hhead f hf)

/-- Inserting looks at names only, so it commutes with every change of the types. -/
theorem map_insertSorted (g : String → FieldType → FieldType) (name : String) (type : FieldType)
    (fields : Fields) :
    (insertSorted name type fields).map (fun f => (f.1, g f.1 f.2))
      = insertSorted name (g name type) (fields.map fun f => (f.1, g f.1 f.2)) := by
  induction fields with
  | nil => rfl
  | cons head rest ih =>
    obtain ⟨n, t⟩ := head
    simp only [insertSorted, List.map_cons]
    split
    · rw [List.map_cons, ih]
    · rfl

/-! ### Sorting all fields -/

/-- Sorting rearranges the fields and sorts the type of each. -/
theorem sorted_perm (fields : Fields) :
    (sorted fields).Perm (fields.map fun f => (f.1, f.2.sorted)) := by
  induction fields with
  | nil => rfl
  | cons head rest ih =>
    obtain ⟨name, type⟩ := head
    rw [sorted, List.map_cons]
    exact (insertSorted_perm _ _ _).trans (ih.cons _)

theorem ascending_sorted (fields : Fields) : Ascending (sorted fields) := by
  induction fields with
  | nil => exact List.Pairwise.nil
  | cons head rest ih => exact ascending_insertSorted ih _ _

theorem sorted_of_ascending {fields : Fields} (h : Ascending fields) :
    sorted fields = fields.map fun f => (f.1, f.2.sorted) := by
  induction fields with
  | nil => rfl
  | cons head rest ih =>
    obtain ⟨name, type⟩ := head
    obtain ⟨hhead, hrest⟩ := List.pairwise_cons.mp h
    rw [sorted, ih hrest, List.map_cons]
    refine insertSorted_of_le fun f hf => ?_
    obtain ⟨g, hg, rfl⟩ := List.mem_map.mp hf
    exact hhead g hg

end Fields

/-! ### Sorting twice -/

mutual

/-- A second sorting of a node changes nothing. -/
@[simp] theorem Node.sorted_sorted : ∀ node : Node, node.sorted.sorted = node.sorted
  | .object title fields => by
    rw [Node.sorted, Node.sorted, Fields.sorted_sorted fields]
  | .arrayRoot title item => by
    rw [Node.sorted, Node.sorted, FieldType.sorted_sorted item]

@[simp] theorem FieldType.sorted_sorted : ∀ type : FieldType, type.sorted.sorted = type.sorted
  | .primitive kind => by rw [FieldType.sorted, FieldType.sorted]
  | .object node => by
    rw [FieldType.sorted, FieldType.sorted, Node.sorted_sorted node]
  | .array element => by
    rw [FieldType.sorted, FieldType.sorted, FieldType.sorted_sorted element]

theorem Fields.sorted_sorted :
    ∀ fields : List (String × FieldType), Fields.sorted (Fields.sorted fields) = Fields.sorted fields
  | [] => rfl
  | (name, type) :: rest => by
    have hrest := Fields.sorted_of_ascending (Fields.ascending_sorted rest)
    rw [Fields.sorted_sorted rest] at hrest
    rw [Fields.sorted_of_ascending (Fields.ascending_sorted _), Fields.sorted,
      Fields.map_insertSorted (fun _ type => type.sorted), FieldType.sorted_sorted type, ← hrest]

end

end SchemaDecl
