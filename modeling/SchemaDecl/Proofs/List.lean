import Mathlib.Data.List.Basic
import Mathlib.Data.List.Nodup

/-!
# Lists of pairs, joined lists, and the first element of each key

What is found under a key is in the list, and a pair in front is found before all others.  What is
joined by a separator is made of the separator and of the parts, and each part stands in it as it
is.

`List.keepFirst key l` keeps, of all elements of `l` with one key, only the first.  Nothing is
lost by that if the key determines the elements, which is `List.InjOn`.

## Main results

* `List.mem_of_lookup`, `List.lookup_cons_eq_ite` — what is found under a key.
* `List.eq_or_mem_of_mem_intercalate` — an element is the separator or one of a part.
* `List.infix_intercalate` — the parts stand in what is joined.
* `List.nodup_map_keepFirst` — no key is left twice.
* `List.exists_mem_keepFirst` — every key is left.
* `List.find?_keepFirst` — a search by key finds what it finds in the whole list.
* `List.keepFirst_concat` — one more element is kept if its key is new.
-/

namespace List

/-! ### Looking up -/

section Lookup

variable {α β : Type*} [BEq α] [LawfulBEq α]

theorem mem_of_lookup {key : α} {value : β} {l : List (α × β)}
    (h : l.lookup key = some value) : (key, value) ∈ l := by
  obtain ⟨before, behind, rfl, -⟩ := lookup_eq_some_iff.mp h
  exact mem_append_right before mem_cons_self

theorem lookup_cons_eq_ite [DecidableEq α] (key other : α) (value : β) (l : List (α × β)) :
    ((other, value) :: l).lookup key = if key = other then some value else l.lookup key := by
  rw [lookup_cons]
  by_cases h : key = other
  · simp [h]
  · rw [if_neg h, beq_eq_false_iff_ne.mpr h]

end Lookup

/-! ### Joined lists -/

section Intercalate

variable {α : Type*} {parts : List (List α)}

theorem eq_or_mem_of_mem_intercalate {separator a : α} (h : a ∈ [separator].intercalate parts) :
    a = separator ∨ ∃ part ∈ parts, a ∈ part := by
  induction parts with
  | nil => cases h
  | cons part rest ih =>
    cases rest with
    | nil =>
      rw [intercalate_singleton] at h
      exact Or.inr ⟨part, mem_cons_self, h⟩
    | cons part' rest =>
      rw [intercalate_cons_cons, mem_append, mem_append, mem_singleton] at h
      rcases h with (h | h) | h
      · exact Or.inr ⟨part, mem_cons_self, h⟩
      · exact Or.inl h
      · exact (ih h).imp_right fun ⟨p, hp, ha⟩ => ⟨p, mem_cons_of_mem _ hp, ha⟩

theorem infix_intercalate {part : List α} (h : part ∈ parts) (separator : List α) :
    part <:+: separator.intercalate parts := by
  induction parts with
  | nil => cases h
  | cons part' rest ih =>
    cases rest with
    | nil =>
      have hpart : separator.intercalate [part'] = part := by
        rw [intercalate_singleton, mem_singleton.mp h]
      exact hpart.symm ▸ infix_rfl
    | cons part'' rest =>
      rw [intercalate_cons_cons]
      rcases mem_cons.mp h with rfl | h
      · exact ⟨[], separator ++ separator.intercalate (part'' :: rest), by simp⟩
      · exact (ih h).trans (suffix_append _ _).isInfix

end Intercalate

/-! ### The first element of each key -/

section KeepFirst

variable {α β γ : Type*} [DecidableEq β]

/-- Of all elements of one key only the first. -/
def keepFirst (key : α → β) : List α → List α
  | [] => []
  | a :: l => a :: (keepFirst key l).filter fun b => key b ≠ key a

@[simp] theorem keepFirst_nil (key : α → β) : ([] : List α).keepFirst key = [] := rfl

theorem keepFirst_cons (key : α → β) (a : α) (l : List α) :
    (a :: l).keepFirst key = a :: (l.keepFirst key).filter fun b => key b ≠ key a := rfl

theorem keepFirst_sublist (key : α → β) (l : List α) : (l.keepFirst key).Sublist l := by
  induction l with
  | nil => exact Sublist.slnil
  | cons a l ih => exact (filter_sublist.trans ih).cons_cons a

theorem mem_of_mem_keepFirst {key : α → β} {l : List α} {a : α} (h : a ∈ l.keepFirst key) :
    a ∈ l := (keepFirst_sublist key l).subset h

theorem exists_mem_keepFirst (key : α → β) {l : List α} {a : α} (h : a ∈ l) :
    ∃ b ∈ l.keepFirst key, key b = key a := by
  induction l with
  | nil => simp at h
  | cons c l ih =>
    by_cases hc : key c = key a
    · exact ⟨c, mem_cons_self, hc⟩
    · have ha : a ∈ l := by
        rcases mem_cons.mp h with rfl | h
        · exact absurd rfl hc
        · exact h
      obtain ⟨b, hb, hkey⟩ := ih ha
      refine ⟨b, mem_cons_of_mem _ (mem_filter.mpr ⟨hb, ?_⟩), hkey⟩
      rw [decide_eq_true_eq, hkey]
      exact Ne.symm hc

theorem nodup_map_keepFirst (key : α → β) (l : List α) :
    ((l.keepFirst key).map key).Nodup := by
  induction l with
  | nil => exact nodup_nil
  | cons a l ih =>
    rw [keepFirst_cons, map_cons, nodup_cons]
    refine ⟨fun h => ?_, ih.sublist (filter_sublist.map key)⟩
    obtain ⟨b, hb, hkey⟩ := mem_map.mp h
    exact absurd hkey (by simpa using (mem_filter.mp hb).2)

/-- The first element of a key is the first of it among those kept. -/
theorem find?_keepFirst (key : α → β) (k : β) (l : List α) :
    (l.keepFirst key).find? (fun a => key a = k) = l.find? fun a => key a = k := by
  induction l with
  | nil => rfl
  | cons a l ih =>
    rw [keepFirst_cons, find?_cons, find?_cons]
    by_cases ha : key a = k
    · simp [ha]
    · simp only [ha, decide_false]
      rw [find?_filter, ← ih]
      -- an element of the key `k` is not one of the key of `a`
      congr 1
      funext b
      by_cases hb : key b = k
      · simp [hb, Ne.symm ha]
      · simp [hb]

theorem keepFirst_concat (key : α → β) (l : List α) (a : α) :
    (l ++ [a]).keepFirst key
      = if ∃ b ∈ l, key b = key a then l.keepFirst key else l.keepFirst key ++ [a] := by
  induction l with
  | nil => simp [keepFirst]
  | cons c l ih =>
    rw [cons_append, keepFirst_cons, keepFirst_cons, ih]
    by_cases hl : ∃ b ∈ l, key b = key a
    · have hcl : ∃ b ∈ c :: l, key b = key a := by
        obtain ⟨b, hb, hkey⟩ := hl
        exact ⟨b, mem_cons_of_mem _ hb, hkey⟩
      rw [if_pos hl, if_pos hcl]
    · rw [if_neg hl, filter_append]
      by_cases hc : key c = key a
      · rw [if_pos ⟨c, mem_cons_self, hc⟩]
        simp [hc]
      · rw [if_neg (by simpa [hc] using hl)]
        simp [Ne.symm hc]

theorem map_keepFirst (f : α → γ) (key : γ → β) (l : List α) :
    (l.keepFirst fun a => key (f a)).map f = (l.map f).keepFirst key := by
  induction l with
  | nil => rfl
  | cons a l ih =>
    rw [keepFirst_cons, map_cons, map_cons, keepFirst_cons, ← ih, filter_map]
    rfl

/-! ### Keys that determine elements -/

/-- No two elements have one key and differ. -/
def InjOn (key : α → β) (l : List α) : Prop := ∀ a ∈ l, ∀ b ∈ l, key a = key b → a = b

omit [DecidableEq β] in
theorem injOn_nil (key : α → β) : ([] : List α).InjOn key := fun _ ha => absurd ha not_mem_nil

omit [DecidableEq β] in
theorem injOn_concat_iff {key : α → β} {l : List α} {a : α} :
    (l ++ [a]).InjOn key ↔ l.InjOn key ∧ ∀ b ∈ l, key b = key a → b = a := by
  constructor
  · intro h
    refine ⟨fun b hb c hc => ?_, fun b hb => ?_⟩
    · exact h b (mem_append_left _ hb) c (mem_append_left _ hc)
    · exact h b (mem_append_left _ hb) a (mem_append_right _ (mem_singleton_self a))
  · rintro ⟨hold, hnew⟩ b hb c hc hkey
    rw [mem_append, mem_singleton] at hb hc
    rcases hb with hb | rfl
    · rcases hc with hc | rfl
      · exact hold b hb c hc hkey
      · exact hnew b hb hkey
    · rcases hc with hc | rfl
      · exact (hnew c hc hkey.symm).symm
      · rfl

omit [DecidableEq β] in
theorem InjOn.left {key : α → β} {l m : List α} (h : (l ++ m).InjOn key) : l.InjOn key :=
  fun a ha b hb => h a (mem_append_left _ ha) b (mem_append_left _ hb)

/-- If the key determines the elements, the first of a key is any of it. -/
theorem InjOn.mem_keepFirst {key : α → β} {l : List α} (h : l.InjOn key) {a : α} (ha : a ∈ l) :
    a ∈ l.keepFirst key := by
  obtain ⟨b, hb, hkey⟩ := exists_mem_keepFirst key ha
  rw [← h b (mem_of_mem_keepFirst hb) a ha hkey]
  exact hb

end KeepFirst

end List
