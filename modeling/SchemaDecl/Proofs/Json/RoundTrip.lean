import SchemaDecl.Json.Reader
import SchemaDecl.Proofs.Json.Nesting

/-!
# Documents are read as they were written

A document without numbers that is written without layout is read as it was, by each reader that
reads its strings, if as many brackets may be open at once as it has around its innermost part.

## Main definitions

* `Json.map` — a document with other strings.
* `Json.Dialect.Reads` — a reader takes strings as they are written.

## Main results

* `Json.Dialect.value_compactChars` — a value is read as it was written, whatever follows.
* `Json.ofTextLenient?_compact` — **a document is read as it was written**.
-/

namespace SchemaDecl.Json

mutual

/-- The document with its strings replaced. -/
def map {σ τ : Type} (f : σ → τ) : Json σ → Json τ
  | .null => .null
  | .bool value => .bool value
  | .number literal => .number literal
  | .string value => .string (f value)
  | .array items => .array (mapItems f items)
  | .object members => .object (mapMembers f members)
termination_by structural json => json

/-- Each of the documents with its strings replaced. -/
def mapItems {σ τ : Type} (f : σ → τ) : List (Json σ) → List (Json τ)
  | [] => []
  | item :: rest => item.map f :: mapItems f rest
termination_by structural items => items

/-- The members with their names and all other strings replaced. -/
def mapMembers {σ τ : Type} (f : σ → τ) : List (σ × Json σ) → List (τ × Json τ)
  | [] => []
  | (name, value) :: rest => (f name, value.map f) :: mapMembers f rest
termination_by structural members => members

end

theorem length_le_length_moreItems (items : List (Json String)) :
    items.length ≤ (moreItems items).length := by
  induction items with
  | nil => exact Nat.le_refl 0
  | cons item rest ih =>
    rw [moreItems_cons, List.length_cons, List.length_cons, List.length_append]
    omega

theorem length_le_length_moreMembers (members : List (String × Json String)) :
    members.length ≤ (moreMembers members).length := by
  induction members with
  | nil => exact Nat.le_refl 0
  | cons member rest ih =>
    rw [moreMembers_cons, List.length_cons, List.length_cons, List.length_append]
    omega

/-! ### Reading items and members -/

theorem skipLayout_cons {c : Char} (h : isLayoutChar c = false) (rest : List Char) :
    skipLayout (c :: rest) = c :: rest := by
  rw [skipLayout, List.dropWhile_cons_of_neg (by simp [h])]

/-- An item can begin here: there is neither layout nor the end of the array. -/
def StartsItem (cs : List Char) : Prop :=
  ∃ c rest, cs = c :: rest ∧ isLayoutChar c = false ∧ c ≠ ']'

theorem startsItem_compactChars {json : Json String} (h : json.Numberless) (rest : List Char) :
    StartsItem (json.compactChars ++ rest) := by
  cases json with
  | null => exact ⟨_, _, rfl, by decide, by decide⟩
  | bool value => cases value <;> exact ⟨_, _, rfl, by decide, by decide⟩
  | number literal => exact h.elim
  | string value => exact ⟨_, _, rfl, by decide, by decide⟩
  | array items => exact ⟨_, _, rfl, by decide, by decide⟩
  | object members => exact ⟨_, _, rfl, by decide, by decide⟩

section Parts

variable {α σ : Type} {item : List Char → Except Fault (α × List Char)}
  {name : List Char → Except Fault (σ × List Char)} {a : α} {key : σ} {cs after rest : List Char}

/-- The first item is read, and then those after it. -/
theorem items_first (hstart : StartsItem cs) (hitem : item cs = .ok (a, rest)) (bound : Nat) :
    items item (bound + 1) true cs
      = (items item bound false rest).map fun r => (a :: r.1, r.2) := by
  obtain ⟨c, tail, rfl, hlayout, hend⟩ := hstart
  rw [items, skipLayout_cons hlayout]
  simp only [hend, if_false, if_true, hitem]
  rfl

theorem items_next (hstart : StartsItem cs) (hitem : item cs = .ok (a, rest)) (bound : Nat) :
    items item (bound + 1) false (',' :: cs)
      = (items item bound false rest).map fun r => (a :: r.1, r.2) := by
  obtain ⟨c, tail, rfl, hlayout, hend⟩ := hstart
  have hcomma : skipLayout (',' :: c :: tail) = ',' :: c :: tail :=
    skipLayout_cons (by decide) _
  rw [items, hcomma]
  simp only [skipLayout_cons hlayout, hend, hitem]
  rfl

theorem members_first (hname : name cs = .ok (key, ':' :: after))
    (hitem : item after = .ok (a, rest)) (bound : Nat) :
    members name item (bound + 1) true ('"' :: cs)
      = (members name item bound false rest).map fun r => ((key, a) :: r.1, r.2) := by
  have hquote : skipLayout ('"' :: cs) = '"' :: cs := skipLayout_cons (by decide) _
  have hvalue : memberValue item (':' :: after) = .ok (a, rest) := by
    rw [memberValue, skipLayout_cons (by decide)]
    exact hitem
  rw [members, hquote]
  simp only [hname, Except.bind, bind, hvalue]
  rfl

theorem members_next (hname : name cs = .ok (key, ':' :: after))
    (hitem : item after = .ok (a, rest)) (bound : Nat) :
    members name item (bound + 1) false (',' :: '"' :: cs)
      = (members name item bound false rest).map fun r => ((key, a) :: r.1, r.2) := by
  have hcomma : skipLayout (',' :: '"' :: cs) = ',' :: '"' :: cs := skipLayout_cons (by decide) _
  have hquote : skipLayout ('"' :: cs) = '"' :: cs := skipLayout_cons (by decide) _
  have hvalue : memberValue item (':' :: after) = .ok (a, rest) := by
    rw [memberValue, skipLayout_cons (by decide)]
    exact hitem
  rw [members, hcomma]
  simp only [hquote, hname, Except.bind, bind, hvalue]
  rfl

end Parts

/-! ### Reading values -/

namespace Dialect

/-- Strings are read as they were written. -/
def Reads {σ : Type} (d : Dialect σ) (f : String → σ) : Prop :=
  ∀ (s : String) (rest : List Char),
    d.string (s.toList.flatMap spell ++ '"' :: rest) = .ok (f s, rest)

section Brackets

variable {σ : Type} (d : Dialect σ) (depth : Nat) (rest : List Char)

theorem value_quote :
    d.value depth ('"' :: rest) = (d.string rest).map fun r => (.string r.1, r.2) := by
  have hstart : skipLayout ('"' :: rest) = '"' :: rest := skipLayout_cons (by decide) _
  rw [value.eq_def]
  cases h : d.string rest <;> simp [hstart, h, Except.map, bind, Except.bind, pure, Except.pure]

theorem value_bracket :
    d.value (depth + 1) ('[' :: rest)
      = (items (d.value depth) (rest.length + 1) true rest).map fun r => (.array r.1, r.2) := by
  have hstart : skipLayout ('[' :: rest) = '[' :: rest := skipLayout_cons (by decide) _
  rw [value.eq_def]
  cases h : items (d.value depth) (rest.length + 1) true rest <;>
    simp [hstart, h, Except.map, bind, Except.bind, pure, Except.pure]

theorem value_brace :
    d.value (depth + 1) ('\x7b' :: rest)
      = (members d.string (d.value depth) (rest.length + 1) true rest).map
          fun r => (.object r.1, r.2) := by
  have hstart : skipLayout ('\x7b' :: rest) = '\x7b' :: rest := skipLayout_cons (by decide) _
  rw [value.eq_def]
  cases h : members d.string (d.value depth) (rest.length + 1) true rest <;>
    simp [hstart, h, Except.map, bind, Except.bind, pure, Except.pure]

end Brackets

section Reads

variable {σ : Type} {d : Dialect σ} {f : String → σ}

mutual

/-- **A value is read as it was written**, whatever follows. -/
theorem value_compactChars (hd : d.Reads f) : ∀ (json : Json String) (depth : Nat)
    (rest : List Char), json.Numberless → json.nesting ≤ depth →
    d.value depth (json.compactChars ++ rest) = .ok (json.map f, rest)
  | .null, depth, rest, _, _ => by
    rw [compactChars, value.eq_def]
    rfl
  | .bool true, depth, rest, _, _ => by
    rw [compactChars, value.eq_def]
    rfl
  | .bool false, depth, rest, _, _ => by
    rw [compactChars, value.eq_def]
    rfl
  | .string s, depth, rest, _, _ => by
    rw [compactChars, spellChars, List.append_assoc, List.cons_append, value_quote,
      List.singleton_append, hd s rest]
    rfl
  | .array [], depth + 1, rest, _, hdepth => by
    rw [compactChars, compactItems, List.append_assoc, List.cons_append, value_bracket]
    rfl
  | .array (item :: more), depth + 1, rest, hnumbers, hdepth => by
    obtain ⟨hitem, hmore⟩ := hnumbers
    obtain ⟨hdepthItem, hdepthMore⟩ := Nat.max_le.mp (Nat.succ_le_succ_iff.mp hdepth)
    have htail : compactItems (item :: more) ++ [']'] ++ rest
        = item.compactChars ++ (moreItems more ++ ']' :: rest) := by
      rw [compactItems_cons]
      simp
    rw [compactChars, List.cons_append, List.cons_append, htail, value_bracket,
      items_first (startsItem_compactChars hitem _)
        (value_compactChars hd item depth _ hitem hdepthItem),
      items_moreItems hd more depth _ rest hmore hdepthMore ?_]
    · rfl
    · -- the bound on items is the number of characters, and each item has one
      have := length_le_length_moreItems more
      simp only [List.length_append, List.length_cons]
      omega
  | .object [], depth + 1, rest, _, hdepth => by
    rw [compactChars, compactMembers, List.append_assoc, List.cons_append, value_brace]
    rfl
  | .object ((name, value) :: more), depth + 1, rest, hnumbers, hdepth => by
    obtain ⟨hvalue, hmore⟩ := hnumbers
    obtain ⟨hdepthValue, hdepthMore⟩ := Nat.max_le.mp (Nat.succ_le_succ_iff.mp hdepth)
    have htail : compactMembers ((name, value) :: more) ++ ['\x7d'] ++ rest
        = '"' :: (name.toList.flatMap spell ++
            '"' :: ':' :: (value.compactChars ++ (moreMembers more ++ '\x7d' :: rest))) := by
      rw [compactMembers_cons, spellChars]
      simp
    rw [compactChars, List.cons_append, List.cons_append, htail, value_brace,
      members_first (hd name _) (value_compactChars hd value depth _ hvalue hdepthValue),
      members_moreMembers hd more depth _ rest hmore hdepthMore ?_]
    · rfl
    · have := length_le_length_moreMembers more
      simp only [List.length_append, List.length_cons]
      omega

theorem items_moreItems (hd : d.Reads f) : ∀ (more : List (Json String)) (depth bound : Nat)
    (rest : List Char), NumberlessItems more → nestingItems more ≤ depth → more.length < bound →
    items (d.value depth) bound false (moreItems more ++ ']' :: rest)
      = .ok (mapItems f more, rest)
  | [], depth, bound + 1, rest, _, _, _ => rfl
  -- a comma, the next item, and the others within a bound that is one less
  | item :: more, depth, bound + 1, rest, hnumbers, hdepth, hbound => by
    obtain ⟨hitem, hmore⟩ := hnumbers
    obtain ⟨hdepthItem, hdepthMore⟩ := Nat.max_le.mp hdepth
    rw [moreItems_cons, List.cons_append, List.append_assoc,
      items_next (startsItem_compactChars hitem _)
        (value_compactChars hd item depth _ hitem hdepthItem),
      items_moreItems hd more depth bound rest hmore hdepthMore (Nat.lt_of_succ_lt_succ hbound)]
    rfl

theorem members_moreMembers (hd : d.Reads f) : ∀ (more : List (String × Json String))
    (depth bound : Nat) (rest : List Char),
    NumberlessMembers more → nestingMembers more ≤ depth → more.length < bound →
    members d.string (d.value depth) bound false (moreMembers more ++ '\x7d' :: rest)
      = .ok (mapMembers f more, rest)
  | [], depth, bound + 1, rest, _, _, _ => rfl
  | (name, value) :: more, depth, bound + 1, rest, hnumbers, hdepth, hbound => by
    obtain ⟨hvalue, hmore⟩ := hnumbers
    obtain ⟨hdepthValue, hdepthMore⟩ := Nat.max_le.mp hdepth
    have htail : moreMembers ((name, value) :: more) ++ '\x7d' :: rest
        = ',' :: '"' :: (name.toList.flatMap spell ++
            '"' :: ':' :: (value.compactChars ++ (moreMembers more ++ '\x7d' :: rest))) := by
      rw [moreMembers_cons, spellChars]
      simp
    rw [htail, members_next (hd name _) (value_compactChars hd value depth _ hvalue hdepthValue),
      members_moreMembers hd more depth bound rest hmore hdepthMore (Nat.lt_of_succ_lt_succ hbound)]
    rfl

end

end Reads

/-- A document is read as it was written. -/
theorem document_compactChars {σ : Type} {d : Dialect σ} {f : String → σ} (hd : d.Reads f)
    {json : Json String} {depth : Nat} (hnumbers : json.Numberless)
    (hdepth : json.nesting ≤ depth) : d.document depth json.compactChars = .ok (json.map f) := by
  have hvalue := value_compactChars hd json depth [] hnumbers hdepth
  rw [List.append_nil] at hvalue
  rw [document, hvalue]
  rfl

/-- To the lenient reader a string that was written is made of characters. -/
theorem reads_lenient : lenient.Reads some := by
  intro s rest
  change (skipString (s.toList.flatMap spell ++ '"' :: rest)).map _ = _
  rw [skipString_spelled, readString_spelled]
  simp [Except.map, Except.toOption, String.ofList_toList]

end Dialect

mutual

/-- There are no more brackets around a part of a document than characters in the text. -/
theorem nesting_le_length : ∀ json : Json String, json.nesting ≤ json.compactChars.length
  | .null => Nat.zero_le _
  | .bool _ => Nat.zero_le _
  | .number _ => Nat.zero_le _
  | .string _ => Nat.zero_le _
  | .array [] => by decide
  | .array (item :: more) => by
    have hitem := nesting_le_length item
    have hmore := nestingItems_le_length more
    rw [compactChars, compactItems_cons, nesting, nestingItems]
    simp only [List.length_cons, List.length_append]
    omega
  | .object [] => by decide
  | .object ((name, value) :: more) => by
    have hvalue := nesting_le_length value
    have hmore := nestingMembers_le_length more
    rw [compactChars, compactMembers_cons, nesting, nestingMembers]
    simp only [List.length_cons, List.length_append]
    omega

theorem nestingItems_le_length : ∀ more : List (Json String),
    nestingItems more ≤ (moreItems more).length
  | [] => Nat.zero_le _
  | item :: more => by
    have hitem := nesting_le_length item
    have hmore := nestingItems_le_length more
    rw [moreItems_cons, nestingItems]
    simp only [List.length_cons, List.length_append]
    omega

theorem nestingMembers_le_length : ∀ more : List (String × Json String),
    nestingMembers more ≤ (moreMembers more).length
  | [] => Nat.zero_le _
  | (name, value) :: more => by
    have hvalue := nesting_le_length value
    have hmore := nestingMembers_le_length more
    rw [moreMembers_cons, nestingMembers]
    simp only [List.length_cons, List.length_append]
    omega

end

/-- **A document is read as it was written**, by the lenient reader and whatever its nesting. -/
theorem ofTextLenient?_compact {json : Json String} (h : json.Numberless) :
    ofTextLenient? json.compact = some (json.map some) := by
  have hread := Dialect.document_compactChars Dialect.reads_lenient h (nesting_le_length json)
  rw [ofTextLenient?, compact, String.toList_ofList, hread]
  rfl

end SchemaDecl.Json
