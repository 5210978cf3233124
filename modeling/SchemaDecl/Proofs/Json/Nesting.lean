import SchemaDecl.Json.Printer
import SchemaDecl.Proofs.Json.Spelling

/-!
# How deep a document is nested

The number of brackets around the innermost part of a document can be told from the document, and
it can be counted in a text.  For a document written without layout both are the same: the brackets
of its text are those of its parts, and what looks like one inside a string is none.

## Main definitions

* `Json.nesting` — the number of brackets around the innermost part of a document.
* `Json.textNesting` — the greatest number of brackets that are open at once in a text.
* `Json.Numberless` — there are no numbers in a document.

## Main results

* `Json.compactItems_cons`, `Json.compactMembers_cons` — the first part and those after it.
* `Json.textNesting_compact` — **the text of a document is nested as deep as the document**.
-/

namespace SchemaDecl.Json

mutual

/-- The number of brackets around the innermost part of a document. -/
def nesting {σ : Type} : Json σ → Nat
  | .null => 0
  | .bool _ => 0
  | .number _ => 0
  | .string _ => 0
  | .array items => nestingItems items + 1
  | .object members => nestingMembers members + 1
termination_by structural json => json

/-- The same for the items of an array. -/
def nestingItems {σ : Type} : List (Json σ) → Nat
  | [] => 0
  | item :: rest => max item.nesting (nestingItems rest)
termination_by structural items => items

/-- The same for the members of an object. -/
def nestingMembers {σ : Type} : List (σ × Json σ) → Nat
  | [] => 0
  | (_, value) :: rest => max value.nesting (nestingMembers rest)
termination_by structural members => members

end

mutual

/-- There are no numbers in the document. -/
def Numberless {σ : Type} : Json σ → Prop
  | .null => True
  | .bool _ => True
  | .number _ => False
  | .string _ => True
  | .array items => NumberlessItems items
  | .object members => NumberlessMembers members
termination_by structural json => json

/-- The same for the items of an array. -/
def NumberlessItems {σ : Type} : List (Json σ) → Prop
  | [] => True
  | item :: rest => item.Numberless ∧ NumberlessItems rest
termination_by structural items => items

/-- The same for the members of an object. -/
def NumberlessMembers {σ : Type} : List (σ × Json σ) → Prop
  | [] => True
  | (_, value) :: rest => value.Numberless ∧ NumberlessMembers rest
termination_by structural members => members

end

/-! ### Items and members after the first ones -/

/-- Items as they are written after others. -/
def moreItems (items : List (Json String)) : List Char :=
  items.flatMap fun item => ',' :: item.compactChars

/-- Members as they are written after others. -/
def moreMembers (members : List (String × Json String)) : List Char :=
  members.flatMap fun m => ',' :: spellChars m.1.toList ++ ':' :: m.2.compactChars

@[simp] theorem moreItems_nil : moreItems [] = [] := rfl

@[simp] theorem moreItems_cons (item : Json String) (rest : List (Json String)) :
    moreItems (item :: rest) = ',' :: (item.compactChars ++ moreItems rest) := rfl

@[simp] theorem moreMembers_nil : moreMembers [] = [] := rfl

@[simp] theorem moreMembers_cons (name : String) (value : Json String)
    (rest : List (String × Json String)) :
    moreMembers ((name, value) :: rest)
      = ',' :: (spellChars name.toList ++ ':' :: value.compactChars ++ moreMembers rest) := rfl

theorem compactItems_cons (item : Json String) (rest : List (Json String)) :
    compactItems (item :: rest) = item.compactChars ++ moreItems rest := by
  induction rest generalizing item with
  | nil => exact (List.append_nil _).symm
  | cons next rest ih =>
    rw [compactItems, ih, moreItems_cons]
    exact List.cons_ne_nil _ _

theorem compactMembers_cons (name : String) (value : Json String)
    (rest : List (String × Json String)) :
    compactMembers ((name, value) :: rest)
      = spellChars name.toList ++ ':' :: value.compactChars ++ moreMembers rest := by
  induction rest generalizing name value with
  | nil => exact (List.append_nil _).symm
  | cons next rest ih =>
    rw [compactMembers, ih, moreMembers_cons]
    exact List.cons_ne_nil _ _

/-! ### Brackets of a text -/

/-- Where a character of a text stands. -/
inductive Place
  | outside
  /-- Inside a string. -/
  | inside
  /-- Inside a string, after a backslash. -/
  | escaped

/-- The greatest number of brackets open at once in the rest of a text, if `depth` are open
before it.  Brackets inside strings do not count. -/
def openBrackets : Place → (depth : Nat) → List Char → Nat
  | _, depth, [] => depth
  | .outside, depth, c :: rest =>
    if c = '"' then openBrackets .inside depth rest
    else if c = '[' ∨ c = '\x7b' then openBrackets .outside (depth + 1) rest
    else if c = ']' ∨ c = '\x7d' then max depth (openBrackets .outside (depth - 1) rest)
    else openBrackets .outside depth rest
  | .inside, depth, c :: rest =>
    if c = '"' then openBrackets .outside depth rest
    else if c = '\\' then openBrackets .escaped depth rest
    else openBrackets .inside depth rest
  | .escaped, depth, _ :: rest => openBrackets .inside depth rest

/-- The greatest number of brackets open at once in a text. -/
def textNesting (text : String) : Nat := openBrackets .outside 0 text.toList

theorem le_openBrackets (place : Place) (depth : Nat) (cs : List Char) :
    depth ≤ openBrackets place depth cs := by
  -- along the text: the depth grows at an opening bracket, and is noted at a closing one
  induction cs generalizing place depth with
  | nil => cases place <;> exact Nat.le_refl depth
  | cons c rest ih =>
    cases place with
    | outside =>
      rw [openBrackets]
      split_ifs
      · exact ih _ _
      · exact Nat.le_trans (Nat.le_succ depth) (ih _ _)
      · exact Nat.le_max_left _ _
      · exact ih _ _
    | inside =>
      rw [openBrackets]
      split_ifs <;> exact ih _ _
    | escaped => exact ih _ _

/-- A hexadecimal digit ends no string and begins no escape. -/
theorem openBrackets_inside_hex {c : Char} {n : Nat} (h : hexValue? c = some n) (depth : Nat)
    (rest : List Char) :
    openBrackets .inside depth (c :: rest) = openBrackets .inside depth rest := by
  have hquote : c ≠ '"' := by
    rintro rfl
    cases h
  have hbackslash : c ≠ '\\' := by
    rintro rfl
    cases h
  rw [openBrackets, if_neg hquote, if_neg hbackslash]

/-- A character of a string has no brackets, however it is written. -/
theorem openBrackets_inside_spell (c : Char) (depth : Nat) (rest : List Char) :
    openBrackets .inside depth (spell c ++ rest) = openBrackets .inside depth rest := by
  have hspell := spelledAs_spell c
  generalize spell c = cs at hspell ⊢
  cases hspell with
  | letter he hletter => rfl
  | @digits h₁ h₂ h₃ h₄ hvalue hcontrol =>
    obtain ⟨_, hone, hvalue⟩ := Option.bind_eq_some_iff.mp hvalue
    obtain ⟨_, htwo, hvalue⟩ := Option.bind_eq_some_iff.mp hvalue
    obtain ⟨_, hthree, hvalue⟩ := Option.bind_eq_some_iff.mp hvalue
    obtain ⟨_, hfour, -⟩ := Option.bind_eq_some_iff.mp hvalue
    have hstart : openBrackets .inside depth ('\\' :: 'u' :: h₁ :: h₂ :: h₃ :: h₄ :: rest)
        = openBrackets .inside depth (h₁ :: h₂ :: h₃ :: h₄ :: rest) := rfl
    exact hstart.trans (by
      rw [openBrackets_inside_hex hone, openBrackets_inside_hex htwo,
        openBrackets_inside_hex hthree, openBrackets_inside_hex hfour])
  | self hquote hbackslash hplain =>
    rw [List.singleton_append, openBrackets, if_neg hquote, if_neg hbackslash]

/-- A string has no brackets. -/
theorem openBrackets_spellChars (cs : List Char) (depth : Nat) (rest : List Char) :
    openBrackets .outside depth (spellChars cs ++ rest) = openBrackets .outside depth rest := by
  have hinside : openBrackets .inside depth (cs.flatMap spell ++ '"' :: rest)
      = openBrackets .outside depth rest := by
    induction cs with
    | nil => rfl
    | cons c cs ih =>
      rw [List.flatMap_cons, List.append_assoc, openBrackets_inside_spell, ih]
  rw [spellChars, List.append_assoc]
  exact hinside

/-! ### Brackets of documents -/

theorem openBrackets_open {c : Char} (h : c = '[' ∨ c = '\x7b') (depth : Nat) (rest : List Char) :
    openBrackets .outside depth (c :: rest) = openBrackets .outside (depth + 1) rest := by
  rcases h with rfl | rfl <;> rfl

theorem openBrackets_close {c : Char} (h : c = ']' ∨ c = '\x7d') (depth : Nat)
    (rest : List Char) :
    openBrackets .outside (depth + 1) (c :: rest)
      = max (depth + 1) (openBrackets .outside depth rest) := by
  rcases h with rfl | rfl <;> rfl

/-- Layout, commas, colons and the letters of words are no brackets. -/
theorem openBrackets_outside_cons {c : Char}
    (h : c ∉ ['"', '[', '\x7b', ']', '\x7d']) (depth : Nat) (rest : List Char) :
    openBrackets .outside depth (c :: rest) = openBrackets .outside depth rest := by
  simp only [List.mem_cons, List.not_mem_nil, or_false, not_or] at h
  obtain ⟨hquote, hbracket, hbrace, hbracket', hbrace'⟩ := h
  rw [openBrackets, if_neg hquote, if_neg (not_or.mpr ⟨hbracket, hbrace⟩),
    if_neg (not_or.mpr ⟨hbracket', hbrace'⟩)]

mutual

/-- **The brackets of a document**, before any other text. -/
theorem openBrackets_compactChars : ∀ (json : Json String) (depth : Nat) (rest : List Char),
    json.Numberless → openBrackets .outside depth (json.compactChars ++ rest)
      = max (depth + json.nesting) (openBrackets .outside depth rest)
  | .null, depth, rest, _ => by
    rw [nesting, Nat.add_zero, Nat.max_eq_right (le_openBrackets _ _ _)]
    rfl
  | .bool true, depth, rest, _ => by
    rw [nesting, Nat.add_zero, Nat.max_eq_right (le_openBrackets _ _ _)]
    rfl
  | .bool false, depth, rest, _ => by
    rw [nesting, Nat.add_zero, Nat.max_eq_right (le_openBrackets _ _ _)]
    rfl
  | .string s, depth, rest, _ => by
    rw [nesting, Nat.add_zero, Nat.max_eq_right (le_openBrackets _ _ _)]
    exact openBrackets_spellChars s.toList depth rest
  | .array [], depth, rest, _ => by
    change openBrackets .outside depth ('[' :: ']' :: rest) = _
    rw [openBrackets_open (Or.inl rfl), openBrackets_close (Or.inl rfl)]
    rfl
  -- inside the brackets the depth is one more, and behind them it is what it was
  | .array (item :: more), depth, rest, ⟨hitem, hmore⟩ => by
    rw [compactChars, compactItems_cons, nesting, nestingItems, List.cons_append, List.cons_append,
      List.append_assoc, List.append_assoc, openBrackets_open (Or.inl rfl),
      openBrackets_compactChars item _ _ hitem, openBrackets_moreItems more _ _ hmore,
      List.singleton_append, openBrackets_close (Or.inl rfl)]
    omega
  | .object [], depth, rest, _ => by
    change openBrackets .outside depth ('\x7b' :: '\x7d' :: rest) = _
    rw [openBrackets_open (Or.inr rfl), openBrackets_close (Or.inr rfl)]
    rfl
  | .object ((name, value) :: more), depth, rest, ⟨hvalue, hmore⟩ => by
    rw [compactChars, compactMembers_cons, nesting, nestingMembers, List.cons_append,
      List.cons_append, List.append_assoc, List.append_assoc, List.append_assoc, List.cons_append,
      openBrackets_open (Or.inr rfl), openBrackets_spellChars,
      openBrackets_outside_cons (by decide), openBrackets_compactChars value _ _ hvalue,
      openBrackets_moreMembers more _ _ hmore, List.singleton_append,
      openBrackets_close (Or.inr rfl)]
    omega

theorem openBrackets_moreItems : ∀ (more : List (Json String)) (depth : Nat) (rest : List Char),
    NumberlessItems more → openBrackets .outside depth (moreItems more ++ rest)
      = max (depth + nestingItems more) (openBrackets .outside depth rest)
  | [], depth, rest, _ => (Nat.max_eq_right (le_openBrackets _ _ _)).symm
  | item :: more, depth, rest, ⟨hitem, hmore⟩ => by
    rw [moreItems_cons, List.cons_append, openBrackets_outside_cons (by decide), List.append_assoc,
      openBrackets_compactChars item depth _ hitem, openBrackets_moreItems more depth rest hmore,
      nestingItems]
    omega

theorem openBrackets_moreMembers : ∀ (more : List (String × Json String)) (depth : Nat)
    (rest : List Char), NumberlessMembers more →
    openBrackets .outside depth (moreMembers more ++ rest)
      = max (depth + nestingMembers more) (openBrackets .outside depth rest)
  | [], depth, rest, _ => (Nat.max_eq_right (le_openBrackets _ _ _)).symm
  | (name, value) :: more, depth, rest, ⟨hvalue, hmore⟩ => by
    rw [moreMembers_cons, List.cons_append, openBrackets_outside_cons (by decide),
      List.append_assoc, List.append_assoc, openBrackets_spellChars, List.cons_append,
      openBrackets_outside_cons (by decide), openBrackets_compactChars value depth _ hvalue,
      openBrackets_moreMembers more depth rest hmore, nestingMembers]
    omega

end

/-- **The text of a document is nested as deep as the document.** -/
theorem textNesting_compact {json : Json String} (h : json.Numberless) :
    textNesting json.compact = json.nesting := by
  have hchars := openBrackets_compactChars json 0 [] h
  rw [textNesting, compact, String.toList_ofList, ← List.append_nil json.compactChars, hchars]
  exact (Nat.max_eq_left (Nat.zero_le _)).trans (Nat.zero_add _)

end SchemaDecl.Json
