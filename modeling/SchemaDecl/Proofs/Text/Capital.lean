import SchemaDecl.Proofs.Text.Words

/-!
# Capital letters

A capital letter is an upper-case letter in the narrow sense of Unicode's general category `Lu`.
The wider property `Uppercase` also has Roman numerals and letters in circles and squares, which
are listed apart.  What a respelled name begins with is the upper-case form of one character of the
name: the first one if the name is capitalized, and the first one of a word in camel case.  A
character without case is its own upper-case form, so it is not made a capital by either.

## Main definitions

* `Text.isCapital`, `Text.hasCapital` — capital letters, and the characters that have one.
* `Text.beginsWithCapital` — whether a text begins with a capital letter.

## Main results

* `Text.flatten_words` — the words of a name are its word characters.
* `Text.beginsWithCapital_capitalize`, `Text.beginsWithCapital_upperCamelCase` — **when a respelled
  name begins with a capital**.
* `Text.upperCamelCase_eq_empty_iff` — camel case leaves nothing of a name without words.
-/

namespace SchemaDecl

/-- The characters of the property `Uppercase` that are no letters: Roman numerals, and letters in
circles and squares. -/
def otherUppercaseTable : CodeTable :=
  [⟨0x2160, 0x216F, 1⟩, ⟨0x24B6, 0x24CF, 1⟩, ⟨0x1F130, 0x1F149, 1⟩, ⟨0x1F150, 0x1F169, 1⟩,
    ⟨0x1F170, 0x1F189, 1⟩]

namespace Text

/-- Whether a character is a capital letter. -/
def isCapital (c : Char) : Bool := isUppercase c && !otherUppercaseTable.hasChar c

/-- Whether the upper-case form of a character begins with a capital letter. -/
def hasCapital (c : Char) : Bool := (uppercase c).head?.any isCapital

/-- Whether a text begins with a capital letter. -/
def beginsWithCapital (s : String) : Bool := s.toList.head?.any isCapital

/-- The letters of ASCII have capitals. -/
theorem hasCapital_of_isAlpha {c : Char} (h : c.isAlpha = true) : hasCapital c = true := by
  have hletters : ∀ n < 123, (Char.ofNat n).isAlpha = true → hasCapital (Char.ofNat n) = true := by
    decide +kernel
  have hlt : c.toNat < 123 := by
    rcases Bool.or_eq_true_iff.mp h with hupper | hlower
    · have hbounds : 65 ≤ c.toNat ∧ c.toNat ≤ 90 := of_decide_eq_true hupper
      omega
    · have hbound : c.toNat ≤ 122 := of_decide_eq_true (Bool.and_eq_true_iff.mp hlower).2
      omega
  have hself : Char.ofNat c.toNat = c := Char.ofNat_toNat c
  rw [← hself] at h ⊢
  exact hletters c.toNat hlt h

/-! ### The words of a name -/

theorem flatten_pieces (cs : List Char) : (pieces cs).flatten = cs.filter isWordChar := by
  unfold pieces
  induction cs with
  | nil => simp
  | cons c cs ih =>
    rw [List.splitOnP_cons_eq_if_modifyHead]
    by_cases hc : isWordChar c = true
    · -- the character joins the first piece of the rest
      obtain ⟨first, rest, hpieces⟩ := List.exists_cons_of_ne_nil
        (List.splitOnP_ne_nil (fun c => !isWordChar c) cs)
      rw [hpieces] at ih ⊢
      rw [List.filter_cons_of_pos hc, ← ih]
      simp [hc]
    · rw [List.filter_cons_of_neg hc, ← ih]
      simp [hc]

/-- **The words of a name are its word characters**, in order. -/
theorem flatten_words (s : String) : (words s).flatten = s.toList.filter isWordChar := by
  have hpieces : ∀ ps : List (List Char),
      (ps.flatMap (caseWords .boundary [])).flatten = ps.flatten := by
    intro ps
    induction ps with
    | nil => rfl
    | cons p ps ih =>
      rw [List.flatMap_cons, List.flatten_append, ih, flatten_caseWords, List.reverse_nil,
        List.nil_append, List.flatten_cons]
  rw [words, hpieces, flatten_pieces]

/-! ### Respelled names -/

/-- Capitalized words begin with the upper-case form of their first character. -/
theorem head?_flatMap_capitalizeWord (ws : List (List Char)) :
    (ws.flatMap capitalizeWord).head? = ws.flatten.head?.bind fun c => (uppercase c).head? := by
  induction ws with
  | nil => rfl
  | cons w ws ih =>
    cases w with
    | nil => exact ih
    | cons c rest =>
      obtain ⟨d, ds, hd⟩ := List.exists_cons_of_ne_nil (uppercase_ne_nil c)
      simp [capitalizeWord, hd]

theorem head?_upperCamelCase (s : String) :
    (upperCamelCase s).toList.head?
      = (s.toList.find? isWordChar).bind fun c => (uppercase c).head? := by
  rw [upperCamelCase, String.toList_ofList, head?_flatMap_capitalizeWord, flatten_words,
    List.head?_filter]

/-- **Camel case begins with a capital** if the first word character of the name has one. -/
theorem beginsWithCapital_upperCamelCase (s : String) :
    beginsWithCapital (upperCamelCase s) = (s.toList.find? isWordChar).any hasCapital := by
  rw [beginsWithCapital, head?_upperCamelCase]
  cases s.toList.find? isWordChar <;> rfl

/-- Camel case leaves nothing of a name exactly if no word character is in it. -/
theorem upperCamelCase_eq_empty_iff (s : String) :
    upperCamelCase s = "" ↔ ∀ c ∈ s.toList, isWordChar c = false := by
  have hhead : upperCamelCase s = "" ↔ (upperCamelCase s).toList.head? = none := by
    rw [List.head?_eq_none_iff, String.toList_eq_nil_iff]
  have hfind : s.toList.find? isWordChar = none ↔ ∀ c ∈ s.toList, isWordChar c = false := by
    simp only [List.find?_eq_none, Bool.not_eq_true]
  rw [hhead, head?_upperCamelCase, ← hfind]
  cases s.toList.find? isWordChar with
  | none => simp
  | some c =>
    obtain ⟨d, ds, hd⟩ := List.exists_cons_of_ne_nil (uppercase_ne_nil c)
    simp [hd]

theorem capitalize_ne_empty {s : String} (h : s ≠ "") : capitalize s ≠ "" := by
  rw [capitalize]
  split
  · next hcs => exact absurd (String.toList_eq_nil_iff.mp hcs) h
  · next c rest hcs =>
    obtain ⟨d, ds, hd⟩ := List.exists_cons_of_ne_nil (uppercase_ne_nil c)
    intro hempty
    have hlist := congrArg String.toList hempty
    rw [String.toList_ofList, hd] at hlist
    cases hlist

/-- **A capitalized text begins with a capital** if its first character has one. -/
theorem beginsWithCapital_capitalize (s : String) :
    beginsWithCapital (capitalize s) = s.toList.head?.any hasCapital := by
  rw [beginsWithCapital, capitalize]
  split
  · next hcs =>
    rw [hcs]
    rfl
  · next c rest hcs =>
    obtain ⟨d, ds, hd⟩ := List.exists_cons_of_ne_nil (uppercase_ne_nil c)
    rw [hcs, String.toList_ofList, hd]
    simp [hasCapital, hd]

end Text

end SchemaDecl
