import SchemaDecl.Proofs.Text.Capital
import SchemaDecl.Proofs.Text.Identifier

/-!
# Names after a convention

A name in snake case is made of lower-case forms, with single underscores between its words, so it
does not begin with one.  If all of a name is ASCII, then so is each form, and the respelled name
is made of letters, digits and underscores.

## Main definitions

* `Text.isAscii` — the texts in ASCII.
* `Text.isSnakeChar` — small letters, digits and the underscore.

## Main results

* `Text.head?_snakeCase_ne`, `Text.head?_upperCamelCase_ne` — respelled names do not begin with an
  underscore.
* `Text.eq_underscore_of_mem_snakeCase` — the only sign in snake case is the underscore.
* `Text.isSnakeChar_of_mem_snakeCase`, `Text.isIdentifierChar_of_mem_upperCamelCase` — **the
  characters of respelled ASCII names**.
-/

namespace SchemaDecl

namespace Text

/-! ### Forms of words -/

theorem lowercaseWord_ne_nil {word : List Char} (h : word ≠ []) : lowercaseWord word ≠ [] := by
  fun_cases lowercaseWord word with
  | case1 => exact absurd rfl h
  | case2 => simp
  | case3 c rest _ =>
    intro hnil
    exact lowercase_ne_nil c (List.append_eq_nil_iff.mp hnil).1

/-- A character before the small letters of ASCII is in the lower-case form of a word only if it is
in the word. -/
theorem mem_of_mem_lowercaseWord {word : List Char} {d : Char} (h : d ∈ lowercaseWord word)
    (hpos : 0 < d.toNat) (hle : d.toNat ≤ 96) : d ∈ word := by
  rcases mem_lowercaseWord h with rfl | ⟨c, hc, hd⟩
  · exact absurd hle (by decide)
  · rwa [eq_of_mem_lowercase hd hpos hle]

theorem isWordChar_of_mem_lowercaseWord {s : String} {word : List Char} (hword : word ∈ words s)
    {d : Char} (h : d ∈ lowercaseWord word) (hpos : 0 < d.toNat) (hle : d.toNat ≤ 96) :
    isWordChar d = true :=
  isWordChar_of_mem_words hword (mem_of_mem_lowercaseWord h hpos hle)

/-! ### Snake case -/

theorem toList_snakeCase (s : String) :
    (snakeCase s).toList = ['_'].intercalate ((words s).map lowercaseWord) := by
  rw [snakeCase, String.toList_ofList]

theorem mem_snakeCase {s : String} {c : Char} (h : c ∈ (snakeCase s).toList) :
    c = '_' ∨ ∃ word ∈ words s, c ∈ lowercaseWord word := by
  rw [toList_snakeCase] at h
  refine (List.eq_or_mem_of_mem_intercalate h).imp_right ?_
  rintro ⟨part, hpart, hc⟩
  obtain ⟨word, hword, rfl⟩ := List.mem_map.mp hpart
  exact ⟨word, hword, hc⟩

/-- **The only sign in snake case is the underscore.** -/
theorem eq_underscore_of_mem_snakeCase {s : String} {c : Char} (h : c ∈ (snakeCase s).toList)
    (hpos : 0 < c.toNat) (hle : c.toNat ≤ 96) (hsign : isWordChar c = false) : c = '_' := by
  rcases mem_snakeCase h with rfl | ⟨word, hword, hc⟩
  · rfl
  · rw [isWordChar_of_mem_lowercaseWord hword hc hpos hle] at hsign
    cases hsign

theorem head?_snakeCase_ne (s : String) : (snakeCase s).toList.head? ≠ some '_' := by
  have hword : ∀ word ∈ words s, ∃ d ds, lowercaseWord word = d :: ds ∧ d ≠ '_' := by
    intro word hword
    obtain ⟨d, ds, hd⟩ := List.exists_cons_of_ne_nil
      (lowercaseWord_ne_nil (ne_nil_of_mem_words hword))
    refine ⟨d, ds, hd, ?_⟩
    rintro rfl
    have hchar := isWordChar_of_mem_lowercaseWord hword (hd ▸ List.mem_cons_self) (by decide)
      (by decide)
    exact absurd hchar (by decide)
  rw [toList_snakeCase]
  cases hwords : words s with
  | nil => simp
  | cons first rest =>
    obtain ⟨d, ds, hd, hne⟩ := hword first (hwords ▸ List.mem_cons_self)
    cases rest with
    | nil => simpa [hd] using hne
    | cons second rest => simpa [List.intercalate_cons_cons, hd] using hne

/-! ### Upper camel case -/

theorem head?_upperCamelCase_ne (s : String) : (upperCamelCase s).toList.head? ≠ some '_' := by
  rw [head?_upperCamelCase]
  intro hhead
  obtain ⟨c, hc, hform⟩ := Option.bind_eq_some_iff.mp hhead
  -- only an underscore has an underscore as its form, and it is no word character
  have hself := eq_underscore_of_mem_uppercase (List.mem_of_mem_head? hform)
  have hchar := List.find?_some hc
  rw [hself] at hchar
  exact absurd hchar (by decide)

/-! ### Names in ASCII -/

/-- Whether a text is in ASCII. -/
def isAscii (s : String) : Bool := s.toList.all fun c => c.toNat < 128

/-- Whether a character is a small letter, a digit or the underscore. -/
def isSnakeChar (c : Char) : Bool := c.isLower || c.isDigit || c == '_'

/-- What is checked for the first code points is so for their characters. -/
theorem of_all_range {p : Char → Bool} {bound : Nat}
    (h : ((List.range bound).all fun n => p (Char.ofNat n)) = true) {c : Char}
    (hc : c.toNat < bound) : p c = true := by
  have hself := List.all_eq_true.mp h c.toNat (List.mem_range.mpr hc)
  rwa [Char.ofNat_toNat] at hself

theorem toNat_lt_of_mem_words {s : String} (h : isAscii s = true) {word : List Char}
    (hword : word ∈ words s) {c : Char} (hc : c ∈ word) : c.toNat < 128 := by
  have hflat : c ∈ (words s).flatten := List.mem_flatten_of_mem hword hc
  rw [flatten_words] at hflat
  exact of_decide_eq_true (List.all_eq_true.mp h c (List.mem_filter.mp hflat).1)

theorem isSnakeChar_of_mem_lowercase {c d : Char} (hlt : c.toNat < 128)
    (hchar : isWordChar c = true) (h : d ∈ lowercase c) : isSnakeChar d = true := by
  have hall : ((List.range 128).all fun n => !isWordChar (Char.ofNat n) ||
      (lowercase (Char.ofNat n)).all isSnakeChar) = true := by
    decide +kernel
  have hforms := of_all_range (p := fun c => !isWordChar c || (lowercase c).all isSnakeChar) hall hlt
  rw [hchar] at hforms
  exact List.all_eq_true.mp hforms d h

theorem isUpper_or_isDigit_of_mem_uppercase {c d : Char} (hlt : c.toNat < 128)
    (hchar : isWordChar c = true) (h : d ∈ uppercase c) : (d.isUpper || d.isDigit) = true := by
  have hall : ((List.range 128).all fun n => !isWordChar (Char.ofNat n) ||
      (uppercase (Char.ofNat n)).all fun d => d.isUpper || d.isDigit) = true := by
    decide +kernel
  have hforms := of_all_range
    (p := fun c => !isWordChar c || (uppercase c).all fun d => d.isUpper || d.isDigit) hall hlt
  rw [hchar] at hforms
  exact List.all_eq_true.mp hforms d h

/-- An ASCII word has no sigma at its end, so that its lower-case form is that of its characters. -/
theorem isSnakeChar_of_mem_lowercaseWord {word : List Char} (hlt : ∀ c ∈ word, c.toNat < 128)
    (hchar : ∀ c ∈ word, isWordChar c = true) {d : Char} (h : d ∈ lowercaseWord word) :
    isSnakeChar d = true := by
  fun_induction lowercaseWord word with
  | case1 => cases h
  -- the one letter whose form depends on its place is not in ASCII
  | case2 => exact absurd (hlt 'Σ' List.mem_cons_self) (by decide)
  | case3 c rest _ ih =>
    rw [List.forall_mem_cons] at hlt hchar
    rcases List.mem_append.mp h with h | h
    · exact isSnakeChar_of_mem_lowercase hlt.1 hchar.1 h
    · exact ih hlt.2 hchar.2 h

/-- **Snake case of an ASCII name** has small letters, digits and underscores. -/
theorem isSnakeChar_of_mem_snakeCase {s : String} (hs : isAscii s = true) {c : Char}
    (h : c ∈ (snakeCase s).toList) : isSnakeChar c = true := by
  rcases mem_snakeCase h with rfl | ⟨word, hword, hc⟩
  · decide
  · exact isSnakeChar_of_mem_lowercaseWord (fun e he => toNat_lt_of_mem_words hs hword he)
      (fun e he => isWordChar_of_mem_words hword he) hc

theorem isIdentifierChar_of_isSnakeChar {c : Char} (h : isSnakeChar c = true) :
    isIdentifierChar c = true := by
  simp only [isSnakeChar, Bool.or_eq_true] at h
  rcases h with (h | h) | h <;> simp [isIdentifierChar_eq, h]

/-- **Upper camel case of an ASCII name** has letters and digits. -/
theorem isIdentifierChar_of_mem_upperCamelCase {s : String} (hs : isAscii s = true) {c : Char}
    (h : c ∈ (upperCamelCase s).toList) : isIdentifierChar c = true := by
  rw [upperCamelCase, String.toList_ofList] at h
  obtain ⟨word, hword, hc⟩ := List.mem_flatMap.mp h
  have hlt : ∀ e ∈ word, e.toNat < 128 := fun e he => toNat_lt_of_mem_words hs hword he
  have hchar : ∀ e ∈ word, isWordChar e = true := fun e he => isWordChar_of_mem_words hword he
  cases word with
  | nil => cases hc
  | cons first rest =>
    rw [List.forall_mem_cons] at hlt hchar
    rcases List.mem_append.mp hc with hc | hc
    · have hform := isUpper_or_isDigit_of_mem_uppercase hlt.1 hchar.1 hc
      rcases Bool.or_eq_true_iff.mp hform with h | h <;>
        simp [isIdentifierChar_eq, h]
    · exact isIdentifierChar_of_isSnakeChar (isSnakeChar_of_mem_lowercaseWord hlt.2 hchar.2 hc)

end Text

end SchemaDecl
