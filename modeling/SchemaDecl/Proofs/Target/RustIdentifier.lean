import SchemaDecl.Proofs.Text.Convention
import SchemaDecl.Target.Rust

/-!
# The identifiers of Rust

A name becomes an identifier in two steps: it is respelled after a convention, and then changed if
it cannot stand as it is.  Respelling can give nothing, or a text that begins with a digit, or a
keyword, also from names that are none; but it never gives an underscore alone, and the only sign
that it writes is the underscore.  The second step looks at what the first one gave, so each of
these cases is met.

## Main definitions

* `Rust.strictKeywords`, `Rust.reservedKeywords` — the keywords of all editions.
* `Rust.Usable` — what the language asks of an identifier.
* `Rust.isFieldName`, `Rust.isTypeName` — the ASCII forms of the two conventions.

## Main results

* `Rust.usable_underscore` — an underscore in front makes anything usable.
* `Rust.usable_fieldIdent`, `Rust.usable_typeIdent` — all names have usable identifiers.
* `Rust.identifiers_usable` — **identifiers are usable**, and those of ASCII names are in ASCII.
-/

namespace SchemaDecl

namespace Rust

/-! ### Keywords -/

/-- The words that only stand for themselves, in some edition. -/
def strictKeywords : List String :=
  ["as", "break", "const", "continue", "crate", "else", "enum", "extern", "false", "fn", "for",
   "if", "impl", "in", "let", "loop", "match", "mod", "move", "mut", "pub", "ref", "return",
   "self", "Self", "static", "struct", "super", "trait", "true", "type", "unsafe", "use", "where",
   "while", "async", "await", "dyn"]

/-- The words that have no use yet but are kept, in some edition. -/
def reservedKeywords : List String :=
  ["abstract", "become", "box", "do", "final", "macro", "override", "priv", "typeof", "unsized",
   "virtual", "yield", "try", "gen"]

/-- Whether a word is a keyword. -/
def isKeyword (s : String) : Bool := s ∈ strictKeywords || s ∈ reservedKeywords

/-- The text can stand as an identifier: it is there, it does not begin with a digit, it is neither
an underscore alone nor a keyword, and it is not the raw form of a word that has none. -/
structure Usable (ident : String) : Prop where
  ne_empty : ident ≠ ""
  not_digit : startsWithDigit ident = false
  ne_underscore : ident ≠ "_"
  not_keyword : isKeyword ident = false
  not_raw : ∀ word ∈ ["self", "Self", "super", "crate"], ident ≠ "r#" ++ word

theorem usable_iff (ident : String) :
    Usable ident ↔ ident ≠ "" ∧ startsWithDigit ident = false ∧ ident ≠ "_" ∧
      isKeyword ident = false ∧ ∀ word ∈ ["self", "Self", "super", "crate"], ident ≠ "r#" ++ word :=
  ⟨fun h => ⟨h.ne_empty, h.not_digit, h.ne_underscore, h.not_keyword, h.not_raw⟩,
    fun ⟨hempty, hdigit, hunderscore, hkeyword, hraw⟩ =>
      ⟨hempty, hdigit, hunderscore, hkeyword, hraw⟩⟩

instance (ident : String) : Decidable (Usable ident) := decidable_of_iff _ (usable_iff ident).symm

/-- The keywords that are looked out for are all of them. -/
theorem isKeyword_iff (s : String) : isKeyword s = true ↔ s ∈ keywords ∨ s ∈ pathKeywords := by
  have hlists : (strictKeywords ++ reservedKeywords).Perm (keywords ++ pathKeywords) := by
    decide +kernel
  have hmem := hlists.mem_iff (a := s)
  rw [List.mem_append, List.mem_append] at hmem
  rw [← hmem, isKeyword, Bool.or_eq_true, decide_eq_true_iff, decide_eq_true_iff]

/-- All keywords but one begin with a small letter. -/
theorem eq_self_of_isKeyword {s : String} (h : isKeyword s = true)
    (hlower : Text.startsLower s = false) : s = "Self" := by
  have hall : ∀ word ∈ strictKeywords ++ reservedKeywords, Text.startsLower word = false →
      word = "Self" := by
    decide +kernel
  rw [isKeyword, Bool.or_eq_true, decide_eq_true_iff, decide_eq_true_iff, ← List.mem_append] at h
  exact hall s h hlower

/-! ### Usable texts -/

theorem ne_raw_of_not_startsLower {s : String} (h : Text.startsLower s = false) (word : String) :
    s ≠ "r#" ++ word := by
  rintro rfl
  simp [Text.startsLower] at h

theorem ne_raw_of_hash_not_mem {s : String} (h : '#' ∉ s.toList) (word : String) :
    s ≠ "r#" ++ word := by
  rintro rfl
  simp at h

/-- **An underscore in front makes a text usable**, whatever the text is. -/
theorem usable_underscore {s : String} (h : s ≠ "") : Usable ("_" ++ s) := by
  have hlower : Text.startsLower ("_" ++ s) = false := by
    simp [Text.startsLower]
  refine ⟨?_, ?_, ?_, ?_, fun word _ => ne_raw_of_not_startsLower hlower word⟩
  · simp
  · simp [startsWithDigit]
  · simpa using h
  · rw [Bool.eq_false_iff]
    intro hkeyword
    have hself := congrArg String.toList (eq_self_of_isKeyword hkeyword hlower)
    simp at hself

/-- A text with another first character that is no keyword. -/
theorem usable_of_head?_ne {s : String} (hempty : s ≠ "") (hdigit : startsWithDigit s = false)
    (hhead : s.toList.head? ≠ some '_') (hkeyword : isKeyword s = false)
    (hraw : ∀ word, s ≠ "r#" ++ word) : Usable s := by
  refine ⟨hempty, hdigit, ?_, hkeyword, fun word _ => hraw word⟩
  rintro rfl
  exact hhead rfl

/-- **Every name has a usable identifier of a field.** -/
theorem usable_fieldIdent (name : String) : Usable (fieldIdent name) := by
  have hpath : ∀ word ∈ pathKeywords, Usable (word ++ "_") := by decide +kernel
  have hrawForms : ∀ word ∈ keywords, Usable ("r#" ++ word) := by decide +kernel
  unfold fieldIdent
  dsimp only
  split_ifs with hempty hpathKeyword hkeyword hdigit
  · decide +kernel
  · exact hpath _ hpathKeyword
  · exact hrawForms _ hkeyword
  · exact usable_underscore hempty
  · have hno : isKeyword (Text.snakeCase name) = false := by
      rw [Bool.eq_false_iff, ne_eq, isKeyword_iff, not_or]
      exact ⟨hkeyword, hpathKeyword⟩
    have hhash : '#' ∉ (Text.snakeCase name).toList := fun hmem =>
      absurd (Text.eq_underscore_of_mem_snakeCase hmem (by decide) (by decide) (by decide))
        (by decide)
    exact usable_of_head?_ne hempty (Bool.eq_false_iff.mpr hdigit) (Text.head?_snakeCase_ne name)
      hno (ne_raw_of_hash_not_mem hhash)

/-- **Every name has a usable identifier of a type.** -/
theorem usable_typeIdent (name : String) : Usable (typeIdent name) := by
  unfold typeIdent
  dsimp only
  split_ifs with hempty hself hdigit
  · decide +kernel
  · decide +kernel
  · exact usable_underscore hempty
  · have hlower := Text.startsLower_upperCamelCase name
    have hno : isKeyword (Text.upperCamelCase name) = false := by
      rw [Bool.eq_false_iff]
      exact fun hkeyword => hself (eq_self_of_isKeyword hkeyword hlower)
    exact usable_of_head?_ne hempty (Bool.eq_false_iff.mpr hdigit)
      (Text.head?_upperCamelCase_ne name) hno (ne_raw_of_not_startsLower hlower)

/-! ### Names in ASCII -/

/-- Whether a text is of the form `[a-z_][a-z0-9_]*`. -/
def isFieldName (s : String) : Bool :=
  match s.toList with
  | [] => false
  | c :: rest => (c.isLower || c == '_') && rest.all Text.isSnakeChar

/-- Whether a text is of the form `[A-Z_][A-Za-z0-9_]*`. -/
def isTypeName (s : String) : Bool :=
  match s.toList with
  | [] => false
  | c :: rest => (c.isUpper || c == '_') && rest.all Text.isIdentifierChar

theorem isFieldName_of_forall {s : String} (hempty : s ≠ "") (hdigit : startsWithDigit s = false)
    (h : ∀ c ∈ s.toList, Text.isSnakeChar c = true) : isFieldName s = true := by
  unfold startsWithDigit at hdigit
  unfold isFieldName
  cases hs : s.toList with
  | nil => exact absurd (String.toList_eq_nil_iff.mp hs) hempty
  | cons c rest =>
    rw [hs] at hdigit h
    obtain ⟨hc, hrest⟩ := List.forall_mem_cons.mp h
    have hfirst : (c.isLower || c == '_') = true := by
      simpa [Text.isSnakeChar, hdigit] using hc
    simp only [hfirst, Bool.true_and]
    exact List.all_eq_true.mpr hrest

theorem isTypeName_of_forall {s : String} (hempty : s ≠ "") (hdigit : startsWithDigit s = false)
    (hlower : Text.startsLower s = false)
    (h : ∀ c ∈ s.toList, Text.isIdentifierChar c = true) : isTypeName s = true := by
  unfold startsWithDigit at hdigit
  unfold Text.startsLower at hlower
  unfold isTypeName
  cases hs : s.toList with
  | nil => exact absurd (String.toList_eq_nil_iff.mp hs) hempty
  | cons c rest =>
    rw [hs] at hdigit hlower h
    obtain ⟨hc, hrest⟩ := List.forall_mem_cons.mp h
    have hsmall : c.isLower = false := hlower
    have hfirst : (c.isUpper || c == '_') = true := by
      simpa [Text.isIdentifierChar_eq, hdigit, hsmall] using hc
    simp only [hfirst, Bool.true_and]
    exact List.all_eq_true.mpr hrest

/-- What stands behind an underscore may be anything that can stand in an identifier. -/
theorem isFieldName_underscore {s : String} (h : ∀ c ∈ s.toList, Text.isSnakeChar c = true) :
    isFieldName ("_" ++ s) = true := by
  simpa [isFieldName] using h

theorem isTypeName_underscore {s : String} (h : ∀ c ∈ s.toList, Text.isIdentifierChar c = true) :
    isTypeName ("_" ++ s) = true := by
  simpa [isTypeName] using h

/-- The identifier of a field with a name in ASCII, possibly behind the mark of raw keywords. -/
theorem isFieldName_fieldIdent {name : String} (h : Text.isAscii name = true) :
    ∃ word, isFieldName word = true ∧
      (fieldIdent name = word ∨ isKeyword word = true ∧ fieldIdent name = "r#" ++ word) := by
  have hchars : ∀ c ∈ (Text.snakeCase name).toList, Text.isSnakeChar c = true :=
    fun c hc => Text.isSnakeChar_of_mem_snakeCase h hc
  -- the tables of keywords are checked word by word
  have hpath : ∀ word ∈ pathKeywords, word.toList.all Text.isSnakeChar = true →
      isFieldName (word ++ "_") = true := by
    decide +kernel
  have hkeywords : ∀ word ∈ keywords, isFieldName word = true ∧ isKeyword word = true := by
    decide +kernel
  unfold fieldIdent
  dsimp only
  split_ifs with hempty hpathKeyword hkeyword hdigit
  · exact ⟨"field", by decide, Or.inl rfl⟩
  · exact ⟨_, hpath _ hpathKeyword (List.all_eq_true.mpr hchars), Or.inl rfl⟩
  · obtain ⟨hform, hword⟩ := hkeywords _ hkeyword
    exact ⟨_, hform, Or.inr ⟨hword, rfl⟩⟩
  · exact ⟨_, isFieldName_underscore hchars, Or.inl rfl⟩
  · exact ⟨_, isFieldName_of_forall hempty (Bool.eq_false_iff.mpr hdigit) hchars, Or.inl rfl⟩

/-- The identifier of a type with a name in ASCII. -/
theorem isTypeName_typeIdent {name : String} (h : Text.isAscii name = true) :
    isTypeName (typeIdent name) = true := by
  have hchars : ∀ c ∈ (Text.upperCamelCase name).toList, Text.isIdentifierChar c = true :=
    fun c hc => Text.isIdentifierChar_of_mem_upperCamelCase h hc
  unfold typeIdent
  dsimp only
  split_ifs with hempty hself hdigit
  · decide
  · decide
  · exact isTypeName_underscore hchars
  · exact isTypeName_of_forall hempty (Bool.eq_false_iff.mpr hdigit)
      (Text.startsLower_upperCamelCase name) hchars

/-- **The identifiers of Rust are usable, whatever the names are.**  If a name is in ASCII, then its
identifiers have the forms of the conventions; that of a field may have the mark of raw words in
front, which stands only before keywords. -/
theorem identifiers_usable (name : String) :
    Usable (fieldIdent name) ∧ Usable (typeIdent name) ∧
      (Text.isAscii name = true →
        (∃ word, isFieldName word = true ∧
          (fieldIdent name = word ∨ isKeyword word = true ∧ fieldIdent name = "r#" ++ word)) ∧
        isTypeName (typeIdent name) = true) :=
  ⟨usable_fieldIdent name, usable_typeIdent name,
    fun h => ⟨isFieldName_fieldIdent h, isTypeName_typeIdent h⟩⟩

/-- A name whose words make a keyword, though it is none itself. -/
theorem identifiers_usable_of_type :
    Text.isAscii "--Type" = true ∧ fieldIdent "--Type" = "r#type" ∧ Usable "r#type" ∧
      isTypeName (typeIdent "--Type") = true := by
  have hident : fieldIdent "--Type" = "r#type" := by decide +kernel
  have hascii : Text.isAscii "--Type" = true := by decide
  obtain ⟨hfield, -, hforms⟩ := identifiers_usable "--Type"
  rw [hident] at hfield
  exact ⟨hascii, hident, hfield, (hforms hascii).2⟩

-- the Kelvin sign is not in ASCII, but its lower-case form is
example : fieldIdent "BREA\u212A" = "r#break" := by decide +kernel

end Rust

end SchemaDecl
