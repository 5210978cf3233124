import SchemaDecl.Proofs.Json.Spelling
import SchemaDecl.Target.Script

/-!
# Names of properties in scripts

A script reads the name of a property as a bare name or as a string literal.  The literals that
are written are those of this library's quoted texts, whose escapes are not made for scripts.  In
strict mode, which holds in classes and modules, all of them are read as they were meant but one:
the escape of the null character must not stand before a decimal digit.

## Main definitions

* `Script.IsBareName`, `Script.IsLiteral` — names and literals as strict mode reads them.
* `Script.Denotes`, `Script.MemberDenotes` — the property that a key, or an expression, means.
* `Script.NullBeforeDigit` — the names that are not read back.

## Main results

* `Script.readChar_escape` — one character of a literal.
* `Script.spells_escape_iff` — the characters of a literal.
* `Script.keys_denote` — **the key of a field means the field's name**, if it means anything, and no
  two names have one key.
-/

namespace SchemaDecl

namespace Script

/-! ### Reading names -/

/-- A bare name in ASCII: letters, digits, underscores and dollar signs, and no digit at first. -/
def IsBareName (s : String) : Prop :=
  ∃ c rest, s.toList = c :: rest ∧ c.isDigit = false ∧
    ∀ d ∈ s.toList, d.isAlphanum = true ∨ d = '_' ∨ d = '$'

/-- The character that one letter after a backslash stands for. -/
def letterEscape? (c : Char) : Option Char :=
  if c = 'n' then some '\n'
  else if c = 'r' then some '\r'
  else if c = 't' then some '\t'
  else if c = '\\' then some '\\'
  else if c = '"' then some '"'
  else if c = '\x27' then some '\x27'
  else none

/-- The number that hexadecimal digits spell. -/
def hexNumber? (digits : List Char) : Option Nat :=
  digits.foldlM (fun n c => (Json.hexValue? c).map (n * 16 + ·)) 0

/-- The character of a code point.  Halves of characters are none. -/
def charOf? (n : Nat) : Option Char := if n.isValidChar then some (Char.ofNat n) else none

/-- The first character that a literal between double quotes spells in strict mode, and what is
left.  A quote ends the literal, and lines end at line feeds and carriage returns, but not at the
separators of lines and paragraphs.  The null character has an escape, unless a decimal digit
follows. -/
def readChar : List Char → Option (Char × List Char)
  | [] => none
  | '\\' :: rest =>
    match rest with
    | [] => none
    | '0' :: rest => if rest.head?.any Char.isDigit then none else some ('\x00', rest)
    | 'u' :: '\x7b' :: rest =>
      match rest.takeWhile (· != '\x7d'), rest.dropWhile (· != '\x7d') with
      | d :: digits, _ :: rest =>
        ((hexNumber? (d :: digits)).bind charOf?).map fun c => (c, rest)
      | _, _ => none
    | e :: rest => (letterEscape? e).map fun c => (c, rest)
  | c :: rest => if c = '"' ∨ c = '\n' ∨ c = '\r' then none else some (c, rest)

/-- The characters between the quotes of a literal spell its value. -/
inductive Spells : List Char → List Char → Prop
  | nil : Spells [] []
  | cons {text rest value : List Char} {c : Char} (hread : readChar text = some (c, rest))
      (hrest : Spells rest value) : Spells text (c :: value)

/-- The text is a string literal of the value. -/
def IsLiteral (text value : String) : Prop :=
  ∃ body, text.toList = '"' :: body ++ ['"'] ∧ Spells body value.toList

/-- The key of a property means the property of the name. -/
def Denotes (key name : String) : Prop := (IsBareName name ∧ key = name) ∨ IsLiteral key name

/-- The expression means the property of the name of the object under construction. -/
def MemberDenotes (expression name : String) : Prop :=
  (IsBareName name ∧ expression = "this." ++ name) ∨
    ∃ literal, IsLiteral literal name ∧ expression = "this[" ++ literal ++ "]"

/-- Somewhere in the name a decimal digit follows a null character. -/
def NullBeforeDigit (cs : List Char) : Prop := ∃ d, d.isDigit = true ∧ ['\x00', d] <:+: cs

/-! ### Hexadecimal numbers -/

theorem hexNumber?_concat (digits : List Char) (c : Char) :
    hexNumber? (digits ++ [c])
      = (hexNumber? digits).bind fun n => (Json.hexValue? c).map (n * 16 + ·) := by
  simp [hexNumber?, List.foldlM_append]

theorem exists_digitChar_of_mem_toDigits {n : Nat} {c : Char} (h : c ∈ Nat.toDigits 16 n) :
    ∃ d < 16, c = Nat.digitChar d := by
  induction n using Nat.strong_induction_on with
  | _ n ih =>
    rw [Nat.toDigits_eq_if (by decide)] at h
    split at h
    · next hlt => exact ⟨n, hlt, List.mem_singleton.mp h⟩
    · next hge =>
      rcases List.mem_append.mp h with h | h
      · exact ih (n / 16) (by omega) h
      · exact ⟨n % 16, Nat.mod_lt n (by decide), List.mem_singleton.mp h⟩

/-- The digits of a number spell it. -/
theorem hexNumber?_toDigits (n : Nat) : hexNumber? (Nat.toDigits 16 n) = some n := by
  have hdigit : ∀ d < 16, Json.hexValue? (Nat.digitChar d) = some d := Json.hexValue?_hexDigit
  induction n using Nat.strong_induction_on with
  | _ n ih =>
    rw [Nat.toDigits_eq_if (by decide)]
    split
    · next hlt => simpa [hexNumber?] using hdigit n hlt
    · next hge =>
      have hhigh := ih (n / 16) (by omega)
      have hlow : n % 16 < 16 := Nat.mod_lt n (by decide)
      have hsum : n / 16 * 16 + n % 16 = n := by omega
      rw [hexNumber?_concat, hhigh, Option.bind_some, hdigit _ hlow, Option.map_some, hsum]

theorem charOf?_toNat (c : Char) : charOf? c.toNat = some c := by
  have hvalid : c.toNat.isValidChar := c.valid
  rw [charOf?, if_pos hvalid, Char.ofNat_toNat]

/-! ### Characters of a literal -/

theorem readChar_hexEscape (c : Char) (rest : List Char) :
    readChar (Text.hexEscape c ++ rest) = some (c, rest) := by
  have hnumber := hexNumber?_toDigits c.toNat
  have hall : ∀ e ∈ Nat.toDigits 16 c.toNat, (e != '\x7d') = true := by
    have hbrace : ∀ d < 16, (Nat.digitChar d != '\x7d') = true := by decide
    intro e he
    obtain ⟨d, hd, rfl⟩ := exists_digitChar_of_mem_toDigits he
    exact hbrace d hd
  obtain ⟨d, digits, hdigits⟩ := List.exists_cons_of_ne_nil (Nat.toDigits_ne_nil (n := c.toNat))
  rw [hdigits] at hnumber hall
  -- the digits end at the brace, which is none of them
  have htake : ((d :: digits) ++ '\x7d' :: rest).takeWhile (· != '\x7d') = d :: digits := by
    rw [List.takeWhile_append_of_pos hall]
    simp
  have hdrop : ((d :: digits) ++ '\x7d' :: rest).dropWhile (· != '\x7d') = '\x7d' :: rest := by
    rw [List.dropWhile_append_of_pos hall]
    simp
  have hescape : Text.hexEscape c ++ rest
      = '\\' :: 'u' :: '\x7b' :: ((d :: digits) ++ '\x7d' :: rest) := by
    simp [Text.hexEscape, hdigits]
  rw [hescape]
  unfold readChar
  simp only [htake, hdrop, hnumber, Option.bind_some, charOf?_toNat, Option.map_some]

/-- **A character of a quoted text is read back**, unless it is the null character. -/
theorem readChar_escape {c : Char} (h : c ≠ '\x00') (rest : List Char) :
    readChar (Text.escape c ++ rest) = some (c, rest) := by
  unfold Text.escape
  split_ifs with hquote hbackslash hline hreturn htab hhex
  · rw [hquote]; rfl
  · rw [hbackslash]; rfl
  · rw [hline]; rfl
  · rw [hreturn]; rfl
  · rw [htab]; rfl
  · exact readChar_hexEscape c rest
  · simp [readChar, hquote, hline, hreturn]

/-- The null character is read back unless a decimal digit follows. -/
theorem readChar_escape_null (rest : List Char) :
    readChar (Text.escape '\x00' ++ rest)
      = if rest.head?.any Char.isDigit then none else some ('\x00', rest) := by
  have hescape : Text.escape '\x00' = ['\\', '0'] := by decide
  rw [hescape]
  rfl

/-- Only a digit is spelled with a digit at first. -/
theorem head?_escape (c : Char) (rest : List Char) :
    (Text.escape c ++ rest).head?.any Char.isDigit = c.isDigit := by
  have hdigits : ∀ n < 58, (Char.ofNat n).isDigit = true →
      (Text.isExtending (Char.ofNat n) || Text.isUnprintable (Char.ofNat n)) = false := by
    decide +kernel
  unfold Text.escape
  split_ifs with hquote hbackslash hline hreturn htab hnull hhex
  · rw [hquote]; rfl
  · rw [hbackslash]; rfl
  · rw [hline]; rfl
  · rw [hreturn]; rfl
  · rw [htab]; rfl
  · rw [hnull]; rfl
  · -- a digit has a glyph of its own
    have hdigit : c.isDigit = false := by
      rw [Bool.eq_false_iff]
      intro hdigit
      have hbound : c.toNat ≤ 57 := of_decide_eq_true (Bool.and_eq_true_iff.mp hdigit).2
      have hself : Char.ofNat c.toNat = c := Char.ofNat_toNat c
      rw [← hself] at hdigit hhex
      rw [hdigits c.toNat (by omega) hdigit] at hhex
      cases hhex
    rw [hdigit]
    rfl
  · rfl

/-! ### Literals -/

theorem spells_iff_of_readChar {text rest value : List Char} {c : Char}
    (h : readChar text = some (c, rest)) :
    Spells text value ↔ ∃ more, value = c :: more ∧ Spells rest more := by
  constructor
  · intro hspells
    cases hspells with
    | nil => cases h
    | cons hread hrest =>
      rw [h] at hread
      cases hread
      exact ⟨_, rfl, hrest⟩
  · rintro ⟨more, rfl, hmore⟩
    exact .cons h hmore

theorem not_spells_of_readChar {text value : List Char} (hne : text ≠ [])
    (h : readChar text = none) : ¬ Spells text value := by
  intro hspells
  cases hspells with
  | nil => exact hne rfl
  | cons hread _ =>
    rw [h] at hread
    cases hread

theorem not_nullBeforeDigit_nil : ¬ NullBeforeDigit [] := by
  rintro ⟨d, -, hsub⟩
  cases List.infix_nil.mp hsub

theorem nullBeforeDigit_cons (c : Char) (cs : List Char) :
    NullBeforeDigit (c :: cs) ↔
      (c = '\x00' ∧ cs.head?.any Char.isDigit = true) ∨ NullBeforeDigit cs := by
  constructor
  · rintro ⟨d, hd, hsub⟩
    rcases List.infix_cons_iff.mp hsub with hstart | hsub
    · obtain ⟨hc, hstart⟩ := List.cons_prefix_cons.mp hstart
      obtain ⟨rest, rfl⟩ := hstart
      exact Or.inl ⟨hc.symm, hd⟩
    · exact Or.inr ⟨d, hd, hsub⟩
  · rintro (⟨rfl, hd⟩ | ⟨d, hd, hsub⟩)
    · cases cs with
      | nil => cases hd
      | cons d cs => exact ⟨d, hd, (List.prefix_append ['\x00', d] cs).isInfix⟩
    · exact ⟨d, hd, hsub.trans (List.suffix_cons c cs).isInfix⟩

/-- The spelling of a text begins with a digit exactly if the text does. -/
theorem head?_flatMap_escape (cs : List Char) :
    (cs.flatMap Text.escape).head?.any Char.isDigit = cs.head?.any Char.isDigit := by
  cases cs with
  | nil => rfl
  | cons c cs => rw [List.flatMap_cons, head?_escape, List.head?_cons, Option.any_some]

/-- **The characters of a quoted text spell the text**, and nothing else, unless a digit follows a
null character. -/
theorem spells_escape_iff (cs value : List Char) :
    Spells (cs.flatMap Text.escape) value ↔ value = cs ∧ ¬ NullBeforeDigit cs := by
  induction cs generalizing value with
  | nil =>
    rw [List.flatMap_nil, and_iff_left not_nullBeforeDigit_nil]
    constructor
    · intro hspells
      cases hspells with
      | nil => rfl
      | cons hread _ => cases hread
    · rintro rfl
      exact .nil
  | cons c cs ih =>
    rw [List.flatMap_cons, nullBeforeDigit_cons]
    by_cases hbad : c = '\x00' ∧ cs.head?.any Char.isDigit = true
    · -- the escape of the null character is refused
      obtain ⟨rfl, hdigit⟩ := hbad
      have hread : readChar (Text.escape '\x00' ++ cs.flatMap Text.escape) = none := by
        rw [readChar_escape_null, head?_flatMap_escape, if_pos hdigit]
      have hne : Text.escape '\x00' ++ cs.flatMap Text.escape ≠ [] := List.cons_ne_nil _ _
      simp [not_spells_of_readChar hne hread, hdigit]
    · -- the escape gives its character back, and the rest is up to `ih`
      have hread : readChar (Text.escape c ++ cs.flatMap Text.escape)
          = some (c, cs.flatMap Text.escape) := by
        by_cases hc : c = '\x00'
        · subst hc
          have hdigit : ¬ cs.head?.any Char.isDigit = true := fun h => hbad ⟨rfl, h⟩
          rw [readChar_escape_null, head?_flatMap_escape, if_neg hdigit]
        · exact readChar_escape hc _
      rw [spells_iff_of_readChar hread, or_iff_right hbad]
      simp only [ih]
      constructor
      · rintro ⟨more, rfl, rfl, hfree⟩
        exact ⟨rfl, hfree⟩
      · rintro ⟨rfl, hfree⟩
        exact ⟨cs, rfl, rfl, hfree⟩

theorem toList_quoted (s : String) :
    (Text.quoted s).toList = '"' :: (s.toList.flatMap Text.escape ++ ['"']) := by
  rw [Text.quoted, String.toList_ofList, List.cons_append]

/-- A quoted text is a literal of the text, unless a digit follows a null character. -/
theorem isLiteral_quoted_iff (name value : String) :
    IsLiteral (Text.quoted name) value ↔ value = name ∧ ¬ NullBeforeDigit name.toList := by
  rw [← String.toList_inj, ← spells_escape_iff]
  constructor
  · rintro ⟨body, hbody, hspells⟩
    rw [toList_quoted] at hbody
    obtain rfl := List.append_cancel_right (List.cons.inj hbody).2
    exact hspells
  · intro hspells
    exact ⟨_, toList_quoted name, hspells⟩

/-! ### Bare names -/

theorem isIdentChar_iff (c : Char) :
    isIdentChar c = true ↔ c.isAlphanum = true ∨ c = '_' ∨ c = '$' := by
  simp [isIdentChar, or_assoc]

theorem isIdentStart_iff (c : Char) :
    isIdentStart c = true ↔ isIdentChar c = true ∧ c.isDigit = false := by
  by_cases hdigit : c.isDigit = true
  · -- a digit is neither a letter nor a sign
    have hbounds : 48 ≤ c.toNat ∧ c.toNat ≤ 57 :=
      ⟨of_decide_eq_true (Bool.and_eq_true_iff.mp hdigit).1,
        of_decide_eq_true (Bool.and_eq_true_iff.mp hdigit).2⟩
    have halpha : c.isAlpha = false := by
      rw [Bool.eq_false_iff]
      intro halpha
      rcases Bool.or_eq_true_iff.mp halpha with hupper | hlower
      · have hbound : 65 ≤ c.toNat := (of_decide_eq_true hupper : 65 ≤ c.toNat ∧ c.toNat ≤ 90).1
        omega
      · have hbound : 97 ≤ c.toNat := of_decide_eq_true (Bool.and_eq_true_iff.mp hlower).1
        omega
    have hunderscore : c ≠ '_' := by
      rintro rfl
      cases hdigit
    have hdollar : c ≠ '$' := by
      rintro rfl
      cases hdigit
    simp [isIdentStart, halpha, hunderscore, hdollar, hdigit]
  · rw [Bool.not_eq_true] at hdigit
    simp [isIdentStart, isIdentChar, Char.isAlphanum, hdigit]

theorem isIdentifier_iff (name : String) : isIdentifier name = true ↔ IsBareName name := by
  unfold isIdentifier IsBareName
  cases name.toList with
  | nil => simp
  | cons c rest =>
    simp only [Bool.and_eq_true, isIdentStart_iff, List.all_eq_true, ← isIdentChar_iff,
      List.forall_mem_cons]
    constructor
    · rintro ⟨⟨hc, hdigit⟩, hrest⟩
      exact ⟨c, rest, rfl, hdigit, hc, hrest⟩
    · rintro ⟨d, rest', heq, hdigit, hc, hrest⟩
      obtain ⟨rfl, rfl⟩ := List.cons.inj heq
      exact ⟨⟨hc, hdigit⟩, hrest⟩

/-- No character of a bare name is the null character. -/
theorem IsBareName.not_nullBeforeDigit {name : String} (h : IsBareName name) :
    ¬ NullBeforeDigit name.toList := by
  obtain ⟨c, rest, -, -, hchars⟩ := h
  rintro ⟨d, -, hsub⟩
  have hnull := hchars '\x00' (hsub.subset List.mem_cons_self)
  rcases hnull with h | h | h <;> exact absurd h (by decide)

theorem not_isBareName_of_quote {text : String} {cs : List Char} (h : text.toList = '"' :: cs) :
    ¬ IsBareName text := by
  rintro ⟨c, rest, -, -, hchars⟩
  rw [h] at hchars
  rcases hchars '"' List.mem_cons_self with h | h | h <;> exact absurd h (by decide)

/-! ### Keys -/

theorem dot_ne_bracket (a b : String) : "this." ++ a ≠ "this[" ++ b ++ "]" := by
  intro h
  have hchars := congrArg String.toList h
  simp [String.toList_append] at hchars

/-- The key of a field means the field's name, and nothing else. -/
theorem denotes_propertyKey_iff (name value : String) :
    Denotes (propertyKey name) value ↔ value = name ∧ ¬ NullBeforeDigit name.toList := by
  rw [propertyKey, Denotes]
  split
  · next hident =>
    have hbare := (isIdentifier_iff name).mp hident
    rw [and_iff_left hbare.not_nullBeforeDigit]
    constructor
    · rintro (⟨-, heq⟩ | ⟨body, hbody, -⟩)
      · exact heq.symm
      · exact absurd hbare (not_isBareName_of_quote hbody)
    · rintro rfl
      exact Or.inl ⟨hbare, rfl⟩
  · rw [isLiteral_quoted_iff]
    refine or_iff_right ?_
    rintro ⟨hbare, heq⟩
    rw [← heq] at hbare
    exact not_isBareName_of_quote (toList_quoted name) hbare

/-- The expression for a field means the field's name, and nothing else. -/
theorem memberDenotes_memberOfThis_iff (name value : String) :
    MemberDenotes (memberOfThis name) value ↔
      value = name ∧ ¬ NullBeforeDigit name.toList := by
  rw [memberOfThis, MemberDenotes]
  split
  · next hident =>
    have hbare := (isIdentifier_iff name).mp hident
    rw [and_iff_left hbare.not_nullBeforeDigit]
    constructor
    · rintro (⟨-, heq⟩ | ⟨literal, -, heq⟩)
      · exact ((String.append_right_inj _).mp heq).symm
      · exact absurd heq (dot_ne_bracket _ _)
    · rintro rfl
      exact Or.inl ⟨hbare, rfl⟩
  · rw [← isLiteral_quoted_iff]
    constructor
    · rintro (⟨-, heq⟩ | ⟨literal, hliteral, heq⟩)
      · exact absurd heq.symm (dot_ne_bracket _ _)
      · rwa [(String.append_right_inj _).mp ((String.append_left_inj _).mp heq)]
    · intro hliteral
      exact Or.inr ⟨_, hliteral, rfl⟩

/-! ### Different names -/

/-- The spelling of a character is known where it begins, also that of the null character. -/
theorem escape_append_inj {c d : Char} {rest rest' : List Char}
    (h : Text.escape c ++ rest = Text.escape d ++ rest') : c = d ∧ rest = rest' := by
  -- what begins with the escape of the null character gives that back, or nothing
  have hnull : ∀ {d : Char} {rest rest' : List Char}, d ≠ '\x00' →
      Text.escape '\x00' ++ rest ≠ Text.escape d ++ rest' := by
    intro d rest rest' hd h
    have hread := readChar_escape_null rest
    rw [h, readChar_escape hd] at hread
    split at hread
    · cases hread
    · exact hd (congrArg Prod.fst (Option.some.inj hread))
  by_cases hc : c = '\x00'
  · by_cases hd : d = '\x00'
    · subst hc hd
      exact ⟨rfl, List.append_cancel_left h⟩
    · subst hc
      exact absurd h (hnull hd)
  · by_cases hd : d = '\x00'
    · subst hd
      exact absurd h.symm (hnull hc)
    · have hread := readChar_escape hc rest
      rw [h, readChar_escape hd, Option.some_inj] at hread
      exact ⟨(congrArg Prod.fst hread).symm, (congrArg Prod.snd hread).symm⟩

/-- **Different texts are quoted differently.** -/
theorem quoted_injective : Function.Injective Text.quoted := by
  have hchars : ∀ cs ds : List Char,
      cs.flatMap Text.escape = ds.flatMap Text.escape → cs = ds := by
    have hne : ∀ (c : Char) (rest : List Char), Text.escape c ++ rest ≠ [] := by
      intro c rest h
      by_cases hc : c = '\x00'
      · subst hc
        cases h
      · have hread := readChar_escape hc rest
        rw [h] at hread
        cases hread
    intro cs
    -- along the first text: both begin with the escape of one character
    induction cs with
    | nil =>
      intro ds h
      cases ds with
      | nil => rfl
      | cons d ds => exact absurd h.symm (hne d _)
    | cons c cs ih =>
      intro ds h
      cases ds with
      | nil => exact absurd h (hne c _)
      | cons d ds =>
        obtain ⟨rfl, hrest⟩ := escape_append_inj h
        rw [ih ds hrest]
  intro s t h
  have hlist := congrArg String.toList h
  rw [toList_quoted, toList_quoted] at hlist
  exact String.toList_injective (hchars _ _ (List.append_cancel_right (List.cons.inj hlist).2))

/-- Different names have different keys. -/
theorem propertyKey_injective : Function.Injective propertyKey := by
  have hmixed : ∀ {name other : String}, isIdentifier name = true → name ≠ Text.quoted other := by
    intro name other hident heq
    have hbare := (isIdentifier_iff name).mp hident
    rw [heq] at hbare
    exact not_isBareName_of_quote (toList_quoted other) hbare
  intro name other h
  unfold propertyKey at h
  split at h
  · next hname =>
    split at h
    · exact h
    · exact absurd h (hmixed hname)
  · split at h
    · next hother => exact absurd h.symm (hmixed hother)
    · exact quoted_injective h

theorem memberOfThis_injective : Function.Injective memberOfThis := by
  intro name other h
  unfold memberOfThis at h
  split at h
  · split at h
    · exact (String.append_right_inj _).mp h
    · exact absurd h (dot_ne_bracket _ _)
  · split at h
    · exact absurd h.symm (dot_ne_bracket _ _)
    · exact quoted_injective ((String.append_right_inj _).mp ((String.append_left_inj _).mp h))

/-- **The key of a field means the field's name**, in TypeScript as the key of a property and in
JavaScript in an expression, and it means no other name.  The one exception are names in which a
decimal digit follows a null character, whose keys mean nothing.  Different names have different
keys, without exception. -/
theorem keys_denote (name : String) :
    (∀ value, Denotes (propertyKey name) value ↔
      value = name ∧ ¬ NullBeforeDigit name.toList) ∧
    (∀ value, MemberDenotes (memberOfThis name) value ↔
      value = name ∧ ¬ NullBeforeDigit name.toList) ∧
    ∀ other, other ≠ name →
      propertyKey other ≠ propertyKey name ∧ memberOfThis other ≠ memberOfThis name := by
  refine ⟨denotes_propertyKey_iff name, memberDenotes_memberOfThis_iff name, ?_⟩
  intro other hne
  exact ⟨propertyKey_injective.ne hne, memberOfThis_injective.ne hne⟩

/-- A name with a null character before a letter, and with an accent that joins this letter. -/
theorem keys_denote_of_accent :
    propertyKey "\x00e\u0301" = "\"\\0e\\u\x7b301\x7d\"" ∧
      Denotes (propertyKey "\x00e\u0301") "\x00e\u0301" ∧
      propertyKey "\x00e" ≠ propertyKey "\x00e\u0301" := by
  have hfree : ¬ NullBeforeDigit ['\x00', 'e', '\u0301'] := by
    simp [nullBeforeDigit_cons, not_nullBeforeDigit_nil]
  obtain ⟨hkey, -, hother⟩ := keys_denote "\x00e\u0301"
  exact ⟨by decide +kernel, (hkey _).mpr ⟨rfl, hfree⟩, (hother _ (by decide)).1⟩

/-- **Not every key means a name.**  The escape of the null character and the digit behind it are
no string literal in strict mode. -/
theorem not_keys_denote :
    ¬ ∀ name : String,
      Denotes (propertyKey name) name ∧ MemberDenotes (memberOfThis name) name := by
  intro h
  have hfree := ((denotes_propertyKey_iff "\x001" "\x001").mp (h "\x001").1).2
  exact hfree ⟨'1', by decide, List.infix_refl _⟩

end Script

end SchemaDecl
