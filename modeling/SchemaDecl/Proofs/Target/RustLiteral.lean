import SchemaDecl.Proofs.Target.PropertyName
import SchemaDecl.Target.Rust

/-!
# The names that attributes keep

The attribute of a field has the field's name in a string literal, where it is written as it is.  A
literal ends at a quote, and a backslash in it begins an escape.  Line breaks may stand in it, but
every pair of a carriage return and a line feed is read as a line feed alone, and no other carriage
return is admitted.

An escape has more characters than what it stands for, and so has a pair.  So a literal that has
either is longer than its value, and a name that is written as it is can only be read back without
them.

## Main definitions

* `Rust.joinEnds` — a source text with its pairs read as one.
* `Rust.Spells`, `Rust.IsLiteral` — string literals and their values.
* `Rust.renameAttribute`, `Rust.Keeps` — the attribute of a field, and the name it keeps.
* `Rust.isPlain` — the characters that stand for themselves.

## Main results

* `Rust.Spells.unique` — a literal has one value.
* `Rust.Spells.length_le`, `Rust.Spells.all_isPlain` — a literal is not shorter than its value, and
  longer if it has escapes.
* `Rust.renameAttribute_keeps_iff` — **which names an attribute keeps**.
-/

namespace SchemaDecl

namespace Rust

/-! ### Reading literals -/

/-- A source text in which a carriage return and a line feed behind it are read as one. -/
def joinEnds : List Char → List Char
  | [] => []
  | '\r' :: '\n' :: rest => '\n' :: joinEnds rest
  | c :: rest => c :: joinEnds rest

/-- The character that one letter behind a backslash stands for. -/
def letterEscape? (c : Char) : Option Char :=
  if c = 'n' then some '\n'
  else if c = 'r' then some '\r'
  else if c = 't' then some '\t'
  else if c = '0' then some '\x00'
  else if c = '\\' then some '\\'
  else if c = '"' then some '"'
  else if c = '\x27' then some '\x27'
  else none

/-- The character of ASCII that two digits spell. -/
def asciiEscape? (high low : Char) : Option Char :=
  ((Script.hexNumber? [high, low]).filter (· < 128)).map Char.ofNat

/-- The character that stands between braces: up to six digits, with underscores behind any of
them. -/
def codePoint? (text : List Char) : Option Char :=
  let digits := text.filter (· != '_')
  if digits = [] ∨ text.head? = some '_' ∨ 6 < digits.length then none
  else (Script.hexNumber? digits).bind Script.charOf?

/-- The character of the escape behind a backslash, and what is left. -/
def readEscape : List Char → Option (Char × List Char)
  | [] => none
  | 'x' :: high :: low :: rest => (asciiEscape? high low).map fun c => (c, rest)
  | 'u' :: '\x7b' :: rest =>
    match rest.dropWhile (· != '\x7d') with
    | [] => none
    | _ :: more => (codePoint? (rest.takeWhile (· != '\x7d'))).map fun c => (c, more)
  | e :: rest => (letterEscape? e).map fun c => (c, rest)

/-- The first character that a literal spells, and what is left.  A quote ends the literal, and a
carriage return may not stand in it. -/
def readChar : List Char → Option (Char × List Char)
  | [] => none
  | '\\' :: rest => readEscape rest
  | c :: rest => if c = '"' ∨ c = '\r' then none else some (c, rest)

/-- Whether a character is passed over at the beginning of a line that continues a literal. -/
def isIndent (c : Char) : Bool := c == ' ' || c == '\n' || c == '\r' || c == '\t'

/-- The characters between the quotes of a literal spell its value. -/
inductive Spells : List Char → List Char → Prop
  | nil : Spells [] []
  /-- A backslash at the end of a line hides the line break and what is blank behind it. -/
  | wrapped {rest value : List Char} (hrest : Spells (rest.dropWhile isIndent) value) :
      Spells ('\\' :: '\n' :: rest) value
  | cons {text rest value : List Char} {c : Char} (hread : readChar text = some (c, rest))
      (hrest : Spells rest value) : Spells text (c :: value)

/-- The source text is one string literal of the value. -/
def IsLiteral (text value : String) : Prop :=
  ∃ body, joinEnds text.toList = '"' :: body ++ ['"'] ∧ Spells body value.toList

/-- The attribute of a field. -/
def renameAttribute (name : String) : String := "    #[serde(rename = \"" ++ name ++ "\")]"

/-- The attribute has one literal behind the equals sign, and its value is the name. -/
def Keeps (line name : String) : Prop :=
  ∃ literal, line = "    #[serde(rename = " ++ literal ++ ")]" ∧ IsLiteral literal name

/-- Whether a character stands for itself in a literal, with any others around it. -/
def isPlain (c : Char) : Bool := c != '"' && c != '\\' && c != '\r'

theorem isPlain_iff (c : Char) : isPlain c = true ↔ c ≠ '"' ∧ c ≠ '\\' ∧ c ≠ '\r' := by
  simp [isPlain, and_assoc]

/-! ### Ends of lines -/

theorem length_joinEnds_le (cs : List Char) : (joinEnds cs).length ≤ cs.length := by
  fun_induction joinEnds cs with
  | case1 => exact le_rfl
  | case2 rest ih =>
    simp only [List.length_cons]
    omega
  | case3 c rest _ ih =>
    simp only [List.length_cons]
    omega

/-- What does not get shorter is as it was. -/
theorem joinEnds_of_length_le {cs : List Char} (h : cs.length ≤ (joinEnds cs).length) :
    joinEnds cs = cs := by
  fun_induction joinEnds cs with
  | case1 => rfl
  | case2 rest ih =>
    have hle := length_joinEnds_le rest
    simp only [List.length_cons] at h
    omega
  | case3 c rest _ ih =>
    simp only [List.length_cons] at h
    rw [ih (by omega)]

theorem joinEnds_of_forall {cs : List Char} (h : ∀ c ∈ cs, c ≠ '\r') : joinEnds cs = cs := by
  fun_induction joinEnds cs with
  | case1 => rfl
  | case2 rest ih => exact absurd rfl (h '\r' List.mem_cons_self)
  | case3 c rest _ ih => rw [ih fun d hd => h d (List.mem_cons_of_mem _ hd)]

/-- A quote is no part of an end of a line. -/
theorem joinEnds_concat_quote (cs : List Char) : joinEnds (cs ++ ['"']) = joinEnds cs ++ ['"'] := by
  fun_induction joinEnds cs with
  | case1 => rfl
  | case2 rest ih =>
    rw [List.cons_append, List.cons_append, joinEnds, ih, List.cons_append]
  | case3 c rest hpair ih =>
    have hno : ∀ more, c = '\r' → rest ++ ['"'] = '\n' :: more → False := by
      intro more hc hmore
      cases rest with
      | nil => cases hmore
      | cons d rest =>
        obtain ⟨rfl, -⟩ := List.cons.inj hmore
        exact hpair rest hc rfl
    rw [List.cons_append, joinEnds, ih, List.cons_append]
    exact hno

/-! ### Literals and their values -/

/-- An escape has a character behind the backslash. -/
theorem length_lt_of_readEscape {text rest : List Char} {c : Char}
    (h : readEscape text = some (c, rest)) : rest.length < text.length := by
  unfold readEscape at h
  split at h
  · cases h
  · next high low more =>
    obtain ⟨d, -, hpair⟩ := Option.map_eq_some_iff.mp h
    obtain ⟨-, rfl⟩ := Prod.mk.inj hpair
    simp only [List.length_cons]
    omega
  · next more =>
    split at h
    · cases h
    · next close more' hdrop =>
      obtain ⟨d, -, hpair⟩ := Option.map_eq_some_iff.mp h
      obtain ⟨-, rfl⟩ := Prod.mk.inj hpair
      -- what is left begins at the closing brace, behind all digits
      have hle := (List.dropWhile_suffix (· != '\x7d') (l := more)).length_le
      rw [hdrop] at hle
      simp only [List.length_cons] at hle ⊢
      omega
  · next e more _ _ =>
    obtain ⟨d, -, hpair⟩ := Option.map_eq_some_iff.mp h
    obtain ⟨-, rfl⟩ := Prod.mk.inj hpair
    exact Nat.lt_succ_self _

/-- A character is spelled by itself, or by an escape that is longer. -/
theorem readChar_eq_some {text rest : List Char} {c : Char} (h : readChar text = some (c, rest)) :
    (text = c :: rest ∧ isPlain c = true) ∨ rest.length + 1 < text.length := by
  unfold readChar at h
  split at h
  · cases h
  · next more =>
    have hlt := length_lt_of_readEscape h
    exact Or.inr (Nat.succ_lt_succ hlt)
  · next d more hbackslash =>
    split_ifs at h with hend
    obtain ⟨rfl, rfl⟩ := Prod.mk.inj (Option.some.inj h)
    rw [not_or] at hend
    exact Or.inl ⟨rfl, (isPlain_iff d).mpr ⟨hend.1, hbackslash, hend.2⟩⟩

theorem readChar_of_isPlain {c : Char} (h : isPlain c = true) (rest : List Char) :
    readChar (c :: rest) = some (c, rest) := by
  obtain ⟨hquote, hbackslash, hreturn⟩ := (isPlain_iff c).mp h
  simp [readChar, hquote, hreturn]

/-- **A literal has one value.** -/
theorem Spells.unique {text value value' : List Char} (h : Spells text value)
    (h' : Spells text value') : value = value' := by
  -- along one reading: the text tells which of the rules comes first
  induction h generalizing value' with
  | nil =>
    cases h' with
    | nil => rfl
    | cons hread _ => cases hread
  | wrapped _ ih =>
    cases h' with
    | wrapped hrest => exact ih hrest
    | cons hread _ => cases hread
  | cons hread _ ih =>
    cases h' with
    | nil => cases hread
    | wrapped _ => cases hread
    | cons hread' hrest' =>
      rw [hread] at hread'
      obtain ⟨rfl, rfl⟩ := Prod.mk.inj (Option.some.inj hread')
      rw [ih hrest']

/-- A literal is not shorter than its value. -/
theorem Spells.length_le {text value : List Char} (h : Spells text value) :
    value.length ≤ text.length := by
  induction h with
  | nil => exact le_rfl
  | @wrapped rest _ _ ih =>
    have hle := (List.dropWhile_suffix isIndent (l := rest)).length_le
    simp only [List.length_cons]
    omega
  | cons hread _ ih =>
    rcases readChar_eq_some hread with ⟨rfl, -⟩ | hlt
    · simpa using ih
    · simp only [List.length_cons]
      omega

/-- **A literal that is as long as its value has no escapes.** -/
theorem Spells.all_isPlain {text value : List Char} (h : Spells text value)
    (hlength : text.length ≤ value.length) : text.all isPlain = true := by
  induction h with
  | nil => rfl
  | @wrapped rest _ hrest _ =>
    have hle := (List.dropWhile_suffix isIndent (l := rest)).length_le
    have hvalue := hrest.length_le
    simp only [List.length_cons] at hlength
    omega
  | cons hread hrest ih =>
    have hvalue := hrest.length_le
    rcases readChar_eq_some hread with ⟨rfl, hplain⟩ | hlt
    · simp only [List.length_cons] at hlength
      rw [List.all_cons, hplain, ih (by omega)]
      rfl
    · simp only [List.length_cons] at hlength
      omega

theorem spells_self {cs : List Char} (h : cs.all isPlain = true) : Spells cs cs := by
  induction cs with
  | nil => exact .nil
  | cons c cs ih =>
    obtain ⟨hc, hcs⟩ := Bool.and_eq_true_iff.mp h
    exact .cons (readChar_of_isPlain hc cs) (ih hcs)

/-- A name between quotes is a literal of what its characters spell. -/
theorem isLiteral_quote_iff (name value : String) :
    IsLiteral ("\"" ++ name ++ "\"") value ↔ Spells (joinEnds name.toList) value.toList := by
  have htext : joinEnds ("\"" ++ name ++ "\"").toList = '"' :: joinEnds name.toList ++ ['"'] := by
    rw [String.toList_append, String.toList_append]
    change joinEnds ('"' :: (name.toList ++ ['"'])) = _
    rw [joinEnds, joinEnds_concat_quote, List.cons_append]
    exact fun _ h => absurd h (by decide)
  rw [IsLiteral, htext]
  constructor
  · rintro ⟨body, hbody, hspells⟩
    rwa [List.append_cancel_right (List.cons.inj hbody).2]
  · exact fun hspells => ⟨_, rfl, hspells⟩

/-! ### Attributes -/

/-- The literal of an attribute is the name between quotes. -/
theorem renameAttribute_eq (name : String) :
    renameAttribute name = "    #[serde(rename = " ++ ("\"" ++ name ++ "\"") ++ ")]" := by
  have hopening : "    #[serde(rename = \"" = "    #[serde(rename = " ++ "\"" := by
    decide +kernel
  have hclosing : "\")]" = "\"" ++ ")]" := by decide +kernel
  calc renameAttribute name
      = "    #[serde(rename = " ++ "\"" ++ name ++ ("\"" ++ ")]") :=
        congrArg₂ (· ++ ·) (congrArg (· ++ name) hopening) hclosing
    _ = "    #[serde(rename = " ++ ("\"" ++ name ++ "\"") ++ ")]" := by
        simp only [String.append_assoc]

/-- An attribute keeps what the characters of the name spell. -/
theorem keeps_renameAttribute_iff (name value : String) :
    Keeps (renameAttribute name) value ↔ Spells (joinEnds name.toList) value.toList := by
  rw [Keeps, renameAttribute_eq]
  constructor
  · rintro ⟨literal, hline, hliteral⟩
    rw [String.append_left_inj, String.append_right_inj] at hline
    rwa [← hline, isLiteral_quote_iff] at hliteral
  · intro hspells
    exact ⟨_, rfl, (isLiteral_quote_iff name value).mpr hspells⟩

/-- A name that its own attribute gives back has been read character by character. -/
theorem keeps_renameAttribute_self_iff (name : String) :
    Keeps (renameAttribute name) name ↔ name.toList.all isPlain = true := by
  rw [keeps_renameAttribute_iff]
  constructor
  · intro hspells
    -- neither joining nor reading has made the name shorter
    have hjoin : joinEnds name.toList = name.toList := joinEnds_of_length_le hspells.length_le
    rw [hjoin] at hspells
    exact hspells.all_isPlain le_rfl
  · intro h
    have hjoin : joinEnds name.toList = name.toList := by
      refine joinEnds_of_forall fun c hc => ?_
      exact ((isPlain_iff c).mp (List.all_eq_true.mp h c hc)).2.2
    rw [hjoin]
    exact spells_self h

/-- **An attribute keeps the names of plain characters**, and means no other name then.  A name that
has a quote, a backslash or a carriage return is not kept. -/
theorem renameAttribute_keeps_iff (name : String) :
    (∀ value, Keeps (renameAttribute name) value ↔ value = name) ↔
      name.toList.all isPlain = true := by
  rw [← keeps_renameAttribute_self_iff]
  constructor
  · exact fun h => (h name).mpr rfl
  · intro hself value
    constructor
    · intro hvalue
      rw [keeps_renameAttribute_iff] at hself hvalue
      exact String.toList_injective (hvalue.unique hself)
    · rintro rfl
      exact hself

end Rust

end SchemaDecl
