import SchemaDecl.Proofs.Target.Lines
import SchemaDecl.Proofs.Text.Case

/-!
# Identifiers

An ASCII identifier is made of letters, digits and underscores, and does not begin with a digit.
So it can stand in a line, and before a space, a bracket or a colon it is known where it ends.

## Main definitions

* `Text.isIdentifier` — the ASCII identifiers.
* `Text.isTypeChar` — the characters of type spellings: all but spaces, line breaks and semicolons.

## Main results

* `Text.isUnbroken_of_isIdentifier`, `Text.all_isTypeChar_of_isIdentifier` — what an identifier has
  no place for.
* `Text.isUnbroken_uppercaseText` — a text in upper case has a line break only if the text has.
-/

namespace SchemaDecl

namespace Text

/-- Whether a character can stand in an identifier. -/
def isIdentifierChar (c : Char) : Bool := c.isAlphanum || c == '_'

/-- Whether a text is an ASCII identifier. -/
def isIdentifier (s : String) : Bool :=
  match s.toList with
  | [] => false
  | c :: rest => (c.isAlpha || c == '_') && rest.all isIdentifierChar

/-- Whether a character can stand in the spelling of a type. -/
def isTypeChar (c : Char) : Bool := c != ' ' && c != '\n' && c != ';'

theorem isIdentifierChar_eq (c : Char) :
    isIdentifierChar c = (c.isUpper || c.isLower || c.isDigit || c == '_') := rfl

theorem all_isIdentifierChar {s : String} (h : isIdentifier s = true) :
    s.toList.all isIdentifierChar = true := by
  unfold isIdentifier at h
  split at h
  · cases h
  · next c rest hcs =>
    obtain ⟨hc, hrest⟩ := Bool.and_eq_true_iff.mp h
    have hfirst : isIdentifierChar c = true := by
      rcases Bool.or_eq_true_iff.mp hc with hc | hc
      · simp [isIdentifierChar, Char.isAlphanum, hc]
      · simp [isIdentifierChar, hc]
    rw [hcs, List.all_cons, hfirst, hrest]
    rfl

theorem isTypeChar_of_isIdentifierChar {c : Char} (h : isIdentifierChar c = true) :
    isTypeChar c = true := by
  have hspace : c ≠ ' ' := by
    rintro rfl
    exact absurd h (by decide)
  have hbreak : c ≠ '\n' := by
    rintro rfl
    exact absurd h (by decide)
  have hsemicolon : c ≠ ';' := by
    rintro rfl
    exact absurd h (by decide)
  simp [isTypeChar, hspace, hbreak, hsemicolon]

theorem all_isTypeChar_of_isIdentifier {s : String} (h : isIdentifier s = true) :
    s.toList.all isTypeChar = true := by
  refine List.all_eq_true.mpr fun c hc => ?_
  exact isTypeChar_of_isIdentifierChar (List.all_eq_true.mp (all_isIdentifierChar h) c hc)

theorem isUnbroken_of_all_isTypeChar {s : String} (h : s.toList.all isTypeChar = true) :
    isUnbroken s = true := by
  refine List.all_eq_true.mpr fun c hc => ?_
  obtain ⟨hchar, -⟩ := Bool.and_eq_true_iff.mp (List.all_eq_true.mp h c hc)
  exact (Bool.and_eq_true_iff.mp hchar).2

theorem isUnbroken_of_isIdentifier {s : String} (h : isIdentifier s = true) :
    isUnbroken s = true :=
  isUnbroken_of_all_isTypeChar (all_isTypeChar_of_isIdentifier h)

theorem eq_break_of_mem_uppercase {c : Char} (h : '\n' ∈ uppercase c) : c = '\n' :=
  (eq_of_mem_caseForm 10 10 (by decide) (by decide +kernel) (by decide) h le_rfl le_rfl).symm

/-- A text in upper case has a line break only if the text has. -/
theorem isUnbroken_uppercaseText {s : String} (h : isUnbroken s = true) :
    isUnbroken (uppercaseText s) = true := by
  refine List.all_eq_true.mpr fun c hc => ?_
  rw [uppercaseText, String.toList_ofList, List.mem_flatMap] at hc
  obtain ⟨d, hd, hc⟩ := hc
  have hne : c ≠ '\n' := by
    rintro rfl
    have hbreak := eq_break_of_mem_uppercase hc
    rw [hbreak] at hd
    exact not_mem_of_isUnbroken h hd
  exact bne_iff_ne.mpr hne

end Text

end SchemaDecl
