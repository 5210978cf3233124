import Mathlib.Data.Char
import SchemaDecl.Json.Spelling

/-!
# Strings are read as they were written

Between quotes a character is written as itself or as an escape, and both readers of strings take
it back, the one for its characters and the one for its end.

## Main definitions

* `SpelledAs` — the three forms in which a character is written.

## Main results

* `spelledAs_spell` — each character is written in one of them.
* `readString_spelled`, `skipString_spelled` — **a string is read as it was written**.
-/

namespace SchemaDecl.Json

/-- The forms in which a character is written between quotes. -/
inductive SpelledAs (c : Char) : List Char → Prop
  /-- A letter after a backslash. -/
  | letter {e : Char} (he : e ≠ 'u') (hletter : letterEscape? e = some c) : SpelledAs c ['\\', e]
  /-- Four digits of a control character. -/
  | digits {h₁ h₂ h₃ h₄ : Char} (hvalue : hexValue4? h₁ h₂ h₃ h₄ = some c.toNat)
      (hcontrol : c.toNat < 0x20) : SpelledAs c ['\\', 'u', h₁, h₂, h₃, h₄]
  /-- The character alone. -/
  | self (hquote : c ≠ '"') (hbackslash : c ≠ '\\') (hplain : ¬ c.toNat < 0x20) : SpelledAs c [c]

theorem hexValue?_hexDigit : ∀ n < 16, hexValue? (hexDigit n) = some n := by decide

theorem spelledAs_spell (c : Char) : SpelledAs c (spell c) := by
  unfold spell
  split_ifs with hquote hbackslash hb hf hn hr ht hcontrol
  · exact .letter (by decide) (congrArg some hquote.symm)
  · exact .letter (by decide) (congrArg some hbackslash.symm)
  · exact .letter (by decide) (congrArg some hb.symm)
  · exact .letter (by decide) (congrArg some hf.symm)
  · exact .letter (by decide) (congrArg some hn.symm)
  · exact .letter (by decide) (congrArg some hr.symm)
  · exact .letter (by decide) (congrArg some ht.symm)
  · -- two hexadecimal digits hold a control character
    have hhigh : hexValue? (hexDigit (c.toNat / 16)) = some (c.toNat / 16) :=
      hexValue?_hexDigit _ (by omega)
    have hlow : hexValue? (hexDigit (c.toNat % 16)) = some (c.toNat % 16) :=
      hexValue?_hexDigit _ (by omega)
    refine .digits ?_ hcontrol
    have hzero : hexValue? '0' = some 0 := by decide
    simp only [hexValue4?, hzero, hhigh, hlow, Option.bind_eq_bind, Option.bind_some,
      Option.pure_def, Option.some.injEq]
    omega
  · exact .self hquote hbackslash hcontrol

/-- The first reader takes back a character as it was written. -/
theorem readString_spell (c : Char) (rest : List Char) :
    readString (spell c ++ rest) = (readString rest).map fun r => (c :: r.1, r.2) := by
  have hspell := spelledAs_spell c
  generalize spell c = cs at hspell ⊢
  cases hspell with
  | letter he hletter =>
    rw [List.cons_append, readString.eq_def]
    simp [he, hletter]
  | digits hvalue hcontrol =>
    -- the digits are those of no half of a character
    have htrailing : isTrailingHalf c.toNat = false := by
      simp only [isTrailingHalf, Bool.and_eq_false_iff, decide_eq_false_iff_not]
      omega
    have hleading : isLeadingHalf c.toNat = false := by
      simp only [isLeadingHalf, Bool.and_eq_false_iff, decide_eq_false_iff_not]
      omega
    rw [List.cons_append, readString.eq_def]
    simp [hvalue, htrailing, hleading, Char.ofNat_toNat]
  | self hquote hbackslash hplain =>
    rw [List.cons_append, readString.eq_def]
    simp [hquote, hbackslash, hplain]

/-- The second reader passes over it. -/
theorem skipString_spell (c : Char) (rest : List Char) :
    skipString (spell c ++ rest) = skipString rest := by
  have hspell := spelledAs_spell c
  generalize spell c = cs at hspell ⊢
  cases hspell with
  | letter he hletter =>
    rw [List.cons_append, skipString.eq_def]
    simp [he, hletter]
  | digits hvalue hcontrol =>
    rw [List.cons_append, skipString.eq_def]
    simp [hvalue]
  | self hquote hbackslash hplain =>
    rw [List.cons_append, skipString.eq_def]
    simp [hquote, hbackslash, hplain]

/-- **A string is read as it was written.** -/
theorem readString_spelled (cs rest : List Char) :
    readString (cs.flatMap spell ++ '"' :: rest) = .ok (cs, rest) := by
  induction cs with
  | nil =>
    rw [List.flatMap_nil, List.nil_append, readString.eq_def]
    rfl
  | cons c cs ih =>
    rw [List.flatMap_cons, List.append_assoc, readString_spell, ih]
    rfl

/-- Its end is found as well. -/
theorem skipString_spelled (cs rest : List Char) :
    skipString (cs.flatMap spell ++ '"' :: rest) = .ok rest := by
  induction cs with
  | nil =>
    rw [List.flatMap_nil, List.nil_append, skipString.eq_def]
    rfl
  | cons c cs ih => rw [List.flatMap_cons, List.append_assoc, skipString_spell, ih]

end SchemaDecl.Json
