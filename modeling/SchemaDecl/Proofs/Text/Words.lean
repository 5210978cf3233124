import SchemaDecl.Proofs.Text.Case
import SchemaDecl.Text.Words

/-!
# The characters of respelled names

A name in upper camel case is made of the case forms of its word characters, since the words of
a name are cut out of it.  So it has no angle bracket.  Its first character is a form in upper
case, and so is that of a capitalized text.

## Main definitions

* `Text.startsLower` — whether a text begins with an ASCII lower-case letter.

## Main results

* `Text.flatten_caseWords` — a piece is cut into words without loss.
* `Text.isWordChar_of_mem_words`, `Text.ne_nil_of_mem_words` — words are made of word characters,
  and of one at least.
* `Text.lessThan_not_mem_upperCamelCase` — upper camel case has no angle bracket.
* `Text.startsLower_capitalize`, `Text.startsLower_upperCamelCase` — respelled texts do not begin
  with a lower-case letter.
-/

namespace SchemaDecl

namespace Text

/-! ### Words -/

theorem isWordChar_of_mem_pieces {cs piece : List Char} (h : piece ∈ pieces cs) {c : Char}
    (hc : c ∈ piece) : isWordChar c = true := by
  unfold pieces at h
  induction cs generalizing piece with
  | nil =>
    rw [List.splitOnP_nil, List.mem_singleton] at h
    rw [h] at hc
    cases hc
  | cons a cs ih =>
    rw [List.splitOnP_cons_eq_if_modifyHead] at h
    split at h
    · rcases List.mem_cons.mp h with rfl | h
      · cases hc
      · exact ih h hc
    · next ha =>
      -- `a` joins the first of the pieces of what follows it
      obtain ⟨first, rest, hpieces⟩ := List.exists_cons_of_ne_nil
        (List.splitOnP_ne_nil (fun c => !isWordChar c) cs)
      rw [hpieces] at h ih
      rcases List.mem_cons.mp h with rfl | h
      · rcases List.mem_cons.mp hc with rfl | hc
        · simpa using ha
        · exact ih List.mem_cons_self hc
      · exact ih (List.mem_cons_of_mem _ h) hc

/-- The words of a piece are what has been read before and the piece, cut. -/
theorem flatten_caseWords (mode : CaseMode) (word cs : List Char) :
    (caseWords mode word cs).flatten = word.reverse ++ cs := by
  fun_induction caseWords mode word cs with
  | case1 => rfl
  | case2 => simp only [List.flatten_singleton, List.append_nil]
  | case3 _ word c => simp only [List.flatten_singleton, List.reverse_cons]
  | case4 mode word c d rest _ ih =>
    rw [List.flatten_cons, ih, List.reverse_cons, List.reverse_nil, List.nil_append,
      List.append_assoc, List.singleton_append]
  | case5 mode word c d rest _ _ ih =>
    rw [List.flatten_cons, ih, List.reverse_singleton, List.singleton_append]
  | case6 mode word c d rest _ _ ih =>
    rw [ih, List.reverse_cons, List.append_assoc, List.singleton_append]

/-- **The words of a name are made of word characters.** -/
theorem isWordChar_of_mem_words {s : String} {word : List Char} (h : word ∈ words s) {c : Char}
    (hc : c ∈ word) : isWordChar c = true := by
  obtain ⟨piece, hpiece, hword⟩ := List.mem_flatMap.mp h
  have hflat : c ∈ (caseWords .boundary [] piece).flatten := List.mem_flatten_of_mem hword hc
  rw [flatten_caseWords, List.reverse_nil, List.nil_append] at hflat
  exact isWordChar_of_mem_pieces hpiece hflat

/-- The words of a piece have characters, if the mode tells what has been read: in upper case
there is a letter. -/
theorem ne_nil_of_mem_caseWords {mode : CaseMode} {word cs w : List Char}
    (hmode : mode = .upper → word ≠ []) (h : w ∈ caseWords mode word cs) : w ≠ [] := by
  fun_induction caseWords mode word cs with
  | case1 => cases h
  | case2 => simp_all
  | case3 => simp_all
  | case4 mode word c d rest _ ih =>
    rcases List.mem_cons.mp h with rfl | h
    · simp
    · exact ih (by simp) h
  -- the word before the cut has a letter, or the mode would not be that of upper case
  | case5 mode word c d rest _ hbefore ih =>
    rcases List.mem_cons.mp h with rfl | h
    · simpa using hmode hbefore.1
    · exact ih (by simp) h
  | case6 mode word c d rest _ _ ih => exact ih (by simp) h

/-- **The words of a name have characters.** -/
theorem ne_nil_of_mem_words {s : String} {word : List Char} (h : word ∈ words s) :
    word ≠ [] := by
  obtain ⟨piece, -, hword⟩ := List.mem_flatMap.mp h
  exact ne_nil_of_mem_caseWords (by simp) hword

/-! ### Angle brackets -/

theorem mem_lowercaseWord {word : List Char} {d : Char} (h : d ∈ lowercaseWord word) :
    d = 'ς' ∨ ∃ c ∈ word, d ∈ lowercase c := by
  fun_induction lowercaseWord word with
  | case1 => cases h
  | case2 => exact Or.inl (List.mem_singleton.mp h)
  | case3 c rest _ ih =>
    rcases List.mem_append.mp h with h | h
    · exact Or.inr ⟨c, List.mem_cons_self, h⟩
    · exact (ih h).imp_right fun ⟨c', hc', hd⟩ => ⟨c', List.mem_cons_of_mem _ hc', hd⟩

theorem lessThan_mem_of_mem_capitalizeWord {word : List Char} (h : '<' ∈ capitalizeWord word) :
    '<' ∈ word := by
  cases word with
  | nil => cases h
  | cons c rest =>
    rcases List.mem_append.mp h with h | h
    · rw [eq_lessThan_of_mem_uppercase h]
      exact List.mem_cons_self
    · rcases mem_lowercaseWord h with h | ⟨c', hc', h⟩
      · exact absurd h (by decide)
      · rw [← eq_lessThan_of_mem_lowercase h]
        exact List.mem_cons_of_mem _ hc'

theorem lessThan_not_mem_upperCamelCase (s : String) : '<' ∉ (upperCamelCase s).toList := by
  rw [upperCamelCase, String.toList_ofList]
  intro h
  obtain ⟨word, hword, h⟩ := List.mem_flatMap.mp h
  have hchar := isWordChar_of_mem_words hword (lessThan_mem_of_mem_capitalizeWord h)
  exact absurd hchar (by decide)

/-! ### First characters -/

/-- Whether a text begins with an ASCII lower-case letter. -/
def startsLower (s : String) : Bool := s.toList.head?.any Char.isLower

/-- What begins with an upper-case form does not begin with a lower-case letter. -/
theorem any_isLower_head?_uppercase_append (c : Char) (cs : List Char) :
    (uppercase c ++ cs).head?.any Char.isLower = false := by
  obtain ⟨d, ds, hd⟩ := List.exists_cons_of_ne_nil (uppercase_ne_nil c)
  rw [hd, List.cons_append, List.head?_cons, Option.any_some]
  exact not_isLower_of_mem_uppercase (hd ▸ List.mem_cons_self)

theorem startsLower_capitalize (s : String) : startsLower (capitalize s) = false := by
  rw [startsLower, capitalize]
  split
  · rfl
  · rw [String.toList_ofList]
    exact any_isLower_head?_uppercase_append _ _

/-- Upper camel case does not begin with a lower-case letter. -/
theorem startsLower_upperCamelCase (s : String) : startsLower (upperCamelCase s) = false := by
  rw [startsLower, upperCamelCase, String.toList_ofList]
  induction words s with
  | nil => rfl
  | cons word rest ih =>
    cases word with
    | nil => exact ih
    | cons c cs =>
      rw [List.flatMap_cons, capitalizeWord, List.append_assoc]
      exact any_isLower_head?_uppercase_append _ _

end Text

end SchemaDecl
