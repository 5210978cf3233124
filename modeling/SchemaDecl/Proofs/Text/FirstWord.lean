import Mathlib.Data.List.TakeWhile
import SchemaDecl.Record.Collect

/-!
# First words and names

A text has a first word unless it is blank, and the first word of a text is its own first
word.  So a node is left without a name exactly if neither its title nor the field that
owns it offers one, and a node that takes its name for a title keeps that name.

## Main definitions

* `nodeName?` — the name of a node of a given title and owner, if there is one.
* `isBlankSource` — whether a title or an owner, if any, offers no name.

## Main results

* `Text.firstWord?_eq_none_iff`, `Text.firstWord?_firstWord` — the first word of a text.
* `nodeName_eq` — `nodeName` gives the name or a naming error.
* `nodeName?_eq_none_iff` — when there is no name.
* `nodeName?_nodeName?` — a name is a title that keeps the name.
-/

namespace SchemaDecl

namespace Text

/-! ### First words -/

theorem firstWordChars_eq_nil_iff (cs : List Char) :
    firstWordChars cs = [] ↔ cs.all isBlank = true := by
  unfold firstWordChars
  induction cs with
  | nil => simp
  | cons c cs ih =>
    by_cases hc : isBlank c = true
    · rw [List.dropWhile_cons_of_pos hc, ih, List.all_cons, hc, Bool.true_and]
    · rw [List.dropWhile_cons_of_neg hc]
      simp [hc]

theorem not_isBlank_of_mem_firstWordChars {cs : List Char} {c : Char}
    (h : c ∈ firstWordChars cs) : isBlank c = false := by
  simpa using List.mem_takeWhile_imp h

theorem firstWordChars_of_forall {cs : List Char} (h : ∀ c ∈ cs, isBlank c = false) :
    firstWordChars cs = cs := by
  have hdrop : cs.dropWhile isBlank = cs := by
    cases cs with
    | nil => rfl
    | cons c cs => exact List.dropWhile_cons_of_neg (by simp [h c List.mem_cons_self])
  unfold firstWordChars
  rw [hdrop, List.takeWhile_eq_self_iff]
  intro c hc
  simp [h c hc]

/-- A text has no first word exactly if it is blank. -/
theorem firstWord?_eq_none_iff (s : String) : firstWord? s = none ↔ isBlankText s = true := by
  rw [isBlankText, ← firstWordChars_eq_nil_iff]
  unfold firstWord?
  cases firstWordChars s.toList <;> simp

theorem firstWord?_eq_some_iff {s w : String} :
    firstWord? s = some w ↔ firstWordChars s.toList = w.toList ∧ w ≠ "" := by
  unfold firstWord?
  cases hcs : firstWordChars s.toList with
  | nil =>
    simp only [reduceCtorEq, false_iff, not_and, not_not]
    intro hw
    exact String.toList_injective (by rw [← hw]; rfl)
  | cons c cs =>
    simp only [Option.some.injEq]
    constructor
    · rintro rfl
      rw [String.toList_ofList]
      exact ⟨rfl, fun h => by simpa using congrArg String.toList h⟩
    · rintro ⟨hw, -⟩
      rw [hw, String.ofList_toList]

/-- The first word of a text is the first word of itself. -/
theorem firstWord?_firstWord {s w : String} (h : firstWord? s = some w) :
    firstWord? w = some w := by
  obtain ⟨hchars, hne⟩ := firstWord?_eq_some_iff.mp h
  refine firstWord?_eq_some_iff.mpr ⟨firstWordChars_of_forall fun c hc => ?_, hne⟩
  rw [← hchars] at hc
  exact not_isBlank_of_mem_firstWordChars hc

theorem isBlankText_of_firstWord? {s w : String} (h : firstWord? s = some w) :
    isBlankText s = false := by
  rw [Bool.eq_false_iff, ne_eq, ← firstWord?_eq_none_iff, h]
  exact Option.some_ne_none w

theorem firstWord?_empty : firstWord? "" = none := rfl

end Text

/-! ### Names of nodes -/

/-- The name of a node of a given title and owner, if there is one. -/
def nodeName? (title owner : Option String) : Option String :=
  Text.firstWord? (nameSource title owner)

/-- Whether a title or an owner is missing or blank. -/
def isBlankSource (source : Option String) : Bool := source.all Text.isBlankText

theorem nodeName_eq (title owner : Option String) (path : String) :
    nodeName title owner path
      = match nodeName? title owner with
        | some name => .ok name
        | none => .error (.naming path) := rfl

theorem nameSource_of_blank {title : Option String} (h : isBlankSource title = true)
    (owner : Option String) : nameSource title owner = owner.getD "" := by
  cases title with
  | none => rfl
  | some t =>
    have ht : Text.isBlankText t = true := h
    simp [nameSource, Option.filter_some, ht]

theorem nameSource_of_not_blank {t : String} (h : Text.isBlankText t = false)
    (owner : Option String) : nameSource (some t) owner = t := by
  simp [nameSource, Option.filter_some, h]

/-- The name of a node is that of its title unless the title is missing or blank. -/
theorem nodeName?_of_not_blank {t : String} (h : Text.isBlankText t = false)
    (owner : Option String) : nodeName? (some t) owner = Text.firstWord? t := by
  rw [nodeName?, nameSource_of_not_blank h]

theorem nodeName?_of_firstWord? {t w : String} (h : Text.firstWord? t = some w)
    (owner : Option String) : nodeName? (some t) owner = some w := by
  rw [nodeName?_of_not_blank (Text.isBlankText_of_firstWord? h), h]

/-- A node has no name exactly if both its title and its owner are missing or blank. -/
theorem nodeName?_eq_none_iff (title owner : Option String) :
    nodeName? title owner = none ↔ isBlankSource title = true ∧ isBlankSource owner = true := by
  by_cases htitle : isBlankSource title = true
  · rw [nodeName?, nameSource_of_blank htitle, htitle]
    cases owner with
    | none => simp [Text.firstWord?_empty, isBlankSource]
    | some o => simp [isBlankSource, Text.firstWord?_eq_none_iff]
  · cases title with
    | none => exact absurd rfl htitle
    | some t =>
      have ht : Text.isBlankText t = false := by simpa [isBlankSource] using htitle
      rw [nodeName?_of_not_blank ht, Text.firstWord?_eq_none_iff]
      simp [isBlankSource, ht]

/-- A node that is given its own name as title keeps that name. -/
@[simp] theorem nodeName?_nodeName? (title owner : Option String) :
    nodeName? (nodeName? title owner) owner = nodeName? title owner := by
  cases h : nodeName? title owner with
  | none =>
    -- without a title the owner is asked again
    obtain ⟨-, howner⟩ := (nodeName?_eq_none_iff title owner).mp h
    exact (nodeName?_eq_none_iff none owner).mpr ⟨rfl, howner⟩
  | some name =>
    exact nodeName?_of_firstWord? (Text.firstWord?_firstWord h) owner

end SchemaDecl
