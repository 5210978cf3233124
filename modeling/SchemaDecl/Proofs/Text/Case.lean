import Mathlib.Data.String.Basic
import SchemaDecl.Proofs.List
import SchemaDecl.Text.Case

/-!
# The characters of case forms

Where a case mapping can lead is read off its tables: a run leads to the code points between
those of its ends.  So a form is never among some code points to which no run and no expansion
leads, unless it is there as a character that has no other form.

## Main definitions

* `CaseRun.Avoids` — a run does not lead into an interval of code points.

## Main results

* `Text.eq_of_mem_caseForm` — in an interval that is avoided, a form is the character itself.
* `Text.eq_of_mem_lowercase` — so it is with all that stands before the small letters of ASCII.
* `Text.eq_lessThan_of_mem_uppercase`, `Text.eq_lessThan_of_mem_lowercase` — no other character
  turns into an angle bracket.
* `Text.not_isLower_of_mem_uppercase` — no upper-case form is an ASCII lower-case letter.
-/

namespace SchemaDecl

/-- No code point of the run has its other form between `lo` and `hi`. -/
def CaseRun.Avoids (lo hi : Nat) (r : CaseRun) : Prop :=
  (r.last : Int) + r.offset < lo ∨ (hi : Int) < r.first + r.offset

instance (lo hi : Nat) (r : CaseRun) : Decidable (r.Avoids lo hi) :=
  inferInstanceAs (Decidable (_ ∨ _))

namespace Text

/-! ### Case forms -/

/-- A single form is the code point itself, or a run that reaches the code point leads to it. -/
theorem singleForm_eq (runs : List CaseRun) (n : Nat) :
    singleForm runs n = n ∨ ∃ r ∈ runs, r.first ≤ n ∧ n ≤ r.last ∧
      singleForm runs n = Int.toNat (n + r.offset) := by
  induction runs with
  | nil => exact Or.inl rfl
  | cons r rest ih =>
    rw [singleForm]
    split
    · rw [CaseRun.form?]
      split
      · next hreach =>
        simp only [Bool.and_eq_true, decide_eq_true_eq] at hreach
        exact Or.inr ⟨r, List.mem_cons_self, hreach.1.1, hreach.1.2, rfl⟩
      · exact Or.inl rfl
    · exact ih.imp_right fun ⟨r, hr, h⟩ => ⟨r, List.mem_cons_of_mem _ hr, h⟩

/-- **In an interval that is avoided, a case form is the character itself.** -/
theorem eq_of_mem_caseForm {runs : List CaseRun} {expansions : List (Nat × List Nat)} (lo hi : Nat)
    (hlo : 0 < lo) (hruns : ∀ r ∈ runs, r.Avoids lo hi)
    (hexpansions : ∀ e ∈ expansions, ∀ n ∈ e.2, n < lo ∨ hi < n) {c d : Char}
    (hd : d ∈ caseForm runs expansions c) (hdlo : lo ≤ d.toNat) (hdhi : d.toNat ≤ hi) :
    d = c := by
  -- an invalid code point stands for the character zero, which is below the interval
  have hvalid : ∀ {n : Nat}, d = Char.ofNat n → d.toNat = n := by
    rintro n rfl
    by_cases hn : n.isValidChar
    · rw [Char.ofNat, dif_pos hn]
      rfl
    · rw [Char.ofNat, dif_neg hn] at hdlo
      exact absurd hdlo hlo.not_ge
  unfold caseForm at hd
  split at hd
  · next codes hcodes =>
    obtain ⟨n, hn, hdn⟩ := List.mem_map.mp hd
    have hcode := hvalid hdn.symm
    have havoid := hexpansions _ (List.mem_of_lookup hcodes) n hn
    omega
  · have hform := hvalid (List.mem_singleton.mp hd)
    rcases singleForm_eq runs c.toNat with hself | ⟨r, hr, hfirst, hlast, hrun⟩
    · rw [hself] at hform
      exact Char.toNat_inj.mp hform
    · have havoid := hruns r hr
      unfold CaseRun.Avoids at havoid
      omega

/-- Every character has a case form, since no expansion is empty. -/
theorem caseForm_ne_nil {runs : List CaseRun} {expansions : List (Nat × List Nat)}
    (hexpansions : ∀ e ∈ expansions, e.2 ≠ []) (c : Char) : caseForm runs expansions c ≠ [] := by
  unfold caseForm
  split
  · next codes hcodes =>
    have hne := hexpansions _ (List.mem_of_lookup hcodes)
    exact fun hnil => hne (List.map_eq_nil_iff.mp hnil)
  · exact List.cons_ne_nil _ _

/-! ### Upper and lower case -/

/-- What stands before the small letters of ASCII is the lower-case form of itself only. -/
theorem eq_of_mem_lowercase {c d : Char} (h : d ∈ lowercase c) (hpos : 0 < d.toNat)
    (hle : d.toNat ≤ 96) : d = c :=
  eq_of_mem_caseForm 1 96 (by decide) (by decide +kernel) (by decide) h hpos hle

/-- An angle bracket is the upper-case form of itself only. -/
theorem eq_lessThan_of_mem_uppercase {c : Char} (h : '<' ∈ uppercase c) : c = '<' :=
  (eq_of_mem_caseForm 60 60 (by decide) (by decide +kernel) (by decide) h le_rfl le_rfl).symm

theorem eq_lessThan_of_mem_lowercase {c : Char} (h : '<' ∈ lowercase c) : c = '<' :=
  (eq_of_mem_lowercase h (by decide) (by decide)).symm

theorem eq_underscore_of_mem_uppercase {c : Char} (h : '_' ∈ uppercase c) : c = '_' :=
  (eq_of_mem_caseForm 95 95 (by decide) (by decide +kernel) (by decide) h le_rfl le_rfl).symm

theorem not_isLower_of_mem_uppercase {c d : Char} (h : d ∈ uppercase c) : d.isLower = false := by
  have hletters : ∀ n < 123, 97 ≤ n → Char.ofNat n ∉ uppercase (Char.ofNat n) := by
    decide +kernel
  rw [Bool.eq_false_iff]
  intro hlower
  obtain ⟨hlo, hhi⟩ : 97 ≤ d.toNat ∧ d.toNat ≤ 122 := by
    change (decide (97 ≤ d.toNat) && decide (d.toNat ≤ 122)) = true at hlower
    rwa [Bool.and_eq_true, decide_eq_true_eq, decide_eq_true_eq] at hlower
  obtain rfl := eq_of_mem_caseForm 97 122 (by decide) (by decide +kernel) (by decide) h hlo hhi
  refine hletters d.toNat (by omega) hlo ?_
  rwa [Char.ofNat_toNat]

theorem uppercase_ne_nil (c : Char) : uppercase c ≠ [] := caseForm_ne_nil (by decide) c

theorem lowercase_ne_nil (c : Char) : lowercase c ≠ [] := caseForm_ne_nil (by decide) c

end Text

end SchemaDecl
