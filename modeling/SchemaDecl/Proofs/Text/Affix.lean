import Mathlib.Data.String.Basic

/-!
# Texts that begin or end alike

A text that is put together from a fixed piece and a free one cannot be a given text if that
does not begin, or end, with the fixed piece.  A text that is put together from a piece of
characters of one class and a rest that begins with a character of another class can be taken
apart again.
-/

namespace SchemaDecl

namespace Text

theorem append_ne_of_not_prefix {s u : String} (h : ¬ s.toList <+: u.toList) (t : String) :
    s ++ t ≠ u := by
  rintro rfl
  rw [String.toList_append] at h
  exact h (List.prefix_append _ _)

theorem append_ne_of_not_suffix {t u : String} (h : ¬ t.toList <:+ u.toList) (s : String) :
    s ++ t ≠ u := by
  rintro rfl
  rw [String.toList_append] at h
  exact h (List.suffix_append _ _)

/-- The text begins with a character that is not of the class `p`. -/
def stops (p : Char → Bool) (s : String) : Bool := s.toList.head?.any fun c => !p c

theorem stops_append {p : Char → Bool} {s : String} (h : stops p s = true) (t : String) :
    stops p (s ++ t) = true := by
  rw [stops] at h ⊢
  cases hcs : s.toList with
  | nil =>
    rw [hcs] at h
    cases h
  | cons c cs =>
    rw [hcs] at h
    rwa [String.toList_append, hcs]

/-- The characters of the class `p` at the beginning of a text are those of its first piece. -/
theorem takeWhile_append_of_stops {p : Char → Bool} {s t : String} (hs : s.toList.all p = true)
    (ht : stops p t = true) : (s ++ t).toList.takeWhile p = s.toList := by
  have hrest : t.toList.takeWhile p = [] := by
    rw [stops] at ht
    cases hcs : t.toList with
    | nil => rfl
    | cons c cs =>
      have hc : p c = false := by simpa [hcs] using ht
      rw [List.takeWhile_cons, hc]
      rfl
  rw [String.toList_append, List.takeWhile_append_of_pos (List.all_eq_true.mp hs), hrest,
    List.append_nil]

/-- **Two texts are taken apart alike** where characters of one class end. -/
theorem append_inj_of_stops {p : Char → Bool} {s s' t t' : String} (hs : s.toList.all p = true)
    (hs' : s'.toList.all p = true) (ht : stops p t = true) (ht' : stops p t' = true)
    (h : s ++ t = s' ++ t') : s = s' ∧ t = t' := by
  -- the first piece is what can be taken of the class, on both sides
  have hfirst : s = s' := by
    apply String.toList_injective
    rw [← takeWhile_append_of_stops hs ht, h, takeWhile_append_of_stops hs' ht']
  subst hfirst
  exact ⟨rfl, (String.append_right_inj s).mp h⟩

theorem append_append_inj_of_stops {p q : Char → Bool} {before between s s' t t' u u' : String}
    (hs : s.toList.all p = true) (hs' : s'.toList.all p = true) (hbetween : stops p between = true)
    (ht : t.toList.all q = true) (ht' : t'.toList.all q = true) (hu : stops q u = true)
    (hu' : stops q u' = true)
    (h : before ++ s ++ between ++ t ++ u = before ++ s' ++ between ++ t' ++ u') :
    s = s' ∧ t = t' ∧ u = u' := by
  simp only [String.append_assoc, String.append_right_inj] at h
  obtain ⟨hfirst, hrest⟩ := append_inj_of_stops hs hs' (stops_append hbetween _)
    (stops_append hbetween _) h
  obtain ⟨hsecond, hlast⟩ := append_inj_of_stops ht ht' hu hu' ((String.append_right_inj _).mp hrest)
  exact ⟨hfirst, hsecond, hlast⟩

end Text

end SchemaDecl
