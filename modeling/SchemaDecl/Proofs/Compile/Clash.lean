import SchemaDecl.Compile
import SchemaDecl.Proofs.List

/-!
# Names of one spelling

Compiling takes the identifiers of one scope, one after the other, and ends at the first that
another name has taken.  Which that is can be said without taking any: a name clashes if the
earliest name of its spelling is another one.

## Main definitions

* `Reports` — a computation ends with the first fault of a list, or else in a certain value.
* `Claims.Of` — the claims of the names so far.
* `Target.clash?`, `Target.clashes` — the names that are spelled like earlier ones.

## Main results

* `Reports.bind` — of two computations, the faults of the first come first.
* `Target.claim_reports` — an identifier is refused exactly if it clashes.
* `Target.clashes_eq_nil_iff` — there is no clash exactly if no two names are spelled alike.
* `Target.claimTypes_reports` — taking the identifiers of all types ends with their first clash.
-/

namespace SchemaDecl

/-! ### Computations that end with the first fault -/

/-- The computation ends with the first of the faults or, if there are none, in a value of
which `Q` holds. -/
def Reports {α : Type} (faults : List CompileError) (Q : α → Prop) :
    Except CompileError α → Prop
  | .error e => faults.head? = some e
  | .ok a => faults = [] ∧ Q a

namespace Reports

variable {α β : Type} {faults more : List CompileError} {Q : α → Prop} {R : β → Prop}

/-- Of two computations, the faults of the first come first. -/
theorem bind {x : Except CompileError α} {f : α → Except CompileError β}
    (hx : Reports faults Q x) (hf : ∀ a, Q a → Reports more R (f a)) :
    Reports (faults ++ more) R (x >>= f) := by
  cases x with
  | error e =>
    have hhead : faults.head? = some e := hx
    change (faults ++ more).head? = some e
    rw [List.head?_append, hhead, Option.some_or]
  | ok a =>
    obtain ⟨rfl, ha⟩ := hx
    exact hf a ha

/-- A computation that adds no fault of its own. -/
theorem map {x : Except CompileError α} {f : α → β} (hx : Reports faults Q x)
    (hf : ∀ a, Q a → R (f a)) : Reports faults R (x >>= fun a => .ok (f a)) := by
  rw [← List.append_nil faults]
  exact hx.bind fun a ha => ⟨rfl, hf a ha⟩

theorem error_iff {x : Except CompileError α} (hx : Reports faults Q x) (e : CompileError) :
    x = .error e ↔ faults.head? = some e := by
  cases x with
  | error e' =>
    have hhead : faults.head? = some e' := hx
    rw [hhead, Except.error.injEq, Option.some.injEq]
  | ok a =>
    obtain ⟨rfl, -⟩ := hx
    simp

theorem ok_iff {x : Except CompileError α} (hx : Reports faults Q x) :
    (∃ a, x = .ok a) ↔ faults = [] := by
  cases x with
  | error e =>
    have hhead : faults.head? = some e := hx
    refine iff_of_false (by simp) fun hnil => ?_
    rw [hnil] at hhead
    cases hhead
  | ok a => exact iff_of_true ⟨a, rfl⟩ hx.1

/-- A computation that can end in one value only. -/
theorem eq_ok_iff {x : Except CompileError α} {a : α} (hx : Reports faults (fun b => b = a) x)
    (b : α) : x = .ok b ↔ faults = [] ∧ b = a := by
  cases x with
  | error e =>
    have hhead : faults.head? = some e := hx
    refine iff_of_false (by simp) fun ⟨hnil, _⟩ => ?_
    rw [hnil] at hhead
    cases hhead
  | ok c =>
    obtain ⟨hnil, rfl⟩ := hx
    rw [Except.ok.injEq, and_iff_right hnil]
    exact eq_comm

end Reports

/-! ### Names of one spelling -/

/-- The identifiers of a scope are those of the names so far, and the earliest name of each has
taken it. -/
def Claims.Of (spell : String → String) (before : List String) (claims : Claims) : Prop :=
  ∀ ident, claims.lookup ident = before.find? fun name => spell name = ident

namespace Target

section Clash

variable (target : Target) (scope : IdentScope) (spell : String → String)

/-- What is wrong with a name after others: the earliest of its spelling is another one. -/
def clash? (before : List String) (name : String) : Option CompileError :=
  (before.find? fun first => spell first = spell name).bind fun first =>
    if first = name then none
    else some (.identifierClash target.name (spell name) first name scope)

/-- All that is wrong with the spelling of names after others. -/
def clashes (before : List String) : List String → List CompileError
  | [] => []
  | name :: rest => (target.clash? scope spell before name).toList ++ clashes (before ++ [name]) rest

theorem claims_nil : Claims.Of spell [] [] := fun _ => rfl

variable {spell}

/-- **Taking an identifier** ends with the clash of its name, if there is one. -/
theorem claim_reports {before : List String} {claims : Claims} (h : Claims.Of spell before claims)
    (name : String) :
    Reports (target.clash? scope spell before name).toList (Claims.Of spell (before ++ [name]))
      (target.claim scope claims (spell name) name) := by
  rw [clash?, claim, h (spell name)]
  cases hfind : before.find? fun first => spell first = spell name with
  | none =>
    -- the identifier is free, so the name takes it
    refine ⟨rfl, fun ident => ?_⟩
    rw [List.lookup_cons, List.find?_append, h ident]
    by_cases hident : ident = spell name
    · rw [hident, hfind]
      simp
    · have hbeq : (ident == spell name) = false := beq_eq_false_iff_ne.mpr hident
      simp [hbeq, Ne.symm hident]
  | some first =>
    simp only [Option.bind_some]
    by_cases hname : first = name
    -- a name that comes again is not its own rival
    · rw [if_pos hname, if_pos hname]
      refine ⟨rfl, fun ident => ?_⟩
      rw [List.find?_append, h ident]
      by_cases hident : ident = spell name
      · rw [hident, hfind, Option.some_or]
      · simp [Ne.symm hident]
    · rw [if_neg hname, if_neg hname]
      exact rfl

theorem clash?_eq_none_iff {before : List String} (h : before.InjOn spell) (name : String) :
    target.clash? scope spell before name = none ↔
      ∀ first ∈ before, spell first = spell name → first = name := by
  rw [clash?]
  cases hfind : before.find? fun first => spell first = spell name with
  | none =>
    refine iff_of_true rfl fun first hfirst hspell => ?_
    exact absurd (decide_eq_true hspell) (List.find?_eq_none.mp hfind first hfirst)
  | some first =>
    have hmem := List.mem_of_find?_eq_some hfind
    have hspell : spell first = spell name := by simpa using List.find?_some hfind
    rw [Option.bind_some, ite_eq_left_iff]
    constructor
    · intro himp other hother hspell'
      -- the earliest name of the spelling is the only one so far
      have hfirst : first = name := by
        by_contra hne
        cases himp hne
      rw [← hfirst]
      exact h other hother first hmem (hspell'.trans hspell.symm)
    · intro hall hne
      exact absurd (hall first hmem hspell) hne

/-- A clash names the earliest name of the spelling. -/
theorem clash?_eq_some {before : List String} {name : String} {e : CompileError}
    (h : target.clash? scope spell before name = some e) :
    ∃ first, first ≠ name ∧ spell first = spell name ∧
      e = .identifierClash target.name (spell name) first name scope := by
  rw [clash?, Option.bind_eq_some_iff] at h
  obtain ⟨first, hfind, hfirst⟩ := h
  have hspell : spell first = spell name := by simpa using List.find?_some hfind
  split at hfirst
  · cases hfirst
  · next hne => exact ⟨first, hne, hspell, (Option.some.inj hfirst).symm⟩

/-- Nothing is wrong with the spelling of names exactly if no two are spelled alike. -/
theorem clashes_eq_nil_iff {before : List String} (h : before.InjOn spell) (names : List String) :
    target.clashes scope spell before names = [] ↔ (before ++ names).InjOn spell := by
  induction names generalizing before with
  | nil =>
    rw [List.append_nil]
    exact iff_of_true rfl h
  | cons name rest ih =>
    have hassoc : before ++ name :: rest = before ++ [name] ++ rest := by simp
    rw [clashes, List.append_eq_nil_iff, Option.toList_eq_nil_iff,
      clash?_eq_none_iff target scope h, hassoc]
    constructor
    · rintro ⟨hname, hrest⟩
      exact (ih (List.injOn_concat_iff.mpr ⟨h, hname⟩)).mp hrest
    · intro hall
      have hpre : (before ++ [name]).InjOn spell := hall.left
      exact ⟨(List.injOn_concat_iff.mp hpre).2, (ih hpre).mpr hall⟩

end Clash

/-! ### Types -/

/-- Taking the identifiers of all types ends with their first clash. -/
theorem claimTypes_reports (target : Target) (isPublic : Bool) (records : List Record)
    {before : List String} {claims : Claims}
    (h : Claims.Of (target.typeIdent isPublic) before claims) :
    Reports (target.clashes .typeNames (target.typeIdent isPublic) before (records.map (·.name)))
      (fun _ => True) (target.claimTypes isPublic records claims) := by
  induction records generalizing before claims with
  | nil => exact ⟨rfl, trivial⟩
  | cons record rest ih =>
    rw [claimTypes, List.map_cons, clashes]
    exact (target.claim_reports .typeNames h record.name).bind fun claims hclaims => ih hclaims

end Target

end SchemaDecl
