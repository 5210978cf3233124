import SchemaDecl.Text.Table.CaseMap
import SchemaDecl.Text.Table.Cased

/-!
# Upper and lower case

Case forms of characters and texts after the full Unicode mappings: one character may
have several as its other form, as `ß` has `SS`.

* `isLowercase`, `isUppercase`: the two properties.
* `uppercase`, `lowercase`: the forms of one character, as a list of characters.
* `uppercaseText`: every character of a text replaced by its upper-case form.
* `capitalize`: the same for the first character only.
* `lowercaseWord`: every character of a word replaced by its lower-case form, with the
  form that the letter sigma takes at the end of a word.
-/

namespace SchemaDecl

namespace CaseRun

/-- The other form of the code point `n`, if the run reaches it. -/
def form? (r : CaseRun) (n : Nat) : Option Nat :=
  if r.first ≤ n && n ≤ r.last && (n - r.first) % r.step == 0 then
    some (Int.toNat (n + r.offset))
  else
    none

end CaseRun

namespace Text

/-- The form that the first matching run gives to `n`; without one, `n` itself. -/
def singleForm : List CaseRun → Nat → Nat
  | [], n => n
  | r :: rest, n => if n ≤ r.last then (r.form? n).getD n else singleForm rest n

/-- The case form of a character: its expansion if it has one, else its single form. -/
def caseForm (runs : List CaseRun) (expansions : List (Nat × List Nat)) (c : Char) : List Char :=
  match expansions.lookup c.toNat with
  | some codes => codes.map Char.ofNat
  | none => [Char.ofNat (singleForm runs c.toNat)]

/-- The upper-case form of a character. -/
def uppercase (c : Char) : List Char := caseForm uppercaseRuns uppercaseExpansions c

/-- The lower-case form of a character. -/
def lowercase (c : Char) : List Char := caseForm lowercaseRuns lowercaseExpansions c

/-- Whether a character counts as a lower-case letter. -/
def isLowercase (c : Char) : Bool := lowercaseTable.hasChar c

/-- Whether a character counts as an upper-case letter. -/
def isUppercase (c : Char) : Bool := uppercaseTable.hasChar c

/-- A text with every character in its upper-case form. -/
def uppercaseText (s : String) : String := String.ofList (s.toList.flatMap uppercase)

/-- A text with its first character in upper-case form and the others as they are. -/
def capitalize (s : String) : String :=
  match s.toList with
  | [] => ""
  | c :: rest => String.ofList (uppercase c ++ rest)

/-- A word in lower case.  A sigma at its end takes the final form. -/
def lowercaseWord : List Char → List Char
  | [] => []
  | ['Σ'] => ['ς']
  | c :: rest => lowercase c ++ lowercaseWord rest

@[simp] theorem lowercaseWord_nil : lowercaseWord [] = [] := rfl

end Text

end SchemaDecl
