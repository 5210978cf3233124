/-!
# Tables of code points

A property of characters that a standard lists, such as "is a letter", is kept as
an ascending list of runs of code points.  A run has a step, since in the
alternating stretches of cased alphabets every second code point has the property.

* `CodeRun`, `CodeTable`: the runs and their lists.
* `CodeTable.contains`: whether a code point lies in a table.

All tables of this library are those of Unicode 17.0.
-/

namespace SchemaDecl

/-- The code points `first`, `first + step`, … up to `last`. -/
structure CodeRun where
  first : Nat
  last : Nat
  step : Nat
  deriving DecidableEq, Repr

/-- Runs in ascending order, no two of which overlap. -/
abbrev CodeTable := List CodeRun

namespace CodeRun

/-- Whether the run reaches the code point `n`. -/
def contains (r : CodeRun) (n : Nat) : Bool :=
  r.first ≤ n && n ≤ r.last && (n - r.first) % r.step == 0

end CodeRun

namespace CodeTable

/-- Whether some run of the table reaches `n`.  Since the runs ascend, only the first
one that does not end before `n` can. -/
def contains : CodeTable → Nat → Bool
  | [], _ => false
  | r :: rest, n => if n ≤ r.last then r.contains n else contains rest n

/-- Whether a character's code point lies in the table. -/
def hasChar (t : CodeTable) (c : Char) : Bool := t.contains c.toNat

@[simp] theorem contains_nil (n : Nat) : contains [] n = false := rfl

end CodeTable

end SchemaDecl
