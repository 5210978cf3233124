import SchemaDecl.Json.Fault

/-!
# Numbers in JSON text

A numeral is read digit by digit.  A document may only hold numbers that a
double-precision float can hold, so a numeral that would overflow is a fault.  The bound
is that of an accumulation in 64 bits: once the digits no longer fit, further whole
digits only raise the exponent and further fraction digits are dropped, and what results
is scaled by a power of ten with one rounding for each of the two factors and one for
their product.

* `Numeral`: the parts of a number.
* `Numeral.scan`: the number at the beginning of a text.
* `Numeral.overflow?`: whether it is out of range, and where that is noticed.
-/

namespace SchemaDecl.Json

/-- The parts of a number as written, each a list of digits. -/
structure Numeral where
  isNegative : Bool
  whole : List Char
  fraction : Option (List Char)
  /-- The sign character, if one is written, and the digits. -/
  exponent : Option (Option Char × List Char)
  /-- The mark before the exponent. -/
  mark : Char := 'e'
  deriving DecidableEq, Repr

namespace Numeral

/-- The number as it was written. -/
def literal (n : Numeral) : String :=
  String.ofList <|
    (if n.isNegative then ['-'] else []) ++ n.whole ++
    (match n.fraction with | none => [] | some digits => '.' :: digits) ++
    match n.exponent with
    | none => []
    | some (sign, digits) => n.mark :: sign.toList ++ digits

/-- The value of a digit. -/
def digitValue (c : Char) : Nat := c.toNat - '0'.toNat

/-- The digits at the beginning of a text, and what follows them. -/
def digits (cs : List Char) : List Char × List Char :=
  (cs.takeWhile Char.isDigit, cs.dropWhile Char.isDigit)

/-- The digits of the whole part: a zero alone, or digits that do not begin with one. -/
def scanWhole : List Char → Except Fault (List Char × List Char)
  | [] => .error (.atNext .endInValue [])
  | c :: rest =>
    if c = '0' then
      match rest with
      | [] => .ok (['0'], [])
      | d :: _ => if d.isDigit then .error (.atNext .invalidNumber rest) else .ok (['0'], rest)
    else if c.isDigit then .ok (digits (c :: rest))
    else .error (.atNext .invalidNumber (c :: rest))

/-- A point and the digits behind it, if there is a point. -/
def scanFraction : List Char → Except Fault (Option (List Char) × List Char)
  | '.' :: rest =>
    match digits rest with
    | ([], []) => .error (.atNext .endInValue [])
    | ([], after) => .error (.atNext .invalidNumber after)
    | (ds, after) => .ok (some ds, after)
  | cs => .ok (none, cs)

/-- A sign, if there is one, and the digits of an exponent. -/
def scanExponentDigits (sign : Option Char) (cs : List Char) :
    Except Fault ((Option Char × List Char) × List Char) :=
  match digits cs with
  | ([], []) => .error (.atNext .endInValue [])
  | ([], after) => .error (.atNext .invalidNumber after)
  | (ds, after) => .ok ((sign, ds), after)

/-- An exponent with its mark, if there is one. -/
def scanExponent : List Char → Except Fault (Option (Char × Option Char × List Char) × List Char)
  | [] => .ok (none, [])
  | c :: rest =>
    if c = 'e' ∨ c = 'E' then do
      let (parts, after) ←
        match rest with
        | '+' :: tail => scanExponentDigits (some '+') tail
        | '-' :: tail => scanExponentDigits (some '-') tail
        | tail => scanExponentDigits none tail
      return (some (c, parts), after)
    else .ok (none, c :: rest)

/-- The number at the beginning of a text. -/
def scan (cs : List Char) : Except Fault (Numeral × List Char) := do
  let (isNegative, cs) := match cs with
    | '-' :: rest => (true, rest)
    | cs => (false, cs)
  let (whole, cs) ← scanWhole cs
  let (fraction, cs) ← scanFraction cs
  let (exponent, cs) ← scanExponent cs
  return match exponent with
    | none => (⟨isNegative, whole, fraction, none, 'e'⟩, cs)
    | some (mark, parts) => (⟨isNegative, whole, fraction, some parts, mark⟩, cs)

/-! ### Range -/

/-- The largest significand that the accumulation holds. -/
def maxSignificand : Nat := 0xFFFFFFFFFFFFFFFF

/-- The largest exponent that can be written out. -/
def maxExponent : Nat := 0x7FFFFFFF

/-- The significand of the whole digits and how many of them did not fit. -/
def accumulateWhole (ds : List Char) : Nat × Nat :=
  ds.foldl
    (fun (sig, extra) c =>
      let next := sig * 10 + digitValue c
      if extra ≠ 0 ∨ maxSignificand < next then (sig, extra + 1) else (next, 0))
    (0, 0)

/-- The significand after fraction digits, and how many of them went into it.  The first
digit that does not fit ends the accumulation. -/
def accumulateFraction : Nat → List Char → Nat × Nat
  | sig, [] => (sig, 0)
  | sig, c :: rest =>
    let next := sig * 10 + digitValue c
    if maxSignificand < next then (sig, 0)
    else
      let (final, used) := accumulateFraction next rest
      (final, used + 1)

/-- The value of exponent digits, or the digits left unread once it grows too large. -/
def accumulateExponent : Nat → List Char → Nat ⊕ List Char
  | value, [] => .inl value
  | value, c :: rest =>
    let next := value * 10 + digitValue c
    if maxExponent < next then .inr rest else accumulateExponent next rest

/-- The nearest number of at most 53 significant bits, where a tie goes to the even one. -/
def roundToDouble (n : Nat) : Nat :=
  if n < Nat.pow 2 53 then n
  else
    let unit := Nat.pow 2 (Nat.log2 n - 52)
    let quotient := n / unit
    let rest := n % unit
    if unit < 2 * rest ∨ (unit = 2 * rest ∧ quotient % 2 = 1) then (quotient + 1) * unit
    else quotient * unit

/-- The least number that rounds to infinity. -/
def infinityBound : Nat := Nat.pow 2 1024 - Nat.pow 2 970

/-- Whether a significand scaled by a power of ten has no finite double. -/
def exceedsRange (significand : Nat) (exponent : Int) : Bool :=
  if exponent < 0 then false
  else if 308 < exponent then significand != 0
  else infinityBound ≤ roundToDouble significand * roundToDouble (Nat.pow 10 exponent.toNat)

/-- If the number is out of range, how many of its last characters are left unread when
that is noticed. -/
def overflow? (n : Numeral) : Option Nat :=
  let (sig, extra) := accumulateWhole n.whole
  let (sig, used) := accumulateFraction sig (n.fraction.getD [])
  let scale : Int := (extra : Int) - used
  match n.exponent with
  | none => if exceedsRange sig scale then some 0 else none
  | some (sign, ds) =>
    match accumulateExponent 0 ds with
    | .inr left => if sig ≠ 0 ∧ sign ≠ some '-' then some left.length else none
    | .inl value =>
      let exponent := if sign = some '-' then scale - value else scale + value
      if exceedsRange sig exponent then some 0 else none

end Numeral

end SchemaDecl.Json
