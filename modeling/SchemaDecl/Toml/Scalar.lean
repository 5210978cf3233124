import SchemaDecl.Toml.Basic

/-!
# Numbers, dates and words of settings documents

Every value that is neither text nor a collection is one unbroken token, apart from a
date and a time with a space between them.  Each function here decides whether a whole
token is of its kind.

* `Toml.integer?`, `Toml.float?`: numbers.
* `Toml.date?`, `Toml.time?`, `Toml.zonedTime?`: dates and times.
* `Toml.scalar?`: the value of a token.
-/

namespace SchemaDecl.Toml

/-! ### Digits -/

/-- The value of a digit of a base up to sixteen. -/
def digit? (base : Nat) (c : Char) : Option Nat :=
  let value :=
    if '0' ≤ c ∧ c ≤ '9' then some (c.toNat - '0'.toNat)
    else if 'a' ≤ c ∧ c ≤ 'f' then some (c.toNat - 'a'.toNat + 10)
    else if 'A' ≤ c ∧ c ≤ 'F' then some (c.toNat - 'A'.toNat + 10)
    else none
  value.filter (· < base)

/-- Digits, possibly with single underscores between them.  The flag tells whether a digit
stands just before. -/
def digits? (base : Nat) : (afterDigit : Bool) → List Char → Option (List Nat)
  | afterDigit, [] => if afterDigit then some [] else none
  | afterDigit, c :: rest =>
    if c = '_' then if afterDigit then digits? base false rest else none
    else do
      let d ← digit? base c
      let ds ← digits? base true rest
      return d :: ds

/-- The number that digits of a base spell. -/
def valueOf (base : Nat) (ds : List Nat) : Nat := ds.foldl (fun n d => n * base + d) 0

/-- A sign, if one is written, and the rest. -/
def splitSign : List Char → Bool × List Char
  | '-' :: rest => (true, rest)
  | '+' :: rest => (false, rest)
  | cs => (false, cs)

/-- Decimal digits of a whole number: none but a zero alone begins with a zero. -/
def wholeDigits? (cs : List Char) : Option (List Nat) :=
  match digits? 10 false cs with
  | some (0 :: _ :: _) => none
  | result => result

/-! ### Numbers -/

/-- The largest integer. -/
def maxInteger : Nat := 0x7FFFFFFFFFFFFFFF

/-- A number within the bound. -/
def bounded (bound n : Nat) : Option Nat := if n ≤ bound then some n else none

/-- An integer in decimal, or without a sign in one of three other bases. -/
def integer? : List Char → Option Int
  | '0' :: 'x' :: rest => do
    let n ← bounded maxInteger (valueOf 16 (← digits? 16 false rest))
    return n
  | '0' :: 'o' :: rest => do
    let n ← bounded maxInteger (valueOf 8 (← digits? 8 false rest))
    return n
  | '0' :: 'b' :: rest => do
    let n ← bounded maxInteger (valueOf 2 (← digits? 2 false rest))
    return n
  | cs => do
    let (isNegative, cs) := splitSign cs
    let n := valueOf 10 (← wholeDigits? cs)
    if isNegative then
      let n ← bounded (maxInteger + 1) n
      return -(n : Int)
    else
      let n ← bounded maxInteger n
      return n

/-- The value of an exponent, which may have a sign. -/
def power? (cs : List Char) : Option Int :=
  let (isNegative, cs) := splitSign cs
  (digits? 10 false cs).map fun ds => if isNegative then -(valueOf 10 ds : Int) else valueOf 10 ds

/-- Whether digits scaled by a power of ten are too large for a double.  The digits must
not begin with a zero. -/
def overflows (ds : List Nat) (exponent : Int) : Bool :=
  let bound := Nat.pow 2 1024 - Nat.pow 2 970
  let size := ds.length + exponent
  if ds.isEmpty || size < 300 then false
  else if 320 < size then true
  else if 0 ≤ exponent then bound ≤ valueOf 10 ds * Nat.pow 10 exponent.toNat
  else bound * Nat.pow 10 (-exponent).toNat ≤ valueOf 10 ds

/-- The part of a token before a character that satisfies `p`, and the part behind it, if
there is one. -/
def splitAtFirst (p : Char → Bool) (cs : List Char) : List Char × Option (List Char) :=
  match cs.dropWhile fun c => !p c with
  | [] => (cs, none)
  | _ :: rest => (cs.takeWhile fun c => !p c, some rest)

/-- A floating-point number: a decimal number with a fraction, an exponent or both, that is
not too large, or one of the words for infinity and for no number. -/
def float? (token : List Char) : Option Toml := do
  let (isNegative, cs) := splitSign token
  if cs = ['i', 'n', 'f'] ∨ cs = ['n', 'a', 'n'] then return .float (String.ofList token)
  let (mantissa, exponent) := splitAtFirst (fun c => c == 'e' || c == 'E') cs
  let (whole, fraction) := splitAtFirst (· == '.') mantissa
  if exponent.isNone && fraction.isNone then none
  else
    let wholeDigits ← wholeDigits? whole
    let fractionDigits ← fraction.elim (some []) (digits? 10 false)
    let power ← exponent.elim (some 0) power?
    let significant := (wholeDigits ++ fractionDigits).dropWhile (· == 0)
    if !isNegative && overflows significant (power - fractionDigits.length) then none
    else return .float (String.ofList token)

/-! ### Dates and times -/

/-- The number that exactly `n` decimal digits at the beginning of a token spell, and the
rest of the token. -/
def fixedDigits? (n : Nat) (cs : List Char) : Option (Nat × List Char) := do
  let ds ← (cs.take n).mapM (digit? 10)
  if ds.length = n then some (valueOf 10 ds, cs.drop n) else none

/-- The token after a given character. -/
def after? (c : Char) : List Char → Option (List Char)
  | d :: rest => if d = c then some rest else none
  | [] => none

/-- Whether a year has a leap day. -/
def isLeapYear (year : Nat) : Bool := year % 4 == 0 && (year % 100 != 0 || year % 400 == 0)

/-- The number of days of a month. -/
def daysIn (year month : Nat) : Nat :=
  if month = 2 then if isLeapYear year then 29 else 28
  else if month = 4 ∨ month = 6 ∨ month = 9 ∨ month = 11 then 30
  else 31

/-- The token after the date that it begins with. -/
def date? (cs : List Char) : Option (List Char) := do
  let (year, cs) ← fixedDigits? 4 cs
  let cs ← after? '-' cs
  let (month, cs) ← fixedDigits? 2 cs
  let cs ← after? '-' cs
  let (day, cs) ← fixedDigits? 2 cs
  if 1 ≤ month ∧ month ≤ 12 ∧ 1 ≤ day ∧ day ≤ daysIn year month then some cs else none

/-- The token after the hours and minutes that it begins with. -/
def hourMinute? (cs : List Char) : Option (List Char) := do
  let (hour, cs) ← fixedDigits? 2 cs
  let cs ← after? ':' cs
  let (minute, cs) ← fixedDigits? 2 cs
  if hour ≤ 23 ∧ minute ≤ 59 then some cs else none

/-- The token after the time that it begins with.  A minute may have a leap second. -/
def time? (cs : List Char) : Option (List Char) := do
  let cs ← hourMinute? cs
  let cs ← after? ':' cs
  let (second, cs) ← fixedDigits? 2 cs
  if 60 < second then none
  else
    match cs with
    | '.' :: rest =>
      if (rest.takeWhile Char.isDigit).isEmpty then none else some (rest.dropWhile Char.isDigit)
    | _ => some cs

/-- Whether a token is a time, possibly with its distance from universal time. -/
def zonedTime? (cs : List Char) : Bool :=
  match time? cs with
  | none => false
  | some [] => true
  | some (c :: rest) =>
    if c = 'Z' ∨ c = 'z' then rest.isEmpty
    else if c = '+' ∨ c = '-' then hourMinute? rest == some []
    else false

/-- A token that is a date alone. -/
def isDate (token : List Char) : Bool := date? token == some []

/-- A token that is a date with a time, or either alone. -/
def datetime? (token : List Char) : Option Toml :=
  let isOne := match date? token with
    | some [] => true
    | some (c :: rest) => (c == 'T' || c == 't') && zonedTime? rest
    | none => time? token == some []
  if isOne then some (.datetime (String.ofList token)) else none

/-! ### Tokens -/

/-- Whether a character can stand in such a token. -/
def isTokenChar (c : Char) : Bool :=
  c.isAlphanum || c == '+' || c == '-' || c == '_' || c == '.' || c == ':'

/-- The value of a token. -/
def scalar? (token : List Char) : Option Toml :=
  if token = ['t', 'r', 'u', 'e'] then some (.boolean true)
  else if token = ['f', 'a', 'l', 's', 'e'] then some (.boolean false)
  else (datetime? token).or ((float? token).or ((integer? token).map Toml.integer))

end SchemaDecl.Toml
