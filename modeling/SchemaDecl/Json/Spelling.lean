import SchemaDecl.Json.Fault

/-!
# Strings in JSON text

Inside quotes a backslash begins an escape.  A character beyond the first plane is
escaped as two halves of four hexadecimal digits each, and a half alone stands for no
character.

* `spell`, `spellChars`: how a character and a string are written.
* `readString`: the string at the beginning of a text, whose opening quote is read.
* `skipString`: the end of such a string, whether or not all halves are paired.
-/

namespace SchemaDecl.Json

/-! ### Writing -/

/-- A hexadecimal digit in lower case. -/
def hexDigit (n : Nat) : Char := Nat.digitChar n

/-- The spelling of one character between quotes: escapes for quotes, backslashes and
control characters. -/
def spell (c : Char) : List Char :=
  if c = '"' then ['\\', '"']
  else if c = '\\' then ['\\', '\\']
  else if c = '\x08' then ['\\', 'b']
  else if c = '\x0c' then ['\\', 'f']
  else if c = '\n' then ['\\', 'n']
  else if c = '\r' then ['\\', 'r']
  else if c = '\t' then ['\\', 't']
  else if c.toNat < 0x20 then
    ['\\', 'u', '0', '0', hexDigit (c.toNat / 16), hexDigit (c.toNat % 16)]
  else [c]

/-- The characters of a string between quotes. -/
def spellChars (cs : List Char) : List Char := '"' :: cs.flatMap spell ++ ['"']

/-! ### Reading -/

/-- The value of a hexadecimal digit of either case. -/
def hexValue? (c : Char) : Option Nat :=
  if '0' ≤ c ∧ c ≤ '9' then some (c.toNat - '0'.toNat)
  else if 'a' ≤ c ∧ c ≤ 'f' then some (c.toNat - 'a'.toNat + 10)
  else if 'A' ≤ c ∧ c ≤ 'F' then some (c.toNat - 'A'.toNat + 10)
  else none

/-- The value of four hexadecimal digits. -/
def hexValue4? (a b c d : Char) : Option Nat := do
  let a ← hexValue? a
  let b ← hexValue? b
  let c ← hexValue? c
  let d ← hexValue? d
  return ((a * 16 + b) * 16 + c) * 16 + d

/-- Whether a number is the first half of a character beyond the first plane. -/
def isLeadingHalf (n : Nat) : Bool := 0xD800 ≤ n && n ≤ 0xDBFF

/-- Whether a number is the second half of one. -/
def isTrailingHalf (n : Nat) : Bool := 0xDC00 ≤ n && n ≤ 0xDFFF

/-- The character of two halves. -/
def joinHalves (leading trailing : Nat) : Char :=
  Char.ofNat ((leading - 0xD800) * 0x400 + (trailing - 0xDC00) + 0x10000)

/-- The character that one letter after a backslash stands for. -/
def letterEscape? (c : Char) : Option Char :=
  if c = '"' then some '"'
  else if c = '\\' then some '\\'
  else if c = '/' then some '/'
  else if c = 'b' then some '\x08'
  else if c = 'f' then some '\x0c'
  else if c = 'n' then some '\n'
  else if c = 'r' then some '\r'
  else if c = 't' then some '\t'
  else none

/-- The fault of an escape whose digits are missing or wrong.  Four bytes are taken for
the digits, and if there are fewer the text ends inside the string. -/
def hexFault (rest : List Char) : Fault :=
  if byteCount rest < 4 then ⟨.endInString, 0⟩ else ⟨.invalidEscape, byteCount rest - 4⟩

/-- The fault of a first half that no second half follows. -/
def halfFault : List Char → Fault
  | [] => .atNext .endInString []
  | '\\' :: [] => .atNext .endInString []
  | '\\' :: 'u' :: rest => hexFault rest
  | '\\' :: rest => .atNext .unexpectedEndOfHexEscape rest
  | rest => .atNext .unexpectedEndOfHexEscape rest

/-- The characters of a string up to its closing quote, and what follows it. -/
def readString : List Char → Except Fault (List Char × List Char)
  | [] => .error (.atNext .endInString [])
  | c :: rest =>
    if c = '"' then .ok ([], rest)
    else if c = '\\' then
      match rest with
      | [] => .error (.atNext .endInString [])
      | e :: rest' =>
        if e = 'u' then
          match rest' with
          | h₁ :: h₂ :: h₃ :: h₄ :: after =>
            match hexValue4? h₁ h₂ h₃ h₄ with
            | none => .error (hexFault rest')
            | some n =>
              if isTrailingHalf n then .error (.before .loneSurrogate after)
              else if isLeadingHalf n then
                match after with
                | '\\' :: 'u' :: l₁ :: l₂ :: l₃ :: l₄ :: after' =>
                  match hexValue4? l₁ l₂ l₃ l₄ with
                  | none => .error (halfFault after)
                  | some m =>
                    if isTrailingHalf m then
                      (readString after').map fun r => (joinHalves n m :: r.1, r.2)
                    else .error (.before .loneSurrogate after')
                | _ => .error (halfFault after)
              else (readString after).map fun r => (Char.ofNat n :: r.1, r.2)
          | _ => .error (hexFault rest')
        else
          match letterEscape? e with
          | none => .error (.atNext .invalidEscape rest)
          | some d => (readString rest').map fun r => (d :: r.1, r.2)
    else if c.toNat < 0x20 then .error (.atNext .controlCharacter (c :: rest))
    else (readString rest).map fun r => (c :: r.1, r.2)

/-- What follows the closing quote of a string, in which halves may stand alone. -/
def skipString : List Char → Except Fault (List Char)
  | [] => .error (.atNext .endInString [])
  | c :: rest =>
    if c = '"' then .ok rest
    else if c = '\\' then
      match rest with
      | [] => .error (.atNext .endInString [])
      | e :: rest' =>
        if e = 'u' then
          match rest' with
          | h₁ :: h₂ :: h₃ :: h₄ :: after =>
            match hexValue4? h₁ h₂ h₃ h₄ with
            | none => .error (hexFault rest')
            | some _ => skipString after
          | _ => .error (hexFault rest')
        else
          match letterEscape? e with
          | none => .error (.atNext .invalidEscape rest)
          | some _ => skipString rest'
    else if c.toNat < 0x20 then .error (.atNext .controlCharacter (c :: rest))
    else skipString rest

end SchemaDecl.Json
