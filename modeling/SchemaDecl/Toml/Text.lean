import SchemaDecl.Toml.Scalar

/-!
# Strings of settings documents

A string is basic, with escapes, or literal, without.  Either stands in one line between
single delimiters, or spreads over lines between triple ones.

* `Toml.basicString?`, `Toml.literalString?`: a string in one line.
* `Toml.basicLines?`, `Toml.literalLines?`: a string over several lines.
* `Toml.string?`: the string at the beginning of a text.

Each gives the characters of the string and what follows it in the text.
-/

namespace SchemaDecl.Toml

/-- Whether a character may stand unescaped in a string or a comment. -/
def isPlainChar (c : Char) : Bool := c == '\t' || (0x20 ≤ c.toNat && c.toNat != 0x7f)

/-- A blank inside a line. -/
def isBlankChar (c : Char) : Bool := c == ' ' || c == '\t'

/-- The character that a letter after a backslash stands for. -/
def letterEscape? (c : Char) : Option Char :=
  if c = 'b' then some '\x08'
  else if c = 'f' then some '\x0c'
  else if c = 'n' then some '\n'
  else if c = 'r' then some '\r'
  else if c = 't' then some '\t'
  else if c = '"' then some '"'
  else if c = '\\' then some '\\'
  else none

/-- The character whose code point is spelled by hexadecimal digits. -/
def codePoint? (ds : List Char) : Option Char := do
  let n := valueOf 16 (← ds.mapM (digit? 16))
  if h : n.isValidChar then some (Char.ofNatAux n h) else none

/-- A character put before what is read of a string. -/
def consChar (c : Char) (read : Option (List Char × List Char)) : Option (List Char × List Char) :=
  read.map fun r => (c :: r.1, r.2)

/-- A basic string in one line, after its opening quote. -/
def basicString? : List Char → Option (List Char × List Char)
  | [] => none
  | c :: rest =>
    if c = '"' then some ([], rest)
    else if c = '\\' then
      match rest with
      | 'u' :: h₁ :: h₂ :: h₃ :: h₄ :: rest => do
        consChar (← codePoint? [h₁, h₂, h₃, h₄]) (basicString? rest)
      | 'U' :: h₁ :: h₂ :: h₃ :: h₄ :: h₅ :: h₆ :: h₇ :: h₈ :: rest => do
        consChar (← codePoint? [h₁, h₂, h₃, h₄, h₅, h₆, h₇, h₈]) (basicString? rest)
      | e :: rest => do consChar (← letterEscape? e) (basicString? rest)
      | [] => none
    else if isPlainChar c then consChar c (basicString? rest)
    else none

/-- A literal string in one line, after its opening quote. -/
def literalString? : List Char → Option (List Char × List Char)
  | [] => none
  | c :: rest =>
    if c = '\'' then some ([], rest)
    else if isPlainChar c then consChar c (literalString? rest)
    else none

/-- The text after the end of the line it begins with, if it begins with one. -/
def lineEnd? : List Char → Option (List Char)
  | '\n' :: rest => some rest
  | '\r' :: '\n' :: rest => some rest
  | _ => none

/-- What ends a string over several lines: three quotes, before which one or two more
belong to the string.  Gives those and what follows. -/
def closing? (quote : Char) (cs : List Char) : Option (List Char × List Char) :=
  let run := (cs.takeWhile (· == quote)).length
  if run < 3 then none
  else
    let inner := min (run - 3) 2
    some (List.replicate inner quote, cs.drop (inner + 3))

/-- What a backslash in a string over several lines has begun. -/
inductive LineJoin
  /-- Nothing: the text is content. -/
  | none
  /-- The blanks before the end of the line, which must come. -/
  | before
  /-- The blanks and line ends after it. -/
  | after
  deriving DecidableEq, Repr

/-- A basic string over several lines, after its opening quotes.  A backslash at the end of
a line takes away all blanks and line ends up to the next character. -/
def basicLines? : LineJoin → List Char → Option (List Char × List Char)
  | _, [] => none
  | join, c :: rest =>
    if c = '\n' then
      match join with
      | .none => consChar '\n' (basicLines? .none rest)
      | _ => basicLines? .after rest
    else if c = '\r' then
      match rest, join with
      | '\n' :: rest, .none => consChar '\n' (basicLines? .none rest)
      | '\n' :: rest, _ => basicLines? .after rest
      | _, _ => none
    else if join ≠ .none ∧ isBlankChar c then basicLines? join rest
    else if join = .before then none
    else if c = '"' then
      match closing? '"' (c :: rest) with
      | some result => some result
      | none => consChar c (basicLines? .none rest)
    else if c = '\\' then
      match rest with
      | 'u' :: h₁ :: h₂ :: h₃ :: h₄ :: rest => do
        consChar (← codePoint? [h₁, h₂, h₃, h₄]) (basicLines? .none rest)
      | 'U' :: h₁ :: h₂ :: h₃ :: h₄ :: h₅ :: h₆ :: h₇ :: h₈ :: rest => do
        consChar (← codePoint? [h₁, h₂, h₃, h₄, h₅, h₆, h₇, h₈]) (basicLines? .none rest)
      | '\n' :: rest => basicLines? .after rest
      | '\r' :: '\n' :: rest => basicLines? .after rest
      | e :: rest =>
        if isBlankChar e then basicLines? .before rest
        else do consChar (← letterEscape? e) (basicLines? .none rest)
      | [] => none
    else if isPlainChar c then consChar c (basicLines? .none rest)
    else none

/-- A literal string over several lines, after its opening quotes. -/
def literalLines? : List Char → Option (List Char × List Char)
  | [] => none
  | c :: rest =>
    if c = '\n' then consChar '\n' (literalLines? rest)
    else if c = '\r' then
      match rest with
      | '\n' :: rest => consChar '\n' (literalLines? rest)
      | _ => none
    else if c = '\'' then
      match closing? '\'' (c :: rest) with
      | some result => some result
      | none => consChar c (literalLines? rest)
    else if isPlainChar c then consChar c (literalLines? rest)
    else none

/-- A text without the end of a line that it begins with. -/
def dropLineEnd (cs : List Char) : List Char := (lineEnd? cs).getD cs

/-- The string at the beginning of a text. -/
def string? : List Char → Option (List Char × List Char)
  | '"' :: '"' :: '"' :: rest => basicLines? .none (dropLineEnd rest)
  | '"' :: rest => basicString? rest
  | '\'' :: '\'' :: '\'' :: rest => literalLines? (dropLineEnd rest)
  | '\'' :: rest => literalString? rest
  | _ => none

end SchemaDecl.Toml
