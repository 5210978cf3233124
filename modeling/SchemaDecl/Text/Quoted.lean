import SchemaDecl.Text.Table.Extending
import SchemaDecl.Text.Table.Unprintable

/-!
# Quoted text

A text between double quotes, with escapes for the quote, the backslash and every
character that does not show by itself.  The hexadecimal escape `\u{…}` has the
code point in lower case and without leading zeros.

* `escape`: the spelling of one character.
* `quoted`: the spelling of a text, quotes included.
-/

namespace SchemaDecl.Text

/-- Whether a character joins the one before it. -/
def isExtending (c : Char) : Bool := extendingTable.hasChar c

/-- Whether a character has no glyph of its own.  The space has one. -/
def isUnprintable (c : Char) : Bool := unprintableTable.hasChar c

/-- The hexadecimal escape of a character. -/
def hexEscape (c : Char) : List Char :=
  ['\\', 'u', '\x7b'] ++ Nat.toDigits 16 c.toNat ++ ['\x7d']

/-- A character as it is spelled inside quotes. -/
def escape (c : Char) : List Char :=
  if c = '"' then ['\\', '"']
  else if c = '\\' then ['\\', '\\']
  else if c = '\n' then ['\\', 'n']
  else if c = '\r' then ['\\', 'r']
  else if c = '\t' then ['\\', 't']
  else if c = '\x00' then ['\\', '0']
  else if isExtending c || isUnprintable c then hexEscape c
  else [c]

/-- A text between double quotes. -/
def quoted (s : String) : String :=
  String.ofList ('"' :: s.toList.flatMap escape ++ ['"'])

end SchemaDecl.Text
