/-!
# Faults in JSON text

A reader stops at the first place where the text cannot go on as a document.  A fault
says what was expected there and how much of the text lies behind it, from which its
line and column follow.  Columns count the bytes of the UTF-8 form.

* `FaultKind`, `FaultKind.text`: what is wrong.
* `Fault`: a fault inside a text that is being read.
* `Position`, `Position.after`: lines and columns.
* `LocatedFault`, `LocatedFault.message`: a fault with its position in a whole text.
-/

namespace SchemaDecl.Json

/-- What is wrong with a text. -/
inductive FaultKind
  | endInList
  | endInObject
  | endInString
  | endInValue
  | expectedColon
  | expectedListCommaOrEnd
  | expectedObjectCommaOrEnd
  | expectedIdent
  | expectedValue
  | invalidEscape
  | invalidNumber
  | numberOutOfRange
  | controlCharacter
  | keyMustBeString
  | loneSurrogate
  | unexpectedEndOfHexEscape
  | trailingComma
  | trailingCharacters
  | recursionLimit
  deriving DecidableEq, Repr

/-- The wording of a fault. -/
def FaultKind.text : FaultKind → String
  | endInList => "EOF while parsing a list"
  | endInObject => "EOF while parsing an object"
  | endInString => "EOF while parsing a string"
  | endInValue => "EOF while parsing a value"
  | expectedColon => "expected `:`"
  | expectedListCommaOrEnd => "expected `,` or `]`"
  | expectedObjectCommaOrEnd => "expected `,` or `\x7d`"
  | expectedIdent => "expected ident"
  | expectedValue => "expected value"
  | invalidEscape => "invalid escape"
  | invalidNumber => "invalid number"
  | numberOutOfRange => "number out of range"
  | controlCharacter => "control character (\\u0000-\\u001F) found while parsing a string"
  | keyMustBeString => "key must be a string"
  | loneSurrogate => "lone leading surrogate in hex escape"
  | unexpectedEndOfHexEscape => "unexpected end of hex escape"
  | trailingComma => "trailing comma"
  | trailingCharacters => "trailing characters"
  | recursionLimit => "recursion limit exceeded"

/-- The number of bytes of some characters. -/
def byteCount (cs : List Char) : Nat := cs.foldr (fun c n => c.utf8Size + n) 0

/-- A fault, with the number of bytes that lie behind it. -/
structure Fault where
  kind : FaultKind
  remaining : Nat
  deriving DecidableEq, Repr

namespace Fault

/-- A fault just before the given rest of the text. -/
def before (kind : FaultKind) (rest : List Char) : Fault := ⟨kind, byteCount rest⟩

/-- A fault at the first byte of the given rest of the text, or at the end of the text
if nothing is left. -/
def atNext (kind : FaultKind) (rest : List Char) : Fault := ⟨kind, byteCount rest - 1⟩

end Fault

/-- A line, counted from one, and the number of bytes of that line. -/
structure Position where
  line : Nat
  column : Nat
  deriving DecidableEq, Repr

namespace Position

/-- The beginning of a text. -/
def start : Position := ⟨1, 0⟩

/-- The position after the first `n` bytes of a text. -/
def after (pos : Position) : Nat → List Char → Position
  | n, [] => ⟨pos.line, pos.column + n⟩
  | n, c :: rest =>
    if n < c.utf8Size then ⟨pos.line, pos.column + n⟩
    else if c = '\n' then after ⟨pos.line + 1, 0⟩ (n - 1) rest
    else after ⟨pos.line, pos.column + c.utf8Size⟩ (n - c.utf8Size) rest

end Position

/-- A fault and where it is. -/
structure LocatedFault where
  kind : FaultKind
  position : Position
  deriving DecidableEq, Repr

/-- The fault in the whole text that it was found in. -/
def Fault.locate (fault : Fault) (text : List Char) : LocatedFault :=
  ⟨fault.kind, Position.start.after (byteCount text - fault.remaining) text⟩

/-- The text of a fault. -/
def LocatedFault.message (fault : LocatedFault) : String :=
  fault.kind.text ++ " at line " ++ toString fault.position.line ++ " column "
    ++ toString fault.position.column

end SchemaDecl.Json
