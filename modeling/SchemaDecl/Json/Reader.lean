import SchemaDecl.Json.Basic
import SchemaDecl.Json.Numeral
import SchemaDecl.Json.Spelling

/-!
# Reading JSON text

One grammar serves two readers.  The strict reader wants every string to be made of
characters and every number to be in range, and bounds the depth of nesting.  The
lenient reader wants neither: it is for documents of which only some parts matter.

## Main definitions

* `Dialect`: what the readers do with strings and numbers.
* `Dialect.value`: the value at the beginning of a text.
* `Dialect.document`: the one value that a whole text consists of.
* `Json.ofText`: the strict reader.
* `Json.ofTextLenient?`: the lenient reader, in which a string that is not made of
  characters is `none`.
-/

namespace SchemaDecl

namespace Json

/-- How a reader treats strings and numbers. -/
structure Dialect (σ : Type) where
  /-- The string at the beginning of a text, whose opening quote is read. -/
  string : List Char → Except Fault (σ × List Char)
  /-- Whether numbers have to be in range. -/
  boundsNumbers : Bool

/-- Whether a character may stand between the parts of a document. -/
def isLayoutChar (c : Char) : Bool := c == ' ' || c == '\n' || c == '\t' || c == '\r'

/-- The text from the next part of the document on. -/
def skipLayout (cs : List Char) : List Char := cs.dropWhile isLayoutChar

/-- The text after a given word. -/
def expectWord : (word : List Char) → List Char → Except Fault (List Char)
  | [], cs => .ok cs
  | _ :: _, [] => .error (.atNext .endInValue [])
  | w :: word, c :: rest =>
    if c = w then expectWord word rest else .error (.atNext .expectedIdent (c :: rest))

/-- The items of an array after its opening bracket, each read by `item`.  One character
at least goes with each item, so their number is bounded by the length of the text. -/
def items {α : Type} (item : List Char → Except Fault (α × List Char)) :
    (bound : Nat) → (isFirst : Bool) → List Char → Except Fault (List α × List Char)
  | 0, _, cs => .error (.atNext .endInList cs)
  | bound + 1, isFirst, cs =>
    match skipLayout cs with
    | [] => .error (.atNext .endInList [])
    | c :: rest =>
      if c = ']' then .ok ([], rest)
      else if isFirst then do
        let (first, cs) ← item (c :: rest)
        let (more, cs) ← items item bound false cs
        return (first :: more, cs)
      else if c = ',' then
        match skipLayout rest with
        | [] => .error (.atNext .endInValue [])
        | d :: rest' =>
          if d = ']' then .error (.atNext .trailingComma (d :: rest'))
          else do
            let (next, cs) ← item (d :: rest')
            let (more, cs) ← items item bound false cs
            return (next :: more, cs)
      else .error (.atNext .expectedListCommaOrEnd (c :: rest))

/-- A colon and the value behind it. -/
def memberValue {α : Type} (item : List Char → Except Fault (α × List Char)) (cs : List Char) :
    Except Fault (α × List Char) :=
  match skipLayout cs with
  | [] => .error (.atNext .endInObject [])
  | c :: rest => if c = ':' then item rest else .error (.atNext .expectedColon (c :: rest))

/-- The members of an object after its opening bracket. -/
def members {σ α : Type} (name : List Char → Except Fault (σ × List Char))
    (item : List Char → Except Fault (α × List Char)) :
    (bound : Nat) → (isFirst : Bool) → List Char → Except Fault (List (σ × α) × List Char)
  | 0, _, cs => .error (.atNext .endInObject cs)
  | bound + 1, isFirst, cs =>
    match skipLayout cs with
    | [] => .error (.atNext .endInObject [])
    | c :: rest =>
      if c = '\x7d' then .ok ([], rest)
      else if isFirst then
        if c = '"' then do
          let (key, cs) ← name rest
          let (value, cs) ← memberValue item cs
          let (more, cs) ← members name item bound false cs
          return ((key, value) :: more, cs)
        else .error (.atNext .keyMustBeString (c :: rest))
      else if c = ',' then
        match skipLayout rest with
        | [] => .error (.atNext .endInValue [])
        | d :: rest' =>
          if d = '"' then do
            let (key, cs) ← name rest'
            let (value, cs) ← memberValue item cs
            let (more, cs) ← members name item bound false cs
            return ((key, value) :: more, cs)
          else if d = '\x7d' then .error (.atNext .trailingComma (d :: rest'))
          else .error (.atNext .keyMustBeString (d :: rest'))
      else .error (.atNext .expectedObjectCommaOrEnd (c :: rest))

namespace Dialect

/-- The number at the beginning of a text. -/
def numeral {σ : Type} (d : Dialect σ) (cs : List Char) :
    Except Fault (Json σ × List Char) := do
  let (n, rest) ← Numeral.scan cs
  match if d.boundsNumbers then n.overflow? else none with
  | none => return (.number n.literal, rest)
  | some unread => throw ⟨.numberOutOfRange, byteCount rest + unread⟩

/-- The value at the beginning of a text, with at most `depth` brackets open at once. -/
def value {σ : Type} (d : Dialect σ) :
    (depth : Nat) → List Char → Except Fault (Json σ × List Char)
  | depth, cs =>
    match skipLayout cs with
    | [] => .error (.atNext .endInValue [])
    | c :: rest =>
      if c = 'n' then do
        let rest ← expectWord ['u', 'l', 'l'] rest
        return (.null, rest)
      else if c = 't' then do
        let rest ← expectWord ['r', 'u', 'e'] rest
        return (.bool true, rest)
      else if c = 'f' then do
        let rest ← expectWord ['a', 'l', 's', 'e'] rest
        return (.bool false, rest)
      else if c = '-' ∨ c.isDigit then d.numeral (c :: rest)
      else if c = '"' then do
        let (s, rest) ← d.string rest
        return (.string s, rest)
      else if c = '[' then
        match depth with
        | 0 => .error (.atNext .recursionLimit (c :: rest))
        | depth + 1 => do
          let (list, rest) ← items (d.value depth) (rest.length + 1) true rest
          return (.array list, rest)
      else if c = '\x7b' then
        match depth with
        | 0 => .error (.atNext .recursionLimit (c :: rest))
        | depth + 1 => do
          let (list, rest) ← members d.string (d.value depth) (rest.length + 1) true rest
          return (.object list, rest)
      else .error (.atNext .expectedValue (c :: rest))
termination_by structural depth => depth

/-- The value that a whole text consists of. -/
def document {σ : Type} (d : Dialect σ) (depth : Nat) (cs : List Char) :
    Except Fault (Json σ) := do
  let (json, rest) ← d.value depth cs
  match skipLayout rest with
  | [] => return json
  | c :: rest => throw (.atNext .trailingCharacters (c :: rest))

/-- Strings are characters, and numbers are in range. -/
def strict : Dialect String where
  string cs := (readString cs).map fun r => (String.ofList r.1, r.2)
  boundsNumbers := true

/-- A string that is not made of characters is `none`, and numbers are unbounded. -/
def lenient : Dialect (Option String) where
  string cs := (skipString cs).map fun rest =>
    (((readString cs).toOption.map fun r => String.ofList r.1), rest)
  boundsNumbers := false

end Dialect

/-- The number of brackets that may be open at once. -/
def depthLimit : Nat := 127

/-- The document that a text consists of, or the first fault of the text. -/
def ofText (text : String) : Except LocatedFault (Json String) :=
  (Dialect.strict.document depthLimit text.toList).mapError fun fault => fault.locate text.toList

/-- The document that a text consists of, of any depth.  More brackets than characters
cannot be open. -/
def ofTextLenient? (text : String) : Option (Json (Option String)) :=
  (Dialect.lenient.document text.toList.length text.toList).toOption

end Json

end SchemaDecl
