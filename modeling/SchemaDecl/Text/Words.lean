import SchemaDecl.Text.Case
import SchemaDecl.Text.Table.Alphanumeric

/-!
# Words

A title names a type by its first word.  Words are separated by characters of the
Unicode property White_Space, which is larger than the ASCII blanks: it holds the
no-break space and the ideographic space, but not the zero-width space or the byte
order mark.

Conventions on identifiers respell a name word by word.  The words of a name are found
in two steps: the name is cut at every character that is neither a letter nor a
numeral, and inside such a piece a word ends where the case changes, as in
`orderLine` and in `HTTPServer`.

* `isBlank`, `isBlankText`: the property, for one character and for all of a text.
* `firstWord?`: the first word of a text, if it has one.
* `pieces`: the first cut of a name.
* `caseWords`: the second cut, inside one piece.
* `words`: all words of a name.
* `snakeCase`: the words in lower case, joined by underscores.
* `upperCamelCase`: the words capitalized and joined.
-/

namespace SchemaDecl.Text

/-! ### Words of a title -/

/-- The code points with the property White_Space. -/
def blankTable : CodeTable :=
  [⟨0x9, 0xD, 1⟩, ⟨0x20, 0x20, 1⟩, ⟨0x85, 0x85, 1⟩, ⟨0xA0, 0xA0, 1⟩, ⟨0x1680, 0x1680, 1⟩,
   ⟨0x2000, 0x200A, 1⟩, ⟨0x2028, 0x2029, 1⟩, ⟨0x202F, 0x202F, 1⟩, ⟨0x205F, 0x205F, 1⟩,
   ⟨0x3000, 0x3000, 1⟩]

/-- Whether a character separates words. -/
def isBlank (c : Char) : Bool := blankTable.hasChar c

/-- Whether a text consists of blank characters only. -/
def isBlankText (s : String) : Bool := s.toList.all isBlank

/-- The first maximal stretch of characters that are not blank. -/
def firstWordChars (cs : List Char) : List Char :=
  (cs.dropWhile isBlank).takeWhile fun c => !isBlank c

/-- The first word of a text, or nothing if all of it is blank. -/
def firstWord? (s : String) : Option String :=
  match firstWordChars s.toList with
  | [] => none
  | cs => some (String.ofList cs)

/-! ### Words of a name -/

/-- Whether a character can stand in a word. -/
def isWordChar (c : Char) : Bool := alphanumericTable.hasChar c

/-- The stretches of word characters, with an empty one wherever two other characters meet. -/
def pieces (cs : List Char) : List (List Char) := cs.splitOnP fun c => !isWordChar c

/-- What the letters since the last end of a word have shown. -/
inductive CaseMode
  /-- No cased letter yet. -/
  | boundary
  /-- The last cased letter was a lower-case one. -/
  | lower
  /-- The last cased letter was an upper-case one. -/
  | upper
  deriving DecidableEq, Repr

/-- The mode after one more character.  Caseless characters leave it as it is. -/
def CaseMode.next (mode : CaseMode) (c : Char) : CaseMode :=
  if isLowercase c then .lower else if isUppercase c then .upper else mode

/-- The words of one piece.  A word ends between a lower-case and an upper-case letter,
and before the last upper-case letter of a run that a lower-case one follows.  The
second argument holds the word so far, reversed. -/
def caseWords : CaseMode → List Char → List Char → List (List Char)
  | _, [], [] => []
  | _, d :: word, [] => [(d :: word).reverse]
  | _, word, [c] => [(c :: word).reverse]
  | mode, word, c :: d :: rest =>
    if mode.next c = .lower ∧ isUppercase d then
      (c :: word).reverse :: caseWords .boundary [] (d :: rest)
    else if mode = .upper ∧ isUppercase c ∧ isLowercase d then
      word.reverse :: caseWords .boundary [c] (d :: rest)
    else
      caseWords (mode.next c) (c :: word) (d :: rest)

/-- The words of a name, in order. -/
def words (s : String) : List (List Char) :=
  (pieces s.toList).flatMap (caseWords .boundary [])

/-- The words of a name in lower case, with an underscore between two of them. -/
def snakeCase (s : String) : String :=
  String.ofList (['_'].intercalate ((words s).map lowercaseWord))

/-- A word with its first character in upper case and the others in lower case. -/
def capitalizeWord : List Char → List Char
  | [] => []
  | c :: rest => uppercase c ++ lowercaseWord rest

/-- The words of a name, each capitalized, without anything between them. -/
def upperCamelCase (s : String) : String :=
  String.ofList ((words s).flatMap capitalizeWord)

end SchemaDecl.Text
