import SchemaDecl.Toml.Text

/-!
# Reading settings documents

* `Toml.key?`: a dotted key.
* `Toml.value?`: the value at the beginning of a text.
* `Toml.statement?`: a header, an assignment or an empty line.
* `Toml.ofText?`: the entries of the document that a text consists of, unless something
  in the text is wrong.
-/

namespace SchemaDecl.Toml

/-! ### Layout -/

/-- A text without the blanks that it begins with. -/
def skipBlanks (cs : List Char) : List Char := cs.dropWhile isBlankChar

/-- The text after a comment, if it begins with one. -/
def skipComment : List Char → List Char
  | '#' :: rest => rest.dropWhile isPlainChar
  | cs => cs

/-- The text after the end of the line, before which only blanks and a comment stand. -/
def endOfLine? (cs : List Char) : Option (List Char) :=
  match skipComment (skipBlanks cs) with
  | [] => some []
  | cs => lineEnd? cs

/-- The text after any blanks, comments and line ends.  A comment must have its line
end. -/
def skipLines? : (bound : Nat) → List Char → Option (List Char)
  | 0, cs => some cs
  | bound + 1, cs =>
    match skipBlanks cs with
    | '#' :: rest => do skipLines? bound (← lineEnd? (rest.dropWhile isPlainChar))
    | '\n' :: rest => skipLines? bound rest
    | '\r' :: rest => do skipLines? bound (← lineEnd? ('\r' :: rest))
    | cs => some cs

/-! ### Keys -/

/-- Whether a character can stand in a bare key. -/
def isBareKeyChar (c : Char) : Bool := c.isAlphanum || c == '_' || c == '-'

/-- One name of a key, bare or as a string in one line. -/
def keyName? (cs : List Char) : Option (String × List Char) :=
  match cs with
  | '"' :: rest => (basicString? rest).map fun r => (String.ofList r.1, r.2)
  | '\'' :: rest => (literalString? rest).map fun r => (String.ofList r.1, r.2)
  | _ =>
    match cs.takeWhile isBareKeyChar with
    | [] => none
    | name => some (String.ofList name, cs.dropWhile isBareKeyChar)

/-- Names with points between them, and blanks anywhere around. -/
def keyNames? : (bound : Nat) → List Char → Option (List String × List Char)
  | 0, _ => none
  | bound + 1, cs => do
    let (name, cs) ← keyName? (skipBlanks cs)
    match skipBlanks cs with
    | '.' :: rest => do
      let (names, cs) ← keyNames? bound rest
      return (name :: names, cs)
    | cs => return ([name], cs)

/-- The number of brackets that may be open at once, and of names in one key. -/
def depthLimit : Nat := 79

/-- A dotted key. -/
def key? (cs : List Char) : Option (List String × List Char) := keyNames? depthLimit cs

/-! ### Values -/

/-- The token at the beginning of a text, with the time that may stand behind a date and
a space. -/
def token (cs : List Char) : List Char × List Char :=
  let first := cs.takeWhile isTokenChar
  let rest := cs.dropWhile isTokenChar
  match rest with
  | ' ' :: more =>
    match more.takeWhile isTokenChar with
    | [] => (first, rest)
    | second =>
      if isDate first then (first ++ 'T' :: second, more.dropWhile isTokenChar) else (first, rest)
  | _ => (first, rest)

/-- The items of an array after its opening bracket, each read by `item`. -/
def items? {α : Type} (item : List Char → Option (α × List Char)) :
    (bound : Nat) → List Char → Option (List α × List Char)
  | 0, _ => none
  | bound + 1, cs => do
    match ← skipLines? cs.length cs with
    | ']' :: rest => return ([], rest)
    | cs => do
      let (first, cs) ← item cs
      match ← skipLines? cs.length cs with
      | ',' :: rest => do
        let (more, cs) ← items? item bound rest
        return (first :: more, cs)
      | ']' :: rest => return ([first], rest)
      | _ => none

/-- A key, an equals sign and a value, which is read by `item`. -/
def pair? {α : Type} (item : List Char → Option (α × List Char)) (cs : List Char) :
    Option ((List String × α) × List Char) := do
  let (key, cs) ← key? cs
  let cs ← after? '=' cs
  let (value, cs) ← item (skipBlanks cs)
  return ((key, value), skipBlanks cs)

/-- The pairs of an inline table after the first one. -/
def morePairs? {α : Type} (item : List Char → Option (α × List Char)) :
    (bound : Nat) → List Char → Option (List (List String × α) × List Char)
  | 0, _ => none
  | bound + 1, cs =>
    match cs with
    | '\x7d' :: rest => some ([], rest)
    | ',' :: rest => do
      let (pair, cs) ← pair? item rest
      let (more, cs) ← morePairs? item bound cs
      return (pair :: more, cs)
    | _ => none

/-- The pairs of an inline table after its opening bracket. -/
def pairs? {α : Type} (item : List Char → Option (α × List Char)) (cs : List Char) :
    Option (List (List String × α) × List Char) :=
  match skipBlanks cs with
  | '\x7d' :: rest => some ([], rest)
  | cs => do
    let (pair, cs) ← pair? item cs
    let (more, cs) ← morePairs? item cs.length cs
    return (pair :: more, cs)

/-- The entries that assignments make. -/
def entriesOf? (pairs : List (List String × Toml)) : Option Entries :=
  pairs.foldlM (fun entries pair => Entries.assign pair.2 pair.1 true entries) []

/-- The value at the beginning of a text, with at most `depth` brackets open at once. -/
def value? : (depth : Nat) → List Char → Option (Toml × List Char)
  | depth, cs =>
    match cs with
    | [] => none
    | c :: rest =>
      if c = '"' ∨ c = '\'' then
        (string? (c :: rest)).map fun r => (.string (String.ofList r.1), r.2)
      else if c = '[' then
        match depth with
        | 0 => none
        | depth + 1 =>
          (items? (value? depth) (rest.length + 1) rest).map fun r => (.array r.1, r.2)
      else if c = '\x7b' then
        match depth with
        | 0 => none
        | depth + 1 => do
          let (pairs, rest) ← pairs? (value? depth) rest
          let entries ← entriesOf? pairs
          return (.table .inline entries, rest)
      else do
        let (first, rest) := token (c :: rest)
        let value ← scalar? first
        return (value, rest)
termination_by structural depth => depth

/-! ### Documents -/

/-- A document that is being read: its entries, and the path of the open table. -/
structure Draft where
  entries : Entries := []
  path : List String := []

/-- Opens a table by a header, with the given treatment of the last name of its path. -/
def Draft.openBy (draft : Draft) (how : String → Entries → Option Entries) (path : List String) :
    Option Draft := do
  let name ← path.getLast?
  let entries ← Entries.within (how name) path.dropLast draft.entries
  return ⟨entries, path⟩

/-- Assigns a value in the open table. -/
def Draft.assign (draft : Draft) (key : List String) (value : Toml) : Option Draft := do
  let entries ← Entries.within (Entries.assign value key true) draft.path draft.entries
  return ⟨entries, draft.path⟩

/-- Reads one statement, with the end of its line. -/
def statement? (draft : Draft) (cs : List Char) : Option (Draft × List Char) :=
  match skipBlanks cs with
  | [] => some (draft, [])
  | '#' :: rest => (endOfLine? ('#' :: rest)).map fun cs => (draft, cs)
  | '\n' :: rest => some (draft, rest)
  | '\r' :: rest => (lineEnd? ('\r' :: rest)).map fun cs => (draft, cs)
  | '[' :: '[' :: rest => do
    let (path, cs) ← key? rest
    let cs ← after? ']' cs
    let cs ← after? ']' cs
    let draft ← draft.openBy Entries.openElement path
    return (draft, ← endOfLine? cs)
  | '[' :: rest => do
    let (path, cs) ← key? rest
    let cs ← after? ']' cs
    let draft ← draft.openBy Entries.openTable path
    return (draft, ← endOfLine? cs)
  | cs => do
    let ((key, value), cs) ← pair? (value? depthLimit) cs
    let draft ← draft.assign key value
    return (draft, ← endOfLine? cs)

/-- Reads statements up to the end of the text.  Each takes at least one character. -/
def statements? : (bound : Nat) → Draft → List Char → Option Draft
  | _, draft, [] => some draft
  | 0, _, _ :: _ => none
  | bound + 1, draft, cs => do
    let (draft, cs) ← statement? draft cs
    statements? bound draft cs

/-- A text without the mark of its byte order. -/
def dropByteOrderMark : List Char → List Char
  | '\uFEFF' :: rest => rest
  | cs => cs

/-- The entries of the document that a text consists of. -/
def ofText? (text : String) : Option Entries :=
  let cs := dropByteOrderMark text.toList
  (statements? cs.length {} cs).map (·.entries)

end SchemaDecl.Toml
