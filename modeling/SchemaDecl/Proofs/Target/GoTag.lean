import Mathlib.Data.List.TakeWhile
import SchemaDecl.Proofs.Target.PropertyName
import SchemaDecl.Proofs.Text.ByteOrder
import SchemaDecl.Target.Go

/-!
# The names that tags keep

The tag of a field goes through three notations before it names a key of a document.  It is a raw
literal, which ends at a backquote and loses its carriage returns.  In it stands a quoted value,
which ends at a quote and may have escapes, but no line breaks.  In the value stands a name, which
ends at a comma, with options behind it; and a value that is a dash alone hides the field.  The
field's name is written into the tag as it is, so it is kept only if none of the three sees anything
of its own in it.

A value is a sequence of bytes, since some escapes are bytes and not characters.  No notation makes
a text longer, and all that is not itself gets shorter.  So what is read back as the name of the
field has been left alone on the way.

## Main definitions

* `Go.Unquotes` — the bytes of a quoted value.
* `Go.HasValue`, `Go.Names` — the value in a tag, and the name it gives to a field.
* `Go.Alphabet`, `Go.Alphabet.Takes` — the names that are taken as keys.
* `Go.isVerbatim` — the characters that all three notations leave alone.

## Main results

* `Go.Unquotes.unique`, `Go.HasValue.unique` — what is read is determined.
* `Go.Unquotes.length_lt`, `Go.Unquotes.all_isPlain` — a value is shorter than its text, and by more
  than its closing quote if it has escapes.
* `Go.tag_names_iff` — **which names a tag keeps**.
* `Go.Alphabet.tag_takes_iff` — which of them are taken as keys.
-/

namespace SchemaDecl

namespace Go

/-! ### Quoted values -/

/-- The number that digits of a base spell. -/
def number? (base : Nat) (digits : List Char) : Option Nat :=
  digits.foldlM (fun n c => ((Json.hexValue? c).filter (· < base)).map (n * base + ·)) 0

/-- The byte of a number. -/
def byte? (n : Nat) : Option (List UInt8) := if n < 256 then some [UInt8.ofNat n] else none

/-- The bytes of the character of a number. -/
def rune? (n : Nat) : Option (List UInt8) := (Script.charOf? n).map String.utf8EncodeChar

/-- The bytes of the number that a fixed count of digits spells, and what is left. -/
def readNumber (base count : Nat) (bytes? : Nat → Option (List UInt8)) (text : List Char) :
    Option (List UInt8 × List Char) :=
  if text.length < count then none
  else ((number? base (text.take count)).bind bytes?).map fun bytes => (bytes, text.drop count)

/-- The character that one letter behind a backslash stands for. -/
def letterEscape? (c : Char) : Option Char :=
  if c = 'a' then some '\x07'
  else if c = 'b' then some '\x08'
  else if c = 'f' then some '\x0c'
  else if c = 'n' then some '\n'
  else if c = 'r' then some '\r'
  else if c = 't' then some '\t'
  else if c = 'v' then some '\x0b'
  else if c = '\\' then some '\\'
  else if c = '"' then some '"'
  else none

/-- The bytes of the escape behind a backslash, and what is left. -/
def readEscape : List Char → Option (List UInt8 × List Char)
  | [] => none
  | e :: rest =>
    if e = 'x' then readNumber 16 2 byte? rest
    else if e = 'u' then readNumber 16 4 rune? rest
    else if e = 'U' then readNumber 16 8 rune? rest
    else if e.isDigit then readNumber 8 3 byte? (e :: rest)
    else (letterEscape? e).map fun c => (String.utf8EncodeChar c, rest)

/-- The bytes of the first character of a quoted value, and what is left.  A quote ends the value,
and a line break may not stand in it. -/
def readBytes : List Char → Option (List UInt8 × List Char)
  | [] => none
  | '\\' :: rest => readEscape rest
  | c :: rest => if c = '"' ∨ c = '\n' then none else some (String.utf8EncodeChar c, rest)

/-- The text up to its first quote spells the bytes.  What follows may be other values. -/
inductive Unquotes : List Char → List UInt8 → Prop
  | done (rest : List Char) : Unquotes ('"' :: rest) []
  | cons {text rest : List Char} {bytes value : List UInt8}
      (hread : readBytes text = some (bytes, rest)) (hrest : Unquotes rest value) :
      Unquotes text (bytes ++ value)

/-- Whether a character stands for itself in a quoted value. -/
def isPlain (c : Char) : Bool := c != '"' && c != '\\' && c != '\n'

theorem isPlain_iff (c : Char) : isPlain c = true ↔ c ≠ '"' ∧ c ≠ '\\' ∧ c ≠ '\n' := by
  simp [isPlain, and_assoc]

/-! ### Sizes in bytes -/

/-- The number of bytes of a text. -/
def size (cs : List Char) : Nat := (cs.flatMap String.utf8EncodeChar).length

@[simp] theorem size_nil : size [] = 0 := rfl

@[simp] theorem size_append (cs ds : List Char) : size (cs ++ ds) = size cs + size ds := by
  rw [size, List.flatMap_append, List.length_append, size, size]

theorem size_cons (c : Char) (cs : List Char) :
    size (c :: cs) = (String.utf8EncodeChar c).length + size cs := by
  rw [size, List.flatMap_cons, List.length_append, size]

theorem length_utf8EncodeChar_pos (c : Char) : 0 < (String.utf8EncodeChar c).length :=
  List.length_pos_of_ne_nil String.utf8EncodeChar_ne_nil

theorem length_le_size (cs : List Char) : cs.length ≤ size cs := by
  induction cs with
  | nil => exact le_rfl
  | cons c cs ih =>
    have hpos := length_utf8EncodeChar_pos c
    rw [size_cons, List.length_cons]
    omega

theorem length_bytes (s : String) : (Text.bytes s).length = size s.toList := by
  rw [Text.bytes_eq, size]

theorem size_filter_le (p : Char → Bool) (cs : List Char) : size (cs.filter p) ≤ size cs := by
  induction cs with
  | nil => exact le_rfl
  | cons c cs ih =>
    rw [size_cons]
    by_cases hc : p c = true
    · rw [List.filter_cons_of_pos hc, size_cons]
      omega
    · rw [List.filter_cons_of_neg hc]
      omega

/-- What does not get smaller has nothing left out. -/
theorem filter_eq_self_of_size_le {p : Char → Bool} {cs : List Char}
    (h : size cs ≤ size (cs.filter p)) : cs.filter p = cs := by
  induction cs with
  | nil => rfl
  | cons c cs ih =>
    have hpos := length_utf8EncodeChar_pos c
    have hle := size_filter_le p cs
    rw [size_cons] at h
    by_cases hc : p c = true
    · rw [List.filter_cons_of_pos hc, size_cons] at h
      rw [List.filter_cons_of_pos hc, ih (by omega)]
    · rw [List.filter_cons_of_neg hc] at h
      omega

/-! ### What a quoted value is -/

/-- Digits have at least as many bytes as what they spell, if there are enough of them. -/
theorem length_le_of_readNumber {base count : Nat} {bytes? : Nat → Option (List UInt8)}
    (hbytes : ∀ n bytes, bytes? n = some bytes → bytes.length ≤ count) {text rest : List Char}
    {bytes : List UInt8} (h : readNumber base count bytes? text = some (bytes, rest)) :
    bytes.length + size rest ≤ size text := by
  unfold readNumber at h
  split_ifs at h with hlength
  obtain ⟨b, hb, hpair⟩ := Option.map_eq_some_iff.mp h
  obtain ⟨rfl, rfl⟩ := Prod.mk.inj hpair
  obtain ⟨n, -, hn⟩ := Option.bind_eq_some_iff.mp hb
  have hcount : (text.take count).length = count := List.length_take_of_le (by omega)
  have htake := length_le_size (text.take count)
  have hsize : size text = size (text.take count) + size (text.drop count) := by
    rw [← size_append, List.take_append_drop]
  have hle := hbytes n b hn
  omega

theorem length_byte? {n : Nat} {bytes : List UInt8} (h : byte? n = some bytes) :
    bytes.length = 1 := by
  unfold byte? at h
  split_ifs at h
  rw [← Option.some.inj h]
  rfl

theorem length_rune?_le {n : Nat} {bytes : List UInt8} (h : rune? n = some bytes) :
    bytes.length ≤ 4 := by
  obtain ⟨c, -, rfl⟩ := Option.map_eq_some_iff.mp h
  rw [String.length_utf8EncodeChar]
  exact c.utf8Size_le_four

theorem length_letterEscape? {e c : Char} (h : letterEscape? e = some c) :
    (String.utf8EncodeChar c).length = 1 := by
  unfold letterEscape? at h
  split_ifs at h <;> obtain rfl := Option.some.inj h <;> rfl

/-- An escape has at least as many bytes behind its backslash as it spells. -/
theorem length_le_of_readEscape {text rest : List Char} {bytes : List UInt8}
    (h : readEscape text = some (bytes, rest)) : bytes.length + size rest ≤ size text := by
  have hbyte : ∀ count, 1 ≤ count → ∀ n bytes, byte? n = some bytes → bytes.length ≤ count :=
    fun count hcount n bytes hn => (length_byte? hn).trans_le hcount
  have hrune : ∀ count, 4 ≤ count → ∀ n bytes, rune? n = some bytes → bytes.length ≤ count :=
    fun count hcount n bytes hn => (length_rune?_le hn).trans hcount
  cases text with
  | nil => cases h
  | cons e more =>
    have hpos := length_utf8EncodeChar_pos e
    rw [size_cons]
    rw [readEscape] at h
    -- digits of a byte, of a short and a long code point, of an octal byte, or one letter
    split_ifs at h with hx hu hU hdigit
    · have hle := length_le_of_readNumber (hbyte 2 (by decide)) h
      omega
    · have hle := length_le_of_readNumber (hrune 4 (by decide)) h
      omega
    · have hle := length_le_of_readNumber (hrune 8 (by decide)) h
      omega
    · have hle := length_le_of_readNumber (hbyte 3 (by decide)) h
      rwa [size_cons] at hle
    · obtain ⟨c, hc, hpair⟩ := Option.map_eq_some_iff.mp h
      obtain ⟨rfl, rfl⟩ := Prod.mk.inj hpair
      have hone := length_letterEscape? hc
      omega

/-- A character of a value is spelled by itself, or by an escape that has more bytes. -/
theorem readBytes_eq_some {text rest : List Char} {bytes : List UInt8}
    (h : readBytes text = some (bytes, rest)) :
    (∃ c, text = c :: rest ∧ bytes = String.utf8EncodeChar c ∧ isPlain c = true) ∨
      bytes.length + size rest < size text := by
  unfold readBytes at h
  split at h
  · cases h
  · next more =>
    have hle := length_le_of_readEscape h
    have hpos := length_utf8EncodeChar_pos '\\'
    rw [size_cons]
    exact Or.inr (by omega)
  · next d more hbackslash =>
    split_ifs at h with hend
    obtain ⟨rfl, rfl⟩ := Prod.mk.inj (Option.some.inj h)
    rw [not_or] at hend
    exact Or.inl ⟨d, rfl, rfl, (isPlain_iff d).mpr ⟨hend.1, hbackslash, hend.2⟩⟩

theorem readBytes_of_isPlain {c : Char} (h : isPlain c = true) (rest : List Char) :
    readBytes (c :: rest) = some (String.utf8EncodeChar c, rest) := by
  obtain ⟨hquote, hbackslash, hbreak⟩ := (isPlain_iff c).mp h
  simp [readBytes, hquote, hbreak]

/-- **A quoted text has one value.** -/
theorem Unquotes.unique {text : List Char} {value value' : List UInt8} (h : Unquotes text value)
    (h' : Unquotes text value') : value = value' := by
  induction h generalizing value' with
  | done rest =>
    cases h' with
    | done => rfl
    | cons hread _ => cases hread
  | cons hread _ ih =>
    cases h' with
    | done => cases hread
    | cons hread' hrest' =>
      rw [hread] at hread'
      obtain ⟨rfl, rfl⟩ := Prod.mk.inj (Option.some.inj hread')
      rw [ih hrest']

/-- A value has fewer bytes than its text, which has a quote at the end. -/
theorem Unquotes.length_lt {text : List Char} {value : List UInt8} (h : Unquotes text value) :
    value.length < size text := by
  induction h with
  | done rest =>
    have hpos := length_utf8EncodeChar_pos '"'
    rw [size_cons, List.length_nil]
    omega
  | cons hread _ ih =>
    rw [List.length_append]
    rcases readBytes_eq_some hread with ⟨c, rfl, rfl, -⟩ | hlt
    · rw [size_cons]
      omega
    · omega

/-- **A value that is shorter by its closing quote only has no escapes.** -/
theorem Unquotes.all_isPlain {cs : List Char} {value : List UInt8} {text : List Char}
    (h : Unquotes text value) (htext : text = cs ++ ['"']) (hsize : size cs ≤ value.length) :
    cs.all isPlain = true := by
  induction h generalizing cs with
  | done rest =>
    -- there is no room for a character before the quote
    have hle := length_le_size cs
    have hnil : cs = [] := List.length_eq_zero_iff.mp (by rw [List.length_nil] at hsize; omega)
    rw [hnil]
    rfl
  | cons hread hrest ih =>
    have hlt := hrest.length_lt
    rw [List.length_append] at hsize
    rcases readBytes_eq_some hread with ⟨c, rfl, rfl, hplain⟩ | hless
    · cases cs with
      | nil =>
        obtain ⟨rfl, -⟩ := List.cons.inj htext
        exact absurd hplain (by decide)
      | cons d cs =>
        obtain ⟨rfl, hmore⟩ := List.cons.inj htext
        rw [size_cons] at hsize
        rw [List.all_cons, hplain, ih hmore (by omega)]
        rfl
    · have hquote : size ['"'] = 1 := by decide
      rw [htext, size_append, hquote] at hless
      omega

theorem unquotes_self {cs : List Char} (h : cs.all isPlain = true) :
    Unquotes (cs ++ ['"']) (cs.flatMap String.utf8EncodeChar) := by
  induction cs with
  | nil => exact .done []
  | cons c cs ih =>
    obtain ⟨hc, hcs⟩ := Bool.and_eq_true_iff.mp h
    exact .cons (readBytes_of_isPlain hc _) (ih hcs)

/-! ### Tags -/

/-- The tag is one raw literal, which begins with the key of documents, and behind the key stands
the quoted value. -/
def HasValue (tag value : String) : Prop :=
  ∃ body text, tag.toList = '\x60' :: body ++ ['\x60'] ∧ '\x60' ∉ body ∧
    body.filter (· != '\r') = "json:\"".toList ++ text ∧ Unquotes text (Text.bytes value)

/-- The tag gives the field a name and no options: its value does not hide the field, the name is
what stands before the first comma, and nothing stands behind it. -/
def Names (tag name : String) : Prop :=
  ∃ value, HasValue tag value ∧ value ≠ "-" ∧
    value.toList.takeWhile (· != ',') = name.toList ∧
    (value.toList.dropWhile (· != ',')).drop 1 = []

/-- Whether a character is left alone by raw literals, by quoted values and in names. -/
def isVerbatim (c : Char) : Bool := isPlain c && c != '\x60' && c != '\r' && c != ','

theorem isVerbatim_iff (c : Char) :
    isVerbatim c = true ↔ isPlain c = true ∧ c ≠ '\x60' ∧ c ≠ '\r' ∧ c ≠ ',' := by
  simp [isVerbatim, and_assoc]

theorem all_isVerbatim_iff (cs : List Char) :
    cs.all isVerbatim = true ↔
      cs.all isPlain = true ∧ '\x60' ∉ cs ∧ '\r' ∉ cs ∧ ',' ∉ cs := by
  simp only [List.all_eq_true, isVerbatim_iff]
  constructor
  · intro h
    exact ⟨fun c hc => (h c hc).1, fun hc => (h _ hc).2.1 rfl, fun hc => (h _ hc).2.2.1 rfl,
      fun hc => (h _ hc).2.2.2 rfl⟩
  · rintro ⟨hplain, hbackquote, hreturn, hcomma⟩ c hc
    exact ⟨hplain c hc, ne_of_mem_of_not_mem hc hbackquote, ne_of_mem_of_not_mem hc hreturn,
      ne_of_mem_of_not_mem hc hcomma⟩

theorem toList_tag (name : String) :
    (tag name).toList = '\x60' :: ("json:\"".toList ++ (name.toList ++ ['"'])) ++ ['\x60'] := by
  have hopening : "`json:\"".toList = '\x60' :: "json:\"".toList := by decide
  have hclosing : "\"`".toList = ['"'] ++ ['\x60'] := by decide
  rw [tag, String.toList_append, String.toList_append, hopening, hclosing]
  simp only [List.cons_append, List.append_assoc]

/-- The value in the tag of a name is what the name spells without its carriage returns, unless
there is a backquote in the name. -/
theorem hasValue_tag_iff (name value : String) :
    HasValue (tag name) value ↔ '\x60' ∉ name.toList ∧
      Unquotes (name.toList.filter (· != '\r') ++ ['"']) (Text.bytes value) := by
  -- what stands before the name has neither a backquote nor a carriage return
  have hkey : '\x60' ∉ "json:\"".toList ∧
      "json:\"".toList.filter (· != '\r') = "json:\"".toList := by
    decide
  have hbackquote : '\x60' ∉ "json:\"".toList ++ (name.toList ++ ['"']) ↔ '\x60' ∉ name.toList := by
    rw [List.mem_append, List.mem_append, not_or, not_or, and_iff_right hkey.1]
    exact and_iff_left (by decide)
  have hfilter : ("json:\"".toList ++ (name.toList ++ ['"'])).filter (· != '\r')
      = "json:\"".toList ++ (name.toList.filter (· != '\r') ++ ['"']) := by
    rw [List.filter_append, List.filter_append, hkey.2]
    rfl
  rw [← hbackquote]
  constructor
  · rintro ⟨body, text, hbody, hraw, htext, hvalue⟩
    rw [toList_tag] at hbody
    obtain rfl := (List.cons.inj (List.append_cancel_right hbody)).2
    rw [hfilter] at htext
    obtain rfl := List.append_cancel_left htext
    exact ⟨hraw, hvalue⟩
  · rintro ⟨hraw, hvalue⟩
    exact ⟨_, _, toList_tag name, hraw, hfilter, hvalue⟩

theorem bytes_injective : Function.Injective Text.bytes := by
  intro s t h
  exact String.toByteArray_inj.mp (ByteArray.ext (Array.toList_inj.mp h))

/-- **A tag that is written for a name has one value.** -/
theorem HasValue.unique {name value value' : String} (h : HasValue (tag name) value)
    (h' : HasValue (tag name) value') : value = value' := by
  obtain ⟨-, hvalue⟩ := (hasValue_tag_iff name value).mp h
  obtain ⟨-, hvalue'⟩ := (hasValue_tag_iff name value').mp h'
  exact bytes_injective (hvalue.unique hvalue')

/-- What stands before the first comma and nothing behind it. -/
theorem eq_or_eq_concat_comma {cs name : List Char} (hname : cs.takeWhile (· != ',') = name)
    (hoptions : (cs.dropWhile (· != ',')).drop 1 = []) : cs = name ∨ cs = name ++ [','] := by
  have hcs := List.takeWhile_append_dropWhile (p := (· != ',')) (l := cs)
  rw [hname] at hcs
  cases hdrop : cs.dropWhile (· != ',') with
  | nil =>
    rw [hdrop, List.append_nil] at hcs
    exact Or.inl hcs.symm
  | cons d rest =>
    rw [hdrop, List.drop_one, List.tail_cons] at hoptions
    have hd := List.head_dropWhile_not (· != ',') (l := cs) (by simp [hdrop])
    simp only [hdrop, List.head_cons, bne_eq_false_iff_eq] at hd
    rw [hdrop, hoptions, hd] at hcs
    exact Or.inr hcs.symm

/-- A tag that gives back its own name has the name for its value: it has no room for a comma behind
the name, and not even for a carriage return in it. -/
theorem toList_eq_of_names_tag {name value : String} (hvalue : HasValue (tag name) value)
    (hname : value.toList.takeWhile (· != ',') = name.toList)
    (hoptions : (value.toList.dropWhile (· != ',')).drop 1 = []) :
    value.toList = name.toList ∧ name.toList.filter (· != '\r') = name.toList := by
  obtain ⟨-, hunquotes⟩ := (hasValue_tag_iff name value).mp hvalue
  have hlt := hunquotes.length_lt
  have hfilter := size_filter_le (· != '\r') name.toList
  have hquote : size ['"'] = 1 := by decide
  rw [size_append, hquote, length_bytes] at hlt
  have hself : value.toList = name.toList := by
    rcases eq_or_eq_concat_comma hname hoptions with h | h
    · exact h
    · have hcomma : size [','] = 1 := by decide
      rw [h, size_append, hcomma] at hlt
      omega
  rw [hself] at hlt
  exact ⟨hself, filter_eq_self_of_size_le (by omega)⟩

/-- A name of verbatim characters is the value of its tag. -/
theorem hasValue_tag_self {name : String} (h : name.toList.all isVerbatim = true) :
    HasValue (tag name) name := by
  obtain ⟨hplain, hbackquote, hreturn, -⟩ := (all_isVerbatim_iff _).mp h
  have hfilter : name.toList.filter (· != '\r') = name.toList :=
    List.filter_eq_self.mpr fun c hc => bne_iff_ne.mpr (ne_of_mem_of_not_mem hc hreturn)
  refine (hasValue_tag_iff name name).mpr ⟨hbackquote, ?_⟩
  rw [hfilter, Text.bytes_eq]
  exact unquotes_self hplain

/-- **A name that its own tag gives back** has been left alone by all notations. -/
theorem names_tag_self_iff (name : String) :
    Names (tag name) name ↔ name ≠ "-" ∧ name.toList.all isVerbatim = true := by
  constructor
  · rintro ⟨value, hvalue, hdash, hname, hoptions⟩
    obtain ⟨hself, hreturn⟩ := toList_eq_of_names_tag hvalue hname hoptions
    obtain rfl := String.toList_injective hself
    obtain ⟨hbackquote, hunquotes⟩ := (hasValue_tag_iff value value).mp hvalue
    rw [hreturn] at hunquotes
    -- the value is as long as its text, which leaves no room for an escape
    have hplain := hunquotes.all_isPlain rfl (by rw [length_bytes])
    refine ⟨hdash, (all_isVerbatim_iff _).mpr ⟨hplain, hbackquote, ?_, ?_⟩⟩
    · exact fun hmem => absurd (List.filter_eq_self.mp hreturn _ hmem) (by decide)
    · exact fun hmem => absurd (List.takeWhile_eq_self_iff.mp hname _ hmem) (by decide)
  · rintro ⟨hdash, hverbatim⟩
    have hcomma := ((all_isVerbatim_iff _).mp hverbatim).2.2.2
    have hall : ∀ c ∈ name.toList, (c != ',') = true :=
      fun c hc => bne_iff_ne.mpr (ne_of_mem_of_not_mem hc hcomma)
    refine ⟨name, hasValue_tag_self hverbatim, hdash, List.takeWhile_eq_self_iff.mpr hall, ?_⟩
    rw [List.dropWhile_eq_nil_iff.mpr hall]
    rfl

/-- **A tag keeps the names of verbatim characters**, but for the dash, and means no other name
then.  All other names are not kept. -/
theorem tag_names_iff (name : String) :
    (∀ key, Names (tag name) key ↔ key = name) ↔
      name ≠ "-" ∧ name.toList.all isVerbatim = true := by
  rw [← names_tag_self_iff]
  constructor
  · exact fun h => (h name).mpr rfl
  · -- a tag that means its own name has this value, and so means no other
    rintro hself key
    constructor
    · rintro ⟨value, hvalue, -, hkey, -⟩
      obtain ⟨value', hvalue', -, hname, -⟩ := hself
      obtain rfl := hvalue.unique hvalue'
      exact String.toList_injective (hkey.symm.trans hname)
    · rintro rfl
      exact hself

/-! ### Keys -/

/-- The letters and digits that a reader of documents knows, which in ASCII are the usual ones. -/
structure Alphabet where
  isLetter : Char → Bool
  ascii : ∀ c : Char, c.toNat < 128 → isLetter c = c.isAlphanum

namespace Alphabet

variable (alphabet : Alphabet)

/-- Whether a character can stand in a key: a letter, a digit or one of some signs. -/
def isKeyChar (c : Char) : Bool :=
  alphabet.isLetter c || "!#$%&()*+-./:;<=>?@[]^_\x7b|\x7d~ ".toList.contains c

/-- Whether a name is taken as a key.  Otherwise the field has its identifier for a key. -/
def isKey (name : String) : Bool := name != "" && name.toList.all alphabet.isKeyChar

/-- The tag gives the field a name and no options, and the name is taken as its key. -/
def Takes (tag key : String) : Prop := Names tag key ∧ alphabet.isKey key = true

/-- What can stand in a key is left alone on the way to it. -/
theorem isVerbatim_of_isKeyChar {c : Char} (h : alphabet.isKeyChar c = true) :
    isVerbatim c = true := by
  have hsigns : (['"', '\\', '\n', '\x60', '\r', ','].all fun d => d.toNat < 128 &&
      (!d.isAlphanum && !"!#$%&()*+-./:;<=>?@[]^_\x7b|\x7d~ ".toList.contains d)) = true := by
    decide
  have hne : ∀ d ∈ ['"', '\\', '\n', '\x60', '\r', ','], c ≠ d := by
    rintro d hd rfl
    have hc := List.all_eq_true.mp hsigns c hd
    rw [Bool.and_eq_true, Bool.and_eq_true, Bool.not_eq_true', Bool.not_eq_true'] at hc
    obtain ⟨hlt, halphanum, hsign⟩ := hc
    rw [isKeyChar, alphabet.ascii c (of_decide_eq_true hlt), halphanum, hsign] at h
    cases h
  rw [isVerbatim_iff, isPlain_iff]
  exact ⟨⟨hne _ (by decide), hne _ (by decide), hne _ (by decide)⟩, hne _ (by decide),
    hne _ (by decide), hne _ (by decide)⟩

/-- **Of the names that tags keep, those that can be keys are taken as keys.** -/
theorem tag_takes_iff (name : String) :
    (∀ key, alphabet.Takes (tag name) key ↔ key = name) ↔
      name ≠ "-" ∧ alphabet.isKey name = true := by
  constructor
  · intro h
    obtain ⟨hnames, hkey⟩ := (h name).mpr rfl
    exact ⟨((names_tag_self_iff name).mp hnames).1, hkey⟩
  · rintro ⟨hdash, hkey⟩
    have hverbatim : name.toList.all isVerbatim = true := by
      refine List.all_eq_true.mpr fun c hc => alphabet.isVerbatim_of_isKeyChar ?_
      exact List.all_eq_true.mp (Bool.and_eq_true_iff.mp hkey).2 c hc
    have hnames := (tag_names_iff name).mpr ⟨hdash, hverbatim⟩
    intro key
    rw [Takes, hnames]
    constructor
    · exact fun h => h.1
    · rintro rfl
      exact ⟨rfl, hkey⟩

end Alphabet

end Go

end SchemaDecl
