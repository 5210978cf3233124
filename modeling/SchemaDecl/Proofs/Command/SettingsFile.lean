import SchemaDecl.Command.Session

/-!
# What a settings file sets

A settings file counts as a whole or not at all.  If it is there and its text is in order, it sets
the keys that it has, and the log tells so for debugging.  If its text is not in order, it sets
nothing and the log warns of it.  A file that cannot be read, or that is no text, sets nothing
either, and is passed over in silence.

What stands on the disk decides all of this.

## Main definitions

* `Settings.Sets`, `Settings.IllFormed` — texts that are in order, and those that are not.
* `Surroundings.HasText` — the text of a file.
* `Surroundings.Contributes` — what a settings file sets, and what the log tells about it.

## Main results

* `Settings.ofText?_of_illFormed`, `Settings.ofText?_eq_some_iff` — the reading of a text.
* `Surroundings.contributes_iff` — **the settings of a file, and its log**.
-/

namespace SchemaDecl.Settings

/-! ### Values -/

theorem string?_eq_some_iff {value : Option Toml} {s : Option String} :
    string? value = some s ↔ value = s.map .string := by
  cases value with
  | none => cases s <;> simp [string?]
  | some value => cases value <;> cases s <;> simp [string?]

theorem boolean?_eq_some_iff {value : Option Toml} {b : Option Bool} :
    boolean? value = some b ↔ value = b.map .boolean := by
  cases value with
  | none => cases b <;> simp [boolean?]
  | some value => cases value <;> cases b <;> simp [boolean?]

theorem string?_eq_none_iff {value : Option Toml} :
    string? value = none ↔ ∃ v, value = some v ∧ ∀ s, v ≠ .string s := by
  cases value with
  | none => simp [string?]
  | some value => cases value <;> simp [string?]

theorem boolean?_eq_none_iff {value : Option Toml} :
    boolean? value = none ↔ ∃ v, value = some v ∧ ∀ b, v ≠ .boolean b := by
  cases value with
  | none => simp [boolean?]
  | some value => cases value <;> simp [boolean?]

theorem ofValues?_eq_some_iff {backend isPublic package : Option Toml} {settings : Settings} :
    ofValues? backend isPublic package = some settings ↔
      backend = settings.backend.map .string ∧ isPublic = settings.isPublic.map .boolean ∧
        package = settings.package.map .string := by
  obtain ⟨b, p, k⟩ := settings
  rw [← string?_eq_some_iff, ← boolean?_eq_some_iff, ← string?_eq_some_iff, ofValues?]
  cases string? backend <;> cases boolean? isPublic <;> cases string? package <;> simp

/-- One of the known keys is there with a value of another type. -/
inductive IllTyped : (backend isPublic package : Option Toml) → Prop
  | backend {value : Toml} {isPublic package : Option Toml} (h : ∀ s, value ≠ .string s) :
      IllTyped (some value) isPublic package
  | isPublic {value : Toml} {backend package : Option Toml} (h : ∀ b, value ≠ .boolean b) :
      IllTyped backend (some value) package
  | package {value : Toml} {backend isPublic : Option Toml} (h : ∀ s, value ≠ .string s) :
      IllTyped backend isPublic (some value)

theorem ofValues?_eq_none_iff {backend isPublic package : Option Toml} :
    ofValues? backend isPublic package = none ↔ IllTyped backend isPublic package := by
  have hfails : ofValues? backend isPublic package = none ↔
      string? backend = none ∨ boolean? isPublic = none ∨ string? package = none := by
    rw [ofValues?]
    cases string? backend <;> cases boolean? isPublic <;> cases string? package <;> simp
  rw [hfails, string?_eq_none_iff, boolean?_eq_none_iff, string?_eq_none_iff]
  constructor
  · rintro (⟨v, rfl, h⟩ | ⟨v, rfl, h⟩ | ⟨v, rfl, h⟩)
    · exact .backend h
    · exact .isPublic h
    · exact .package h
  · intro h
    cases h with
    | backend h => exact Or.inl ⟨_, rfl, h⟩
    | isPublic h => exact Or.inr (Or.inl ⟨_, rfl, h⟩)
    | package h => exact Or.inr (Or.inr ⟨_, rfl, h⟩)

/-! ### Texts -/

/-- The known keys of what stands under `generate`, by name or by place. -/
inductive KnownKeys : Toml → (backend isPublic package : Option Toml) → Prop
  | table (origin : TableOrigin) (entries : Entries) :
      KnownKeys (.table origin entries) (entries.lookup "backend") (entries.lookup "public")
        (entries.lookup "package")
  | array (items : List Toml) : KnownKeys (.array items) items[0]? items[1]? items[2]?
  | tables (elements : List Toml) :
      KnownKeys (.tables elements) elements[0]? elements[1]? elements[2]?

theorem ofGenerate?_of_knownKeys {value : Toml} {backend isPublic package : Option Toml}
    (h : KnownKeys value backend isPublic package) :
    ofGenerate? value = ofValues? backend isPublic package := by
  cases h <;> rfl

theorem ofGenerate?_of_not_knownKeys {value : Toml}
    (h : ∀ backend isPublic package, ¬ KnownKeys value backend isPublic package) :
    ofGenerate? value = none := by
  cases value with
  | table origin entries => exact absurd (.table origin entries) (h _ _ _)
  | array items => exact absurd (.array items) (h _ _ _)
  | tables elements => exact absurd (.tables elements) (h _ _ _)
  | _ => rfl

/-- The text is in order, and this is what it sets. -/
inductive Sets (text : String) : Settings → Prop
  /-- There is no `generate` in the document. -/
  | nothing {entries : Entries} (hdocument : Toml.ofText? text = some entries)
      (h : entries.lookup "generate" = none) : Sets text {}
  /-- The known keys that are there are of their types. -/
  | keys {entries : Entries} {value : Toml} {settings : Settings}
      (hdocument : Toml.ofText? text = some entries)
      (hvalue : entries.lookup "generate" = some value)
      (hkeys : KnownKeys value (settings.backend.map .string) (settings.isPublic.map .boolean)
        (settings.package.map .string)) : Sets text settings

/-- The text is not in order. -/
inductive IllFormed (text : String) : Prop
  /-- The text is no settings document. -/
  | malformed (h : Toml.ofText? text = none) : IllFormed text
  /-- What stands under `generate` has no keys. -/
  | keyless {entries : Entries} {value : Toml} (hdocument : Toml.ofText? text = some entries)
      (hvalue : entries.lookup "generate" = some value)
      (h : ∀ backend isPublic package, ¬ KnownKeys value backend isPublic package) :
      IllFormed text
  /-- A known key has a value of another type. -/
  | illTyped {entries : Entries} {value : Toml} {backend isPublic package : Option Toml}
      (hdocument : Toml.ofText? text = some entries)
      (hvalue : entries.lookup "generate" = some value)
      (hkeys : KnownKeys value backend isPublic package)
      (h : IllTyped backend isPublic package) : IllFormed text

theorem ofText?_of_document {text : String} {entries : Entries}
    (hdocument : Toml.ofText? text = some entries) : ofText? text = ofEntries? entries := by
  rw [ofText?, hdocument, Option.bind_some]

theorem ofText?_of_generate {text : String} {entries : Entries} {value : Toml}
    (hdocument : Toml.ofText? text = some entries)
    (hvalue : entries.lookup "generate" = some value) : ofText? text = ofGenerate? value := by
  rw [ofText?_of_document hdocument, ofEntries?, hvalue]

theorem ofText?_of_sets {text : String} {settings : Settings} (h : Sets text settings) :
    ofText? text = some settings := by
  cases h with
  | nothing hdocument h => rw [ofText?_of_document hdocument, ofEntries?, h]
  | keys hdocument hvalue hkeys =>
    rw [ofText?_of_generate hdocument hvalue, ofGenerate?_of_knownKeys hkeys]
    exact ofValues?_eq_some_iff.mpr ⟨rfl, rfl, rfl⟩

theorem ofText?_of_illFormed {text : String} (h : IllFormed text) : ofText? text = none := by
  cases h with
  | malformed h => rw [ofText?, h, Option.bind_none]
  | keyless hdocument hvalue h =>
    rw [ofText?_of_generate hdocument hvalue, ofGenerate?_of_not_knownKeys h]
  | illTyped hdocument hvalue hkeys h =>
    rw [ofText?_of_generate hdocument hvalue, ofGenerate?_of_knownKeys hkeys]
    exact ofValues?_eq_none_iff.mpr h

/-- A text is in order, or it is not.  The cases are those of the reader: first the document, then
`generate`, and last the types of the keys. -/
theorem sets_or_illFormed (text : String) : (∃ settings, Sets text settings) ∨ IllFormed text := by
  cases hdocument : Toml.ofText? text with
  | none => exact Or.inr (.malformed hdocument)
  | some entries =>
    cases hvalue : entries.lookup "generate" with
    | none => exact Or.inl ⟨{}, .nothing hdocument hvalue⟩
    | some value =>
      by_cases hkeys : ∃ backend isPublic package, KnownKeys value backend isPublic package
      · obtain ⟨backend, isPublic, package, hkeys⟩ := hkeys
        cases hvalues : ofValues? backend isPublic package with
        | none =>
          exact Or.inr (.illTyped hdocument hvalue hkeys (ofValues?_eq_none_iff.mp hvalues))
        | some settings =>
          obtain ⟨rfl, rfl, rfl⟩ := ofValues?_eq_some_iff.mp hvalues
          exact Or.inl ⟨settings, .keys hdocument hvalue hkeys⟩
      · refine Or.inr (.keyless hdocument hvalue ?_)
        intro backend isPublic package h
        exact hkeys ⟨backend, isPublic, package, h⟩

theorem ofText?_eq_some_iff {text : String} {settings : Settings} :
    ofText? text = some settings ↔ Sets text settings := by
  refine ⟨fun h => ?_, ofText?_of_sets⟩
  rcases sets_or_illFormed text with ⟨settings', hsets⟩ | hill
  · obtain rfl := Option.some.inj (h.symm.trans (ofText?_of_sets hsets))
    exact hsets
  · cases h.symm.trans (ofText?_of_illFormed hill)

end SchemaDecl.Settings

namespace SchemaDecl.Command.Surroundings

/-! ### Files -/

/-- The file at a path is there, and this is its text. -/
def HasText (s : Surroundings) (path text : String) : Prop :=
  ∃ bytes, s.disk.read path = .ok bytes ∧ textOf bytes = .ok text

/-- What a settings file sets, and what the log tells about it. -/
inductive Contributes (s : Surroundings) (path : String) : Settings → List LogLine → Prop
  /-- The file is missing, or it cannot be read. -/
  | unread {cause : FileError} (hread : s.disk.read path = .error cause) :
      Contributes s path {} []
  /-- The contents of the file are no text. -/
  | binary {bytes : ByteArray} {cause : FileError} (hread : s.disk.read path = .ok bytes)
      (htext : textOf bytes = .error cause) : Contributes s path {} []
  /-- The text is not in order. -/
  | refused {text : String} (htext : s.HasText path text) (h : Settings.IllFormed text) :
      Contributes s path {} [.ignored path]
  /-- The text is in order. -/
  | accepted {text : String} {settings : Settings} (htext : s.HasText path text)
      (h : Settings.Sets text settings) : Contributes s path settings [.loaded path]

theorem text?_of_hasText {s : Surroundings} {path text : String} (h : s.HasText path text) :
    s.text? path = some text := by
  obtain ⟨bytes, hread, htext⟩ := h
  rw [text?, hread]
  change (textOf bytes).toOption = _
  rw [htext]
  rfl

theorem text?_of_unread {s : Surroundings} {path : String} {cause : FileError}
    (h : s.disk.read path = .error cause) : s.text? path = none := by
  rw [text?, h]
  rfl

theorem text?_of_binary {s : Surroundings} {path : String} {bytes : ByteArray} {cause : FileError}
    (hread : s.disk.read path = .ok bytes) (htext : textOf bytes = .error cause) :
    s.text? path = none := by
  rw [text?, hread]
  change (textOf bytes).toOption = _
  rw [htext]
  rfl

/-- The settings of a file, by its path. -/
def fileSettings (s : Surroundings) (path : String) : Settings := Settings.ofFile (s.text? path)

theorem fileSettings_of_text?_eq_none {s : Surroundings} {path : String}
    (h : s.text? path = none) : s.fileSettings path = {} ∧ s.fileLog path = [] := by
  rw [fileSettings, fileLog, h]
  exact ⟨rfl, rfl⟩

theorem fileSettings_of_refused {s : Surroundings} {path text : String}
    (htext : s.HasText path text) (h : Settings.IllFormed text) :
    s.fileSettings path = {} ∧ s.fileLog path = [.ignored path] := by
  rw [fileSettings, fileLog, text?_of_hasText htext, Settings.ofFile, Option.bind_some,
    LogLine.ofFile, Settings.ofText?_of_illFormed h]
  exact ⟨rfl, rfl⟩

theorem fileSettings_of_accepted {s : Surroundings} {path text : String} {settings : Settings}
    (htext : s.HasText path text) (h : Settings.Sets text settings) :
    s.fileSettings path = settings ∧ s.fileLog path = [.loaded path] := by
  rw [fileSettings, fileLog, text?_of_hasText htext, Settings.ofFile, Option.bind_some,
    LogLine.ofFile, Settings.ofText?_of_sets h]
  exact ⟨rfl, rfl⟩

theorem Contributes.eq {s : Surroundings} {path : String} {settings : Settings}
    {log : List LogLine} (h : s.Contributes path settings log) :
    s.fileSettings path = settings ∧ s.fileLog path = log := by
  cases h with
  | unread hread => exact fileSettings_of_text?_eq_none (text?_of_unread hread)
  | binary hread htext => exact fileSettings_of_text?_eq_none (text?_of_binary hread htext)
  | refused htext h => exact fileSettings_of_refused htext h
  | accepted htext h => exact fileSettings_of_accepted htext h

/-- Every file is of one of the four kinds. -/
theorem exists_contributes (s : Surroundings) (path : String) :
    ∃ settings log, s.Contributes path settings log := by
  cases hread : s.disk.read path with
  | error cause => exact ⟨_, _, .unread hread⟩
  | ok bytes =>
    cases htext : textOf bytes with
    | error cause => exact ⟨_, _, .binary hread htext⟩
    | ok text =>
      have hfile : s.HasText path text := ⟨bytes, hread, htext⟩
      rcases Settings.sets_or_illFormed text with ⟨settings, hsets⟩ | hill
      · exact ⟨_, _, .accepted hfile hsets⟩
      · exact ⟨_, _, .refused hfile hill⟩

/-- **What a settings file sets, and what the log tells about it**, is what the program takes from
it. -/
theorem contributes_iff (s : Surroundings) (path : String) (settings : Settings)
    (log : List LogLine) :
    s.Contributes path settings log ↔ settings = s.fileSettings path ∧ log = s.fileLog path := by
  constructor
  · intro h
    exact ⟨h.eq.1.symm, h.eq.2.symm⟩
  · rintro ⟨rfl, rfl⟩
    obtain ⟨settings, log, h⟩ := s.exists_contributes path
    rw [h.eq.1, h.eq.2]
    exact h

theorem contributes_fileSettings (s : Surroundings) (path : String) :
    s.Contributes path (s.fileSettings path) (s.fileLog path) :=
  (s.contributes_iff path _ _).mpr ⟨rfl, rfl⟩

end SchemaDecl.Command.Surroundings
