import SchemaDecl.Command.Disk
import SchemaDecl.Proofs.List

/-!
# Writing one file

Writing a file puts its contents at one location and leaves all others as they are.  No
directory comes or goes, since a file is written only where its directory is there already.  So
a path leads to the same location before and after, and reading it gives what was written.

## Main definitions

* `Disk.LeadsTo` — the location of the file that a path means.
* `Disk.Written` — one disk is another with the file at a path replaced or added.
* `Disk.destination` — where a file would be written.
* `Disk.SamePlaces` — disks differ in the contents of their files only.

## Main results

* `Disk.lookup_putFile` — what is at each location afterwards.
* `Disk.hasDirectory_putFile` — the directories are the same.
* `Disk.written_of_write` — **writing replaces the file at a path, and nothing else**.
* `Disk.write_eq`, `Disk.destination_congr` — what is written, and what is in files, does not decide
  where it goes.
* `Disk.mem_changes_iff` — the files that differ from those of another disk.
-/

instance instLawfulBEqByteArray : LawfulBEq ByteArray where
  eq_of_beq {bytes bytes'} h := by
    have hdata : (bytes.data == bytes'.data) = true := h
    exact ByteArray.ext (beq_iff_eq.mp hdata)
  rfl {bytes} := by
    change (bytes.data == bytes.data) = true
    exact beq_self_eq_true _

namespace SchemaDecl.Command

namespace Disk

/-! ### Contents -/

/-- The contents at each location after one file is put in its place. -/
theorem lookup_putFile (location : Location) (bytes : ByteArray)
    (files : List (Location × ByteArray)) (l : Location) :
    (putFile location bytes files).lookup l
      = if l = location then some bytes else files.lookup l := by
  induction files with
  | nil => exact List.lookup_cons_eq_ite l location bytes []
  | cons file rest ih =>
    obtain ⟨m, b⟩ := file
    rw [putFile]
    by_cases hm : m = location
    · rw [if_pos hm, List.lookup_cons_eq_ite, List.lookup_cons_eq_ite, hm]
      by_cases hl : l = location
      · rw [if_pos hl, if_pos hl]
      · rw [if_neg hl, if_neg hl, if_neg hl]
    · rw [if_neg hm, List.lookup_cons_eq_ite, List.lookup_cons_eq_ite, ih]
      by_cases hl : l = m
      · rw [if_pos hl, if_pos hl, if_neg (hl ▸ hm)]
      · rw [if_neg hl, if_neg hl]

/-! ### Directories -/

/-- Directories are known from the places of files. -/
theorem hasDirectory_iff (disk : Disk) (l : Location) :
    disk.hasDirectory l = true ↔ l <+: disk.workingDirectory ∨
      ∃ m, (disk.contents? m).isSome = true ∧ l <+: m ∧ l.length < m.length := by
  rw [hasDirectory, Bool.or_eq_true, List.isPrefixOf_iff_prefix, List.any_eq_true]
  refine or_congr Iff.rfl ?_
  constructor
  · rintro ⟨file, hfile, hinside⟩
    rw [Bool.and_eq_true, decide_eq_true_eq, List.isPrefixOf_iff_prefix] at hinside
    exact ⟨file.1, List.lookup_isSome_iff.mpr ⟨file, hfile, beq_self_eq_true _⟩, hinside⟩
  · rintro ⟨m, hm, hinside⟩
    obtain ⟨file, hfile, heq⟩ := List.lookup_isSome_iff.mp hm
    rw [beq_iff_eq.mp heq] at hinside
    refine ⟨file, hfile, ?_⟩
    rw [Bool.and_eq_true, decide_eq_true_eq, List.isPrefixOf_iff_prefix]
    exact hinside

/-- A directory is at every location on the way to one. -/
theorem hasDirectory_above {disk : Disk} {l m : Location} (h : l <+: m)
    (hm : disk.hasDirectory m = true) : disk.hasDirectory l = true := by
  rw [hasDirectory_iff] at hm ⊢
  rcases hm with hm | ⟨n, hn, hinside, hlength⟩
  · exact Or.inl (h.trans hm)
  · exact Or.inr ⟨n, hn, h.trans hinside, Nat.lt_of_le_of_lt h.length_le hlength⟩

/-- Steps from a directory lead to a directory. -/
theorem hasDirectory_of_enter {disk : Disk} {steps : List String} {here there : Location}
    (hhere : disk.hasDirectory here = true) (h : disk.enter here steps = .ok there) :
    disk.hasDirectory there = true := by
  induction steps generalizing here with
  | nil =>
    obtain rfl := Except.ok.inj h
    exact hhere
  | cons step steps ih =>
    rw [enter] at h
    dsimp only at h
    split_ifs at h with hdot hup hlong hnext
    · exact ih hhere h
    · exact ih (hasDirectory_above (List.dropLast_prefix here) hhere) h
    · exact ih hnext h

theorem hasDirectory_start {disk : Disk} {path : String} {route : Route}
    (h : disk.route path = .ok route) : disk.hasDirectory route.start = true := by
  rw [Disk.route] at h
  split at h
  · cases h
  · obtain rfl := Except.ok.inj h
    dsimp only
    split
    · simp [hasDirectory]
    · simp [hasDirectory]

/-- The directories are the same after a file is put into one of them. -/
theorem hasDirectory_putFile {disk : Disk} {directory : Location} (name : String)
    (bytes : ByteArray) (h : disk.hasDirectory directory = true) (l : Location) :
    ({ disk with files := putFile (directory ++ [name]) bytes disk.files } : Disk).hasDirectory l
      = disk.hasDirectory l := by
  rw [Bool.eq_iff_iff, hasDirectory_iff, hasDirectory_iff]
  constructor
  · rintro (hworking | ⟨m, hm, hinside, hlength⟩)
    · exact Or.inl hworking
    · rw [contents?, lookup_putFile] at hm
      split at hm
      · next heq =>
        -- what the new file is in was there before
        rw [heq] at hinside hlength
        rw [List.length_append, List.length_singleton] at hlength
        have habove : l <+: directory :=
          List.prefix_of_prefix_length_le hinside (List.prefix_append _ _) (by omega)
        exact (hasDirectory_iff disk l).mp (hasDirectory_above habove h)
      · exact Or.inr ⟨m, hm, hinside, hlength⟩
  · rintro (hworking | ⟨m, hm, hinside, hlength⟩)
    · exact Or.inl hworking
    · refine Or.inr ⟨m, ?_, hinside, hlength⟩
      rw [contents?, lookup_putFile]
      split
      · rfl
      · exact hm

/-! ### Paths -/

section SameDirectories

variable {disk disk' : Disk} (hdirectory : ∀ l, disk'.hasDirectory l = disk.hasDirectory l)

include hdirectory

/-- Steps that lead somewhere lead there on any disk with the same directories. -/
theorem enter_congr {steps : List String} {here there : Location}
    (h : disk.enter here steps = .ok there) : disk'.enter here steps = .ok there := by
  induction steps generalizing here with
  | nil => exact h
  | cons step steps ih =>
    rw [enter] at h ⊢
    dsimp only at h ⊢
    rw [hdirectory]
    split_ifs at h ⊢ with hdot hup hlong hnext
    · exact ih h
    · exact ih h
    · exact ih h

theorem locate_congr {route : Route} {found : Location × Option String}
    (h : disk.locate route = .ok found) : disk'.locate route = .ok found := by
  rw [locate] at h ⊢
  cases henter : disk.enter route.start route.steps.dropLast with
  | error e =>
    rw [henter] at h
    cases h
  | ok there =>
    rw [henter] at h
    rw [enter_congr hdirectory henter]
    exact h

end SameDirectories

theorem hasDirectory_of_locate {disk : Disk} {path : String} {route : Route}
    {found : Location × Option String} (hroute : disk.route path = .ok route)
    (h : disk.locate route = .ok found) : disk.hasDirectory found.1 = true := by
  rw [locate] at h
  cases henter : disk.enter route.start route.steps.dropLast with
  | error e =>
    rw [henter] at h
    cases h
  | ok there =>
    rw [henter] at h
    obtain rfl := Except.ok.inj h
    exact hasDirectory_of_enter (hasDirectory_start hroute) henter

/-- The path leads to the location: its last name stands in the directory that the steps before it
lead to. -/
def LeadsTo (disk : Disk) (path : String) (location : Location) : Prop :=
  ∃ route directory name, disk.route path = .ok route ∧
    disk.locate route = .ok (directory, some name) ∧ location = directory ++ [name]

/-! ### Writing -/

/-- A file can be written where no directory is, under a name that is not too long. -/
structure Accepts (disk : Disk) (route : Route) (directory : Location) (name : String) : Prop where
  locates : disk.locate route = .ok (directory, some name)
  file : route.wantsDirectory = false
  free : disk.hasDirectory (directory ++ [name]) = false
  short : ¬ maxNameBytes < name.utf8ByteSize

/-- The location of the file that writing to a path puts there, unless it is refused. -/
def destination (disk : Disk) (path : String) : Except FileError Location := do
  let route ← disk.route path
  match ← disk.locate route with
  | (_, none) => throw .isDirectory
  | (directory, some name) =>
    if route.wantsDirectory || disk.hasDirectory (directory ++ [name]) then throw .isDirectory
    else if maxNameBytes < name.utf8ByteSize then throw .nameTooLong
    else return directory ++ [name]

/-- **What is written decides nothing but the contents**: where it goes, and whether it is refused,
is known from the path. -/
theorem write_eq (disk : Disk) (path : String) (bytes : ByteArray) :
    disk.write path bytes = (disk.destination path).map fun location =>
      { disk with files := putFile location bytes disk.files } := by
  rw [write, destination]
  cases disk.route path with
  | error e => rfl
  | ok route =>
    dsimp only [bind, Except.bind]
    cases disk.locate route with
    | error e => rfl
    | ok found =>
      obtain ⟨directory, last⟩ := found
      cases last with
      | none => rfl
      | some name =>
        dsimp only
        split_ifs <;> rfl

/-- A destination is where a file can be written. -/
theorem accepts_of_destination {disk : Disk} {path : String} {location : Location}
    (h : disk.destination path = .ok location) :
    ∃ route directory name, disk.route path = .ok route ∧ disk.Accepts route directory name ∧
      location = directory ++ [name] := by
  rw [destination] at h
  cases hroute : disk.route path with
  | error e =>
    rw [hroute] at h
    cases h
  | ok route =>
    rw [hroute] at h
    dsimp only [bind, Except.bind] at h
    cases hlocate : disk.locate route with
    | error e =>
      rw [hlocate] at h
      cases h
    | ok found =>
      rw [hlocate] at h
      obtain ⟨directory, last⟩ := found
      cases last with
      | none => cases h
      | some name =>
        dsimp only at h
        split_ifs at h with hfile hshort
        rw [Bool.or_eq_true, not_or, Bool.not_eq_true, Bool.not_eq_true] at hfile
        exact ⟨route, directory, name, rfl, ⟨hlocate, hfile.1, hfile.2, hshort⟩,
          (Except.ok.inj h).symm⟩

/-- Where a file can be written, reading gives what is there. -/
theorem Accepts.read_eq {disk : Disk} {path : String} {route : Route} {directory : Location}
    {name : String} (h : disk.Accepts route directory name) (hroute : disk.route path = .ok route)
    {bytes : ByteArray} (hcontents : disk.contents? (directory ++ [name]) = some bytes) :
    disk.read path = .ok bytes := by
  rw [read, hroute]
  dsimp only [bind, Except.bind]
  rw [h.locates]
  dsimp only
  rw [if_neg h.short, if_neg (Bool.not_eq_true _ ▸ h.free), hcontents]
  dsimp only
  rw [if_neg (Bool.not_eq_true _ ▸ h.file)]
  rfl

/-- One disk is another with the file at a path replaced or added. -/
structure Written (disk : Disk) (path : String) (bytes : ByteArray) (location : Location)
    (disk' : Disk) : Prop where
  /-- The location is that of the path. -/
  leadsTo : disk.LeadsTo path location
  here : disk'.contents? location = some bytes
  /-- No other file is created or changed. -/
  elsewhere : ∀ l, l ≠ location → disk'.contents? l = disk.contents? l
  directories : ∀ l, disk'.hasDirectory l = disk.hasDirectory l
  workingDirectory : disk'.workingDirectory = disk.workingDirectory
  /-- Reading the path gives what was written. -/
  read : disk'.read path = .ok bytes

/-- **Writing replaces the file at the destination, and nothing else.** -/
theorem written_of_destination {disk : Disk} {path : String} {location : Location}
    (h : disk.destination path = .ok location) (bytes : ByteArray) :
    disk.Written path bytes location { disk with files := putFile location bytes disk.files } := by
  obtain ⟨route, directory, name, hroute, haccepts, rfl⟩ := accepts_of_destination h
  have hparent := hasDirectory_of_locate hroute haccepts.locates
  have hdirectories := hasDirectory_putFile name bytes hparent
  have hhere : ({ disk with files := putFile (directory ++ [name]) bytes disk.files }
      : Disk).contents? (directory ++ [name]) = some bytes := by
    rw [contents?, lookup_putFile, if_pos rfl]
  -- the directories are the same, so that the path still leads there
  have haccepts' : Accepts { disk with files := putFile (directory ++ [name]) bytes disk.files }
      route directory name :=
    ⟨locate_congr hdirectories haccepts.locates, haccepts.file,
      (hdirectories _).trans haccepts.free, haccepts.short⟩
  refine ⟨⟨route, directory, name, hroute, haccepts.locates, rfl⟩, hhere, ?_,
    hdirectories, rfl, haccepts'.read_eq hroute hhere⟩
  intro l hl
  rw [contents?, lookup_putFile, if_neg hl]
  rfl

/-- **Writing replaces the file at a path, and nothing else.** -/
theorem written_of_write {disk disk' : Disk} {path : String} {bytes : ByteArray}
    (h : disk.write path bytes = .ok disk') :
    ∃ location, disk.Written path bytes location disk' := by
  rw [write_eq] at h
  cases hdestination : disk.destination path with
  | error e =>
    rw [hdestination] at h
    cases h
  | ok location =>
    rw [hdestination] at h
    obtain rfl := Except.ok.inj h
    exact ⟨location, written_of_destination hdestination bytes⟩

/-! ### Disks that differ in contents -/

/-- Contents that stand in a file of the one disk and not of the other. -/
theorem mem_changes_iff {before after : Disk} {file : Location × ByteArray} :
    file ∈ before.changes after ↔
      file ∈ after.files ∧ before.contents? file.1 ≠ some file.2 := by
  rw [changes, List.mem_filter, bne_iff_ne]

/-- The disks have files in the same places, and the same working directory. -/
structure SamePlaces (disk disk' : Disk) : Prop where
  workingDirectory : disk.workingDirectory = disk'.workingDirectory
  files : ∀ l, (disk.contents? l).isSome = (disk'.contents? l).isSome

section SamePlaces

variable {disk disk' : Disk} (h : disk.SamePlaces disk')

include h

theorem SamePlaces.hasDirectory_eq (l : Location) :
    disk.hasDirectory l = disk'.hasDirectory l := by
  rw [Bool.eq_iff_iff, hasDirectory_iff, hasDirectory_iff, h.workingDirectory]
  simp only [h.files]

theorem SamePlaces.enter_eq (here : Location) (steps : List String) :
    disk.enter here steps = disk'.enter here steps := by
  induction steps generalizing here with
  | nil => rfl
  | cons step steps ih =>
    rw [enter, enter]
    dsimp only
    rw [h.hasDirectory_eq, h.files, ih, ih, ih]

/-- A path has the same destination, whatever the contents of the files are. -/
theorem destination_congr (path : String) : disk.destination path = disk'.destination path := by
  have hroute : disk.route path = disk'.route path := by
    rw [route, route, h.workingDirectory]
  have hlocate : ∀ route, disk.locate route = disk'.locate route := by
    intro route
    rw [locate, locate, h.enter_eq]
  rw [destination, destination, hroute]
  simp only [hlocate, h.hasDirectory_eq]

end SamePlaces

end Disk

/-- What is written as text is read as this text. -/
theorem textOf_toUTF8 (text : String) : textOf text.toUTF8 = .ok text := by
  unfold textOf String.fromUTF8?
  rw [String.toUTF8_eq_toByteArray, dif_pos text.isValidUTF8]
  rfl

end SchemaDecl.Command
