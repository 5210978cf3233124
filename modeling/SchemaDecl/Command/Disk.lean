/-!
# Files

A disk holds files at paths below one root.  A directory is there if a file is somewhere
in it, or if the working directory is.  A path as written is followed step by step from
the root or from the working directory, so that every directory on the way must be
there.  A path and each name in it have a greatest length in bytes.

## Main definitions

* `FileError`, `FileError.message`: why a file cannot be read or written.
* `Disk`: files and the working directory.
* `maxNameBytes`, `maxPathBytes`: the greatest lengths.
* `Disk.route`, `Disk.enter`: a path as steps, and the directory they lead to.
* `Disk.read`, `Disk.write`: the two operations.
* `Disk.changes`: the files that differ from those of an earlier disk.
* `fileExtension?`: the extension of a path's last name.
-/

namespace SchemaDecl.Command

/-- Why a file cannot be read or written. -/
inductive FileError
  | notFound
  | notDirectory
  | isDirectory
  /-- The path or a name in it is longer than the system admits. -/
  | nameTooLong
  /-- The contents are no text. -/
  | notText
  /-- Another reason, in the words of the system. -/
  | other (reason : String)
  deriving DecidableEq, Repr

/-- The text of an error. -/
def FileError.message : FileError → String
  | notFound => "No such file or directory (os error 2)"
  | notDirectory => "Not a directory (os error 20)"
  | isDirectory => "Is a directory (os error 21)"
  | nameTooLong => "File name too long (os error 36)"
  | notText => "stream did not contain valid UTF-8"
  | other reason => reason

/-- The greatest number of bytes of a name. -/
def maxNameBytes : Nat := 255

/-- The greatest number of bytes of a path as written. -/
def maxPathBytes : Nat := 4095

/-- The names on the way from the root. -/
abbrev Location := List String

/-- A disk: the contents of files by their locations, and the working directory. -/
structure Disk where
  files : List (Location × ByteArray)
  workingDirectory : Location

/-- A path as written, as the place it starts from and the names of its steps. -/
structure Route where
  start : Location
  steps : List String
  /-- Whether the path ends in a slash, so that it means a directory. -/
  wantsDirectory : Bool
  deriving DecidableEq, Repr

namespace Disk

/-- The contents of the file at a location. -/
def contents? (disk : Disk) (location : Location) : Option ByteArray :=
  disk.files.lookup location

/-- Whether there is a directory at a location. -/
def hasDirectory (disk : Disk) (location : Location) : Bool :=
  location.isPrefixOf disk.workingDirectory ||
    disk.files.any fun file => location.isPrefixOf file.1 && location.length < file.1.length

/-- The route of a path, unless it is too long to be looked at. -/
def route (disk : Disk) (path : String) : Except FileError Route :=
  if maxPathBytes < path.utf8ByteSize then .error .nameTooLong
  else .ok {
    start := if path.toList.head? = some '/' then [] else disk.workingDirectory
    steps := (path.toList.splitOn '/').map String.ofList |>.filter (· != "")
    wantsDirectory := path.toList.getLast? = some '/' }

/-- The directory that some steps lead to. -/
def enter (disk : Disk) : Location → List String → Except FileError Location
  | here, [] => .ok here
  | here, step :: steps =>
    if step = "." then enter disk here steps
    else if step = ".." then enter disk here.dropLast steps
    else if maxNameBytes < step.utf8ByteSize then .error .nameTooLong
    else
      let next := here ++ [step]
      if disk.hasDirectory next then enter disk next steps
      else if (disk.contents? next).isSome then .error .notDirectory
      else .error .notFound

/-- The directory of a path's last name, and this name unless it stands for a directory
itself. -/
def locate (disk : Disk) (route : Route) : Except FileError (Location × Option String) := do
  let directory ← disk.enter route.start route.steps.dropLast
  return (directory, route.steps.getLast?.filter fun step => step ≠ "." && step ≠ "..")

/-- The contents of the file at a path. -/
def read (disk : Disk) (path : String) : Except FileError ByteArray := do
  let route ← disk.route path
  match ← disk.locate route with
  | (_, none) => throw .isDirectory
  | (directory, some name) =>
    let location := directory ++ [name]
    if maxNameBytes < name.utf8ByteSize then throw .nameTooLong
    else if disk.hasDirectory location then throw .isDirectory
    else
      match disk.contents? location with
      | none => throw .notFound
      | some bytes => if route.wantsDirectory then throw .notDirectory else return bytes

/-- The files with the contents of one of them replaced, or one added. -/
def putFile (location : Location) (bytes : ByteArray) :
    List (Location × ByteArray) → List (Location × ByteArray)
  | [] => [(location, bytes)]
  | (l, b) :: rest =>
    if l = location then (l, bytes) :: rest else (l, b) :: putFile location bytes rest

/-- The disk after the file at a path is written. -/
def write (disk : Disk) (path : String) (bytes : ByteArray) : Except FileError Disk := do
  let route ← disk.route path
  match ← disk.locate route with
  | (_, none) => throw .isDirectory
  | (directory, some name) =>
    let location := directory ++ [name]
    if route.wantsDirectory || disk.hasDirectory location then throw .isDirectory
    else if maxNameBytes < name.utf8ByteSize then throw .nameTooLong
    else return { disk with files := putFile location bytes disk.files }

/-- The files that are not on an earlier disk, or have other contents there. -/
def changes (before after : Disk) : List (Location × ByteArray) :=
  after.files.filter fun file => before.contents? file.1 != some file.2

end Disk

/-- The text of some contents. -/
def textOf (bytes : ByteArray) : Except FileError String :=
  match String.fromUTF8? bytes with
  | some text => .ok text
  | none => .error .notText

/-- What stands behind the last point of a name, unless nothing stands before it. -/
def extensionOf? (name : List Char) : Option String :=
  match name.reverse.dropWhile (· != '.') with
  | [] | [_] => none
  | _ :: _ => some (String.ofList (name.reverse.takeWhile (· != '.')).reverse)

/-- The extension of the last name of a path. -/
def fileExtension? (path : String) : Option String :=
  match ((path.toList.splitOn '/').filter fun step => step ≠ [] && step ≠ ['.']).getLast? with
  | none => none
  | some name => if name = ['.', '.'] then none else extensionOf? name

end SchemaDecl.Command
