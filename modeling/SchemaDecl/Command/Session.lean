import SchemaDecl.Command.Backends
import SchemaDecl.Command.Generate

/-!
# Calls of the program

A call sees its arguments, the standard input, a disk and two variables of its
environment, and leaves an exit code, two streams and a disk.  On the standard error its
messages stand behind a log, which tells how the settings files were taken.

## Main definitions

* `Surroundings`: what a call sees.
* `globalSettingsPath?`, `projectSettingsPath`: where settings files are.
* `LogLine`: what the log tells about a settings file.
* `Surroundings.settings`, `Surroundings.settingsLog`: the settings in force, and their log.
* `Outcome`: what a call leaves.
* `Surroundings.generate`, `Surroundings.run`: the call.
* `Surroundings.standardError`: the log and the messages of a call.
-/

namespace SchemaDecl.Command

/-- What a call of the program sees. -/
structure Surroundings where
  disk : Disk
  standardInput : ByteArray
  /-- The directory of configuration files, if the environment sets one. -/
  configHome : Option String
  /-- The home directory. -/
  home : Option String

/-- The version that the program reports. -/
def versionText : String := "structgen 0.2.0\n"

/-- The path of a file below a directory.  An empty directory is the working directory. -/
def below (directory file : String) : String :=
  if directory = "" then file else directory ++ "/" ++ file

/-- The path of the global settings file: below the directory of configuration files, else
below its usual place in the home directory. -/
def globalSettingsPath? (configHome home : Option String) : Option String :=
  match configHome with
  | some directory => some (below directory "structgen/config.toml")
  | none => (home.filter (· ≠ "")).map fun directory =>
      below directory ".config/structgen/config.toml"

/-- The path of the project's settings file. -/
def projectSettingsPath : String := ".structgen/config.toml"

/-- A line of the log about a settings file, less its time and, in a warning, the fault of
the file.  The path of the project's file is shown from the root there. -/
inductive LogLine
  /-- The file is in order. -/
  | loaded (path : String)
  /-- The file is not in order, so that it sets nothing. -/
  | ignored (path : String)
  deriving DecidableEq, Repr

namespace LogLine

/-- Warnings are shown unless `STRUCTGEN_LOG` asks for less.  The other lines are for
debugging, and are shown with `-v` or if `STRUCTGEN_LOG` asks for them. -/
def isWarning : LogLine → Bool
  | loaded _ => false
  | ignored _ => true

/-- The text of a line behind its time. -/
def text : LogLine → String
  | loaded path => "DEBUG loaded config path=" ++ path
  | ignored path => " WARN ignoring malformed config path=" ++ path

/-- What the log tells about the settings file at a path, given its text.  A file that
cannot be read is passed over in silence. -/
def ofFile (path : String) : Option String → List LogLine
  | none => []
  | some text => if (Settings.ofText? text).isSome then [.loaded path] else [.ignored path]

end LogLine

/-- What a call of the program leaves. -/
structure Outcome where
  exitCode : Nat
  output : String
  /-- What stands on the standard error behind the log.  Lines of the log carry times, and are
  no part of an outcome: see `Surroundings.standardError`. -/
  messages : String
  disk : Disk

/-- The standard error of a call. -/
structure StandardError where
  log : List LogLine
  messages : String
  deriving DecidableEq, Repr

namespace Surroundings

/-- The text of a file, if it can be read. -/
def text? (s : Surroundings) (path : String) : Option String :=
  ((s.disk.read path).bind textOf).toOption

/-- The settings in force. -/
def settings (s : Surroundings) : Settings :=
  Settings.resolve ((globalSettingsPath? s.configHome s.home).bind s.text?)
    (s.text? projectSettingsPath)

/-- What the log tells about the settings file at a path. -/
def fileLog (s : Surroundings) (path : String) : List LogLine :=
  LogLine.ofFile path (s.text? path)

/-- What the log tells about the settings files.  The global one is loaded first. -/
def settingsLog (s : Surroundings) : List LogLine :=
  (globalSettingsPath? s.configHome s.home).elim [] s.fileLog ++ s.fileLog projectSettingsPath

/-- What is read for a schema. -/
def schemaBytes (s : Surroundings) (args : GenerateArgs) : Except FileError ByteArray :=
  match args.schemaPath? with
  | none => .ok s.standardInput
  | some path => s.disk.read path

/-- Delivers code, to a file or to the standard output. -/
def deliver (s : Surroundings) (delivery : Delivery) : Except GenerateError Outcome :=
  match delivery.path with
  | none => .ok ⟨0, delivery.code, "", s.disk⟩
  | some path => do
    let disk ← (s.disk.write path delivery.code.toUTF8).mapError (.writing path)
    return ⟨0, "", "Generated " ++ path ++ "\n", disk⟩

/-- What a failed call leaves: the message of the error, and the disk as it was. -/
def fail (s : Surroundings) (e : GenerateError) : Outcome :=
  ⟨1, "", "Error: " ++ e.message ++ "\n", s.disk⟩

/-- A call of `generate`. -/
def generate (s : Surroundings) (args : GenerateArgs) : Outcome :=
  match (Command.generate args s.settings (s.schemaBytes args)).bind s.deliver with
  | .ok outcome => outcome
  | .error e => s.fail e

/-- A call of the program.  Arguments that are not in order make the exit code 2.  The texts
on the usage of the program are left out. -/
def run (s : Surroundings) (args : List String) : Outcome :=
  match Invocation.parse args with
  | none => ⟨2, "", "", s.disk⟩
  | some .help => ⟨0, "", "", s.disk⟩
  | some .version => ⟨0, versionText, "", s.disk⟩
  | some (.backends json) => ⟨0, backendsText json, "", s.disk⟩
  | some (.generate args) => s.generate args

/-- The log of a call.  Settings are loaded for `generate` only.  The stages of a call add
lines for debugging, which tell about its target, its options and its schema. -/
def log (s : Surroundings) (args : List String) : List LogLine :=
  match Invocation.parse args with
  | some (.generate _) => s.settingsLog
  | _ => []

/-- The standard error of a call, under a filter of the log.  It is `LogLine.isWarning` unless
`-v` or `STRUCTGEN_LOG` asks for another one. -/
def standardError (s : Surroundings) (shows : LogLine → Bool) (args : List String) :
    StandardError :=
  ⟨(s.log args).filter shows, (s.run args).messages⟩

end Surroundings

end SchemaDecl.Command
