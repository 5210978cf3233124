import SchemaDecl.Command.Session

/-!
# The program

Reads what a call needs, lets the library decide, and writes what it delivers.
-/

namespace SchemaDecl.Command

/-- The reason of a failed operation on files. -/
def FileError.ofSystem : IO.Error → FileError
  | .noFileOrDirectory .. => .notFound
  | .inappropriateType _ code details =>
    if code = 21 then .isDirectory else if code = 20 then .notDirectory else .other details
  | .invalidArgument _ code details => if code = 36 then .nameTooLong else .other details
  | e => .other (toString e)

/-- The bytes of a file. -/
def readBytes (path : String) : IO (Except FileError ByteArray) := do
  try
    return .ok (← IO.FS.readBinFile path)
  catch e =>
    return .error (.ofSystem e)

/-- The text of a file, if it can be read. -/
def readText? (path : String) : IO (Option String) := do
  return ((← readBytes path).bind textOf).toOption

/-- All bytes of a stream. -/
partial def readAll (stream : IO.FS.Stream) (bytes : ByteArray) : IO ByteArray := do
  let next ← stream.read 65536
  if next.isEmpty then return bytes else readAll stream (bytes ++ next)

/-- The text of a settings file, if it can be read.  A warning is shown if it is not in
order. -/
def readSettingsFile (path : String) : IO (Option String) := do
  let text ← readText? path
  for line in (LogLine.ofFile path text).filter LogLine.isWarning do
    IO.eprintln line.text
  return text

/-- The settings in force. -/
def readSettings : IO Settings := do
  let path := globalSettingsPath? (← IO.getEnv "XDG_CONFIG_HOME") (← IO.getEnv "HOME")
  let global ← match path with
    | some path => readSettingsFile path
    | none => pure none
  return .resolve global (← readSettingsFile projectSettingsPath)

/-- What is read for the schema of a call. -/
def readInput (args : GenerateArgs) : IO (Except FileError ByteArray) := do
  match args.schemaPath? with
  | some path => readBytes path
  | none => return .ok (← readAll (← IO.getStdin) .empty)

/-- Writes code to its place. -/
def writeCode (delivery : Delivery) : IO (Except GenerateError Unit) := do
  match delivery.path with
  | none =>
    IO.print delivery.code
    return .ok ()
  | some path =>
    try
      IO.FS.writeFile path delivery.code
      IO.eprintln ("Generated " ++ path)
      return .ok ()
    catch e =>
      return .error (.writing path (.ofSystem e))

/-- A call of `generate`. -/
def runGenerate (args : GenerateArgs) : IO UInt32 := do
  let settings ← readSettings
  let result ← match selectTarget args settings with
    | .error e => pure (.error e)
    | .ok _ => do pure (generate args settings (← readInput args))
  let result ← match result with
    | .error e => pure (.error e)
    | .ok delivery => writeCode delivery
  match result with
  | .ok () => return 0
  | .error e =>
    IO.eprintln ("Error: " ++ e.message)
    return 1

end SchemaDecl.Command

open SchemaDecl.Command in
/-- The program. -/
def main (args : List String) : IO UInt32 := do
  match Invocation.parse args with
  | none => return 2
  | some .help => return 0
  | some .version =>
    IO.print versionText
    return 0
  | some (.backends json) =>
    IO.print (backendsText json)
    return 0
  | some (.generate args) => runGenerate args
