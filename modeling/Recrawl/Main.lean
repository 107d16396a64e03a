import Recrawl.Cli.Run
import Std.Time.DateTime.Timestamp

/-!
The program: the command line on the host that the operating system provides.
-/
namespace Recrawl.Cli.System

def fault : IO.Error → FileFault
  | .noFileOrDirectory .. => .notFound
  | .permissionDenied .. => .denied
  | .alreadyExists .. => .exists
  | .inappropriateType _ code details =>
    if code == 20 then .notDirectory else if code == 21 then .isDirectory else .other details
  | .invalidArgument _ code details => if code == 36 then .nameTooLong else .other details
  | error => .other (toString error)

def attempt {α : Type} (action : IO α) : IO (Except FileFault α) := do
  match ← action.toBaseIO with
  | .ok a => return .ok a
  | .error error => return .error (fault error)

/-- What is at a path, if anything is. -/
def kind? (path : String) : IO (Option FileKind) := do
  if path.isEmpty then return none
  match ← attempt ((← IO.currentDir) / path).metadata with
  | .ok found =>
    match found.type with
    | .dir => return some .directory
    | _ => return some .file
  | .error _ => return none

def names (path : String) : IO (List String) := do
  let entries ← ((← IO.currentDir) / path).readDir
  return (entries.map fun entry => entry.fileName).toList

def userSettings? : IO (Option String) := do
  let place := Path.join programName "config.toml"
  match ← IO.getEnv "XDG_CONFIG_HOME" with
  | some directory => if directory.startsWith "/" then return some (Path.join directory place)
  | none => pure ()
  match ← IO.getEnv "HOME" with
  | some directory => return some (Path.join (Path.join directory ".config") place)
  | none => return none

def now : IO Time.Instant := do
  let nanos := (← Std.Time.Timestamp.now).toNanosecondsSinceUnixEpoch.toInt
  let second : Int := Time.nanosPerSecond
  match Time.Instant.moved? 0 (nanos / second) (nanos % second).toNat with
  | some instant => return instant
  | none => throw (IO.userError "the clock is out of range")

def host : Host IO where
  read path := attempt do return (← IO.FS.readBinFile path).toList
  kind? := kind?
  names path := attempt (names path)
  makeDirectory path := attempt (IO.FS.createDirAll path)
  write path text := attempt (IO.FS.writeFile path text)
  rename source target := attempt (IO.FS.rename source target)
  remove path := attempt (IO.FS.removeFile path)
  workingDirectory := return (← IO.currentDir).toString
  userSettings? := userSettings?
  now := now
  clock := IO.monoNanosNow
  print := IO.print
  complain := IO.eprint

end Recrawl.Cli.System

def main (args : List String) : IO UInt32 := do
  return UInt32.ofNat (← Recrawl.Cli.run Recrawl.Cli.System.host args)
