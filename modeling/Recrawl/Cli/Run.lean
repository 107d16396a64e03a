import Recrawl.Cli.Classify
import Recrawl.Cli.Overview
import Recrawl.Json.Writer
import Recrawl.Schedule.Adaptive
import Recrawl.Settings.Decode
import Recrawl.Text.Utf8
import Recrawl.Toml.Document
import Recrawl.Toml.Report

/-!
Running a command line on a host. The exit code is 0 if the command succeeded or
help was shown, 1 if it failed, and 2 if the command line is faulty.
-/
namespace Recrawl.Cli

variable {m : Type → Type} [Monad m]

/-- The settings that a text describes, or the report of its first fault. -/
def parseSettings (text : String) : Except String Settings :=
  match Toml.read text with
  | .error fault => .error (fault.report text)
  | .ok document =>
    (Settings.read .configuration document.toValue).mapError fun fault =>
      Toml.report text ((document.locate fault.place none).getD ⟨0, 0⟩) fault.message

/-- The settings of a configuration file, or its failure. -/
def settingsOf (path : String) (content : Except FileFault Bytes) : Except Failure Settings :=
  match content with
  | .error fault => .error ⟨s!"Failed to read config file: {path}", some fault.message⟩
  | .ok content =>
    match Text.Utf8.strict content with
    | .error _ =>
      .error ⟨s!"Failed to read config file: {path}",
        some "stream did not contain valid UTF-8"⟩
    | .ok chars =>
      (parseSettings (String.ofList chars)).mapError fun report =>
        ⟨s!"Failed to parse config file: {path}", some report⟩

def loadFile (session : Session m) (path : String) : m (Except Failure Settings) := do
  match settingsOf path (← session.host.read path) with
  | .error failure => return .error failure
  | .ok settings =>
    session.tell (report .info .settings s!"Loaded config from {path}")
    return .ok settings

def localConfig : String := programName ++ ".toml"

/-- The configuration file that is used if none is named: the one in the working directory, else
the one of the user. -/
def defaultConfig? (host : Host m) : m (Option String) := do
  if ← host.hasEntry localConfig then return some localConfig
  match ← host.userSettings? with
  | some path => if ← host.hasEntry path then return some path else return none
  | none => return none

def loadSettings (session : Session m) (config : Option String) : m (Except Failure Settings) := do
  let path ← match config with
    | some path => pure (some path)
    | none => defaultConfig? session.host
  match path with
  | some path => loadFile session path
  | none =>
    session.tell (report .debug .settings "No config file found, using defaults")
    return .ok {}

def decision (status : Status) (next : Option Time.Instant) (metadata : Metadata) : Value :=
  .table [("status", .string status.name),
    ("next_fetch", match next with
      | some date => .string date.toRfc3339
      | none => .null),
    ("metadata", metadata.toValue)]

def schedule (session : Session m) (settings : Settings) (request : ScheduleRequest) :
    m Unit := do
  let now ← match request.now with
    | some now => pure now
    | none => session.host.now
  let (metadata, next) ← session.tell
    (settings.schedule.next request.status (Metadata.ofPairs request.pairs) now)
  session.host.print (Json.renderPretty (decision request.status next metadata) ++ "\n")

def serve (session : Session m) (settings : Settings) : Request → m (Except Failure Unit)
  | .classify request => Classify.run session settings request
  | .schedule request => do
    schedule session settings request
    return .ok ()
  | .showSettings => do
    session.host.complain ("\n" ++ Overview.table settings ++ "\n")
    return .ok ()

def Invocation.level (i : Invocation) : Log.Level :=
  if i.isDebug then .debug else if i.isQuiet then .warn else .info

def Invocation.run (i : Invocation) (host : Host m) : m (Except Failure Unit) := do
  let session : Session m := ⟨host, i.level⟩
  match ← loadSettings session i.config with
  | .error failure => return .error failure
  | .ok settings => serve session settings i.request

def run (host : Host m) (args : List String) : m Nat := do
  match Invocation.read args with
  | .error (.help command) =>
    host.print command.help
    return 0
  | .error .version =>
    host.print (programName ++ " " ++ version ++ "\n")
    return 0
  | .error .empty =>
    host.complain programForm.help
    return 2
  | .error (.fault complaint) =>
    host.complain complaint.report
    return 2
  | .ok invocation =>
    match ← invocation.run host with
    | .error failure =>
      host.complain failure.report
      return 1
    | .ok () => return 0

end Recrawl.Cli
