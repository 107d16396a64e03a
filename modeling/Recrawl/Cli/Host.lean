import Recrawl.Bytes
import Recrawl.Log
import Recrawl.Path
import Recrawl.Text.Visible
import Recrawl.Time.Instant

/-!
What the command line needs of its surroundings: files, a clock, and two streams
of text. The commands are written for any host, so that they run in memory as
well as on a real system.
-/
namespace Recrawl.Cli

inductive FileKind
  | file
  | directory
  deriving DecidableEq, Repr

structure Host (m : Type → Type) where
  read : (path : String) → m (Except FileFault Bytes)
  /-- What is at a path, if anything is. -/
  kind? : (path : String) → m (Option FileKind)
  /-- The names in a directory. -/
  names : (path : String) → m (Except FileFault (List String))
  /-- Makes a directory with all those above it. -/
  makeDirectory : (path : String) → m (Except FileFault Unit)
  write : (path text : String) → m (Except FileFault Unit)
  rename : (source target : String) → m (Except FileFault Unit)
  remove : (path : String) → m (Except FileFault Unit)
  workingDirectory : m String
  /-- The path of the settings of the user. -/
  userSettings? : m (Option String)
  /-- The time of day. -/
  now : m Time.Instant
  /-- Nanoseconds of a clock that never goes back. -/
  clock : m Nat
  /-- Writes to the output. -/
  print : (text : String) → m Unit
  /-- Writes to the stream for diagnostics. -/
  complain : (text : String) → m Unit

namespace Host

variable {m : Type → Type} [Monad m]

def hasEntry (host : Host m) (path : String) : m Bool := do
  return (← host.kind? path).isSome

def isFile (host : Host m) (path : String) : m Bool := do
  return (← host.kind? path) == some .file

def isDirectory (host : Host m) (path : String) : m Bool := do
  return (← host.kind? path) == some .directory

end Host

/-- The name of a level in five columns. -/
def levelLabel (level : Log.Level) : String :=
  level.name ++ String.ofList (List.replicate (5 - level.name.length) ' ')

def messageLine (message : Log.Message) : String :=
  Text.visible
    ("[" ++ levelLabel message.level ++ " " ++ message.origin.name ++ "] " ++ message.text ++ "\n")

/-- A host together with the least urgent level that it is told of. -/
structure Session (m : Type → Type) where
  host : Host m
  level : Log.Level

namespace Session

variable {m : Type → Type} [Monad m]

/-- Shows the messages that are urgent enough, and gives the value. -/
def tell {α : Type} (session : Session m) (logged : Logged α) : m α := do
  for message in logged.messages do
    if message.level.rank ≤ session.level.rank then
      session.host.complain (messageLine message)
  return logged.value

end Session

/-- Why a command failed: what it was about, and the cause if there is one below it. -/
structure Failure where
  text : String
  cause : Option String := none
  deriving DecidableEq, Repr

namespace Failure

def line (failure : Failure) : String :=
  match failure.cause with
  | some cause => failure.text ++ ": " ++ cause
  | none => failure.text

/-- The report of a failure that ends the program. Every line of the cause is indented. -/
def report (failure : Failure) : String :=
  "Error: " ++ failure.text ++ "\n" ++
    (match failure.cause with
      | some cause =>
        let lines := cause.splitOn "\n"
        "\nCaused by:\n" ++ String.join (lines.map fun line => "    " ++ line ++ "\n")
      | none => "")

end Failure

end Recrawl.Cli
