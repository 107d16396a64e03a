import Recrawl.Cli.Host
import Recrawl.Glob.Pattern
import Recrawl.Url.Percent

/-!
The documents that are named on a command line, by paths or by patterns for paths,
and the addresses of files.
-/
namespace Recrawl.Cli.Inputs

variable {m : Type → Type} [Monad m]

/-- More steps than a path can have. -/
def maxSteps : Nat := 4096

/-- The files for the steps behind the one that led to a path. -/
def proceed (enter : List Glob.Step → String → m (List String)) (rest : List Glob.Step)
    (path : String) : m (List String) :=
  if rest.isEmpty then pure [path] else enter rest path

/-- The files for a pattern at an entry that its first step has to stand for. -/
def select (enter : List Glob.Step → String → m (List String)) (steps : List Glob.Step)
    (path : String) : m (List String) :=
  match steps with
  | [] => pure []
  | step :: rest => if step.accepts (Path.fileName path) then proceed enter rest path else pure []

/-- The path of an entry, which has no directory in front if that is the current one. -/
def entryPath (directory name : String) : String :=
  if directory == "." then name
  else if name.isEmpty then (if directory.endsWith "/" then directory else directory ++ "/")
  else Path.join directory name

mutual

/-- The files for a pattern at an entry of a directory. A step for any number of directories stands
for this entry and all below it, and for none. -/
def visit (host : Host m) : (bound : Nat) → List Glob.Step → (path : String) → m (List String)
  | 0, _, _ => pure []
  | bound + 1, .directories :: steps, path => do
    let steps := steps.dropWhile (· == .directories)
    if ← host.isDirectory path then
      let own ← if steps.isEmpty then pure [path] else select (enter host bound) steps path
      return own ++ (← enter host bound (.directories :: steps) path)
    else select (enter host bound) steps path
  | bound + 1, steps, path => select (enter host bound) steps path

/-- The files for a pattern in a directory. Names in a pattern need not be looked for; entries that
begin with a point count like all others. -/
def enter (host : Host m) : (bound : Nat) → List Glob.Step → (path : String) → m (List String)
  | 0, _, _ => pure []
  | _, [], path => pure [path]
  | bound + 1, .name text :: rest, path => do
    let next := entryPath path text
    let isThere ←
      if text == "." || text == ".." then host.isDirectory path else host.hasEntry next
    if isThere then proceed (enter host bound) rest next else pure []
  | bound + 1, step :: rest, path => do
    if ← host.isDirectory path then
      let special ← ["..", "."].mapM fun name =>
        if step.beginsWithPoint && step.accepts name then
          proceed (enter host bound) rest (Path.join path name)
        else pure []
      let names := match ← host.names path with
        | .ok names => names.mergeSort fun a b => a ≤ b
        | .error _ => []
      let found ← names.mapM fun name => visit host bound (step :: rest) (entryPath path name)
      return special.flatten ++ found.flatten
    else pure []

end

def matching (host : Host m) (pattern : Glob.PathPattern) : m (List String) := do
  if pattern.onlyDirectories then return []
  let found ← enter host maxSteps pattern.steps pattern.start
  found.filterM host.isFile

def distinct (paths : List String) : List String :=
  (paths.foldl (fun (seen : List String) path =>
    if seen.any fun other => Path.identity other == Path.identity path then seen
    else path :: seen) []).reverse

/-- The paths for one input. A pattern that stands for no file is reported. -/
def ofInput (session : Session m) (input : String) : m (Except Failure (List String)) := do
  if Glob.hasWildcard input then
    match Glob.PathPattern.parse input with
    | .error (fault, place) =>
      return .error ⟨s!"Invalid glob pattern: {input}", some (fault.message place)⟩
    | .ok pattern =>
      let found ← matching session.host pattern
      if found.isEmpty then
        session.tell (report .warn .classify s!"No files match {input}")
      return .ok found
  else return .ok [input]

/-- The paths for some inputs in order, up to the first that is no pattern. -/
def gather (session : Session m) : List String → m (Except Failure (List String))
  | [] => return .ok []
  | input :: rest => do
    match ← ofInput session input with
    | .error failure => return .error failure
    | .ok found => return (← gather session rest).map (found ++ ·)

def paths (session : Session m) (inputs : List String) : m (Except Failure (List String)) := do
  return (← gather session inputs).map distinct

/-- Encoded in one step of the path of an address. -/
def stepSet : Url.CharSet := fun c =>
  Url.CharSet.path c || c == '/' || c == '%' || c == '\\'

/-- The address of a file, by its path from the working directory. -/
def address (workingDirectory path : String) : String :=
  let start := if path.startsWith "/" then [] else Path.properSteps workingDirectory
  let steps := start ++ Path.properSteps path
  let encoded := steps.map fun step =>
    "/" ++ String.ofList (Url.Percent.encode stepSet step.toList)
  "file://" ++ (if encoded.isEmpty then "/" else String.join encoded)

end Recrawl.Cli.Inputs
