import Recrawl.Cli.Host

/-!
A host in memory: a tree of files below a working directory, and the texts that
were written to the two streams. Its clock stands still.
-/
namespace Recrawl.Cli

/-- The state of a host in memory. Paths are lists of steps from the root. -/
structure Memory where
  files : List (List String × Bytes) := []
  directories : List (List String) := []
  workingDirectory : List String := ["work"]
  now : Time.Instant
  /-- The texts that were printed, the last one first. -/
  output : List String := []
  /-- The texts of diagnostics, the last one first. -/
  diagnostics : List String := []

namespace Memory

def kindAt? (memory : Memory) (place : List String) : Option FileKind :=
  if (memory.files.lookup place).isSome then some .file
  else if place.isPrefixOf memory.workingDirectory || memory.directories.contains place ||
      memory.files.any fun file => place.isPrefixOf file.1 then
    some .directory
  else none

/-- The place of an entry of a directory, which need not be there. -/
def entryPlace (memory : Memory) (place : List String) (step : String) :
    Except FileFault (List String) :=
  if memory.kindAt? place != some .directory then .error .notDirectory
  else if step == "." then .ok place
  else if step == ".." then .ok place.dropLast
  else if Path.maxNameBytes < step.utf8ByteSize then .error .nameTooLong
  else .ok (place ++ [step])

def follow (memory : Memory) (place : List String) (step : String) :
    Except FileFault (List String) := do
  let place ← memory.entryPlace place step
  if (memory.kindAt? place).isNone then throw .notFound
  return place

def start (memory : Memory) (path : String) : List String :=
  if path.startsWith "/" then [] else memory.workingDirectory

def malformed? (path : String) : Option FileFault :=
  if path.isEmpty then some .notFound
  else if path.contains '\x00' then some .zeroInName
  else if Path.maxPathBytes < path.utf8ByteSize then some .nameTooLong
  else none

/-- The place that a path leads to, step by step. A file has no path that ends in a slash. -/
def locate (memory : Memory) (path : String) : Except FileFault (List String) :=
  match malformed? path with
  | some fault => .error fault
  | none => do
    let place ← (Path.steps path).foldlM memory.follow (memory.start path)
    if path.endsWith "/" && memory.kindAt? place == some .file then throw .notDirectory
    return place

/-- The place for a path whose last step need not lead anywhere. -/
def locateNew (memory : Memory) (path : String) : Except FileFault (List String) :=
  match malformed? path with
  | some fault => .error fault
  | none => do
    let steps := Path.steps path
    let place ← steps.dropLast.foldlM memory.follow (memory.start path)
    match steps.getLast? with
    | some name => memory.entryPlace place name
    | none => return place

def kind? (memory : Memory) (path : String) : Option FileKind :=
  (memory.locate path).toOption.bind memory.kindAt?

def read (memory : Memory) (path : String) : Except FileFault Bytes := do
  match memory.files.lookup (← memory.locate path) with
  | some content => return content
  | none => throw .isDirectory

def names (memory : Memory) (path : String) : Except FileFault (List String) := do
  let place ← memory.locate path
  if memory.kindAt? place != some .directory then throw .notDirectory
  let places := memory.files.map (·.1) ++ memory.directories
  let below := places.filterMap fun p =>
    if place.isPrefixOf p then (p.drop place.length).head? else none
  return below.eraseDups.mergeSort fun a b => a ≤ b

def makeOneDirectory (memory : Memory) (path : String) : Except FileFault Memory := do
  let place ← memory.locateNew path
  if (memory.kindAt? place).isSome then throw .exists
  return { memory with directories := memory.directories ++ [place] }

/-- Makes a directory with all those above it, which are tried only if the directory itself cannot
be made for want of one. The first argument bounds their number. -/
def makeDirectories (memory : Memory) : (bound : Nat) → (path : String) → Except FileFault Memory
  | 0, _ => .error .notFound
  | bound + 1, path =>
    if path.isEmpty then .ok memory
    else
      let attempt (memory : Memory) : Except FileFault Memory :=
        match memory.makeOneDirectory path with
        | .error fault =>
          if memory.kind? path == some .directory then .ok memory else .error fault
        | made => made
      match attempt memory with
      | .error .notFound => (makeDirectories memory bound (Path.parent path)).bind attempt
      | made => made

def makeDirectory (memory : Memory) (path : String) : Except FileFault Memory :=
  memory.makeDirectories (path.length + 1) path

/-- The state with a file, in place of one that was there before. -/
def put (memory : Memory) (place : List String) (content : Bytes) : Memory :=
  { memory with files := memory.files.filter (fun file => file.1 != place) ++ [(place, content)] }

/-- The state with a file at a path, and the directories above it. -/
def withFile (memory : Memory) (path : String) (content : Bytes) : Memory :=
  memory.put (memory.start path ++ Path.properSteps path) content

/-- The files below a directory, by their paths from there, in order. -/
def filesBelow (memory : Memory) (path : String) : List (String × Bytes) :=
  match memory.locate path with
  | .ok place =>
    let below := memory.files.filterMap fun (file, content) =>
      if place.isPrefixOf file then some ("/".intercalate (file.drop place.length), content)
      else none
    below.mergeSort fun a b => a.1 ≤ b.1
  | .error _ => []

def write (memory : Memory) (path text : String) : Except FileFault Memory := do
  let place ← memory.locateNew path
  if path.endsWith "/" || memory.kindAt? place == some .directory then throw .isDirectory
  return memory.put place (Bytes.ofString text)

def remove (memory : Memory) (path : String) : Except FileFault Memory := do
  let place ← memory.locate path
  if memory.kindAt? place == some .directory then throw .isDirectory
  return { memory with files := memory.files.filter fun file => file.1 != place }

def rename (memory : Memory) (source target : String) : Except FileFault Memory := do
  let content ← memory.read source
  let place ← memory.locateNew target
  return (← memory.remove source).put place content

/-- Changes the state by an operation that may fail. -/
def change (operation : Memory → Except FileFault Memory) : StateM Memory (Except FileFault Unit) :=
  fun memory =>
    match operation memory with
    | .ok memory => (.ok (), memory)
    | .error fault => (.error fault, memory)

def host : Host (StateM Memory) where
  read path := return (← get).read path
  kind? path := return (← get).kind? path
  names path := return (← get).names path
  makeDirectory path := change fun memory => memory.makeDirectory path
  write path text := change fun memory => memory.write path text
  rename source target := change fun memory => memory.rename source target
  remove path := change fun memory => memory.remove path
  workingDirectory := return "/" ++ "/".intercalate (← get).workingDirectory
  userSettings? := return none
  now := return (← get).now
  clock := return 0
  print text := modify fun memory => { memory with output := text :: memory.output }
  complain text := modify fun memory => { memory with diagnostics := text :: memory.diagnostics }

end Memory

end Recrawl.Cli
