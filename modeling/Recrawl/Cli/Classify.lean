import Recrawl.Cli.Arguments
import Recrawl.Cli.Inputs
import Recrawl.Pipeline
import Recrawl.Segment.Sink
import Recrawl.Text.Table

/-!
Classifying the documents that are named on a command line: each is read, handled
by the pipeline and counted by its kind, and the records of all go to one sink.
-/
namespace Recrawl.Cli.Classify

variable {m : Type → Type} [Monad m]

structure Classified where
  path : String
  kind : DocumentKind
  records : List Record

def metadata (request : ClassifyRequest) : Metadata :=
  let m := Metadata.ofPairs request.pairs
  match request.contentType with
  | some type => m.set Key.contentType type
  | none => m

def document (session : Session m) (pipeline : Pipeline) (request : ClassifyRequest)
    (path : String) : m (Except Failure Classified) := do
  match ← session.host.read path with
  | .error fault => return .error ⟨s!"Failed to read {path}", some fault.message⟩
  | .ok content =>
    let url := request.url.getD (Inputs.address (← session.host.workingDirectory) path)
    let outcome ← session.tell
      (pipeline.process ⟨url, content, metadata request⟩ (← session.host.now))
    return .ok ⟨path, .ofOutcome outcome, outcome.records⟩

/-- Handles documents in order. The result has those that could be read, and the number of the
others. -/
def documents (session : Session m) (pipeline : Pipeline) (request : ClassifyRequest) :
    List String → m (List Classified × Nat)
  | [] => return ([], 0)
  | path :: rest => do
    match ← document session pipeline request path with
    | .ok classified =>
      session.tell (report .debug .classify s!"{path}: {classified.kind.name}")
      let (others, failed) ← documents session pipeline request rest
      return (classified :: others, failed)
    | .error failure =>
      session.tell (report .error .classify failure.line)
      let (others, failed) ← documents session pipeline request rest
      return (others, failed + 1)

/-- Removes the drafts that were left behind in a directory. -/
def removeDrafts (session : Session m) (path : String) : List String → m (Except Failure Unit)
  | [] => return .ok ()
  | name :: rest => do
    session.tell (reportDraft path name)
    match ← session.host.remove (Path.join path name) with
    | .error fault => return .error ⟨fault.message, none⟩
    | .ok () => removeDrafts session path rest

/-- Writes the complete segments of a sink, each under its draft name first. -/
def writeSegments (session : Session m) (sink : Sink) : List String → m (Except Failure Unit)
  | [] => return .ok ()
  | name :: rest => do
    let path := Path.join sink.path name
    let draft := path ++ ".tmp"
    match ← session.host.write draft ((sink.directory.read? name).getD "") with
    | .error fault => return .error ⟨s!"Failed to write {draft}", some fault.message⟩
    | .ok () =>
      match ← session.host.rename draft path with
      | .error fault => return .error ⟨s!"Failed to write {path}", some fault.message⟩
      | .ok () => writeSegments session sink rest

def fill (session : Session m) : Sink → List Classified → m (Except Failure Sink)
  | sink, [] => return .ok sink
  | sink, c :: rest => do
    match ← session.tell (sink.writeAll (← session.host.clock) c.records) with
    | .error fault =>
      return .error ⟨s!"Failed to write records of {c.path}", some fault.message⟩
    | .ok sink => fill session sink rest

def writeRecords (session : Session m) (path : String) (rotation : RotationSettings)
    (classified : List Classified) : m (Except Failure Unit) := do
  let host := session.host
  match ← host.makeDirectory path with
  | .error fault => return .error ⟨s!"Failed to create {path}", some fault.message⟩
  | .ok () =>
    match ← host.names path with
    | .error fault => return .error ⟨fault.message, none⟩
    | .ok names =>
      match ← removeDrafts session path (names.filter isDraft) with
      | .error failure => return .error failure
      | .ok () =>
        let policy ← session.tell (RotationPolicy.ofSettings rotation)
        match ← fill session { path, stem := "status", policy } classified with
        | .error failure => return .error failure
        | .ok sink =>
          let sink ← session.tell (sink.finish (← host.clock))
          let finished := sink.finished.reverse
          match ← writeSegments session sink finished with
          | .error failure => return .error failure
          | .ok () =>
            session.tell (finished.forM fun name =>
              report .debug .classify ("Segment " ++ Path.join path name))
            return .ok ()

/-- The row for a kind of document, if there are any of it: how many, and the links in them. -/
def kindRow? (classified : List Classified) (kind : DocumentKind) : Option (List String) :=
  let found := classified.filter fun c => c.kind == kind
  if found.isEmpty then none
  else
    let links := (found.map fun c => c.records.length - 1).foldl (· + ·) 0
    some [kind.name, toString found.length, toString links]

def summary (classified : List Classified) (failed : Nat) : String :=
  let unreadable := if 0 < failed then [["unreadable", toString failed, "-"]] else []
  Text.Table.render ["Kind", "Documents", "Discovered links"]
    (DocumentKind.all.filterMap (kindRow? classified) ++ unreadable)

/-- A span of time in seconds with one digit behind the point. -/
def secondsText (nanos : Nat) : String :=
  let tenths := Number.roundHalfEven nanos (Time.nanosPerSecond / 10)
  s!"{tenths / 10}.{tenths % 10}s"

def refusal? (request : ClassifyRequest) (paths : List String) : Option Failure :=
  if paths.isEmpty then some ⟨"No input files", none⟩
  else if request.url.isSome && 1 < paths.length then
    some ⟨s!"--url applies to a single input, got {paths.length}", none⟩
  else none

def classify (session : Session m) (settings : Settings) (pipeline : Pipeline)
    (request : ClassifyRequest) (paths : List String) (start : Nat) :
    m (Except Failure Unit) := do
  let workers := max (request.workers.getD settings.workers.count) 1
  session.tell (report .info .classify
    s!"Classifying {paths.length} documents with {workers} workers")
  let (classified, failed) ← documents session pipeline request paths
  let written ← match request.outputDirectory with
    | some directory => writeRecords session directory settings.rotation classified
    | none => pure (.ok ())
  match written with
  | .error failure => return .error failure
  | .ok () =>
    session.host.complain ("\n" ++ summary classified failed ++ "\n")
    let elapsed := (← session.host.clock) - start
    session.tell (report .info .classify s!"Time: {secondsText elapsed}")
    return .ok ()

def run (session : Session m) (settings : Settings) (request : ClassifyRequest) :
    m (Except Failure Unit) := do
  let start ← session.host.clock
  match ← Inputs.paths session request.inputs with
  | .error failure => return .error failure
  | .ok paths =>
    match refusal? request paths,
        Pipeline.ofSettings settings.sitemap settings.feed settings.links settings.filters with
    | some failure, _ => return .error failure
    | none, .error fault =>
      return .error ⟨"Invalid pipeline configuration", some fault.message⟩
    | none, .ok pipeline => classify session settings pipeline request paths start

end Recrawl.Cli.Classify
