import Recrawl.Item.Json
import Recrawl.Path
import Recrawl.Segment.Directory
import Recrawl.Segment.Rotation
import Recrawl.Time.Format

/-!
Status records are written to numbered segments, one record on a line. A segment is
opened with its first record under a draft name, and gets its own name once it is
closed, so that no segment is empty and none is seen before it is complete.
-/
namespace Recrawl

structure Segment where
  index : Nat
  /-- The lines so far, the last one first. -/
  lines : List String := []
  /-- The bytes so far. -/
  size : Nat := 0
  deriving DecidableEq, Repr

namespace Segment

def fileName (stem : String) (index : Nat) : String :=
  stem ++ "-" ++ Time.padded 5 index ++ ".jsonl"

/-- The file name of a segment that is not complete. -/
def draftName (stem : String) (index : Nat) : String :=
  fileName stem index ++ ".tmp"

def add (segment : Segment) (line : String) : Segment :=
  { segment with lines := line :: segment.lines, size := segment.size + line.utf8ByteSize }

def text (segment : Segment) : String :=
  String.join segment.lines.reverse

end Segment

/-- The writer of segments, with the directory that it writes to. -/
structure Sink where
  /-- The path of the directory in messages. -/
  path : String
  /-- What the names of the segments begin with. -/
  stem : String
  policy : RotationPolicy
  directory : Directory String := {}
  meter : SegmentMeter := {}
  current : Option Segment := none
  /-- The number of segments that were opened. -/
  opened : Nat := 0
  /-- The names of the complete segments, the last one first. -/
  finished : List String := []
  /-- The number of records that were written. -/
  total : Nat := 0

namespace Sink

/-- The files in the directory, in order. The stem may lead out of it. -/
def files (s : Sink) : List (String × String) :=
  s.directory.sorted.filter fun file => !file.1.contains '/'

/-- The open segment. If there is none, a new one is opened, in place of a draft that was left
behind. -/
def openSegment (s : Sink) (now : Nat) : Except FileFault (Sink × Segment) :=
  match s.current with
  | some segment => .ok (s, segment)
  | none =>
    match s.directory.place (Segment.draftName s.stem s.opened) with
    | .error fault => .error fault
    | .ok draft => .ok ({ s with
        directory := s.directory.write draft "",
        meter := .start now,
        opened := s.opened + 1 }, ⟨s.opened, [], 0⟩)

/-- Closes the open segment, if there is one. -/
def rotate (s : Sink) (now : Nat) : Logged Sink := do
  match s.current with
  | none => pure { s with meter := .start now }
  | some segment =>
    let path := Path.join s.path (Segment.fileName s.stem segment.index)
    report .debug .sink
      s!"Finalized {path} ({segment.lines.length} records, {segment.size} bytes)"
    let directory :=
      match s.directory.place (Segment.draftName s.stem segment.index),
          s.directory.place (Segment.fileName s.stem segment.index) with
      | .ok draft, .ok name => (s.directory.remove draft).write name segment.text
      | _, _ => s.directory
    pure { s with
      directory
      meter := .start now,
      current := none,
      finished := Path.fileName path :: s.finished }

def write (s : Sink) (record : Record) (now : Nat) : Logged (Except FileFault Sink) :=
  match s.openSegment now with
  | .error fault => pure (.error fault)
  | .ok (s, segment) => do
    let segment := segment.add record.line
    let (meter, full) ← s.meter.mark s.policy segment.size now
    let s := { s with meter, current := some segment, total := s.total + 1 }
    if full then .ok <$> s.rotate now else pure (.ok s)

/-- Writes records in order, up to the first that fails. -/
def writeAll (s : Sink) (now : Nat) : List Record → Logged (Except FileFault Sink)
  | [] => pure (.ok s)
  | record :: rest => do
    match ← s.write record now with
    | .error fault => pure (.error fault)
    | .ok s => s.writeAll now rest

def finish (s : Sink) (now : Nat) : Logged Sink := do
  let s ← s.rotate now
  report .info .sink
    s!"Wrote {s.total} status records to {s.finished.length} segment(s) in {s.path}"
  pure s

end Sink

/-- The file is a draft that was left behind. -/
def isDraft (name : String) : Bool :=
  Path.extension? name == some "tmp"

def reportDraft (path name : String) : Logged Unit :=
  report .warn .sink ("Removing stale tmp file: " ++ Path.join path name)

/-- Removes the drafts that were left behind in a directory. -/
def removeDrafts (path : String) (d : Directory String) : Logged (Directory String) := do
  let stale := d.names.filter isDraft
  stale.forM (reportDraft path)
  pure (stale.foldl (fun d name => d.remove name) d)

end Recrawl
