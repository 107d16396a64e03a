import Recrawl.Url.Basic
import Recrawl.Url.Percent

/-!
Reading the path of a URL: its segments are encoded, and those that name the same
place or the one above are taken out.
-/
namespace Recrawl.Url.Path

abbrev Segment := List Char

/-- A dot, possibly encoded, in front of the rest of a segment. -/
def dropDot? : Segment → Option Segment
  | '.' :: rest => some rest
  | '%' :: '2' :: c :: rest => if c == 'e' || c == 'E' then some rest else none
  | _ => none

/-- The segment names the place itself. -/
def isDot (segment : Segment) : Bool :=
  dropDot? segment == some []

/-- The segment names the place above. -/
def isDoubleDot (segment : Segment) : Bool :=
  (dropDot? segment).bind dropDot? == some []

/-- The segment is a letter with a colon or a bar: a drive. -/
def isDrive : Segment → Bool
  | [letter, mark] => letter.isAlpha && (mark == ':' || mark == '|')
  | _ => false

/-- The segments without the last, which is the first of the list; a drive is kept. -/
def leave : List Segment → List Segment
  | [] => []
  | last :: earlier => if isDrive last then last :: earlier else earlier

/-- A path being read: its segments, last first, and whether it names a drive. -/
structure Reading where
  segments : List Segment := []
  namesDrive : Bool := false

/-- Adds a segment to the path of a file. A drive that comes first is written with a colon. -/
def Reading.addFile (reading : Reading) (segment : Segment) : Reading :=
  match reading.segments, segment with
  | [], [letter, _] => if isDrive segment then ⟨[[letter, ':']], true⟩ else ⟨[segment], false⟩
  | earlier, _ => { reading with segments := segment :: earlier }

/-- Adds a segment; `last` if no slash follows it. -/
def Reading.add (kind : SchemeKind) (reading : Reading) (segment : Segment) (last : Bool) :
    Reading :=
  if isDoubleDot segment then
    let segments := leave reading.segments
    { reading with segments := if last then [] :: segments else segments }
  else if isDot segment then
    { reading with segments := if last then [] :: reading.segments else reading.segments }
  else if kind == .file then reading.addFile segment
  else { reading with segments := segment :: reading.segments }

def isSkipped (c : Char) : Bool := c == '\t' || c == '\n' || c == '\r'

def significant (text : List Char) : List Char := text.filter fun c => !isSkipped c

/-- The text from its first character that counts. -/
def skim (text : List Char) : List Char := text.dropWhile isSkipped

/-- The drive at the head of a segment and the text behind it, where characters that do not count
set the two apart. -/
def splitDrive? (segment : List Char) : Option (Segment × List Char) :=
  match skim segment with
  | letter :: rest =>
    match skim rest with
    | ':' :: behind =>
      let text := significant behind
      if letter.isAlpha && (behind.head?.any isSkipped) && !text.isEmpty then
        some ([letter, ':'], text)
      else none
    | _ => none
  | [] => none

/-- Adds a segment in which characters stand that do not count. They are left out; only behind a
drive that comes first in the path of a file they begin a new segment, which is taken as it is. -/
def Reading.addSpaced (kind : SchemeKind) (reading : Reading) (segment : List Char) (last : Bool) :
    Reading :=
  match reading.segments, kind, splitDrive? segment with
  | [], .file, some (drive, text) =>
    { reading with segments := [Percent.encode CharSet.path text, drive] }
  | _, _, _ => reading.add kind (Percent.encode CharSet.path (significant segment)) last

def Reading.addAll (kind : SchemeKind) : Reading → List (List Char) → Reading
  | reading, [] => reading
  | reading, [segment] => reading.addSpaced kind segment true
  | reading, segment :: next :: rest =>
    addAll kind (reading.addSpaced kind segment false) (next :: rest)

def isSeparator (kind : SchemeKind) (c : Char) : Bool :=
  c == '/' || (kind.isSpecial && c == '\\')

/-- The path of the text behind its first slash, and whether it names a drive. -/
def parse (kind : SchemeKind) (text : List Char) : List Char × Bool :=
  let reading := Reading.addAll kind {} (text.splitOnP (isSeparator kind))
  let path := List.intercalate ['/'] reading.segments.reverse
  if kind == .file then ('/' :: path.dropWhile (· == '/'), reading.namesDrive)
  else ('/' :: path, false)

end Recrawl.Url.Path
