/-!
Paths and names of files, and the ways in which file operations fail.
-/
namespace Recrawl

inductive FileFault
  | notFound
  | denied
  | exists
  | notDirectory
  | isDirectory
  /-- The name is too long. -/
  | nameTooLong
  /-- The name has a zero character. -/
  | zeroInName
  | other (text : String)
  deriving DecidableEq, Repr

namespace FileFault

def name : FileFault → String
  | notFound => "NotFound"
  | denied => "PermissionDenied"
  | .exists => "AlreadyExists"
  | notDirectory => "NotADirectory"
  | isDirectory => "IsADirectory"
  | nameTooLong => "InvalidFilename"
  | zeroInName => "InvalidInput"
  | other _ => "Other"

def message : FileFault → String
  | notFound => "No such file or directory (os error 2)"
  | denied => "Permission denied (os error 13)"
  | .exists => "File exists (os error 17)"
  | notDirectory => "Not a directory (os error 20)"
  | isDirectory => "Is a directory (os error 21)"
  | nameTooLong => "File name too long (os error 36)"
  | zeroInName => "file name contained an unexpected NUL byte"
  | other text => text

end FileFault

namespace Path

def maxNameBytes : Nat := 255

def maxPathBytes : Nat := 4095

/-- The path of a file in a directory; a path from the root stands for itself. -/
def join (directory name : String) : String :=
  if name.startsWith "/" || directory.isEmpty then name
  else if directory.endsWith "/" then directory ++ name
  else directory ++ "/" ++ name

/-- The steps of a path without empty ones. -/
def steps (path : String) : List String :=
  ((path.toList.splitOnP (· == '/')).map String.ofList).filter fun step => !step.isEmpty

/-- The steps of a path without those that stay in place. -/
def properSteps (path : String) : List String :=
  (steps path).filter fun step => step != "."

/-- What two paths have in common if they are written for the same file: the steps that lead
somewhere, and whether they begin at the root or in place. -/
def identity (path : String) : Bool × Bool × List String :=
  let fromRoot := path.startsWith "/"
  (fromRoot, !fromRoot && (steps path).head? == some ".", properSteps path)

/-- The path without its last proper step. A step in place counts only at the beginning. -/
def parent (path : String) : String :=
  let fromRoot := path.startsWith "/"
  let inPlace := !fromRoot && (steps path).head? == some "."
  let rest := (if inPlace then ["."] else []) ++ properSteps path
  (if fromRoot then "/" else "") ++ "/".intercalate rest.dropLast

/-- Where steps lead from a directory that has only files in it. `outside` leads to that directory,
`holds` tells what files there are, and `isClosed` says that a slash follows the last step. -/
def leadAmong (holds : String → Bool) (isClosed : Bool) (outside : String) :
    List String → Except FileFault String
  | [] => .error .isDirectory
  | step :: rest =>
    if maxNameBytes < step.utf8ByteSize then .error .nameTooLong
    else if step == "." then leadAmong holds isClosed outside rest
    else if step == ".." then leadAmong holds isClosed ("../" ++ outside) rest
    else if !rest.isEmpty then .error (if holds (outside ++ step) then .notDirectory else .notFound)
    else if isClosed then .error .isDirectory
    else .ok (outside ++ step)

/-- Where a path leads from a directory that has only files in it: the name of one of them, with
`../` in front for each directory that the path leads out of. `holds` tells what files there are. -/
def placeAmong (holds : String → Bool) (path : String) : Except FileFault String :=
  if path.toList.contains '\x00' then .error .zeroInName
  else
    leadAmong holds (path.endsWith "/") (if path.startsWith "/" then "/" else "") (steps path)

def fileName (path : String) : String :=
  (steps path).getLastD ""

/-- The extension of a file name: what follows the last point, unless nothing precedes it. -/
def extension? (name : String) : Option String :=
  let reversed := name.toList.reverse
  match reversed.dropWhile (· != '.') with
  | '.' :: _ :: _ => some (String.ofList (reversed.takeWhile (· != '.')).reverse)
  | _ => none

end Path

end Recrawl
