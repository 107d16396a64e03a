import Recrawl.Digest.Blake3
import Recrawl.Item.Basic
import Recrawl.Settings.Basic

/-!
Parse filters run on a document after it has been recognised and read, and before
its status is told. They may change its metadata and the links found in it. A
chain stops at the first filter that fails.
-/
namespace Recrawl

/-- The metadata of a document and the links found in it, while filters run. -/
structure Parsed where
  metadata : Metadata
  links : List Link := []
  deriving DecidableEq

structure FilterFailure where
  filter : String
  message : String
  deriving DecidableEq, Repr

def FilterFailure.toText (failure : FilterFailure) : String :=
  "filter " ++ failure.filter ++ " failed: " ++ failure.message

/-- A filter: what it makes of a document with the given address and content, also if it fails. -/
structure ParseFilter where
  name : String
  run : (url : String) → (content : Bytes) → Parsed → Parsed × Option String

namespace ParseFilter

/-- What a document is recognised by: its content, or its address if it has none. -/
def signedInput (url : String) (content : Bytes) : Bytes :=
  if content.isEmpty then Bytes.ofString url else content

/-- Copies the signature of the visit before, if there is one. -/
def signatureCopy (key copyKey : String) : ParseFilter where
  name := "signature_copy"
  run _ _ parsed :=
    match parsed.metadata.first? key with
    | some signature => ({ parsed with metadata := parsed.metadata.set copyKey signature }, none)
    | none => (parsed, none)

def contentSignature (key : String) : ParseFilter where
  name := "content_signature"
  run url content parsed :=
    ({ parsed with
      metadata := parsed.metadata.set key (Digest.Blake3.digest (signedInput url content)) }, none)

def failing (name message : String) : ParseFilter where
  name
  run _ _ parsed := (parsed, some message)

def ofName? (settings : FilterSettings) (name : String) : Option ParseFilter :=
  if name == "signature_copy" then some (signatureCopy settings.signatureKey settings.copyKey)
  else if name == "content_signature" then some (contentSignature settings.signatureKey)
  else none

/-- The filters with these names, or the first name that is unknown. -/
def ofNames (settings : FilterSettings) : List String → Except String (List ParseFilter)
  | [] => .ok []
  | name :: rest =>
    match ofName? settings name with
    | none => .error name
    | some filter => (ofNames settings rest).map (filter :: ·)

/-- The chain for some settings, or the first name that is unknown. -/
def ofSettings (settings : FilterSettings) : Except String (List ParseFilter) :=
  ofNames settings settings.names

def unknownMessage (name : String) : String := "unknown parse filter: " ++ name

/-- Runs a chain of filters. What a failing filter changed stays. -/
def runAll (url : String) (content : Bytes) :
    List ParseFilter → Parsed → Parsed × Option FilterFailure
  | [], parsed => (parsed, none)
  | filter :: rest, parsed =>
    match filter.run url content parsed with
    | (parsed, some message) => (parsed, some ⟨filter.name, message⟩)
    | (parsed, none) => runAll url content rest parsed

end ParseFilter

end Recrawl
