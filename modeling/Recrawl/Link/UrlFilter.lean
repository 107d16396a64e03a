import Recrawl.Url.Parser

/-!
URL filters change the target of a link, or reject it. A chain applies its
filters in order, each to the result of the one before.
-/
namespace Recrawl

inductive UrlFilter
  /-- Writes the host in ASCII and keeps everything else as written. A target that is no absolute
  URL is rejected. -/
  | punycode
  /-- Cuts the target at its first number sign. -/
  | stripFragment
  deriving DecidableEq, Repr

namespace UrlFilter

def all : List UrlFilter := [punycode, stripFragment]

def name : UrlFilter → String
  | punycode => "punycode"
  | stripFragment => "strip_fragment"

def ofName? (text : String) : Option UrlFilter :=
  all.find? fun filter => filter.name == text

/-- The filters with these names, or the first name that is unknown. -/
def ofNames : List String → Except String (List UrlFilter)
  | [] => .ok []
  | name :: rest =>
    match ofName? name with
    | none => .error name
    | some filter => (ofNames rest).map (filter :: ·)

def unknownMessage (name : String) : String := "unknown URL filter: " ++ name

/-- A target as written, divided at the ends of its host. -/
structure WrittenHost where
  before : List Char
  host : List Char
  after : List Char

/-- The part up to and including the first `://`, and the part behind it. -/
def splitAuthority? : List Char → Option (List Char × List Char)
  | [] => none
  | ':' :: '/' :: '/' :: rest => some ([':', '/', '/'], rest)
  | c :: rest => (splitAuthority? rest).map fun (before, behind) => (c :: before, behind)

def endsAuthority (c : Char) : Bool := c == '/' || c == '?' || c == '#'

/-- The length of the host in front of a port: digits, or nothing, behind the last colon. -/
def hostLength (host : List Char) : Nat :=
  let port := host.reverse.takeWhile (· != ':')
  if port.length < host.length && host.getLast? != some ']' && port.all (·.isDigit) then
    host.length - port.length - 1
  else host.length

/-- Finds the host in a target as it is written, between user info and port. -/
def writtenHost? (target : List Char) : Option WrittenHost :=
  match splitAuthority? target with
  | none => none
  | some (start, rest) =>
    let authority := rest.takeWhile fun c => !endsAuthority c
    let hostPort := (authority.reverse.takeWhile (· != '@')).reverse
    let info := authority.take (authority.length - hostPort.length)
    let size := hostLength hostPort
    some ⟨start ++ info, hostPort.take size, hostPort.drop size ++ rest.drop authority.length⟩

def applyPunycode (target : List Char) : Option (List Char) :=
  match Url.ofChars target with
  | .error _ => none
  | .ok url =>
    match writtenHost? target with
    | none => some target
    | some written =>
      if written.host.all fun c => c.toNat < 0x80 then some target
      else url.host?.map fun host => written.before ++ host.render ++ written.after

/-- The result of a filter, or none if it rejects the target. -/
def applyChars : UrlFilter → List Char → Option (List Char)
  | punycode, target => applyPunycode target
  | stripFragment, target => some (target.takeWhile (· != '#'))

/-- The result of a chain of filters, or none if one of them rejects the target. -/
def applyAllChars (filters : List UrlFilter) (target : List Char) : Option (List Char) :=
  filters.foldlM (fun target filter => filter.applyChars target) target

/-- The result of a chain of filters, or none if one of them rejects the target. -/
def applyAll (filters : List UrlFilter) (target : String) : Option String :=
  (applyAllChars filters target.toList).map String.ofList

end UrlFilter

end Recrawl
