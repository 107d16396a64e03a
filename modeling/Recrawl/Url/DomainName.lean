import Recrawl.Text.Utf8
import Recrawl.Unicode.Direction
import Recrawl.Unicode.Joining
import Recrawl.Unicode.Mapping
import Recrawl.Unicode.Mark
import Recrawl.Unicode.Normal
import Recrawl.Url.Punycode

/-!
Internationalised domain names. A name is brought to its comparison form
(characters mapped, then composed) and split into labels at the dots; each label
has to be valid; and a label with characters beyond ASCII is written in ASCII as
`xn--` and its Punycode.
-/
namespace Recrawl.Url.DomainName

open Unicode

/-- One label of a name, as characters. -/
abbrev Label := List Char

/-- Longest label that is encoded, in characters. -/
def encodeLimit : Nat := 1000

/-- Longest encoded label that is decoded, in characters. -/
def decodeLimit : Nat := 2000

/-- ASCII characters that no domain name holds: controls, the space, and those with a meaning in
URLs. -/
def isDenied (c : Char) : Bool :=
  c.toNat ≤ 0x20 || c.toNat == 0x7F ||
    ['%', '#', '/', ':', '<', '>', '?', '@', '[', '\\', ']', '^', '|'].contains c

/-- The marker in front of an encoded label. -/
def marker : List Char := ['x', 'n', '-', '-']

def nonJoiner : Char := Char.ofNat 0x200C

def joiner : Char := Char.ofNat 0x200D

/-- The combining class of signs that suppress a vowel. -/
def viramaClass : Nat := 9

/-- The first character that joins are not passed through is of the given kind. -/
def joinsWith (kind : Joining → Bool) (chars : List Char) : Bool :=
  match chars.find? fun c => joining c != .transparent with
  | some c => kind (joining c)
  | none => false

/-- Joiners stand only behind a sign that suppresses the vowel; a non-joiner also between two
letters that would join. `before` holds the characters in front, last first. -/
def joinersFit (before : List Char) : List Char → Bool
  | [] => true
  | c :: rest =>
    let afterVirama := match before with
      | [] => false
      | last :: _ => combiningClass last == viramaClass
    let fits :=
      if c == joiner then afterVirama
      else if c == nonJoiner then
        afterVirama ||
          (joinsWith (fun k => k == .left || k == .both) before &&
            joinsWith (fun k => k == .right || k == .both) rest)
      else true
    fits && joinersFit (c :: before) rest

/-- The label in its decoded form may stand in a name. -/
def isValidLabel (label : Label) : Bool :=
  match label with
  | [] => true
  | first :: _ => !isMark first && joinersFit [] label

/-- The character makes its name one that runs in both directions. -/
def runsLeft (c : Char) : Bool :=
  let d := direction c
  d == .rightToLeft || d == .arabicLetter || d == .arabicNumber

def isDirectionNeutral (d : Direction) : Bool :=
  d == .europeanSeparator || d == .commonSeparator || d == .europeanTerminator || d == .neutral ||
    d == .boundaryNeutral || d == .nonSpacingMark

/-- The label keeps to one direction: its first character sets it, the rest agree, and it ends with
a letter or digit, apart from marks. -/
def keepsDirection (label : Label) : Bool :=
  let classes := label.map direction
  let ending := (classes.reverse.dropWhile (· == .nonSpacingMark)).headD .leftToRight
  match classes with
  | [] => true
  | .leftToRight :: _ =>
    classes.all (fun d => d == .leftToRight || d == .europeanNumber || isDirectionNeutral d) &&
      (ending == .leftToRight || ending == .europeanNumber)
  | first :: _ =>
    (first == .rightToLeft || first == .arabicLetter) &&
      classes.all (fun d => d == .rightToLeft || d == .arabicLetter || d == .arabicNumber ||
        d == .europeanNumber || isDirectionNeutral d) &&
      (ending == .rightToLeft || ending == .arabicLetter || ending == .europeanNumber ||
        ending == .arabicNumber) &&
      !(classes.contains .europeanNumber && classes.contains .arabicNumber)

/-- The decoded form of a label that begins with the marker: it has characters beyond ASCII, and is
in comparison form. -/
def decodeLabel? (encoded : List Char) : Option Label :=
  if encoded.isEmpty || encoded.length > decodeLimit || encoded.any (fun c => 0x80 ≤ c.toNat) then
    none
  else
    match Punycode.decode? encoded with
    | none => none
    | some label =>
      if label.all (fun c => c.toNat < 0x80) then none
      else if label.all isMappedToItself && composed label == label then some label
      else none

def decoded? (label : Label) : Option Label :=
  if marker.isPrefixOf label then decodeLabel? (label.drop 4) else some label

def encoded? (label : Label) : Option Label :=
  if label.all fun c => c.toNat < 0x80 then some label
  else if label.length > encodeLimit then none
  else some (marker ++ Punycode.encode label)

def normalize? (name : List Char) : Option (List Char) := do
  let mapped ← name.mapM mapChar?
  let chars := mapped.flatten
  let chars := if chars.all fun c => c.toNat < 0x80 then chars else composed chars
  if chars.any fun c => c.toNat < 0x80 && isDenied c then none else some chars

/-- The ASCII form of a name, or none if the name is not valid. -/
def toAscii? (name : List Char) : Option (List Char) := do
  let labels := (← normalize? name).splitOnP (· == '.')
  let decoded ← labels.mapM decoded?
  if !decoded.all isValidLabel then none
  else if decoded.any (·.any runsLeft) && !decoded.all keepsDirection then none
  else
    let encoded ← decoded.mapM encoded?
    some (List.intercalate ['.'] encoded)

/-- The ASCII form of a name given as UTF-8. -/
def ofBytes? (bytes : Bytes) : Option (List Char) :=
  match Text.Utf8.strict bytes with
  | .ok name => toAscii? name
  | .error _ => none

end Recrawl.Url.DomainName
