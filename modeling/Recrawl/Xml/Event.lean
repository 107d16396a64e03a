import Recrawl.Text.Integer
import Recrawl.Text.Utf8

/-!
The events of an XML document in the order of the text, and the faults that end
it.
-/
namespace Recrawl.Xml

def isBlank (byte : UInt8) : Bool :=
  byte == 0x20 || byte == 0x09 || byte == 0x0A || byte == 0x0D

/-- A start tag: its name as written, and what follows the name. -/
structure Tag where
  name : Bytes
  attributes : Bytes
  deriving DecidableEq, Repr

def Tag.ofContent (content : Bytes) : Tag :=
  ⟨content.takeWhile fun b => !isBlank b, content.dropWhile fun b => !isBlank b⟩

/-- The part of a name in front of its colon, if it has one. -/
def namePart? (name : Bytes) : Option Bytes :=
  if name.contains 0x3A then some (name.takeWhile (· != 0x3A)) else none

/-- The part of a name behind its colon, or the whole name. -/
def localPart (name : Bytes) : Bytes :=
  if name.contains 0x3A then (name.dropWhile (· != 0x3A)).drop 1 else name

inductive Event
  | start (tag : Tag)
  /-- A tag that is its own end. -/
  | selfClosing (tag : Tag)
  | close
  /-- Text between markup, without blanks at its ends. -/
  | text (raw : Bytes)
  /-- A section whose text is taken as written. -/
  | literal (raw : Bytes)
  /-- A comment, a declaration or an instruction. -/
  | skipped
  deriving DecidableEq, Repr

/-- Why a numeric reference stands for no character. -/
inductive ReferenceFault
  | sign
  | number (fault : Text.IntegerFault)
  | forbidden
  | noCharacter (code : Nat)
  deriving DecidableEq, Repr

def ReferenceFault.message : ReferenceFault → String
  | sign => "unexpected number sign"
  | number fault => fault.message
  | forbidden => "0x0 character is not permitted in XML"
  | noCharacter code => s!"`{code}` is not a valid codepoint"

inductive BindingFault
  /-- The name `xml` is bound to another namespace than its own. -/
  | xmlName (uri : Bytes)
  /-- The name `xmlns` is declared. -/
  | xmlnsName (uri : Bytes)
  /-- Another name is bound to the namespace of `xml`. -/
  | xmlUri (name : Bytes)
  /-- A name is bound to the namespace of `xmlns`. -/
  | xmlnsUri (name : Bytes)
  deriving DecidableEq, Repr

/-- One byte of a quoted byte string: as it is if it is visible ASCII, else its number. -/
def quoteByte (byte : UInt8) : String :=
  if byte == 0x22 then "\\\x22"
  else if 0x20 ≤ byte && byte ≤ 0x7E then (Char.ofNat byte.toNat).toString
  else "0x" ++ (String.ofList (Nat.toDigits 16 byte.toNat)).toUpper

def quoteBytes (bytes : Bytes) : String :=
  "\x22" ++ String.join (bytes.map quoteByte) ++ "\x22"

/-- The namespace that the name `xml` always has. -/
def xmlUri : String := "http://www.w3.org/XML/1998/namespace"

/-- The namespace that the name `xmlns` always has. -/
def xmlnsUri : String := "http://www.w3.org/2000/xmlns/"

def BindingFault.message : BindingFault → String
  | xmlName uri => "the namespace prefix 'xml' cannot be bound to '" ++ quoteBytes uri ++ "'"
  | xmlnsName uri => "the namespace prefix 'xmlns' cannot be bound to '" ++ quoteBytes uri ++ "'"
  | xmlUri name =>
    "the namespace prefix '" ++ quoteBytes name ++ "' cannot be bound to '" ++ Xml.xmlUri ++ "'"
  | xmlnsUri name =>
    "the namespace prefix '" ++ quoteBytes name ++ "' cannot be bound to '" ++ Xml.xmlnsUri ++ "'"

/-- What ends a document before its time. -/
inductive Fault
  | unknownMarkup
  | unclosedTag
  | unclosedInstruction
  | unclosedComment
  | unclosedLiteral
  | unclosedDoctype
  /-- An end tag with another name than the innermost open element. -/
  | mismatchedEnd (expected found : String)
  /-- An end tag where no element is open. -/
  | unmatchedEnd (found : String)
  | unnamedDoctype
  | encoding (fault : Text.Utf8.Fault)
  /-- A reference to an unknown entity, with the bytes of the text that name it. -/
  | unknownEntity (first last : Nat) (name : String)
  /-- A reference that is not closed, with the bytes of the text that it takes. -/
  | openReference (first last : Nat)
  | badReference (fault : ReferenceFault)
  | binding (fault : BindingFault)
  deriving DecidableEq, Repr

def Fault.message : Fault → String
  | unknownMarkup => "syntax error: unknown or missed symbol in markup"
  | unclosedTag => "syntax error: tag not closed: `>` not found before end of input"
  | unclosedInstruction =>
    "syntax error: processing instruction or xml declaration not closed: `?>` not found before " ++
      "end of input"
  | unclosedComment => "syntax error: comment not closed: `-->` not found before end of input"
  | unclosedLiteral => "syntax error: CDATA not closed: `]]>` not found before end of input"
  | unclosedDoctype => "syntax error: DOCTYPE not closed: `>` not found before end of input"
  | mismatchedEnd expected found =>
    "ill-formed document: expected `</" ++ expected ++ ">`, but `</" ++ found ++ ">` was found"
  | unmatchedEnd found =>
    "ill-formed document: close tag `</" ++ found ++ ">` does not match any open tag"
  | unnamedDoctype =>
    "ill-formed document: `<!DOCTYPE>` declaration does not contain a name of a document type"
  | encoding fault => "cannot decode input using UTF-8: " ++ fault.message
  | unknownEntity first last name => s!"at {first}..{last}: unrecognized entity `{name}`"
  | openReference first last =>
    s!"Error while escaping character at range {first}..{last}: Cannot find ';' after '&'"
  | badReference fault => "invalid character reference: " ++ fault.message
  | binding fault => fault.message

end Recrawl.Xml
