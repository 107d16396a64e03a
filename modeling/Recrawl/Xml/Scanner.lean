import Recrawl.Xml.Event

/-!
The scanner cuts a document into events. It takes one byte at a time, so that an
event depends on nothing behind its last byte; the first fault stops it.
-/
namespace Recrawl.Xml

/-- What the scanner is inside of. Bytes read so far are kept last first. -/
inductive Mode
  /-- Between markup, with blanks only so far. -/
  | blank
  | text (read : Bytes)
  /-- Behind an opening angle bracket. -/
  | markup
  /-- A start tag, possibly inside quotes. -/
  | startTag (quote : Option UInt8) (read : Bytes)
  /-- An end tag behind its slash, possibly inside quotes. -/
  | endTag (quote : Option UInt8) (read : Bytes)
  | instruction (read : Bytes)
  /-- Behind an exclamation mark. -/
  | declaration
  | comment (read : Bytes)
  | literal (read : Bytes)
  /-- A document type, inside the given number of nested declarations. -/
  | doctype (depth : Nat) (read : Bytes)
  | stopped (fault : Fault)
  deriving DecidableEq, Repr

/-- The scanner: its mode, the names of the open elements, innermost first, and the events so far,
latest first. -/
structure Scanner where
  mode : Mode := .blank
  opened : List Bytes := []
  events : List Event := []
  deriving DecidableEq, Repr

namespace Scanner

def stop (s : Scanner) (fault : Fault) : Scanner :=
  { s with mode := .stopped fault }

def emit (s : Scanner) (event : Event) : Scanner :=
  { s with mode := .blank, events := event :: s.events }

/-- The bytes without the blanks at their end; both are last first. -/
def trimmed (read : Bytes) : Bytes :=
  read.dropWhile isBlank

/-- The text of a name in a diagnostic, empty if it is not UTF-8. -/
def nameText (name : Bytes) : String :=
  ((Text.Utf8.decode name).toOption).getD ""

/-- Completes a start tag. A slash at its end makes it its own end. -/
def finishStart (s : Scanner) (read : Bytes) : Scanner :=
  match read with
  | 0x2F :: content => s.emit (.selfClosing (Tag.ofContent content.reverse))
  | content =>
    let tag := Tag.ofContent content.reverse
    { s.emit (.start tag) with opened := tag.name :: s.opened }

/-- Completes an end tag, which has to close the innermost element. -/
def finishEnd (s : Scanner) (read : Bytes) : Scanner :=
  let name := (if read.all isBlank then read else trimmed read).reverse
  match s.opened with
  | [] => s.stop (.unmatchedEnd (nameText name))
  | innermost :: rest =>
    if name == innermost then { s.emit .close with opened := rest }
    else s.stop (.mismatchedEnd (nameText innermost) (nameText name))

/-- Completes an instruction, which has to hold more than one question mark. -/
def finishInstruction (s : Scanner) (read : Bytes) : Scanner :=
  match read with
  | _ :: _ :: _ => s.emit .skipped
  | _ => s.stop .unclosedInstruction

/-- Completes a comment, which has to start with two hyphens. -/
def finishComment (s : Scanner) (read : Bytes) : Scanner :=
  if [0x21, 0x2D, 0x2D].isPrefixOf read.reverse then s.emit .skipped else s.stop .unclosedComment

/-- The beginning of a literal section behind its angle bracket. -/
def literalStart : Bytes := [0x21, 0x5B, 0x43, 0x44, 0x41, 0x54, 0x41, 0x5B]

def finishLiteral (s : Scanner) (read : Bytes) : Scanner :=
  let content := (read.drop 2).reverse
  if literalStart.isPrefixOf content then s.emit (.literal (content.drop literalStart.length))
  else s.stop .unclosedLiteral

/-- The beginning of a document type behind its angle bracket, in lower case. -/
def doctypeStart : Bytes := [0x21, 0x64, 0x6F, 0x63, 0x74, 0x79, 0x70, 0x65]

/-- Completes a document type, which has to have a name. -/
def finishDoctype (s : Scanner) (read : Bytes) : Scanner :=
  let content := read.reverse
  if doctypeStart.isPrefixOf (content.map Bytes.lowerAscii) then
    if (content.drop doctypeStart.length).all isBlank then s.stop .unnamedDoctype
    else s.emit .skipped
  else s.stop .unclosedDoctype

/-- Whether a tag is inside quotes after one more byte. -/
def quoteAfter (quote : Option UInt8) (byte : UInt8) : Option UInt8 :=
  match quote with
  | none => if byte == 0x22 || byte == 0x27 then some byte else none
  | some q => if byte == q then none else some q

def inStart (s : Scanner) (quote : Option UInt8) (read : Bytes) (byte : UInt8) : Scanner :=
  if byte == 0x3E && quote.isNone then s.finishStart read
  else { s with mode := .startTag (quoteAfter quote byte) (byte :: read) }

def inEnd (s : Scanner) (quote : Option UInt8) (read : Bytes) (byte : UInt8) : Scanner :=
  if byte == 0x3E && quote.isNone then s.finishEnd read
  else { s with mode := .endTag (quoteAfter quote byte) (byte :: read) }

/-- Takes a byte of a comment. It ends with two hyphens that are not those of its start. -/
def inComment (s : Scanner) (read : Bytes) (byte : UInt8) : Scanner :=
  if byte == 0x3E then
    match read with
    | 0x2D :: 0x2D :: _ :: _ :: _ :: _ => s.finishComment read
    | _ => { s with mode := .comment (byte :: read) }
  else { s with mode := .comment (byte :: read) }

def inLiteral (s : Scanner) (read : Bytes) (byte : UInt8) : Scanner :=
  if byte == 0x3E && [0x5D, 0x5D].isPrefixOf read then s.finishLiteral read
  else { s with mode := .literal (byte :: read) }

def inDoctype (s : Scanner) (depth : Nat) (read : Bytes) (byte : UInt8) : Scanner :=
  if byte == 0x3C then { s with mode := .doctype (depth + 1) (byte :: read) }
  else if byte == 0x3E then
    if depth == 0 then s.finishDoctype read
    else { s with mode := .doctype (depth - 1) (byte :: read) }
  else { s with mode := .doctype depth (byte :: read) }

def step (s : Scanner) (byte : UInt8) : Scanner :=
  match s.mode with
  | .blank =>
    if byte == 0x3C then { s with mode := .markup }
    else if isBlank byte then s
    else { s with mode := .text [byte] }
  | .text read =>
    if byte == 0x3C then { s.emit (.text (trimmed read).reverse) with mode := .markup }
    else { s with mode := .text (byte :: read) }
  | .markup =>
    if byte == 0x21 then { s with mode := .declaration }
    else if byte == 0x2F then { s with mode := .endTag none [] }
    else if byte == 0x3F then { s with mode := .instruction [byte] }
    else s.inStart none [] byte
  | .startTag quote read => s.inStart quote read byte
  | .endTag quote read => s.inEnd quote read byte
  | .instruction read =>
    if byte == 0x3E && [0x3F].isPrefixOf read then s.finishInstruction read
    else { s with mode := .instruction (byte :: read) }
  | .declaration =>
    if byte == 0x5B then { s with mode := .literal [byte, 0x21] }
    else if byte == 0x2D then { s with mode := .comment [byte, 0x21] }
    else if byte == 0x44 || byte == 0x64 then { s with mode := .doctype 0 [byte, 0x21] }
    else s.stop .unknownMarkup
  | .comment read => s.inComment read byte
  | .literal read => s.inLiteral read byte
  | .doctype depth read => s.inDoctype depth read byte
  | .stopped _ => s

/-- Takes the end of the input: text is complete, and markup is not. -/
def finish (s : Scanner) : Scanner :=
  match s.mode with
  | .blank => s
  | .text read => s.emit (.text (trimmed read).reverse)
  | .markup => s.stop .unclosedTag
  | .startTag _ _ => s.stop .unclosedTag
  | .endTag _ _ => s.stop .unclosedTag
  | .instruction _ => s.stop .unclosedInstruction
  | .declaration => s.stop .unknownMarkup
  | .comment _ => s.stop .unclosedComment
  | .literal _ => s.stop .unclosedLiteral
  | .doctype _ _ => s.stop .unclosedDoctype
  | .stopped _ => s

def run (s : Scanner) (bytes : Bytes) : Scanner :=
  bytes.foldl step s

theorem run_append (s : Scanner) (a b : Bytes) : s.run (a ++ b) = (s.run a).run b := by
  simp [run, List.foldl_append]

def fault? (s : Scanner) : Option Fault :=
  match s.mode with
  | .stopped fault => some fault
  | _ => none

end Scanner

def byteOrderMark : Bytes := [0xEF, 0xBB, 0xBF]

/-- The content without a byte order mark at its start. -/
def dropMark (content : Bytes) : Bytes :=
  if byteOrderMark.isPrefixOf content then content.drop 3 else content

/-- The events of a document up to its end or its first fault, and that fault. -/
def scan (content : Bytes) : List Event × Option Fault :=
  let scanner := (({} : Scanner).run (dropMark content)).finish
  (scanner.events.reverse, scanner.fault?)

end Recrawl.Xml
