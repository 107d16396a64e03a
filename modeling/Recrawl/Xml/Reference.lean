import Recrawl.Xml.Event

/-!
References in text and attribute values: `&` and `;` enclose the name of one of
the five predefined characters, or a number sign and a code point.
-/
namespace Recrawl.Xml.Reference

def predefined? (name : List Char) : Option Char :=
  if name == ['l', 't'] then some '<'
  else if name == ['g', 't'] then some '>'
  else if name == ['a', 'm', 'p'] then some '&'
  else if name == ['a', 'p', 'o', 's'] then some '\x27'
  else if name == ['q', 'u', 'o', 't'] then some '\x22'
  else none

/-- The number that unsigned digits spell, below 2 ^ 32. -/
def readNumber (base : Nat) (digits : List Char) : Except ReferenceFault Nat :=
  if digits.head? == some '+' || digits.head? == some '-' then .error .sign
  else
    match Text.readNat base (0x100000000 - 1) digits with
    | .ok number => .ok number
    | .error fault => .error (.number fault)

/-- The character that a number names, in hexadecimal behind an `x`. -/
def numbered (digits : List Char) : Except ReferenceFault Char := do
  let code ←
    match digits with
    | 'x' :: digits => readNumber 16 digits
    | digits => readNumber 10 digits
  if code == 0 then .error .forbidden
  else if h : code.isValidChar then .ok (Char.ofNatAux code h)
  else .error (.noCharacter code)

/-- The character of a reference whose name stands at byte `first` of the text. -/
def resolve (first : Nat) (name : List Char) : Except Fault Char :=
  match name with
  | '#' :: digits =>
    match numbered digits with
    | .ok c => .ok c
    | .error fault => .error (.badReference fault)
  | name =>
    match predefined? name with
    | some c => .ok c
    | none =>
      let text := String.ofList name
      .error (.unknownEntity first (first + text.utf8ByteSize) text)

/-- The text behind byte `offset` with its references replaced. `done` is the text in front, last
first; `begun` is a reference in progress: where it starts, and its name so far, last first. -/
def expandFrom : Nat → List Char → Option (Nat × List Char) → List Char →
    Except Fault (List Char)
  | _, done, none, [] => .ok done.reverse
  | offset, _, some (start, _), [] => .error (.openReference start offset)
  | offset, done, none, c :: rest =>
    if c == '&' then expandFrom (offset + 1) done (some (offset, [])) rest
    else expandFrom (offset + c.utf8Size) (c :: done) none rest
  | offset, done, some (start, name), c :: rest =>
    if c == '&' then .error (.openReference start offset)
    else if c == ';' then
      match resolve (start + 1) name.reverse with
      | .ok c => expandFrom (offset + 1) (c :: done) none rest
      | .error fault => .error fault
    else expandFrom (offset + c.utf8Size) done (some (start, c :: name)) rest

def expand (text : List Char) : Except Fault (List Char) :=
  expandFrom 0 [] none text

/-- The characters of a piece of text or of an attribute value as written. -/
def decode (raw : Bytes) : Except Fault (List Char) :=
  match Text.Utf8.strict raw with
  | .ok text => expand text
  | .error fault => .error (.encoding fault)

end Recrawl.Xml.Reference
