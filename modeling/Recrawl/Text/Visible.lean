/-!
What a plain stream shows of a text that may hold control characters: escape
sequences and controls are left out, blanks and all other characters are kept.
The reader of a sequence is a machine that takes one character at a time.
-/
namespace Recrawl.Text

inductive Escape
  /-- In no sequence. -/
  | outside
  /-- Just behind the escape character. -/
  | begun
  /-- In a sequence of the escape character, some punctuation and one more character. -/
  | designation
  /-- In a control sequence, which one letter ends. -/
  | sequence
  /-- In a command to the system, which a bell ends. -/
  | command
  /-- In the parameters of a control string. -/
  | parameters
  /-- In a control string, which only a terminator ends. -/
  | string
  deriving DecidableEq, Repr

def isFinal (c : Char) : Bool :=
  0x40 ≤ c.toNat && c.toNat ≤ 0x7E

/-- The blanks of a line of text: space, tab, and the ends of a line or page. -/
def isLineBlank (c : Char) : Bool :=
  c == ' ' || c == '\t' || c == '\n' || c == '\r' || c == '\x0c'

/-- The characters that are shown outside a sequence: all save the ASCII controls, of which only
the blanks are shown. -/
def isShown (c : Char) : Bool :=
  isLineBlank c || (0x20 ≤ c.toNat && c != '\x7f')

namespace Escape

/-- Behind the character that follows the escape character. -/
def opened (c : Char) : Escape :=
  match c with
  | '[' => .sequence
  | ']' => .command
  | 'P' => .parameters
  | 'X' => .string
  | '^' => .string
  | '_' => .string
  | c =>
    if 0x20 ≤ c.toNat && c.toNat ≤ 0x2F then .designation
    else if 0x30 ≤ c.toNat && c.toNat ≤ 0x7E then .outside
    else .begun

/-- Behind a character that is not shown. The escape character begins a sequence anywhere, the
cancel and substitute characters break one off. The terminator of a control string is a byte, and
one inside a longer character ends the string too. -/
def next (place : Escape) (c : Char) : Escape :=
  if c == '\x1b' then .begun
  else if c == '\x18' || c == '\x1a' then .outside
  else
    match place with
    | .outside => .outside
    | .begun => opened c
    | .designation => if 0x30 ≤ c.toNat && c.toNat ≤ 0x7E then .outside else .designation
    | .sequence => if isFinal c then .outside else .sequence
    | .command => if c == '\x07' then .outside else .command
    | .parameters => if isFinal c || c == ':' then .string else .parameters
    | .string => if (String.utf8EncodeChar c).contains 0x9C then .outside else .string

/-- A character is shown outside a sequence; inside a short one, only blanks are. -/
def shows (place : Escape) (c : Char) : Bool :=
  match place with
  | .outside => isShown c
  | .begun => isLineBlank c
  | .designation => isLineBlank c
  | .sequence => isLineBlank c
  | .command => false
  | .parameters => false
  | .string => false

/-- What is shown of the characters from a place on. A blank that is shown inside a sequence
suspends it: all is shown up to the next control, where the sequence goes on, unless a character
beyond ASCII came between. -/
def shown (place : Escape) (isSuspended : Bool) : List Char → List Char
  | [] => []
  | c :: rest =>
    if if isSuspended then isShown c else place.shows c then
      c :: shown (if c.toNat < 0x80 then place else .outside) true rest
    else shown (place.next c) false rest

end Escape

def visible (text : String) : String :=
  String.ofList (Escape.outside.shown false text.toList)

end Recrawl.Text
