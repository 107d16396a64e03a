/-!
Places in a text, readers that move through it, and why a text is refused. A reader
that finds nothing of its kind leaves the text to another one; a fault inside what
has been recognised is final.
-/
namespace Recrawl.Toml

/-- A part of a text, from the character `start` up to the character `stop`. -/
structure Span where
  start : Nat
  stop : Nat
  deriving DecidableEq, Repr

/-- A place in a text, with the text behind it. -/
structure Cursor where
  /-- The number of characters in front. -/
  place : Nat
  rest : List Char

namespace Cursor

/-- The place behind `n` characters. -/
def skip (n : Nat) (c : Cursor) : Cursor := ⟨c.place + n, c.rest.drop n⟩

/-- The place behind all characters of a class that follow. -/
def skipWhile (p : Char → Bool) (c : Cursor) : Cursor := c.skip (c.rest.takeWhile p).length

def spanTo (start stop : Cursor) : Span := ⟨start.place, stop.place⟩

def textTo (start stop : Cursor) : List Char := start.rest.take (stop.place - start.place)

end Cursor

structure Fault where
  place : Nat
  /-- What was being read. -/
  subject : Option String := none
  /-- What could have followed. -/
  expected : List String := []
  /-- What is wrong with what was read. -/
  reason : Option String := none
  /-- Nothing else is tried. -/
  isFinal : Bool := false
  deriving DecidableEq, Repr

namespace Fault

/-- The text of a fault: each part that is known in a line. -/
def message (f : Fault) : String :=
  "\n".intercalate ((f.subject.map ("invalid " ++ ·)).toList ++
    (if f.expected.isEmpty then [] else ["expected " ++ ", ".intercalate f.expected]) ++
    f.reason.toList)

/-- A fault in a part of the subject. The innermost subject is the one that counts. -/
def within (subject : String) (f : Fault) : Fault :=
  { f with subject := f.subject.or (some subject) }

/-- A fault where something else could have followed too. -/
def expecting (texts : List String) (f : Fault) : Fault :=
  { f with expected := f.expected ++ texts }

/-- A fault behind which nothing else is tried. -/
def final (f : Fault) : Fault := { f with isFinal := true }

end Fault

abbrev Reader (α : Type) := Cursor → Except Fault (α × Cursor)

section Results

variable {α : Type}

def refuse (c : Cursor) : Except Fault α := .error { place := c.place }

/-- A result whose fault is in a part of the subject. -/
def within (subject : String) (result : Except Fault α) : Except Fault α :=
  result.mapError (Fault.within subject)

/-- A result where something else could have followed too. -/
def expecting (texts : List String) (result : Except Fault α) : Except Fault α :=
  result.mapError (Fault.expecting texts)

/-- A result whose fault is final. -/
def commit (result : Except Fault α) : Except Fault α := result.mapError Fault.final

/-- What was read, if the text begins with it. -/
def attempt (result : Except Fault α) : Except Fault (Option α) :=
  match result with
  | .ok a => .ok (some a)
  | .error fault => if fault.isFinal then .error fault else .ok none

/-- What was read, or else what the other reader reads. -/
def orTry (first : Except Fault α) (second : Unit → Except Fault α) : Except Fault α :=
  match first with
  | .ok a => .ok a
  | .error fault => if fault.isFinal then .error fault else second ()

end Results

def takeText (text : List Char) : Reader Unit := fun c =>
  if text.isPrefixOf c.rest then .ok ((), c.skip text.length) else refuse c

def takeChar (p : Char → Bool) : Reader Char := fun c =>
  match c.rest with
  | x :: _ => if p x then .ok (x, c.skip 1) else refuse c
  | [] => refuse c

def isBlank (c : Char) : Bool := c == ' ' || c == '\t'

/-- The place of the first character that is not a blank. -/
def skipBlanks (c : Cursor) : Cursor := c.skipWhile isBlank

/-- A character that may stand in a line: tabs are the only control characters. -/
def isPlain (c : Char) : Bool :=
  c == '\t' || (0x20 ≤ c.toNat && c.toNat != 0x7F)

def breakLength : List Char → Nat
  | '\n' :: _ => 1
  | '\r' :: '\n' :: _ => 2
  | _ => 0

/-- The length of the blanks and line breaks that a text begins with. -/
def gapLength : List Char → Nat
  | '\r' :: '\n' :: rest => gapLength rest + 2
  | c :: rest => if isBlank c || c == '\n' then gapLength rest + 1 else 0
  | [] => 0

/-- The place behind a comment, if there is one. -/
def skipComment (c : Cursor) : Cursor :=
  match c.rest with
  | '#' :: _ => c.skipWhile isPlain
  | _ => c

/-- The rest of a line behind a statement: blanks, perhaps a comment, and the end of the line or of
the text. -/
def takeLineEnd : Reader Unit := fun c =>
  let c := skipComment (skipBlanks c)
  let length := breakLength c.rest
  if c.rest.isEmpty || 0 < length then .ok ((), c.skip length) else refuse c

/-- Blanks, line breaks and comments, each of which ends with a line break. A fault in a line break
is behind the character that should have been one. -/
def takeGap : (bound : Nat) → Reader Unit
  | 0, c => .ok ((), c)
  | bound + 1, c =>
    let c := c.skip (gapLength c.rest)
    match c.rest with
    | '#' :: _ =>
      let c := skipComment c
      let length := breakLength c.rest
      if 0 < length then takeGap bound (c.skip length)
      else refuse (c.skip (min 1 c.rest.length))
    | '\r' :: _ => refuse (c.skip 1)
    | _ => .ok ((), c)

end Recrawl.Toml
