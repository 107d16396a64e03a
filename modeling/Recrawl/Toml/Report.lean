import Recrawl.Toml.Cursor

/-!
The report of a fault in a text: the place, the line with a mark below it, and what is
wrong. The place is counted in characters where the text there is plain, and in bytes
in front of any other character.
-/
namespace Recrawl.Toml

def byteLength (chars : List Char) : Nat := (String.ofList chars).utf8ByteSize

/-- The text in front of the place that a report shows, and how far behind that place the fault is:
at the end of a text the last character is shown. -/
def shownPlace (chars : List Char) (place : Nat) : List Char × Nat :=
  let before := chars.take place
  if place < chars.length || before.isEmpty then (before, 0) else (before.dropLast, 1)

/-- The column of a place behind the characters `before` of its line. -/
def column (before : List Char) (next : Option Char) : Nat :=
  if next.all fun c => c.utf8Size == 1 then before.length else byteLength before

/-- The end of a list of characters behind the last line break. -/
def lastLine (chars : List Char) : List Char :=
  (chars.reverse.takeWhile (· != '\n')).reverse

def report (text : String) (span : Span) (message : String) : String :=
  let chars := text.toList
  let (before, beyond) := shownPlace chars span.start
  let start := lastLine before
  let next := if beyond == 0 then chars[span.start]? else none
  let column := column start next + beyond
  let line := start ++ (chars.drop before.length).takeWhile (· != '\n')
  let number := toString ((before.filter (· == '\n')).length + 1)
  let part := (chars.drop span.start).take (span.stop - span.start)
  let marks := max 1 (min (byteLength part) (byteLength line - column))
  let blanks (n : Nat) : String := String.ofList (List.replicate n ' ')
  let margin := blanks (number.length + 1)
  "TOML parse error at line " ++ number ++ ", column " ++ toString (column + 1) ++ "\n" ++
    margin ++ "|\n" ++
    number ++ " | " ++ String.ofList line ++ "\n" ++
    margin ++ "|" ++ blanks (column + 1) ++ String.ofList (List.replicate marks '^') ++ "\n" ++
    message ++ "\n"

/-- The report of a fault, which marks one character. -/
def Fault.report (text : String) (fault : Fault) : String :=
  Toml.report text ⟨fault.place, fault.place + 1⟩ fault.message

end Recrawl.Toml
