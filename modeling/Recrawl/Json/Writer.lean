import Recrawl.Bytes
import Recrawl.Number.Binary64
import Recrawl.Value

/-!
Writing JSON: the compact form without blanks, and the form with one member or
item per line. Strings escape quotes, backslashes and control characters only.
-/
namespace Recrawl.Json

def escape (c : Char) : List Char :=
  if c == '\x22' then ['\\', '\x22']
  else if c == '\\' then ['\\', '\\']
  else if c == '\x08' then ['\\', 'b']
  else if c == '\x0c' then ['\\', 'f']
  else if c == '\n' then ['\\', 'n']
  else if c == '\r' then ['\\', 'r']
  else if c == '\t' then ['\\', 't']
  else if c.toNat < 0x20 then
    ['\\', 'u', '0', '0', Bytes.hexDigit (c.toNat / 16), Bytes.hexDigit (c.toNat % 16)]
  else [c]

def writeString (s : String) : List Char :=
  '\x22' :: (s.toList.flatMap escape ++ ['\x22'])

/-- The given lists of characters, separated by `separator`. -/
def joinWith (separator : List Char) : List (List Char) → List Char
  | [] => []
  | [part] => part
  | part :: rest => part ++ separator ++ joinWith separator rest

mutual

def compact : Value → List Char
  | .null => "null".toList
  | .bool b => if b then "true".toList else "false".toList
  | .integer n => (toString n).toList
  | .float x => (Number.Layout.scientific.write x).toList
  | .string s => writeString s
  | .date text => writeString text
  | .list items => '[' :: (joinWith [','] (compactItems items) ++ [']'])
  | .table members => '\x7b' :: (joinWith [','] (compactMembers members) ++ ['\x7d'])

def compactItems : List Value → List (List Char)
  | [] => []
  | item :: rest => compact item :: compactItems rest

def compactMembers : List (String × Value) → List (List Char)
  | [] => []
  | (key, value) :: rest => (writeString key ++ ':' :: compact value) :: compactMembers rest

end

def render (value : Value) : String :=
  String.ofList (compact value)

/-- Lines of a list or table between its brackets; one without parts takes no lines. -/
def block (left right : Char) (indent : Nat) (parts : List (List Char)) : List Char :=
  if parts.isEmpty then [left, right]
  else
    let line := '\n' :: List.replicate (2 * (indent + 1)) ' '
    left :: (line ++ joinWith (',' :: line) parts ++
      '\n' :: (List.replicate (2 * indent) ' ' ++ [right]))

mutual

/-- The form of a value over several lines, indented by two blanks a level. -/
def pretty (indent : Nat) : Value → List Char
  | .list items => block '[' ']' indent (prettyItems (indent + 1) items)
  | .table members => block '\x7b' '\x7d' indent (prettyMembers (indent + 1) members)
  | value => compact value

def prettyItems (indent : Nat) : List Value → List (List Char)
  | [] => []
  | item :: rest => pretty indent item :: prettyItems indent rest

def prettyMembers (indent : Nat) : List (String × Value) → List (List Char)
  | [] => []
  | (key, value) :: rest =>
    (writeString key ++ ':' :: ' ' :: pretty indent value) :: prettyMembers indent rest

end

def renderPretty (value : Value) : String :=
  String.ofList (pretty 0 value)

end Recrawl.Json
