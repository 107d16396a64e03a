import Recrawl.Time.Field

/-!
Dates in the form of RFC 2822, such as `Sun, 17 Mar 2024 10:30:00 +0100`.
Blanks separate the parts, letters may be of either case, and comments in
parentheses may follow the zone.
-/
namespace Recrawl.Time

namespace Read

/-- The first three characters in lower case, with the rest. -/
def threeLetters : List Char → Option (String × List Char)
  | a :: b :: c :: rest => some (String.ofList [a.toLower, b.toLower, c.toLower], rest)
  | _ => none

def weekday (chars : List Char) : Option (Weekday × List Char) := do
  let (name, rest) ← threeLetters chars
  let day ← Weekday.all.find? fun day => day.shortName.toLower == name
  some (day, rest)

def monthName (chars : List Char) : Option (Nat × List Char) := do
  let (name, rest) ← threeLetters chars
  let index ← monthNames.findIdx? fun month => month.toLower == name
  some (index + 1, rest)

/-- A year: two digits are in 1950 to 2049, three digits count from 1900, more are as written. -/
def shortYear (chars : List Char) : Option (Nat × List Char) := do
  let (count, value, rest) ← number 2 chars.length chars
  let year :=
    if count == 2 then (if value < 50 then value + 2000 else value + 1900)
    else if count == 3 then value + 1900
    else value
  some (year, rest)

/-- The offsets in hours of the zones that have a name. -/
def zoneNames : List (String × Int) :=
  [("gmt", 0), ("ut", 0), ("z", 0), ("edt", -4), ("est", -5), ("cdt", -5), ("cst", -6),
    ("mdt", -6), ("mst", -7), ("pdt", -7), ("pst", -8)]

/-- A zone in seconds: a name, a single letter other than J, or a numeric offset. -/
def zone (chars : List Char) : Option (Int × List Char) :=
  let (letters, rest) := chars.span Char.isAlpha
  if letters.isEmpty then offset false some chars
  else
    let name := String.ofList (letters.map Char.toLower)
    match zoneNames.lookup name with
    | some hours => some (hours * 3600, rest)
    | none => if letters.length == 1 && name != "j" then some (0, rest) else none

/-- The text after a comment, inside `depth` parentheses. -/
def afterComment : (depth : Nat) → (escaped : Bool) → List Char → Option (List Char)
  | _, _, [] => none
  | depth, true, _ :: rest => afterComment depth false rest
  | depth, false, c :: rest =>
    if c == '\\' then afterComment depth true rest
    else if c == '(' then afterComment (depth + 1) false rest
    else if c == ')' then
      if depth ≤ 1 then some rest else afterComment (depth - 1) false rest
    else afterComment depth false rest

/-- The text after one comment and the blanks before it. -/
def comment? (chars : List Char) : Option (List Char) :=
  match Text.trimStart chars with
  | '(' :: rest => afterComment 1 false rest
  | _ => none

/-- Nothing is left but comments; each takes at least one character. -/
def onlyComments : (bound : Nat) → List Char → Bool
  | _, [] => true
  | 0, _ => false
  | bound + 1, chars =>
    match comment? chars with
    | some rest => onlyComments bound rest
    | none => false

end Read

def readRfc2822 (chars : List Char) : Option (Fields × List Char) := do
  let chars := Text.trimStart chars
  let (weekday, chars) ← match Read.weekday chars with
    | some (day, rest) => (Read.char ',' rest).map fun rest => (some day, rest)
    | none => some (none, chars)
  let (day, chars) ← Read.bounded 1 2 1 31 (Text.trimStart chars)
  let chars ← Read.blanks chars
  let (month, chars) ← Read.monthName chars
  let chars ← Read.blanks chars
  let (year, chars) ← Read.shortYear chars
  let chars ← Read.blanks chars
  let (hour, chars) ← Read.bounded 2 2 0 23 chars
  let chars ← Read.char ':' (Text.trimStart chars)
  let (minute, chars) ← Read.bounded 2 2 0 59 (Text.trimStart chars)
  let (second, chars) ← match Read.char ':' (Text.trimStart chars) with
    | some rest => Read.bounded 2 2 0 60 rest
    | none => some (0, chars)
  let chars ← Read.blanks chars
  let (offset, chars) ← Read.zone chars
  some ({ year, month, day, hour, minute, second, offset, weekday }, chars)

/-- The instant of an RFC 2822 date that takes up the whole text. -/
def parseRfc2822? (chars : List Char) : Option Instant :=
  match readRfc2822 chars with
  | some (fields, rest) =>
    if Read.onlyComments rest.length rest then fields.toInstant? else none
  | none => none

end Recrawl.Time
