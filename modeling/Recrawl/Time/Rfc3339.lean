import Recrawl.Time.Field

/-!
Dates in the form of RFC 3339, such as `2024-03-17T10:30:00.5+01:00`: every part
has its full width, and the offset is required. The first fault from the left is
the reason for refusing a text.
-/
namespace Recrawl.Time

inductive DateFault
  /-- The text ends too early. -/
  | tooShort
  /-- There is text behind the date. -/
  | trailing
  /-- A character is none of those that may stand at its place. -/
  | invalid
  /-- A number is out of its range, or there is no such day. -/
  | outOfRange
  deriving DecidableEq, Repr

def DateFault.message : DateFault → String
  | tooShort => "premature end of input"
  | trailing => "trailing input"
  | invalid => "input contains invalid characters"
  | outOfRange => "input is out of range"

namespace Rfc3339

/-- A number of exactly `width` digits within bounds. As many bytes have to be there before any
digit is looked at. -/
def number (width low high : Nat) (chars : List Char) : Except DateFault (Nat × List Char) :=
  if (String.ofList chars).utf8ByteSize < width then .error .tooShort
  else
    match Read.number width width chars with
    | none => .error .invalid
    | some (_, value, rest) =>
      if low ≤ value && value ≤ high then .ok (value, rest) else .error .outOfRange

def one (isMember : Char → Bool) : List Char → Except DateFault (List Char)
  | [] => .error .tooShort
  | c :: rest => if isMember c then .ok rest else .error .invalid

def fraction : List Char → Except DateFault (Nat × List Char)
  | ['.'] => .error .tooShort
  | '.' :: rest =>
    match Read.fraction rest with
    | some result => .ok result
    | none => .error .invalid
  | chars => .ok (0, chars)

def sign (chars : List Char) : Except DateFault (Int × List Char) :=
  match Read.sign true chars with
  | some result => .ok result
  | none => .error (if chars.isEmpty then .tooShort else .invalid)

/-- The offset in seconds, which is less than a day. -/
def offset (chars : List Char) : Except DateFault (Int × List Char) :=
  match chars with
  | 'Z' :: rest => .ok (0, rest)
  | 'z' :: rest => .ok (0, rest)
  | _ => do
    let (signum, chars) ← sign chars
    let (hours, chars) ← number 2 0 99 chars
    let chars ← one (· == ':') chars
    let (minutes, chars) ← number 2 0 59 chars
    if hours < 24 then .ok (signum * (hours * 3600 + minutes * 60), chars) else .error .outOfRange

/-- The fields of a date, and the text behind them. -/
def fields (chars : List Char) : Except DateFault (Fields × List Char) := do
  let (year, chars) ← number 4 0 9999 chars
  let chars ← one (· == '-') chars
  let (month, chars) ← number 2 1 12 chars
  let chars ← one (· == '-') chars
  let (day, chars) ← number 2 1 31 chars
  let chars ← one (fun c => c == 'T' || c == 't' || c == ' ') chars
  let (hour, chars) ← number 2 0 23 chars
  let chars ← one (· == ':') chars
  let (minute, chars) ← number 2 0 59 chars
  let chars ← one (· == ':') chars
  let (second, chars) ← number 2 0 60 chars
  let (nano, chars) ← fraction chars
  let (offset, chars) ← offset chars
  .ok ({ year, month, day, hour, minute, second, nano, offset }, chars)

end Rfc3339

def parseRfc3339 (text : String) : Except DateFault Instant := do
  let (fields, rest) ← Rfc3339.fields text.toList
  if !rest.isEmpty then .error .trailing
  match fields.toInstant? with
  | some instant => .ok instant
  | none => .error .outOfRange

/-- The instant of a text in the form of RFC 3339, if it is one. -/
def parseRfc3339? (text : String) : Option Instant := (parseRfc3339 text).toOption

end Recrawl.Time
