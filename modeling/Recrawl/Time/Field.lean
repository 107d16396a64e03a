import Recrawl.Text.Blank
import Recrawl.Time.Instant

/-!
The parts of a written date-time and how each is read. A reader takes a part
from the front of a text and returns what is left, or refuses.
-/
namespace Recrawl.Time

/-- What has been read of a date-time. Parts that were not written keep their defaults. -/
structure Fields where
  year : Int := 0
  month : Nat := 1
  day : Nat := 1
  hour : Nat := 0
  minute : Nat := 0
  second : Nat := 0
  nano : Nat := 0
  /-- Seconds that the local clock is ahead of UTC. -/
  offset : Int := 0
  weekday : Option Weekday := none

namespace Fields

/-- The instant that the fields denote, if the date exists, the offset is below a day, a given
weekday agrees, and the result is representable. Second 60 is a leap second. -/
def toInstant? (f : Fields) : Option Instant := do
  let date ← Date.of? f.year f.month f.day
  if f.hour < 24 && f.minute < 60 && f.second ≤ 60 && f.offset.natAbs < secondsPerDay &&
      f.weekday.all (· == Weekday.ofDayNumber date.dayNumber) then
    let (second, leap) := if f.second == 60 then (59, nanosPerSecond) else (f.second, 0)
    let second := f.hour * 3600 + f.minute * 60 + second
    Instant.ofLocal? date.dayNumber second (f.nano + leap) f.offset
  else none

end Fields

namespace Read

def digit? (c : Char) : Option Nat :=
  if 0x30 ≤ c.toNat && c.toNat ≤ 0x39 then some (c.toNat - 0x30) else none

/-- Up to `max` further digits behind the value `acc` of those before, with the count of all. -/
def moreDigits : (max : Nat) → (count acc : Nat) → List Char → Nat × Nat × List Char
  | 0, count, acc, chars => (count, acc, chars)
  | _, count, acc, [] => (count, acc, [])
  | max + 1, count, acc, c :: rest =>
    match digit? c with
    | some d => moreDigits max (count + 1) (acc * 10 + d) rest
    | none => (count, acc, c :: rest)

/-- A number of at least `min` and at most `max` digits, with the count of its digits. -/
def number (min max : Nat) (chars : List Char) : Option (Nat × Nat × List Char) :=
  let (count, value, rest) := moreDigits max 0 0 chars
  if min ≤ count then some (count, value, rest) else none

/-- A number of `min` to `max` digits within bounds. -/
def bounded (min max low high : Nat) (chars : List Char) : Option (Nat × List Char) :=
  match number min max chars with
  | some (_, value, rest) => if low ≤ value && value ≤ high then some (value, rest) else none
  | none => none

def char (c : Char) : List Char → Option (List Char)
  | d :: rest => if d == c then some rest else none
  | [] => none

def blanks (chars : List Char) : Option (List Char) :=
  match chars with
  | c :: rest => if Text.isBlank c then some (Text.trimStart rest) else none
  | [] => none

/-- The digits of a fraction of a second: nine count, further ones are passed over. -/
def fraction (chars : List Char) : Option (Nat × List Char) :=
  match number 1 9 chars with
  | some (count, value, rest) =>
    some (value * Nat.pow 10 (9 - count), rest.dropWhile fun c => (digit? c).isSome)
  | none => none

/-- The sign of an offset; the minus sign U+2212 counts where `minusSign` is set. -/
def sign (minusSign : Bool) : List Char → Option (Int × List Char)
  | c :: rest =>
    if c == '+' then some (1, rest)
    else if c == '-' then some (-1, rest)
    else if minusSign && c.toNat == 0x2212 then some (-1, rest)
    else none
  | [] => none

def twoDigits : List Char → Option (Nat × List Char)
  | a :: b :: rest =>
    match digit? a, digit? b with
    | some x, some y => some (10 * x + y, rest)
    | _, _ => none
  | _ => none

/-- An offset in seconds: a sign, two digits of hours, whatever `between` passes over, and two
digits of minutes below 60. -/
def offset (minusSign : Bool) (between : List Char → Option (List Char)) (chars : List Char) :
    Option (Int × List Char) := do
  let (signum, chars) ← sign minusSign chars
  let (hours, chars) ← twoDigits chars
  let chars ← between chars
  let (minutes, chars) ← twoDigits chars
  if minutes < 60 then some (signum * (hours * 3600 + minutes * 60), chars) else none

end Read

end Recrawl.Time
