import Recrawl.Time.Instant

/-!
The written forms of an instant: RFC 3339 with the offset of UTC, the form with
a blank and the name UTC for messages, and the fixed-width form of HTTP headers.
A leap second is written as second 60.
-/
namespace Recrawl.Time

/-- A number in decimal with at least `width` digits. -/
def padded (width n : Nat) : String :=
  let digits := Nat.toDigits 10 n
  String.ofList (List.replicate (width - digits.length) '0' ++ digits)

/-- Four digits for the years 0 to 9999, and a sign before at least four digits for all others. -/
def yearText (year : Int) : String :=
  if 0 ≤ year ∧ year ≤ 9999 then padded 4 year.toNat
  else if year < 0 then "-" ++ padded 4 year.natAbs
  else "+" ++ padded 4 year.natAbs

/-- No digits for a whole second, else as many groups of three as the fraction needs. -/
def fractionText (nano : Nat) : String :=
  if nano == 0 then ""
  else if nano % 1000000 == 0 then "." ++ padded 3 (nano / 1000000)
  else if nano % 1000 == 0 then "." ++ padded 6 (nano / 1000)
  else "." ++ padded 9 nano

namespace Instant

/-- Hours and minutes of the day, and the second of the minute as it is written. -/
def clock (i : Instant) : Nat × Nat × Nat :=
  (i.second / 3600, i.second / 60 % 60, i.second % 60 + i.nano / nanosPerSecond)

/-- Hours, minutes and seconds, two digits each, separated by colons. -/
def clockText (i : Instant) : String :=
  let (hour, minute, second) := i.clock
  padded 2 hour ++ ":" ++ padded 2 minute ++ ":" ++ padded 2 second

def dateText (i : Instant) : String :=
  let date := i.date
  yearText date.year ++ "-" ++ padded 2 date.month ++ "-" ++ padded 2 date.day

def secondFraction (i : Instant) : String :=
  fractionText (i.nano % nanosPerSecond)

def toRfc3339 (i : Instant) : String :=
  i.dateText ++ "T" ++ i.clockText ++ i.secondFraction ++ "+00:00"

def toDisplay (i : Instant) : String :=
  i.dateText ++ " " ++ i.clockText ++ i.secondFraction ++ " UTC"

/-- The form of an instant in an HTTP header, such as `Sun, 17 Mar 2024 10:30:00 GMT`. -/
def toHttp (i : Instant) : String :=
  let date := i.date
  i.weekday.shortName ++ ", " ++ padded 2 date.day ++ " " ++ monthNames.getD (date.month - 1) "" ++
    " " ++ yearText date.year ++ " " ++ i.clockText ++ " GMT"

end Instant

end Recrawl.Time
