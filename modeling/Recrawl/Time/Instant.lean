import Recrawl.Time.Calendar

/-!
Instants in UTC, with leap seconds as a second that lasts longer. Shifting an
instant by a span of seconds may leave the range of representable days.
-/
namespace Recrawl.Time

def nanosPerSecond : Nat := 1000000000

def secondsPerDay : Nat := 86400

/-- A point in time. Nanoseconds of a full second and more are inside a leap second, which
prolongs the second before it. -/
structure Instant where
  /-- Days since 1970-01-01. -/
  day : Int
  /-- Seconds since midnight. -/
  second : Nat
  /-- Nanoseconds since the beginning of the second. -/
  nano : Nat
  day_mem : minDay ≤ day ∧ day ≤ maxDay
  second_lt : second < secondsPerDay
  nano_lt : nano < 2 * nanosPerSecond
  deriving DecidableEq

namespace Instant

/-- The instant with the given parts, if they are in range. -/
def of? (day : Int) (second nano : Nat) : Option Instant :=
  if h : (minDay ≤ day ∧ day ≤ maxDay) ∧ second < secondsPerDay ∧ nano < 2 * nanosPerSecond then
    some ⟨day, second, nano, h.1, h.2.1, h.2.2⟩
  else none

def ofDate? (date : Date) : Option Instant :=
  of? date.dayNumber 0 0

def date (i : Instant) : Date := Date.ofDayNumber i.day

def weekday (i : Instant) : Weekday := Weekday.ofDayNumber i.day

/-- The instant lies inside a leap second. -/
def inLeapSecond (i : Instant) : Bool := nanosPerSecond ≤ i.nano

/-- The first instant comes before the second or is the same. -/
def le (a b : Instant) : Bool :=
  a.day < b.day || (a.day == b.day &&
    (a.second < b.second || (a.second == b.second && a.nano ≤ b.nano)))

/-- The parts of an instant moved by a number of seconds within the count of days and seconds. -/
def moved? (day : Int) (second : Int) (nano : Nat) : Option Instant :=
  of? (day + second / secondsPerDay) (second % secondsPerDay).toNat nano

/-- The instant that a clock with the given offset from UTC, in seconds, shows as `day`, `second`
and `nano`. -/
def ofLocal? (day : Int) (second nano : Nat) (offset : Int) : Option Instant :=
  moved? day (second - offset) nano

/-- The instant `span` seconds later. Leaving a leap second forward counts it as the second that it
prolongs, leaving it backward as the one after. -/
def addSeconds? (i : Instant) (span : Int) : Option Instant :=
  if i.inLeapSecond then
    if 0 < span then moved? i.day (i.second + span) (i.nano - nanosPerSecond)
    else if span < 0 then moved? i.day (i.second + 1 + span) (i.nano - nanosPerSecond)
    else some i
  else moved? i.day (i.second + span) i.nano

/-- The whole minutes from `earlier` to `later`, toward zero. -/
def minutesFrom (earlier later : Instant) : Int :=
  let leap : Int :=
    if earlier.second < later.second && earlier.inLeapSecond then 1
    else if later.second < earlier.second && later.inLeapSecond then -1
    else 0
  let nanos : Int := (later.nano : Int) - earlier.nano
  let seconds : Int := (later.day - earlier.day) * secondsPerDay +
    ((later.second : Int) - earlier.second) + leap + nanos / nanosPerSecond
  let whole := if seconds < 0 && nanos % nanosPerSecond != 0 then seconds + 1 else seconds
  whole.tdiv 60

end Instant

end Recrawl.Time
