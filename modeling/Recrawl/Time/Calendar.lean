/-!
The proleptic Gregorian calendar: dates, their day numbers counted from
1970-01-01, and weekdays.
-/
namespace Recrawl.Time

/-- Every fourth year is a leap year, save those of full centuries not divisible by 400. -/
def isLeapYear (year : Int) : Bool :=
  year % 4 == 0 && (year % 100 != 0 || year % 400 == 0)

def monthLengths (leap : Bool) : List Nat :=
  [31, if leap then 29 else 28, 31, 30, 31, 30, 31, 31, 30, 31, 30, 31]

/-- Days from the first of January of year 1 to the first of January of a year. -/
def daysBeforeYear (year : Int) : Int :=
  let past := year - 1
  365 * past + past / 4 - past / 100 + past / 400

/-- The day number of 1970-01-01, counted from the first of January of year 1. -/
def epochDay : Int := daysBeforeYear 1970

structure Date where
  year : Int
  /-- From 1 to 12. -/
  month : Nat
  /-- From 1 to the length of the month. -/
  day : Nat
  deriving DecidableEq, Repr

namespace Date

/-- The earliest and the latest year with a representable day. -/
def minYear : Int := -262143

@[inherit_doc minYear]
def maxYear : Int := 262142

def isValid (date : Date) : Bool :=
  match (monthLengths (isLeapYear date.year))[date.month - 1]? with
  | some length => 1 ≤ date.month && 1 ≤ date.day && date.day ≤ length
  | none => false

/-- The date of three numbers, if there is such a day in the range of years. -/
def of? (year : Int) (month day : Nat) : Option Date :=
  let date : Date := ⟨year, month, day⟩
  if minYear ≤ year && year ≤ maxYear && date.isValid then some date else none

def dayNumber (date : Date) : Int :=
  let months := (monthLengths (isLeapYear date.year)).take (date.month - 1)
  let before : Nat := months.foldl (· + ·) 0
  daysBeforeYear date.year - epochDay + before + (date.day : Int) - 1

/-- The month and the day in it, for a day of the year counted from zero. -/
def splitDayOfYear : (month : Nat) → (lengths : List Nat) → (day : Nat) → Nat × Nat
  | month, [], day => (month, day + 1)
  | month, length :: rest, day =>
    if day < length then (month, day + 1) else splitDayOfYear (month + 1) rest (day - length)

/-- The year of a day counted from the first of January of year 1. -/
def yearOfDay (day : Int) : Int :=
  let guess := day * 400 / 146097
  if daysBeforeYear (guess + 2) ≤ day then guess + 2
  else if daysBeforeYear (guess + 1) ≤ day then guess + 1
  else guess

/-- The date that lies `number` days after 1970-01-01. -/
def ofDayNumber (number : Int) : Date :=
  let day := number + epochDay
  let year := yearOfDay day
  let (month, dayOfMonth) :=
    splitDayOfYear 1 (monthLengths (isLeapYear year)) (day - daysBeforeYear year).toNat
  ⟨year, month, dayOfMonth⟩

end Date

/-- The first and the last representable day. -/
def minDay : Int := Date.dayNumber ⟨Date.minYear, 1, 1⟩

@[inherit_doc minDay]
def maxDay : Int := Date.dayNumber ⟨Date.maxYear, 12, 31⟩

inductive Weekday
  | monday
  | tuesday
  | wednesday
  | thursday
  | friday
  | saturday
  | sunday
  deriving DecidableEq, Repr

namespace Weekday

def all : List Weekday := [monday, tuesday, wednesday, thursday, friday, saturday, sunday]

/-- The first three letters of the English name. -/
def shortName : Weekday → String
  | monday => "Mon"
  | tuesday => "Tue"
  | wednesday => "Wed"
  | thursday => "Thu"
  | friday => "Fri"
  | saturday => "Sat"
  | sunday => "Sun"

/-- The weekday of a day number; 1970-01-01 was a Thursday. -/
def ofDayNumber (number : Int) : Weekday :=
  match ((number + 3) % 7).toNat with
  | 0 => monday
  | 1 => tuesday
  | 2 => wednesday
  | 3 => thursday
  | 4 => friday
  | 5 => saturday
  | _ => sunday

end Weekday

/-- The first three letters of the English names of the months. -/
def monthNames : List String :=
  ["Jan", "Feb", "Mar", "Apr", "May", "Jun", "Jul", "Aug", "Sep", "Oct", "Nov", "Dec"]

end Recrawl.Time
