import Recrawl.Sitemap.Entry
import Recrawl.Time.Instant

/-!
Which entries of a sitemap are recent enough to be followed. The window reaches
back from the present by a number of hours; a date that is not given counts as
recent.
-/
namespace Recrawl.Sitemap

/-- A window of hours back from the present; a negative number of hours has no limit. -/
structure Window where
  hours : Int
  now : Time.Instant

namespace Window

/-- The earliest recent date, unless there is no limit or the date cannot be represented. -/
def cutoff? (window : Window) : Option Time.Instant :=
  if window.hours < 0 then none else window.now.addSeconds? (-(window.hours * 3600))

/-- The date is not before the window. -/
def contains (window : Window) (date : Time.Instant) : Bool :=
  match window.cutoff? with
  | some cutoff => cutoff.le date
  | none => true

/-- The date is not given, or not before the window. -/
def admits (window : Window) (date : Option Time.Instant) : Bool :=
  date.all window.contains

end Window

inductive Staleness
  | modified (date : Time.Instant)
  | published (date : Time.Instant)
  deriving DecidableEq

/-- Why a page is too old, if it is: its own date, or the first of the dates of its news that is
before the window. -/
def Entry.staleness? (entry : Entry) (window : Window) : Option Staleness :=
  match entry.modified.filter fun date => !window.contains date with
  | some date => some (.modified date)
  | none =>
    ((entry.news.filterMap News.published).find? fun date => !window.contains date).map .published

end Recrawl.Sitemap
