import Recrawl.Item.Basic
import Recrawl.Settings.Basic
import Recrawl.Text.Blank
import Recrawl.Text.Integer
import Recrawl.Time.Instant

/-!
The baseline of the schedule: an interval in minutes for each status, which
metadata may override. A negative interval means never.
-/
namespace Recrawl

/-- The instant some minutes later. There is none for a negative number of minutes, nor for a date
that cannot be represented. -/
def Time.Instant.afterMinutes? (now : Time.Instant) (minutes : Int64) : Option Time.Instant :=
  if minutes < 0 then none else now.addSeconds? (minutes.toInt * 60)

/-- A number of minutes in metadata, with blanks around it or without. -/
def readMinutes (text : String) : Except Text.IntegerFault Int64 :=
  (Text.readInt64 (Text.trim text).toList).map Int64.ofInt

def CustomInterval.applies (rule : CustomInterval) (m : Metadata) : Bool :=
  (m.values rule.key).contains rule.value

namespace ScheduleSettings

def rule? (s : ScheduleSettings) (m : Metadata) : Option CustomInterval :=
  s.custom.find? fun rule => rule.applies m

/-- The delay of a discovered link: what its metadata asks for, if that is a positive number. -/
def discoveryDelay (m : Metadata) : Int64 :=
  match (m.first? Key.delay).map readMinutes with
  | some (.ok minutes) => max minutes 0
  | _ => 0

/-- The minutes until the next fetch. A rule without an interval for failed fetches leaves the
general one in force. -/
def interval (s : ScheduleSettings) (status : Status) (m : Metadata) : Int64 :=
  match status with
  | .discovered => discoveryDelay m
  | .fetched => ((s.rule? m).map (·.interval)).getD s.defaultInterval
  | .redirection => ((s.rule? m).map (·.interval)).getD s.defaultInterval
  | .fetchError => ((s.rule? m).bind (·.fetchErrorInterval)).getD s.fetchErrorInterval
  | .error => s.errorInterval

/-- When an item is fetched next, by its status alone. -/
def baseline? (s : ScheduleSettings) (status : Status) (m : Metadata) (now : Time.Instant) :
    Option Time.Instant :=
  now.afterMinutes? (s.interval status m)

end ScheduleSettings

end Recrawl
