import Recrawl.Log
import Recrawl.Schedule.Baseline
import Recrawl.Text.Quoted
import Recrawl.Time.Format

/-!
Adapting the interval between two visits to how often a document changes. An item
that changed since the visit before is visited sooner, one that did not is visited
later, within bounds. Changes are told by signatures of the content, one of this
visit and one of the visit before.
-/
namespace Recrawl

structure IntervalBounds where
  low : Int64
  high : Int64

namespace IntervalBounds

/-- The bounds of some settings. Neither is negative, and the upper one is not below the lower. -/
def ofSettings (s : ScheduleSettings) : IntervalBounds :=
  let low := max s.minInterval 0
  ⟨low, max s.maxInterval low⟩

/-- The nearest interval within the bounds. -/
def clamp (b : IntervalBounds) (minutes : Int64) : Int64 :=
  if minutes < b.low then b.low else if b.high < minutes then b.high else minutes

/-- Half the way from an interval to the lower bound. -/
def shorten (b : IntervalBounds) (minutes : Int64) : Int64 :=
  b.low + (minutes - b.low) / 2

/-- A tenth more than an interval, but not more than the upper bound; a sum that does not fit into
a word is above every bound. -/
def lengthen (b : IntervalBounds) (minutes : Int64) : Int64 :=
  let step := minutes / 10
  if Int64.maxValue - step < minutes then b.high else min (minutes + step) b.high

end IntervalBounds

/-- How a document compares with the visit before. -/
inductive Comparison
  /-- The signatures are the same. -/
  | same
  /-- The signatures differ. -/
  | changed
  /-- A signature is missing, but the server said that nothing was modified. -/
  | notModified
  /-- A signature is missing. -/
  | unknown
  deriving DecidableEq, Repr

namespace Comparison

def ofMetadata (m : Metadata) : Comparison :=
  match m.first? Key.signature, m.first? Key.signatureOld with
  | some signature, some old => if signature == old then same else changed
  | _, _ => if m.first? Key.statusCode == some "304" then notModified else unknown

/-- The interval after a visit, from the one before it. -/
def adapt (b : IntervalBounds) (minutes : Int64) : Comparison → Int64
  | changed => b.shorten minutes
  | _ => b.lengthen minutes

def intervalText (before after : Int64) : Comparison → String
  | changed =>
    s!"Signature has changed, {Key.fetchInterval} decreased from {before.toInt} to {after.toInt}"
  | _ => s!"Unchanged, {Key.fetchInterval} increased from {before.toInt} to {after.toInt}"

/-- The metadata once the signatures were compared: a pair of equal signatures is compared only
once, and a change may count as the last modification. -/
def consume (setsLastModified : Bool) (date : String) (m : Metadata) : Comparison → Metadata
  | same => m.erase Key.signatureOld
  | changed => if setsLastModified then m.set Key.lastModified date else m
  | _ => m

/-- The date of the last change that a visit leaves, by the one before it. -/
def changeDate? (date : String) (before : Option String) : Comparison → Option String
  | same => some (before.getD date)
  | changed => some date
  | _ => before

end Comparison

namespace ScheduleSettings

/-- The interval that is kept in the metadata, or else the one that the baseline gives. -/
def currentInterval (s : ScheduleSettings) (m : Metadata) (now : Time.Instant) :
    Logged Int64 := do
  match m.first? Key.fetchInterval with
  | some stored =>
    match readMinutes stored with
    | .ok minutes => pure minutes
    | .error fault =>
      report .warn .adaptive
        s!"Ignoring invalid {Key.fetchInterval} {Text.Quoted.quote stored}: {fault.message}"
      pure bootstrap
  | none => pure bootstrap
where
  /-- The minutes to the date that the baseline gives, or the default if there is none. -/
  bootstrap : Int64 :=
    match s.baseline? .fetched m now with
    | some next => Int64.ofInt (now.minutesFrom next)
    | none => s.defaultInterval

/-- The metadata with an interval, and with the date of the last change if it is known. -/
def store (minutes : Int64) (changeDate : Option String) (m : Metadata) : Metadata :=
  let m := m.set Key.fetchInterval (toString minutes.toInt)
  match changeDate with
  | some date => m.set Key.signatureChangeDate date
  | none => m

/-- The metadata after a visit that was compared with the one before it, and when the item is
fetched next. -/
def adapted (s : ScheduleSettings) (comparison : Comparison) (m : Metadata) (now : Time.Instant)
    (before : Int64) : Metadata × Option Time.Instant :=
  let date := now.toHttp
  let after := comparison.adapt (IntervalBounds.ofSettings s) before
  let changeDate := comparison.changeDate? date (m.first? Key.signatureChangeDate)
  (store after changeDate (comparison.consume s.setsLastModified date m), now.afterMinutes? after)

/-- The metadata of an item after a visit, and when it is fetched next. The interval adapts only to
successful fetches that can be compared with the visit before. -/
def next (s : ScheduleSettings) (status : Status) (m : Metadata) (now : Time.Instant) :
    Logged (Metadata × Option Time.Instant) := do
  report .debug .adaptive s!"Scheduling status: {status.name}, metadata: {m.toText}"
  match status with
  | .fetched =>
    let bounds := IntervalBounds.ofSettings s
    let before := bounds.clamp (← s.currentInterval m now)
    match Comparison.ofMetadata m with
    | .unknown =>
      report .error .adaptive s!"No signature for FETCHED page: {m.toText}"
      pure (m, s.baseline? status m now)
    | comparison =>
      report .debug .adaptive (comparison.intervalText before (comparison.adapt bounds before))
      pure (s.adapted comparison m now before)
  | _ => pure (m, s.baseline? status m now)

end ScheduleSettings

end Recrawl
