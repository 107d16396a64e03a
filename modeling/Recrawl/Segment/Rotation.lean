import Recrawl.Log
import Recrawl.Settings.Basic
import Recrawl.Time.Duration

/-!
When an output segment is closed: once it has grown to a number of bytes or once
some time has passed since it was opened, whichever comes first. The writer tells
how far it has come after every record, and only what it has advanced since it
last told is counted.
-/
namespace Recrawl

structure RotationPolicy where
  /-- The bytes after which it is. -/
  maxBytes : Nat
  /-- The time after which it is, if there is a limit. -/
  interval : Option Time.Duration := none
  deriving DecidableEq, Repr

namespace RotationPolicy

/-- The number of bytes in a number of units, cut to a whole number of 64 bits. -/
def byteCount (size : Float) (unit : SizeUnit) : Nat :=
  (size * Float.ofNat unit.bytes).toUInt64.toNat

/-- The policy of some settings. An interval that is no span of time does not count. -/
def ofSettings (s : RotationSettings) : Logged RotationPolicy :=
  let policy : RotationPolicy := ⟨byteCount s.maxSize s.sizeUnit, none⟩
  if s.timeInterval < 0.0 then pure policy
  else
    match Time.Duration.ofSeconds? (s.timeInterval * Float.ofNat s.timeUnit.length) with
    | .ok interval => pure { policy with interval }
    | .error fault => do
      let interval := Number.Layout.plain.write s.timeInterval
      report .warn .rotation
        s!"Ignoring rotation time interval {interval} {s.timeUnit.title}: {fault.message}"
      pure policy

end RotationPolicy

/-- How far a segment has come. Times are in nanoseconds of a clock that never goes back. -/
structure SegmentMeter where
  /-- Where the writer was when it last told. -/
  offset : Nat := 0
  /-- The bytes that were counted. -/
  written : Nat := 0
  /-- When the segment was opened. -/
  opened : Nat := 0
  deriving DecidableEq, Repr

namespace SegmentMeter

def start (now : Nat) : SegmentMeter := ⟨0, 0, now⟩

/-- The interval that has passed since the segment was opened, if one has. -/
def elapsed? (meter : SegmentMeter) (policy : RotationPolicy) (now : Nat) : Option Time.Duration :=
  policy.interval.filter fun interval => interval.nanos ≤ now - meter.opened

/-- Counts what the writer has advanced. A step back counts nothing. -/
def advance (meter : SegmentMeter) (offset : Nat) : SegmentMeter :=
  { meter with offset, written := meter.written + (offset - meter.offset) }

/-- Notes that the writer is at `offset`, and tells whether the segment is closed. Once the interval
has passed nothing is counted. -/
def mark (meter : SegmentMeter) (policy : RotationPolicy) (offset now : Nat) :
    Logged (SegmentMeter × Bool) :=
  match meter.elapsed? policy now with
  | some interval => do
    report .info .rotation
      s!"Rotating segment based on time: interval {interval.toText} elapsed"
    pure (meter, true)
  | none => do
    let meter := meter.advance offset
    let full : Bool := policy.maxBytes ≤ meter.written
    if full then
      report .info .rotation
        (s!"Rotating segment based on size: {meter.written} bytes written, " ++
          s!"max {policy.maxBytes}")
    pure (meter, full)

theorem value_mark (meter : SegmentMeter) (policy : RotationPolicy) (offset now : Nat) :
    (meter.mark policy offset now).value =
      if (meter.elapsed? policy now).isSome then (meter, true)
      else (meter.advance offset, decide (policy.maxBytes ≤ (meter.advance offset).written)) := by
  unfold mark
  cases meter.elapsed? policy now with
  | some interval => rfl
  | none =>
    simp only [Option.isSome_none, Bool.false_eq_true, if_false]
    split <;> rfl

end SegmentMeter

end Recrawl
