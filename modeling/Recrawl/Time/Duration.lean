import Recrawl.Number.Binary64
import Recrawl.Time.Format

/-!
Spans of time in whole nanoseconds: reading one from a number of seconds, and
writing one in the largest unit that has a whole part.
-/
namespace Recrawl.Time

structure Duration where
  nanos : Nat
  deriving DecidableEq, Repr

namespace Duration

inductive Fault
  | negative
  | tooBig
  deriving DecidableEq, Repr

def Fault.message : Fault → String
  | negative => "cannot convert float seconds to Duration: value is negative"
  | tooBig => "cannot convert float seconds to Duration: value is either too big or NaN"

def ofSeconds (seconds : Nat) : Duration := ⟨seconds * nanosPerSecond⟩

/-- The nearest span to a number of seconds below `2 ^ 64`. -/
def ofSeconds? (seconds : Float) : Except Fault Duration :=
  if seconds < 0.0 then .error .negative
  else
    match Number.Binary.ofFloat? seconds with
    | none => .error .tooBig
    | some b =>
      let num := b.mantissa * Number.powerOfTwo b.exponent
      let den := Number.powerOfTwo (-b.exponent)
      if num < 0x10000000000000000 * den then .ok ⟨Number.roundHalfEven (num * nanosPerSecond) den⟩
      else .error .tooBig

/-- A number of units, of which each has `10 ^ places` parts, without zeros at the end. -/
def decimalText (places parts : Nat) : String :=
  let digits := (padded places (parts % Nat.pow 10 places)).toList.reverse.dropWhile (· == '0')
  let fraction := if digits.isEmpty then "" else "." ++ String.ofList digits.reverse
  toString (parts / Nat.pow 10 places) ++ fraction

/-- The written form, such as `1.5s`, `20ms`, `7µs` or `0ns`. -/
def toText (d : Duration) : String :=
  if nanosPerSecond ≤ d.nanos then decimalText 9 d.nanos ++ "s"
  else if 1000000 ≤ d.nanos then decimalText 6 d.nanos ++ "ms"
  else if 1000 ≤ d.nanos then decimalText 3 d.nanos ++ "µs"
  else toString d.nanos ++ "ns"

end Duration

end Recrawl.Time
