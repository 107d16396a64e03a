import Recrawl.Number.Decimal
import Recrawl.Number.Rounding

/-!
Single-precision numbers, kept as their bit pattern, and the number nearest to a
decimal.
-/
namespace Recrawl.Number

/-- A single-precision number: sign, eight bits of exponent, 23 bits of fraction. -/
structure Binary32 where
  bits : Nat
  deriving DecidableEq, Repr

namespace Binary32

def one : Binary32 := ⟨0x3F800000⟩

/-- The bits of the number nearest to a positive quotient, not above `2 ^ 128`. Numbers of the
binade from `2 ^ e` lie `2 ^ (e - 23)` apart, and not closer than `2 ^ (-149)`. -/
def magnitudeBits (numerator denominator : Nat) : Nat :=
  let top : Int := (Nat.log2 numerator : Int) - Nat.log2 denominator
  let binade : Int :=
    if numerator * powerOfTwo (-top) < denominator * powerOfTwo top then top - 1 else top
  let step : Int := max (binade - 23) (-149)
  let mantissa := roundHalfEven (numerator * powerOfTwo (-step)) (denominator * powerOfTwo step)
  (step + 149).toNat * 0x800000 + mantissa

/-- The number nearest to a decimal, if it is not above one in magnitude; smaller numbers that are
too close to zero become zero. -/
def ofUnitDecimal? (d : Decimal) : Option Binary32 :=
  let sign := if d.negative then 0x80000000 else 0
  let top := d.exponent + (Nat.toDigits 10 d.digits).length
  if d.digits == 0 || top < -60 then some ⟨sign⟩
  else if 2 < top then none
  else
    let bits := magnitudeBits (d.digits * powerOfTen d.exponent) (powerOfTen (-d.exponent))
    if bits ≤ one.bits then some ⟨sign + bits⟩ else none

def isNegative (x : Binary32) : Bool := 0x80000000 < x.bits

end Binary32

end Recrawl.Number
