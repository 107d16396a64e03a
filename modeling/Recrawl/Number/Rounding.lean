/-!
Powers of the two bases in which numbers are written, and rounding a quotient to a
whole number.
-/
namespace Recrawl.Number

def powerOfTwo (n : Int) : Nat := Nat.pow 2 n.toNat

def powerOfTen (n : Int) : Nat := Nat.pow 10 n.toNat

/-- Rounds `numerator / denominator` to the nearest natural number, a half to the even one. -/
def roundHalfEven (numerator denominator : Nat) : Nat :=
  let quotient := numerator / denominator
  let twice := 2 * (numerator % denominator)
  if twice < denominator || (twice == denominator && quotient % 2 == 0) then quotient
  else quotient + 1

end Recrawl.Number
