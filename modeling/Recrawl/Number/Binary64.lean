import Recrawl.Number.Rounding

/-!
Double-precision numbers as exact values: a sign, and a natural number times a
power of two. The decimal form of a number has the fewest digits that read back
as the same number, and of those the nearest; which of two is taken at the same
distance, and how the digits are laid out, is left to a layout.
-/
namespace Recrawl.Number

/-- Which of two digits is taken if a number is as near to the one as to the other. -/
inductive Tie
  | up
  | toEven
  deriving DecidableEq, Repr

/-- A finite number: `mantissa * 2 ^ exponent`, with a sign. -/
structure Binary where
  negative : Bool
  mantissa : Nat
  exponent : Int
  deriving DecidableEq, Repr

namespace Binary

def minExponent : Int := -1074

/-- The exact value of a finite number; none for infinities and for what is no number. -/
def ofFloat? (x : Float) : Option Binary :=
  let bits : Nat := x.toBits.toNat
  let negative := bits / 0x8000000000000000 == 1
  let biased : Nat := bits / 0x10000000000000 % 2048
  let fraction : Nat := bits % 0x10000000000000
  if biased == 2047 then none
  else if biased == 0 then some ⟨negative, fraction, minExponent⟩
  else some ⟨negative, 0x10000000000000 + fraction, (biased : Int) - 1075⟩

def compareDecimal (a : Nat) (p : Int) (b : Nat) (e : Int) : Ordering :=
  compare (a * powerOfTwo p * powerOfTen (-e)) (b * powerOfTen e * powerOfTwo (-p))

def quotientDecimal (a : Nat) (p e : Int) : Nat :=
  (a * powerOfTwo p * powerOfTen (-e)) / (powerOfTen e * powerOfTwo (-p))

/-- The number of digits of a positive number before the decimal point, negative if zeros follow
the point first. -/
def magnitude (b : Binary) : Int :=
  let whole := quotientDecimal b.mantissa b.exponent 0
  if 0 < whole then ((Nat.toDigits 10 whole).length : Int)
  else
    let inverse := powerOfTwo (-b.exponent) / b.mantissa
    let digits := (Nat.toDigits 10 inverse).length
    if compareDecimal b.mantissa b.exponent 1 (1 - (digits : Int)) == .lt then 1 - (digits : Int)
    else 2 - (digits : Int)

/-- `c * 10 ^ e` reads back as the number: it lies between the midpoints to its neighbours, which
count for an even mantissa. -/
def readsBack (b : Binary) (c : Nat) (e : Int) : Bool :=
  let below := if b.mantissa == 0x10000000000000 && minExponent < b.exponent then 1 else 2
  let low := compareDecimal (4 * b.mantissa - below) (b.exponent - 2) c e
  let high := compareDecimal (4 * b.mantissa + 2) (b.exponent - 2) c e
  if b.mantissa % 2 == 0 then low != .gt && high != .lt else low == .lt && high == .gt

/-- Of the two neighbours of the number on the grid of multiples of `10 ^ e`, the nearest that
reads back; at the same distance the greater one or the even one. -/
def onGrid? (b : Binary) (tie : Tie) (e : Int) : Option Nat :=
  let c := quotientDecimal b.mantissa b.exponent e
  match readsBack b c e, readsBack b (c + 1) e with
  | false, false => none
  | true, false => some c
  | false, true => some (c + 1)
  | true, true =>
    match compareDecimal (2 * b.mantissa) b.exponent (2 * c + 1) e with
    | .lt => some c
    | .gt => some (c + 1)
    | .eq => some (if tie == .toEven && c % 2 == 0 then c else c + 1)

/-- The coarsest of the grids with `count`, `count + 1`, … digits, `more` in number, that has a
point that reads back: its digits and its exponent. -/
def shortestFrom (b : Binary) (tie : Tie) (top : Int) : (count more : Nat) → Nat × Int
  | count, 0 => (quotientDecimal b.mantissa b.exponent (top - count), top - count)
  | count, more + 1 =>
    match onGrid? b tie (top - count) with
    | some c => (c, top - count)
    | none => shortestFrom b tie top (count + 1) more

/-- The digits without zeros at the end, and the exponent of the last one. -/
def dropZeros : List Char → Int → List Char × Int
  | '0' :: rest, e => dropZeros rest (e + 1)
  | digits, e => (digits.reverse, e)

/-- The fewest digits of a positive number, and the power of ten of the last digit. -/
def shortest (b : Binary) (tie : Tie) : List Char × Int :=
  let (c, e) := shortestFrom b tie b.magnitude 1 17
  dropZeros (Nat.toDigits 10 c).reverse e

end Binary

structure Layout where
  /-- The choice between two texts of the same length that are equally near. -/
  tie : Tie
  /-- A whole number is written with `.0`. -/
  pointZero : Bool
  /-- Numbers of up to so many digits before the point are written without an exponent. -/
  maxWhole : Option Nat
  /-- Numbers of up to so many zeros after the point are written without an exponent. -/
  maxZeros : Option Nat

namespace Layout

/-- Every number in full, whole numbers without a point. -/
def plain : Layout := ⟨.up, false, none, none⟩

/-- Exponents from 17 digits before the point and from five zeros after it; a point in every number
without an exponent. -/
def scientific : Layout := ⟨.toEven, true, some 16, some 4⟩

/-- Digits with a decimal point after the first `point` of them. -/
def positional (layout : Layout) (digits : List Char) (point : Int) : List Char :=
  if point ≤ 0 then '0' :: '.' :: (List.replicate point.natAbs '0' ++ digits)
  else if (digits.length : Int) ≤ point then
    digits ++ List.replicate (point.toNat - digits.length) '0' ++
      (if layout.pointZero then ['.', '0'] else [])
  else digits.take point.toNat ++ '.' :: digits.drop point.toNat

/-- One digit, a point and the others, and an exponent with its sign. -/
def withExponent (digits : List Char) (point : Int) : List Char :=
  let tail := digits.drop 1
  let exponent := (if 1 ≤ point then ['+'] else []) ++ (toString (point - 1)).toList
  digits.take 1 ++ (if tail.isEmpty then [] else '.' :: tail) ++ 'e' :: exponent

def write (layout : Layout) (x : Float) : String :=
  match Binary.ofFloat? x with
  | none => if x.isNaN then "NaN" else if x < 0 then "-inf" else "inf"
  | some b =>
    let body :=
      if b.mantissa == 0 then (if layout.pointZero then ['0', '.', '0'] else ['0'])
      else
        let (digits, e) := b.shortest layout.tie
        let point := (digits.length : Int) + e
        let inFull := layout.maxWhole.all (fun most => point ≤ most) &&
          layout.maxZeros.all fun most => -(most : Int) ≤ point
        if inFull then positional layout digits point else withExponent digits point
    String.ofList (if b.negative then '-' :: body else body)

end Layout

end Recrawl.Number
