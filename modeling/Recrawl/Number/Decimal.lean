import Recrawl.Text.Integer

/-!
Numbers as they are written in decimal: a sign, digits with an optional point,
and an optional exponent. They are read as exact values and rounded afterwards.
-/
namespace Recrawl.Number

/-- A written number: `digits * 10 ^ exponent`, with a sign. -/
structure Decimal where
  negative : Bool
  digits : Nat
  exponent : Int
  deriving DecidableEq, Repr

namespace Decimal

def isDigit (c : Char) : Bool := 0x30 ≤ c.toNat && c.toNat ≤ 0x39

def digitsValue (digits : List Char) : Nat :=
  digits.foldl (fun acc c => acc * 10 + (c.toNat - 0x30)) 0

/-- A sign, if there is one. -/
def takeSign : List Char → Bool × List Char
  | '-' :: rest => (true, rest)
  | '+' :: rest => (false, rest)
  | chars => (false, chars)

/-- The exponent behind a number: nothing, or `e` with an integer, up to the end of the text. -/
def readExponent? : List Char → Option Int
  | [] => some 0
  | c :: rest =>
    if c == 'e' || c == 'E' then
      let (negative, digits) := takeSign rest
      if !digits.isEmpty && digits.all isDigit then
        let n : Int := digitsValue digits
        some (if negative then -n else n)
      else none
    else none

/-- A number that takes up the whole text, with digits on at least one side of its point. -/
def parse? (chars : List Char) : Option Decimal :=
  let (negative, chars) := takeSign chars
  let (whole, chars) := chars.span isDigit
  let (fraction, chars) := match chars with
    | '.' :: rest => rest.span isDigit
    | chars => ([], chars)
  if whole.isEmpty && fraction.isEmpty then none
  else (readExponent? chars).map fun e =>
    ⟨negative, digitsValue (whole ++ fraction), e - fraction.length⟩

/-- The double-precision number nearest to a decimal. -/
def toFloat (d : Decimal) : Float :=
  let magnitude :=
    if d.digits == 0 then 0
    else
      let top := d.exponent + (Nat.toDigits 10 d.digits).length
      if 400 < top then Float.ofBits 0x7FF0000000000000
      else if top < -400 then 0
      else if 0 ≤ d.exponent then Float.ofScientific d.digits false d.exponent.toNat
      else Float.ofScientific d.digits true (-d.exponent).toNat
  if d.negative then -magnitude else magnitude

end Decimal

end Recrawl.Number
