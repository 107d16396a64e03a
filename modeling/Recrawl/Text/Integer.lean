/-!
Reading a decimal integer of bounded width. A reading fails at the first
character that is no digit or at the first digit that leaves the range,
whichever comes first.
-/
namespace Recrawl.Text

inductive IntegerFault
  | empty
  | invalidDigit
  | tooLarge
  | tooSmall
  deriving DecidableEq, Repr

namespace IntegerFault

def message : IntegerFault → String
  | empty => "cannot parse integer from empty string"
  | invalidDigit => "invalid digit found in string"
  | tooLarge => "number too large to fit in target type"
  | tooSmall => "number too small to fit in target type"

end IntegerFault

def digitValue? (base : Nat) (c : Char) : Option Nat :=
  let code := c.toNat
  let value :=
    if 0x30 ≤ code && code ≤ 0x39 then code - 0x30
    else if 0x61 ≤ code && code ≤ 0x7A then code - 0x57
    else if 0x41 ≤ code && code ≤ 0x5A then code - 0x37
    else base
  if value < base then some value else none

/-- The digits of a magnitude of at most `bound`, continuing from `acc`. -/
def readDigits (base bound : Nat) (overflow : IntegerFault) :
    Nat → List Char → Except IntegerFault Nat
  | acc, [] => .ok acc
  | acc, c :: rest =>
    match digitValue? base c with
    | none => .error .invalidDigit
    | some digit =>
      let next := acc * base + digit
      if next ≤ bound then readDigits base bound overflow next rest else .error overflow

/-- A natural number of at most `bound` in the given base, with an optional plus sign. -/
def readNat (base bound : Nat) : List Char → Except IntegerFault Nat
  | [] => .error .empty
  | ['+'] => .error .invalidDigit
  | '+' :: rest => readDigits base bound .tooLarge 0 rest
  | chars => readDigits base bound .tooLarge 0 chars

def readInt64 : List Char → Except IntegerFault Int
  | [] => .error .empty
  | ['+'] => .error .invalidDigit
  | ['-'] => .error .invalidDigit
  | '-' :: rest => (readDigits 10 (0x8000000000000000) .tooSmall 0 rest).map fun n => -(n : Int)
  | chars => (readNat 10 (0x8000000000000000 - 1) chars).map Int.ofNat

/-- An unsigned 32-bit integer with an optional plus sign. -/
def readUInt32 (chars : List Char) : Except IntegerFault Nat :=
  readNat 10 (0x100000000 - 1) chars

end Recrawl.Text
