/-!
Numeric hosts: addresses of four bytes in decimal, octal or hexadecimal parts, and
addresses of eight groups in hexadecimal, where one run of zero groups may be left
out.
-/
namespace Recrawl.Url

namespace Ipv4

def digitValue? (base : Nat) (c : Char) : Option Nat :=
  let code := c.toNat
  let value :=
    if 0x30 ≤ code && code ≤ 0x39 then code - 0x30
    else if 0x41 ≤ code && code ≤ 0x46 then code - 0x37
    else if 0x61 ≤ code && code ≤ 0x66 then code - 0x57
    else base
  if value < base then some value else none

/-- The number that digits of the given base spell. No digits spell zero. -/
def readDigits? (base : Nat) (digits : List Char) : Option Nat :=
  digits.foldlM (fun number c => (digitValue? base c).map (number * base + ·)) 0

/-- One part of an address: hexadecimal behind `0x`, octal behind `0`, else decimal. -/
def readPart? : List Char → Option Nat
  | [] => none
  | '0' :: 'x' :: digits => readDigits? 16 digits
  | '0' :: 'X' :: digits => readDigits? 16 digits
  | '0' :: c :: digits => readDigits? 8 (c :: digits)
  | digits => readDigits? 10 digits

/-- The parts of a name between its dots, without an empty last part. -/
def partsOf (name : List Char) : List (List Char) :=
  let parts := name.splitOnP (· == '.')
  if parts.getLast? == some [] then parts.dropLast else parts

/-- The name has a number behind its last dot, so that it has to be an address. -/
def isClaimed (name : List Char) : Bool :=
  match (partsOf name).getLast? with
  | some part => (!part.isEmpty && part.all (·.isDigit)) || (readPart? part).isSome
  | none => false

/-- Puts the parts together: each but the last is one byte, and the last fills the rest. -/
def combine? : Nat → List Nat → Option Nat
  | _, [] => none
  | size, [last] => if last < Nat.pow 256 size then some last else none
  | size, part :: rest =>
    if part < 256 then (combine? (size - 1) rest).map (part * Nat.pow 256 (size - 1) + ·) else none

def parse? (name : List Char) : Option Nat := do
  let parts := partsOf name
  let numbers ← parts.mapM readPart?
  if numbers.length ≤ 4 then combine? 4 numbers else none

/-- The four bytes of an address in decimal, between dots. -/
def render (address : Nat) : List Char :=
  List.intercalate ['.'] ([24, 16, 8, 0].map fun shift =>
    Nat.toDigits 10 (address / Nat.pow 2 shift % 256))

end Ipv4

namespace Ipv6

/-- Reading in progress: the groups so far (last first), and how many there were at the gap. -/
structure Reading where
  groups : List Nat := []
  gap : Option Nat := none

/-- The number that a byte in decimal spells: at most 255, and no zero in front. -/
def readByte? (digits : List Char) : Option Nat :=
  match digits with
  | [] => none
  | '0' :: _ :: _ => none
  | _ =>
    match Ipv4.readDigits? 10 digits with
    | some value => if value ≤ 255 then some value else none
    | none => none

def readTail? (chars : List Char) : Option (List Nat) :=
  match (chars.splitOnP (· == '.')).mapM readByte? with
  | some [a, b, c, d] => some [a * 256 + b, c * 256 + d]
  | _ => none

/-- A group has at most four hexadecimal digits. -/
def groupDigits (chars : List Char) : List Char :=
  (chars.take 4).takeWhile fun c => (Ipv4.digitValue? 16 c).isSome

def readGroups? : Nat → List Char → Reading → Option Reading
  | 0, _, _ => none
  | _, [], reading => some reading
  | fuel + 1, chars, reading =>
    if reading.groups.length == 8 then none
    else if chars.headD ' ' == ':' then
      match reading.gap with
      | some _ => none
      | none =>
        readGroups? fuel (chars.drop 1)
          ⟨0 :: reading.groups, some (reading.groups.length + 1)⟩
    else
      let digits := groupDigits chars
      let group := (Ipv4.readDigits? 16 digits).getD 0
      match chars.drop digits.length with
      | [] => some { reading with groups := group :: reading.groups }
      | '.' :: _ =>
        if digits.isEmpty || reading.groups.length > 6 then none
        else (readTail? chars).map fun tail =>
          { reading with groups := tail.reverse ++ reading.groups }
      | ':' :: next =>
        if next.isEmpty then none
        else readGroups? fuel next { reading with groups := group :: reading.groups }
      | _ => none

def parse? (chars : List Char) : Option (List Nat) := do
  let reading ←
    match chars with
    | ':' :: ':' :: rest => readGroups? (rest.length + 1) rest ⟨[0], some 1⟩
    | ':' :: _ => none
    | [] => none
    | [_] => none
    | _ => readGroups? (chars.length + 1) chars {}
  let groups := reading.groups.reverse
  match reading.gap with
  | none => if groups.length == 8 then some groups else none
  | some gap =>
    some (groups.take gap ++ List.replicate (8 - groups.length) 0 ++ groups.drop gap)

def zerosAhead (groups : List Nat) : Nat :=
  (groups.takeWhile (· == 0)).length

/-- Where the first of the longest runs of zero groups starts, and its length, if it has two groups
or more. -/
def longestZeros? (groups : List Nat) : Option (Nat × Nat) :=
  let best := (List.range groups.length).foldl (fun (start, size) index =>
    let here := zerosAhead (groups.drop index)
    if size < here then (index, here) else (start, size)) (0, 0)
  if 2 ≤ best.2 then some best else none

def renderGroups (groups : List Nat) : List Char :=
  List.intercalate [':'] (groups.map (Nat.toDigits 16))

/-- The shortest text of an address: two colons stand for the longest run of zero groups. -/
def render (groups : List Nat) : List Char :=
  match longestZeros? groups with
  | none => renderGroups groups
  | some (start, size) =>
    renderGroups (groups.take start) ++ [':', ':'] ++ renderGroups (groups.drop (start + size))

end Ipv6

end Recrawl.Url
