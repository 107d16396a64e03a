/-!
Punycode: a text of any characters written with letters, digits and hyphens. The
ASCII characters come first; the others follow in ascending order, each as the
number of steps that lead from the one before to its value and place. A number
is written with digits of base 36 whose weights adapt to the numbers seen.
-/
namespace Recrawl.Url.Punycode

def leastThreshold : Nat := 1

def greatestThreshold : Nat := 26

def firstBias : Nat := 72

/-- A digit below the threshold ends the number. `position` grows by 36 from digit to digit. -/
def threshold (bias position : Nat) : Nat :=
  max leastThreshold (min greatestThreshold (position - bias))

theorem threshold_pos (bias position : Nat) : 0 < threshold bias position := by
  unfold threshold leastThreshold
  omega

theorem threshold_le (bias position : Nat) : threshold bias position ≤ 26 := by
  unfold threshold leastThreshold greatestThreshold
  omega

/-- Divides by 35 until at most 455 is left; 36 is added to `count` for each division. -/
def scale (delta count : Nat) : Nat × Nat :=
  if 455 < delta then scale (delta / 35) (count + 36) else (delta, count)
termination_by delta

/-- The bias after a number, where `size` characters are placed so far. -/
def adapt (delta size : Nat) (first : Bool) : Nat :=
  let damped := if first then delta / 700 else delta / 2
  let (rest, count) := scale (damped + damped / size) 0
  count + 36 * rest / (rest + 38)

def digit (value : Nat) : Char :=
  Char.ofNat (if value < 26 then 0x61 + value else 0x16 + value)

/-- The value of a digit; letters may have either case. -/
def digitValue? (c : Char) : Option Nat :=
  let code := c.toNat
  if 0x61 ≤ code && code ≤ 0x7A then some (code - 0x61)
  else if 0x41 ≤ code && code ≤ 0x5A then some (code - 0x41)
  else if 0x30 ≤ code && code ≤ 0x39 then some (code - 0x16)
  else none

def encodeNumber (bias position number : Nat) : List Char :=
  let least := threshold bias position
  if number < least then [digit number]
  else
    digit (least + (number - least) % (36 - least)) ::
      encodeNumber bias (position + 36) ((number - least) / (36 - least))
termination_by number
decreasing_by
  have hp := threshold_pos bias position
  exact Nat.lt_of_le_of_lt (Nat.div_le_self _ _) (by omega)

/-- Encoding in progress: digits written (last first), steps since the last number, bias, and how
many characters are placed. -/
structure Encoding where
  written : List Char
  delta : Nat
  bias : Nat
  placed : Nat

/-- Passes one character of the text while the characters of value `code` are placed. -/
def Encoding.pass (basic code : Nat) (state : Encoding) (c : Char) : Encoding :=
  if c.toNat < code then { state with delta := state.delta + 1 }
  else if c.toNat == code then
    { written := (encodeNumber state.bias 36 state.delta).reverse ++ state.written
      delta := 0
      bias := adapt state.delta (state.placed + 1) (state.placed == basic)
      placed := state.placed + 1 }
  else state

/-- Places the characters of the given values, which ascend from `code` on. -/
def encodeValues (text : List Char) (basic : Nat) : Nat → List Nat → Encoding → Encoding
  | _, [], state => state
  | code, next :: rest, state =>
    let risen := { state with delta := state.delta + (next - code) * (state.placed + 1) }
    let passed := text.foldl (Encoding.pass basic next) risen
    encodeValues text basic (next + 1) rest { passed with delta := passed.delta + 1 }

/-- Adds a number to an ascending list that holds each number once. -/
def insertValue (code : Nat) : List Nat → List Nat
  | [] => [code]
  | least :: rest =>
    if code < least then code :: least :: rest
    else if code == least then least :: rest
    else least :: insertValue code rest

/-- The values of the characters beyond ASCII, ascending, each once. -/
def valuesOf (text : List Char) : List Nat :=
  ((text.map Char.toNat).filter fun code => 0x80 ≤ code).foldr insertValue []

def encode (text : List Char) : List Char :=
  let basic := text.filter fun c => c.toNat < 0x80
  let written := (encodeValues text basic.length 0x80 (valuesOf text)
    ⟨[], 0, firstBias, basic.length⟩).written.reverse
  basic ++ (if basic.isEmpty then written else '-' :: written)

/-- Decoding in progress: the text so far, the value of the last character placed, its index, the
bias, and the number being read: its value, the weight and position of its next digit. -/
structure Decoding where
  text : List Char
  code : Nat := 0x80
  index : Nat := 0
  bias : Nat := firstBias
  number : Nat := 0
  weight : Nat := 1
  position : Nat := 36

/-- Reads one digit. A last digit completes the number and places a character. -/
def Decoding.step (state : Decoding) (c : Char) : Option Decoding :=
  match digitValue? c with
  | none => none
  | some value =>
    let number := state.number + value * state.weight
    let least := threshold state.bias state.position
    if value < least then
      let size := state.text.length + 1
      let steps := state.index + number
      let code := state.code + steps / size
      let index := steps % size
      if h : code.isValidChar then
        some {
          text := state.text.take index ++ Char.ofNatAux code h :: state.text.drop index
          code := code
          index := index + 1
          bias := adapt number size (state.index == 0) }
      else none
    else some { state with
      number := number, weight := state.weight * (36 - least), position := state.position + 36 }

/-- Splits an encoded text at its last hyphen; a hyphen at the very start does not count. -/
def splitEncoded (encoded : List Char) : List Char × List Char :=
  let digits := (encoded.reverse.takeWhile (· != '-')).reverse
  let basic := encoded.take (encoded.length - digits.length - 1)
  if basic.isEmpty then ([], encoded) else (basic, digits)

def decode? (encoded : List Char) : Option (List Char) := do
  let (basic, digits) := splitEncoded encoded
  let state ← digits.foldlM Decoding.step { text := basic }
  if state.position == 36 then some state.text else none

end Recrawl.Url.Punycode
