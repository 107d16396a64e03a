import Recrawl.Number.Binary64
import Recrawl.Text.Integer
import Recrawl.Text.Quoted
import Recrawl.Value

/-!
Reading JSON. A reader takes a value of one kind from the front of a text and
returns what is left, so that of two faults in a text the first one is reported.
A text that is no JSON fails as ill-formed; a well-formed value of the wrong kind
fails with the reason.
-/
namespace Recrawl.Json

/-- What was found where something else was expected. -/
inductive Found
  | null
  | bool (b : Bool)
  | integer (n : Int)
  | float (x : Float)
  | string (s : String)
  | list
  | table

def Found.name : Found → String
  | null => "null"
  | bool b => if b then "boolean `true`" else "boolean `false`"
  | integer n => s!"integer `{n}`"
  | float x => "floating point `" ++ Number.Layout.scientific.write x ++ "`"
  | string s => "string " ++ Text.Quoted.quote s
  | list => "sequence"
  | table => "map"

inductive Fault
  /-- The text is not JSON. -/
  | illFormed
  /-- A value of another kind than expected. -/
  | wrongKind (found : Found) (expected : String)
  /-- A list with too few items for a record. -/
  | tooShort (length : Nat) (expected : String)
  /-- A name that is none of those allowed. -/
  | unknownName (name : String) (allowed : List String)
  | missingMember (key : String)
  | repeatedMember (key : String)
  /-- A value that is neither a string nor a list of strings. -/
  | neitherForm (type : String)

/-- The diagnostic for a fault; a text that is not JSON has none. -/
def Fault.message : Fault → String
  | illFormed => ""
  | wrongKind found expected => "invalid type: " ++ found.name ++ ", expected " ++ expected
  | tooShort length expected => s!"invalid length {length}, expected " ++ expected
  | unknownName name allowed =>
    "unknown variant `" ++ name ++ "`, expected one of " ++
      ", ".intercalate (allowed.map fun a => "`" ++ a ++ "`")
  | missingMember key => "missing field `" ++ key ++ "`"
  | repeatedMember key => "duplicate field `" ++ key ++ "`"
  | neitherForm type => "data did not match any variant of untagged enum " ++ type

abbrev Reader (α : Type) := List Char → Except Fault (α × List Char)

/-- How deep lists and tables may be nested. -/
def maxDepth : Nat := 127

def isBlank (c : Char) : Bool :=
  c == ' ' || c == '\n' || c == '\t' || c == '\r'

def skipBlanks (chars : List Char) : List Char :=
  chars.dropWhile isBlank

/-- The text behind the given characters. -/
def expect : List Char → List Char → Except Fault (List Char)
  | [], chars => .ok chars
  | c :: word, d :: rest => if c == d then expect word rest else .error .illFormed
  | _ :: _, [] => .error .illFormed

def hexUnit : List Char → Except Fault (Nat × List Char)
  | a :: b :: c :: d :: rest =>
    match Text.digitValue? 16 a, Text.digitValue? 16 b, Text.digitValue? 16 c,
        Text.digitValue? 16 d with
    | some a, some b, some c, some d => .ok (((a * 16 + b) * 16 + c) * 16 + d, rest)
    | _, _, _, _ => .error .illFormed
  | _ => .error .illFormed

def isHighSurrogate (unit : Nat) : Bool := 0xD800 ≤ unit && unit < 0xDC00

def isLowSurrogate (unit : Nat) : Bool := 0xDC00 ≤ unit && unit < 0xE000

/-- The character of an escape with a code unit, or of two such escapes that are a pair. Where the
text is only passed over (`lenient`), halves of a pair may stand alone. -/
def unitEscape (lenient : Bool) (chars : List Char) : Except Fault (Char × List Char) := do
  let (unit, rest) ← hexUnit chars
  if lenient then .ok (Char.ofNat 0xFFFD, rest)
  else if isLowSurrogate unit then .error .illFormed
  else if isHighSurrogate unit then
    let rest ← expect ['\\', 'u'] rest
    let (low, rest) ← hexUnit rest
    if isLowSurrogate low then
      .ok (Char.ofNat (0x10000 + (unit - 0xD800) * 0x400 + (low - 0xDC00)), rest)
    else .error .illFormed
  else .ok (Char.ofNat unit, rest)

def letterEscape? (c : Char) : Option Char :=
  if c == '\x22' || c == '\\' || c == '/' then some c
  else if c == 'b' then some '\x08'
  else if c == 'f' then some '\x0c'
  else if c == 'n' then some '\n'
  else if c == 'r' then some '\r'
  else if c == 't' then some '\t'
  else none

/-- The characters of a string up to its closing quote, behind those in `read` (latest first). The
first argument bounds the number of characters. -/
def stringBody (lenient : Bool) : Nat → List Char → Reader (List Char)
  | 0, _, _ => .error .illFormed
  | _ + 1, _, [] => .error .illFormed
  | bound + 1, read, c :: rest =>
    if c == '\x22' then .ok (read.reverse, rest)
    else if c == '\\' then
      match rest with
      | [] => .error .illFormed
      | e :: rest =>
        if e == 'u' then do
          let (c, rest) ← unitEscape lenient rest
          stringBody lenient bound (c :: read) rest
        else
          match letterEscape? e with
          | some c => stringBody lenient bound (c :: read) rest
          | none => .error .illFormed
    else if c.toNat < 0x20 then .error .illFormed
    else stringBody lenient bound (c :: read) rest

/-- The rest of a string whose opening quote has been read. -/
def restOfString (lenient : Bool) : Reader String := fun chars => do
  let (body, rest) ← stringBody lenient (chars.length + 1) [] chars
  .ok (String.ofList body, rest)

/-- Digits that still fit an unsigned 64-bit number, the value of those taken, how many were taken,
and the text from the first digit that does not fit or is none. -/
def fittingDigits : (count acc : Nat) → List Char → Nat × Nat × List Char
  | count, acc, [] => (count, acc, [])
  | count, acc, c :: rest =>
    match Text.digitValue? 10 c with
    | some d =>
      if acc * 10 + d < 0x10000000000000000 then fittingDigits (count + 1) (acc * 10 + d) rest
      else (count, acc, c :: rest)
    | none => (count, acc, c :: rest)

/-- A number of the form `significand * 10 ^ exponent`. Both factors are rounded on their own; a
result that is not finite is refused. -/
def scaled (negative : Bool) (significand : Nat) (exponent : Int) : Except Fault Value :=
  let finish (x : Float) : Except Fault Value :=
    if x.isInf then .error .illFormed else .ok (.float (if negative then -x else x))
  let whole := significand.toUInt64.toFloat
  if significand == 0 then finish 0
  else if 308 < exponent then .error .illFormed
  else if 0 ≤ exponent then finish (whole * Float.ofScientific 1 false exponent.toNat)
  else if -308 ≤ exponent then finish (whole / Float.ofScientific 1 false exponent.natAbs)
  else
    let reduced := whole / Float.ofScientific 1 false 308
    if -616 ≤ exponent then finish (reduced / Float.ofScientific 1 false (exponent.natAbs - 308))
    else finish 0

/-- The digits in front of a text, and the rest. -/
def spanDigits (chars : List Char) : List Char × List Char :=
  chars.span fun c => (Text.digitValue? 10 c).isSome

/-- The exponent behind a number, added to `start`. -/
def exponentPart (negative : Bool) (significand : Nat) (start : Int) : Reader Value := fun chars =>
  let (negativeExponent, chars) := match chars with
    | '+' :: rest => (false, rest)
    | '-' :: rest => (true, rest)
    | chars => (false, chars)
  let (digits, rest) := spanDigits chars
  if digits.isEmpty then .error .illFormed
  else
    let size := (Text.readDigits 10 (0x80000000 - 1) .tooLarge 0 digits).toOption
    match size with
    | some size =>
      let exponent := if negativeExponent then start - size else start + size
      (scaled negative significand exponent).map fun v => (v, rest)
    | none =>
      if significand != 0 && !negativeExponent then .error .illFormed
      else (scaled negative 0 0).map fun v => (v, rest)

/-- What follows the significand of a number that is not an integer. -/
def exponentOrEnd (negative : Bool) (significand : Nat) (exponent : Int) : Reader Value
  | 'e' :: rest => exponentPart negative significand exponent rest
  | 'E' :: rest => exponentPart negative significand exponent rest
  | rest => (scaled negative significand exponent).map fun v => (v, rest)

/-- The fraction behind the point of a number. -/
def fractionPart (negative : Bool) (significand : Nat) (exponent : Int) : Reader Value :=
  fun chars =>
  let (digits, rest) := spanDigits chars
  if digits.isEmpty then .error .illFormed
  else
    let (count, significand, _) := fittingDigits 0 significand digits
    exponentOrEnd negative significand (exponent - count) rest

/-- A number behind its sign. A number without point and exponent is an integer, if it fits 64
bits and is not a negative zero. -/
def restOfNumber (negative : Bool) : Reader Value := fun chars =>
  let (digits, rest) := spanDigits chars
  match digits with
  | [] => .error .illFormed
  | '0' :: _ :: _ => .error .illFormed
  | digits =>
    let (count, significand, _) := fittingDigits 0 0 digits
    let dropped : Int := ((digits.length - count : Nat) : Int)
    match rest with
    | '.' :: rest => fractionPart negative significand dropped rest
    | 'e' :: _ => exponentOrEnd negative significand dropped rest
    | 'E' :: _ => exponentOrEnd negative significand dropped rest
    | rest =>
      if dropped != 0 then (scaled negative significand dropped).map fun v => (v, rest)
      else if !negative then .ok (.integer significand, rest)
      else if significand == 0 || 0x8000000000000000 < significand then
        (scaled true significand 0).map fun v => (v, rest)
      else .ok (.integer (-(significand : Int)), rest)

/-- The text behind the exponent of a number, if it has one. -/
def passExponent : List Char → Except Fault (List Char)
  | [] => .ok []
  | c :: rest =>
    if c == 'e' || c == 'E' then
      let digits := match rest with
        | '+' :: digits => digits
        | '-' :: digits => digits
        | digits => digits
      match spanDigits digits with
      | ([], _) => .error .illFormed
      | (_, rest) => .ok rest
    else .ok (c :: rest)

/-- The text behind a number whose sign has been read. The number may be of any size. -/
def passNumber (chars : List Char) : Except Fault (List Char) :=
  match spanDigits chars with
  | ([], _) => .error .illFormed
  | ('0' :: _ :: _, _) => .error .illFormed
  | (_, '.' :: rest) =>
    match spanDigits rest with
    | ([], _) => .error .illFormed
    | (_, rest) => passExponent rest
  | (_, rest) => passExponent rest

/-- A number behind its sign. What it comes to does not count where it is only passed over. -/
def numberOrPass (lenient negative : Bool) : Reader Value := fun chars =>
  if lenient then (passNumber chars).map fun rest => (.null, rest)
  else restOfNumber negative chars

/-- The items of a list behind its opening bracket, read by `item`, up to the closing bracket. The
bound is on the number of items. -/
def items {α : Type} (item : Reader α) : Nat → List α → Reader (List α)
  | 0, _, _ => .error .illFormed
  | bound + 1, read, chars => do
    let (x, rest) ← item (skipBlanks chars)
    match skipBlanks rest with
    | ',' :: rest => items item bound (x :: read) rest
    | ']' :: rest => .ok ((x :: read).reverse, rest)
    | _ => .error .illFormed

/-- The items of a list behind its opening bracket. -/
def restOfList {α : Type} (item : Reader α) : Reader (List α) := fun chars =>
  match skipBlanks chars with
  | ']' :: rest => .ok ([], rest)
  | _ => items item (chars.length + 1) [] chars

/-- The members of a table from a key on: `member` reads the value behind a key and combines it
with what was read before. The bound is on the number of members. -/
def members {σ : Type} (lenient : Bool) (member : σ → String → Reader σ) : Nat → σ → Reader σ
  | 0, _, _ => .error .illFormed
  | bound + 1, state, chars =>
    match skipBlanks chars with
    | '\x22' :: rest => do
      let (key, rest) ← restOfString lenient rest
      let rest ← expect [':'] (skipBlanks rest)
      let (state, rest) ← member state key (skipBlanks rest)
      match skipBlanks rest with
      | ',' :: rest => members lenient member bound state rest
      | '\x7d' :: rest => .ok (state, rest)
      | _ => .error .illFormed
    | _ => .error .illFormed

/-- The members of a table behind its opening brace. -/
def restOfTable {σ : Type} (lenient : Bool) (member : σ → String → Reader σ) (initial : σ) :
    Reader σ := fun chars =>
  match skipBlanks chars with
  | '\x7d' :: rest => .ok (initial, rest)
  | _ => members lenient member (chars.length + 1) initial chars

/-- A value without blanks before it, with at most `depth` levels of lists and tables. -/
def valueAt (lenient : Bool) : (depth : Nat) → Reader Value
  | depth, c :: rest =>
    if c == 'n' then (expect "ull".toList rest).map fun rest => (.null, rest)
    else if c == 't' then (expect "rue".toList rest).map fun rest => (.bool true, rest)
    else if c == 'f' then (expect "alse".toList rest).map fun rest => (.bool false, rest)
    else if c == '\x22' then (restOfString lenient rest).map fun (s, rest) => (.string s, rest)
    else if c == '-' then numberOrPass lenient true rest
    else if c.isDigit then numberOrPass lenient false (c :: rest)
    else
      match depth with
      | 0 => .error .illFormed
      | depth + 1 =>
        if c == '[' then
          (restOfList (valueAt lenient depth) rest).map fun (xs, rest) => (.list xs, rest)
        else if c == '\x7b' then
          (restOfTable lenient (fun read key chars =>
              (valueAt lenient depth chars).map fun (v, rest) => ((key, v) :: read, rest))
            [] rest).map fun (ms, rest) => (.table ms.reverse, rest)
        else .error .illFormed
  | _, [] => .error .illFormed

def value (depth : Nat) : Reader Value := fun chars =>
  valueAt false depth (skipBlanks chars)

/-- Passes over a value of any depth; the strings in it need not be decodable, and the numbers may
be of any size. -/
def skip : Reader Unit := fun chars =>
  (valueAt true (chars.length + 1) (skipBlanks chars)).map fun (_, rest) => ((), rest)

/-- The failure for a value of another kind than expected: a list or a table is recognised by its
first character, any other value has to be read. -/
def wrongKind {α : Type} (expected : String) (chars : List Char) : Except Fault α :=
  match chars with
  | '[' :: _ => .error (.wrongKind .list expected)
  | '\x7b' :: _ => .error (.wrongKind .table expected)
  | chars =>
    match valueAt false 0 chars with
    | .ok (.null, _) => .error (.wrongKind .null expected)
    | .ok (.bool b, _) => .error (.wrongKind (.bool b) expected)
    | .ok (.integer n, _) => .error (.wrongKind (.integer n) expected)
    | .ok (.float x, _) => .error (.wrongKind (.float x) expected)
    | .ok (.string s, _) => .error (.wrongKind (.string s) expected)
    | .ok (_, _) => .error .illFormed
    | .error e => .error e

def string (expected : String) : Reader String := fun chars =>
  match skipBlanks chars with
  | '\x22' :: rest => restOfString false rest
  | chars => wrongKind expected chars

def complete {α : Type} (reader : Reader α) (text : String) : Except Fault α := do
  let (x, rest) ← reader text.toList
  if (skipBlanks rest).isEmpty then .ok x else .error .illFormed

def parse (text : String) : Except Fault Value :=
  complete (value maxDepth) text

end Recrawl.Json
