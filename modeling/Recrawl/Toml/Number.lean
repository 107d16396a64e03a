import Recrawl.Number.Decimal
import Recrawl.Text.Integer
import Recrawl.Toml.Cursor
import Recrawl.Value

/-!
Numbers of TOML: floats, with a fraction or an exponent or without digits, and
integers of 64 bits in four bases. An underscore may stand between two digits.
-/
namespace Recrawl.Toml

/-- The digits behind the ones in `acc`, the last one of which is first. -/
def takeMoreDigits (isDigit : Char → Bool) : (bound : Nat) → (acc : List Char) →
    Reader (List Char)
  | 0, acc, c => .ok (acc.reverse, c)
  | bound + 1, acc, c =>
    match c.rest with
    | '_' :: rest =>
      match rest.head?.filter isDigit with
      | some digit => takeMoreDigits isDigit bound (digit :: acc) (c.skip 2)
      | none => expecting ["digit"] (commit (refuse (c.skip 1)))
    | digit :: _ =>
      if isDigit digit then takeMoreDigits isDigit bound (digit :: acc) (c.skip 1)
      else .ok (acc.reverse, c)
    | [] => .ok (acc.reverse, c)

def takeDigits (isDigit : Char → Bool) : Reader (List Char) := fun c => do
  let (digit, next) ← takeChar isDigit c
  takeMoreDigits isDigit c.rest.length [digit] next

/-- A sign, of which only the minus is kept. -/
def takeSign (c : Cursor) : List Char × Cursor :=
  match c.rest with
  | '-' :: _ => (['-'], c.skip 1)
  | '+' :: _ => ([], c.skip 1)
  | _ => ([], c)

/-- A whole number with its sign. A zero is its only digit. -/
def takeWhole : Reader (List Char) := fun c =>
  let (sign, c) := takeSign c
  within "integer" (match c.rest with
    | '0' :: _ => .ok (sign ++ ['0'], c.skip 1)
    | _ => (takeDigits Number.Decimal.isDigit c).map fun (digits, c) => (sign ++ digits, c))

def takeExponent : Reader (List Char) := fun c => do
  let (_, c) ← takeChar (fun x => x == 'e' || x == 'E') c
  let (sign, c) := takeSign c
  let (digits, c) ← commit (takeDigits Number.Decimal.isDigit c)
  .ok ('e' :: (sign ++ digits), c)

def takeFraction : Reader (List Char) := fun c => do
  let (point, c) ← takeChar (· == '.') c
  let (digits, c) ← expecting ["digit"] (commit (takeDigits Number.Decimal.isDigit c))
  .ok (point :: digits, c)

/-- A fraction, perhaps with an exponent, or an exponent. -/
def takeTail : Reader (List Char) := fun c => do
  match ← attempt (takeExponent c) with
  | some result => .ok result
  | none =>
    let (fraction, c) ← takeFraction c
    match ← attempt (takeExponent c) with
    | some (exponent, c) => .ok (fraction ++ exponent, c)
    | none => .ok (fraction, c)

def infinity : Float := Float.ofBits 0x7FF0000000000000

/-- A float with digits. One that is too large is none; one that is too small is infinite. -/
def takeFiniteFloat : Reader Value := fun c => do
  let (whole, next) ← takeWhole c
  let (tail, next) ← takeTail next
  match Number.Decimal.parse? (whole ++ tail) with
  | some decimal =>
    let x := decimal.toFloat
    if x == infinity then commit (refuse c) else .ok (.float x, next)
  | none => commit (refuse c)

def takeSpecialFloat : Reader Value := fun c =>
  let (sign, next) := takeSign c
  let signed (x : Float) : Value := .float (if sign.isEmpty then x else -x)
  match next.rest with
  | 'i' :: 'n' :: 'f' :: _ => .ok (signed infinity, next.skip 3)
  | 'n' :: 'a' :: 'n' :: _ => .ok (signed (Float.ofBits 0x7FF8000000000000), next.skip 3)
  | _ => refuse next

def takeFloat : Reader Value := fun c =>
  within "floating-point number" (orTry (takeFiniteFloat c) fun _ => takeSpecialFloat c)

/-- An integer whose digits were read, from the place `start` on. -/
def integerAt (start : Cursor) (result : Except Text.IntegerFault Int) (next : Cursor) :
    Except Fault (Value × Cursor) :=
  match result with
  | .ok n => .ok (.integer n, next)
  | .error fault =>
    .error { place := start.place, reason := some fault.message, isFinal := true }

/-- An integer in a base other than ten, behind two characters that tell the base. -/
def takeIntegerIn (base : Nat) (name : String) : Reader Value := fun c => do
  let isDigit (x : Char) : Bool := (Text.digitValue? base x).isSome
  let (digits, next) ← within s!"{name} integer" (commit (takeDigits isDigit (c.skip 2)))
  integerAt c ((Text.readNat base (0x8000000000000000 - 1) digits).map Int.ofNat) next

def takeInteger : Reader Value := fun c =>
  match c.rest with
  | '0' :: 'x' :: _ => takeIntegerIn 16 "hexadecimal" c
  | '0' :: 'o' :: _ => takeIntegerIn 8 "octal" c
  | '0' :: 'b' :: _ => takeIntegerIn 2 "binary" c
  | _ => do
    let (digits, next) ← takeWhole c
    integerAt c (Text.readInt64 digits) next

end Recrawl.Toml
