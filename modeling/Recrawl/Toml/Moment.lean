import Recrawl.Time.Field
import Recrawl.Toml.Cursor
import Recrawl.Value

/-!
Dates and times of TOML: a date, a time of day, or both with or without an offset
from UTC.
-/
namespace Recrawl.Toml

/-- A number of exactly `width` digits within bounds. -/
def takeField (width low high : Nat) : Reader Nat := fun c =>
  match Time.Read.number width width c.rest with
  | some (_, n, _) =>
    if low ≤ n && n ≤ high then .ok (n, c.skip width)
    else .error { place := c.place, reason := some "value is out of range" }
  | none => refuse c

/-- A date, which is recognised by the hyphen behind the year. -/
def takeDate : Reader Unit := fun c => do
  let (year, c) ← takeField 4 0 9999 c
  let (_, c) ← takeText ['-'] c
  commit do
    let (month, c) ← takeField 2 1 12 c
    let (_, c) ← takeText ['-'] c
    let (day, next) ← takeField 2 1 31 c
    if (Time.Date.of? year month day).isSome then .ok ((), next)
    else .error { place := c.place, reason := some "value is out of range" }

def takeSecondFraction : Reader Unit := fun c => do
  let (_, c) ← takeText ['.'] c
  let isDigit (x : Char) : Bool := (Time.Read.digit? x).isSome
  let (_, c) ← takeChar isDigit c
  .ok ((), c.skipWhile isDigit)

/-- The text behind something that may be there. -/
def takeOptional (reader : Reader Unit) : Reader Unit := fun c => do
  match ← attempt (reader c) with
  | some result => .ok result
  | none => .ok ((), c)

/-- A time of day, which is recognised by the colon behind the hour. -/
def takeTime : Reader Unit := fun c => do
  let (_, c) ← takeField 2 0 23 c
  let (_, c) ← takeText [':'] c
  commit do
    let (_, c) ← takeField 2 0 59 c
    let (_, c) ← takeText [':'] c
    let (_, c) ← takeField 2 0 60 c
    takeOptional takeSecondFraction c

def takeOffset : Reader Unit := fun c =>
  within "time offset" (match c.rest with
    | 'Z' :: _ => .ok ((), c.skip 1)
    | 'z' :: _ => .ok ((), c.skip 1)
    | _ => do
      let (_, c) ← takeChar (fun x => x == '+' || x == '-') c
      commit do
        let (_, c) ← takeField 2 0 23 c
        let (_, c) ← takeText [':'] c
        let (_, c) ← takeField 2 0 59 c
        .ok ((), c))

/-- A time of day with its offset, behind a delimiter. -/
def takeDelimitedTime : Reader Unit := fun c => do
  let (_, c) ← takeChar (fun x => x == 'T' || x == 't' || x == ' ') c
  let (_, c) ← takeTime c
  takeOptional takeOffset c

def takeDateTime : Reader Unit := fun c => do
  let (_, c) ← takeDate c
  takeOptional takeDelimitedTime c

def takeMoment : Reader Value := fun c => do
  let (_, next) ← orTry (within "date-time" (takeDateTime c)) fun _ => within "time" (takeTime c)
  .ok (.date (String.ofList (c.textTo next)), next)

end Recrawl.Toml
