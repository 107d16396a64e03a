import Recrawl.Text.Integer
import Recrawl.Toml.Cursor

/-!
Strings of TOML in their four forms: between double quotes with escapes, or between
single quotes without; in one line, or over several between three quotes.
-/
namespace Recrawl.Toml

def letterEscape? (c : Char) : Option Char :=
  if c == '\x22' || c == '\\' then some c
  else if c == 'b' then some '\x08'
  else if c == 'f' then some '\x0c'
  else if c == 'n' then some '\n'
  else if c == 'r' then some '\r'
  else if c == 't' then some '\t'
  else none

def escapeLetters : List String :=
  ["`b`", "`f`", "`n`", "`r`", "`t`", "`u`", "`U`", "`\\`", "`\x22`"]

/-- A character by the hexadecimal digits of its code point, of which there are `width`. -/
def takeCodePoint (width : Nat) : Reader Char := fun c =>
  let values := (c.rest.take width).filterMap (Text.digitValue? 16)
  let code := values.foldl (fun acc digit => acc * 16 + digit) 0
  within s!"unicode {width}-digit hex code"
    (if values.length < width then commit (refuse c)
    else if code.isValidChar then .ok (Char.ofNat code, c.skip width)
    else .error { place := c.place, reason := some "value is out of range", isFinal := true })

/-- The character of the escape behind a backslash. A letter that is no escape is passed over by its
first byte. -/
def takeEscape : Reader Char := fun c =>
  match c.rest with
  | [] => refuse c
  | letter :: _ =>
    let after := c.skip 1
    if letter == 'u' then takeCodePoint 4 after
    else if letter == 'U' then takeCodePoint 8 after
    else
      match letterEscape? letter with
      | some x => .ok (x, after)
      | none =>
        expecting escapeLetters (within "escape sequence"
          (commit (refuse (if letter.utf8Size == 1 then after else c))))

/-- A piece of a string without escapes: one character. -/
def takeLiteralPiece : Reader (List Char) := fun c =>
  (takeChar (fun x => isPlain x && x != '\x27') c).map fun (x, c) => ([x], c)

/-- A piece of a string with escapes: a character or an escape. -/
def takeBasicPiece : Reader (List Char) := fun c =>
  match c.rest with
  | '\\' :: _ => (takeEscape (c.skip 1)).map fun (x, c) => ([x], c)
  | _ => (takeChar (fun x => isPlain x && x != '\x22') c).map fun (x, c) => ([x], c)

/-- A line break, or else a piece of another kind. -/
def takeBreakOr (piece : Reader (List Char)) : Reader (List Char) := fun c =>
  let length := breakLength c.rest
  if 0 < length then .ok (['\n'], c.skip length) else piece c

/-- A piece of a string with escapes over several lines. A backslash at the end of a line joins it
with the next text. -/
def takeFoldedPiece : Reader (List Char) := fun c =>
  let next := skipBlanks (c.skip 1)
  if c.rest.head? == some '\\' && 0 < breakLength next.rest then
    .ok ([], next.skip (gapLength next.rest))
  else takeBreakOr takeBasicPiece c

def unclosed {α : Type} (subject : String) (c : Cursor) : Except Fault α :=
  commit (within subject (refuse c))

/-- The rest of a string in one line, behind the characters `acc`. -/
def takeLineBody (subject : String) (quote : Char) (piece : Reader (List Char)) :
    (bound : Nat) → (acc : List Char) → Reader String
  | 0, _, c => unclosed subject c
  | bound + 1, acc, c => do
    if c.rest.head? == some quote then .ok (String.ofList acc.reverse, c.skip 1)
    else
      match ← attempt (piece c) with
      | some (text, next) => takeLineBody subject quote piece bound (text.reverse ++ acc) next
      | none => unclosed subject c

/-- The rest of a string over several lines, behind the characters `acc`. One or two quotes belong
to it if more of it follows, and up to two may stand in front of the closing three. -/
def takeLinesBody (subject : String) (quote : Char) (piece : Reader (List Char)) :
    (bound : Nat) → (acc : List Char) → Reader String
  | 0, _, c => unclosed subject c
  | bound + 1, acc, c => do
    let count := (c.rest.takeWhile (· == quote)).length
    if 3 ≤ count then
      let taken := min count 5
      let text := List.replicate (taken - 3) quote ++ acc
      .ok (String.ofList text.reverse, c.skip taken)
    else
      let start := c.skip count
      let result := piece start
      let result := if count == 0 then result
        else result.mapError fun fault => { fault with place := start.place }
      match ← attempt result with
      | some (text, next) =>
        let acc := text.reverse ++ (List.replicate count quote ++ acc)
        takeLinesBody subject quote piece bound acc next
      | none => unclosed subject c

def takeLineString : Reader String := fun c =>
  let bound := c.rest.length
  match c.rest with
  | '\x22' :: _ => takeLineBody "basic string" '\x22' takeBasicPiece bound [] (c.skip 1)
  | '\x27' :: _ => takeLineBody "literal string" '\x27' takeLiteralPiece bound [] (c.skip 1)
  | _ => refuse c

/-- The place behind three quotes and a line break, which does not belong to the string. -/
def openLines (c : Cursor) : Cursor :=
  let c := c.skip 3
  c.skip (breakLength c.rest)

def takeString : Reader String := fun c =>
  let bound := c.rest.length
  match c.rest with
  | '\x22' :: '\x22' :: '\x22' :: _ =>
    takeLinesBody "multiline basic string" '\x22' takeFoldedPiece bound [] (openLines c)
  | '\x27' :: '\x27' :: '\x27' :: _ =>
    takeLinesBody "multiline literal string" '\x27' (takeBreakOr takeLiteralPiece) bound []
      (openLines c)
  | _ => takeLineString c

end Recrawl.Toml
