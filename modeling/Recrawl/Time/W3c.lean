import Recrawl.Text.Integer
import Recrawl.Time.Rfc2822

/-!
Dates of the sitemap protocol: the W3C profiles of ISO 8601, with RFC 2822 as a
fallback. Full date-times are read by a list of patterns, tried in order; a
pattern matches a text only as a whole.
-/
namespace Recrawl.Time

inductive Item
  | year
  | month
  | day
  | hour
  | minute
  | second
  /-- A point and a fraction of a second, or nothing. -/
  | fraction
  /-- An offset from UTC, with or without a colon. -/
  | offset
  /-- Any number of blanks. -/
  | blanks
  | literal (c : Char)
  deriving DecidableEq, Repr

namespace Item

/-- A year: up to four digits, or a sign and any number of digits. -/
def readYear (chars : List Char) : Option (Int × List Char) :=
  match chars with
  | '-' :: rest => (Read.number 1 rest.length rest).map fun (_, n, rest) => (-(n : Int), rest)
  | '+' :: rest => (Read.number 1 rest.length rest).map fun (_, n, rest) => ((n : Int), rest)
  | chars => (Read.number 1 4 chars).map fun (_, n, rest) => ((n : Int), rest)

/-- Reads one part; numbers and offsets may have blanks before them. -/
def read (item : Item) (fields : Fields) (chars : List Char) : Option (Fields × List Char) :=
  let number (low high : Nat) (set : Nat → Fields) : Option (Fields × List Char) :=
    (Read.bounded 1 2 low high (Text.trimStart chars)).map fun (n, rest) => (set n, rest)
  match item with
  | year => (readYear (Text.trimStart chars)).map fun (n, rest) => ({ fields with year := n }, rest)
  | month => number 1 12 fun n => { fields with month := n }
  | day => number 1 31 fun n => { fields with day := n }
  | hour => number 0 23 fun n => { fields with hour := n }
  | minute => number 0 59 fun n => { fields with minute := n }
  | second => number 0 60 fun n => { fields with second := n }
  | fraction =>
    match chars with
    | '.' :: rest => (Read.fraction rest).map fun (n, rest) => ({ fields with nano := n }, rest)
    | _ => some (fields, chars)
  | offset =>
    (Read.offset true (fun cs => some (cs.dropWhile fun c => c == ':' || Text.isBlank c))
      (Text.trimStart chars)).map fun (n, rest) => ({ fields with offset := n }, rest)
  | blanks => some (fields, Text.trimStart chars)
  | literal c => (Read.char c chars).map fun rest => (fields, rest)

/-- Reads the parts of a pattern in order, up to the end of the text. -/
def readAll : List Item → Fields → List Char → Option Fields
  | [], fields, [] => some fields
  | [], _, _ :: _ => none
  | item :: items, fields, chars =>
    match item.read fields chars with
    | some (fields, rest) => readAll items fields rest
    | none => none

def dateItems : List Item := [year, literal '-', month, literal '-', day]

def minuteItems : List Item := [hour, literal ':', minute]

def secondItems : List Item := minuteItems ++ [literal ':', second]

def offsetPatterns : List (List Item) :=
  [ dateItems ++ [literal 'T'] ++ secondItems ++ [fraction, offset],
    dateItems ++ [literal 'T'] ++ minuteItems ++ [offset],
    dateItems ++ [blanks] ++ secondItems ++ [fraction, offset] ]

/-- Patterns of date-times without an offset, which are in UTC. -/
def plainPatterns : List (List Item) :=
  [ dateItems ++ [literal 'T'] ++ secondItems ++ [fraction],
    dateItems ++ [literal 'T'] ++ minuteItems,
    dateItems ++ [blanks] ++ secondItems ]

def instant? (chars : List Char) (pattern : List Item) : Option Instant :=
  (readAll pattern {} chars).bind Fields.toInstant?

end Item

/-- A text split at its first two hyphens. -/
def splitAtHyphens (chars : List Char) : List (List Char) :=
  match chars.span (· != '-') with
  | (first, []) => [first]
  | (first, _ :: rest) =>
    match rest.span (· != '-') with
    | (second, []) => [first, second]
    | (second, _ :: third) => [first, second, third]

/-- A signed 32-bit number, as a year is written in a partial date. -/
def partialYear? (chars : List Char) : Option Int :=
  match Text.readInt64 chars with
  | .ok n => if -0x80000000 ≤ n ∧ n < 0x80000000 then some n else none
  | .error _ => none

/-- Year, year and month, or year, month and day, with a year of four bytes. -/
def partialDate? (chars : List Char) : Option Date := do
  match splitAtHyphens chars with
  | [] => none
  | yearText :: parts =>
    if (yearText.map Char.utf8Size).foldl (· + ·) 0 != 4 then none
    else
      let year ← partialYear? yearText
      let month ← match parts[0]? with
        | some text => (Text.readUInt32 text).toOption
        | none => some 1
      let day ← match parts[1]? with
        | some text => (Text.readUInt32 text).toOption
        | none => some 1
      Date.of? year month day

/-- The text with a final `Z` or `z` replaced by an offset of zero. -/
def spellOffset (chars : List Char) : List Char :=
  match chars.reverse with
  | 'Z' :: rest => rest.reverse ++ "+00:00".toList
  | 'z' :: rest => rest.reverse ++ "+00:00".toList
  | _ => chars

/-- The instant of a W3C date, or of an RFC 2822 date, with blanks around it ignored. -/
def parseW3c? (text : String) : Option Instant :=
  let chars := Text.trimChars text.toList
  if chars.isEmpty then none
  else
    (Item.offsetPatterns.findSome? (Item.instant? (spellOffset chars))).or <|
    (Item.plainPatterns.findSome? (Item.instant? chars)).or <|
    match partialDate? chars with
    | some date => Instant.ofDate? date
    | none => parseRfc2822? chars

end Recrawl.Time
