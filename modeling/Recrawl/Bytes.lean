/-!
Fetched content is a list of bytes. This module has the operations on byte
strings that every later layer shares: the bytes of a text, the hexadecimal
spelling, ASCII blanks, and the search for one byte string inside another.
-/
namespace Recrawl

/-- Raw content, first byte first. -/
abbrev Bytes := List UInt8

namespace Bytes

def ofString (text : String) : Bytes :=
  text.toUTF8.toList

/-- Space, tab, line feed, form feed and carriage return. -/
def isAsciiBlank (byte : UInt8) : Bool :=
  byte == 0x20 || byte == 0x09 || byte == 0x0A || byte == 0x0C || byte == 0x0D

/-- `needle` occurs in `haystack` as a contiguous part; the empty needle always does. -/
def occursIn (needle : Bytes) : Bytes → Bool
  | [] => needle.isEmpty
  | byte :: rest => needle.isPrefixOf (byte :: rest) || occursIn needle rest

theorem occursIn_iff (needle haystack : Bytes) :
    needle.occursIn haystack = true ↔ needle <:+: haystack := by
  induction haystack with
  | nil => simp [occursIn, List.isEmpty_iff]
  | cons byte rest ih =>
    simp only [occursIn, Bool.or_eq_true, ih, List.infix_cons_iff, List.isPrefixOf_iff_prefix]

/-- The byte with `'A'` to `'Z'` replaced by `'a'` to `'z'`. -/
def lowerAscii (byte : UInt8) : UInt8 :=
  if 0x41 ≤ byte && byte ≤ 0x5A then byte + 0x20 else byte

def hexDigit (value : Nat) : Char :=
  Char.ofNat (if value < 10 then 0x30 + value else 0x57 + value)

/-- Two lower-case hexadecimal digits for each byte, without separators. -/
def hex (bytes : Bytes) : String :=
  String.ofList (bytes.flatMap fun byte => [hexDigit (byte.toNat / 16), hexDigit (byte.toNat % 16)])

end Bytes

end Recrawl
