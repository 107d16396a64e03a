import Recrawl.Bytes

/-!
Percent encoding: a byte is written as a percent sign and two hexadecimal
digits. The components of a URL differ in which characters are encoded.
-/
namespace Recrawl.Url

/-- A set of ASCII characters. Characters beyond ASCII are always encoded. -/
abbrev CharSet := Char → Bool

namespace CharSet

/-- Control characters. -/
def controls : CharSet := fun c => c.toNat < 0x20 || c.toNat == 0x7F

/-- Encoded in a fragment. -/
def fragment : CharSet := fun c =>
  controls c || c == ' ' || c == '\x22' || c == '<' || c == '>' || c == '\x60'

/-- Encoded in a path. -/
def path : CharSet := fun c =>
  fragment c || c == '#' || c == '?' || c == '\x7b' || c == '\x7d'

/-- Encoded in a user name or password. -/
def userInfo : CharSet := fun c =>
  path c || c == '/' || c == ':' || c == ';' || c == '=' || c == '@' || c == '[' || c == '\\' ||
    c == ']' || c == '^' || c == '|'

/-- Encoded in a query. -/
def query : CharSet := fun c =>
  controls c || c == ' ' || c == '\x22' || c == '#' || c == '<' || c == '>'

/-- Encoded in the query of a web address. -/
def webQuery : CharSet := fun c => query c || c == '\x27'

end CharSet

namespace Percent

def hexDigit (value : Nat) : Char :=
  Char.ofNat (if value < 10 then 0x30 + value else 0x37 + value)

def encodeByte (byte : UInt8) : List Char :=
  ['%', hexDigit (byte.toNat / 16), hexDigit (byte.toNat % 16)]

/-- The encoded form of one character: itself, unless it is in the set or beyond ASCII. -/
def encodeChar (set : CharSet) (c : Char) : List Char :=
  if c.toNat < 0x80 && !set c then [c] else (String.utf8EncodeChar c).flatMap encodeByte

def encode (set : CharSet) (text : List Char) : List Char :=
  text.flatMap (encodeChar set)

/-- The value of a byte that is a hexadecimal digit of either case. -/
def hexValue? (byte : UInt8) : Option UInt8 :=
  if 0x30 ≤ byte && byte ≤ 0x39 then some (byte - 0x30)
  else if 0x41 ≤ byte && byte ≤ 0x46 then some (byte - 0x37)
  else if 0x61 ≤ byte && byte ≤ 0x66 then some (byte - 0x57)
  else none

/-- The bytes with each encoded byte decoded. A percent sign without two digits stays. -/
def decode : Bytes → Bytes
  | 0x25 :: high :: low :: rest =>
    match hexValue? high, hexValue? low with
    | some h, some l => (h * 16 + l) :: decode rest
    | _, _ => 0x25 :: decode (high :: low :: rest)
  | byte :: rest => byte :: decode rest
  | [] => []

end Percent

end Recrawl.Url
