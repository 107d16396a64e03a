import Recrawl.Unicode.Printable

/-!
The quoted form of a text in a diagnostic: between double quotes, with a
backslash before quotes and backslashes, short names for the common controls,
and code points in braces for every other character without a visible form.
-/
namespace Recrawl.Text.Quoted

/-- The lower-case hexadecimal digits of a code point, without leading zeros. -/
def codePoint (c : Char) : String :=
  String.ofList (Nat.toDigits 16 c.toNat)

def quoteChar (c : Char) : String :=
  match c with
  | '\x22' => "\\\x22"
  | '\\' => "\\\\"
  | '\n' => "\\n"
  | '\r' => "\\r"
  | '\t' => "\\t"
  | '\x00' => "\\0"
  | c => if Unicode.isPrintable c then c.toString else "\\u\x7b" ++ codePoint c ++ "\x7d"

def quote (text : String) : String :=
  "\x22" ++ String.join (text.toList.map quoteChar) ++ "\x22"

end Recrawl.Text.Quoted
