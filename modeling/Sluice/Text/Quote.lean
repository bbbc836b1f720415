import Sluice.Text.Printable
import Sluice.Text.GraphemeExtend
/-!
# Quoted strings

The quoted form of a string, used when an error message shows the raw text it rejected:
the characters between two double quotes, each shown as itself or escaped.

* NUL, tab, carriage return and line feed become backslash escapes (`\0`, `\t`, `\r`, `\n`).
* The backslash and the double quote get a backslash before them; the single quote does not.
* A grapheme extender or an unprintable character becomes `\u` followed by its code point in
  lowercase hexadecimal, with no leading zeros, between braces.
* Every other character is shown as itself.

* `quoteChar` — the shown form of one character.
* `quote` — the quoted form of a string.
-/

namespace Sluice.Text

/-- The code point of a character in lowercase hexadecimal, without leading zeros. -/
def hexCodePoint (c : Char) : String :=
  String.ofList (Nat.toDigits 16 c.toNat)

/-- The shown form of one character inside a quoted string. -/
def quoteChar (c : Char) : String :=
  if c = '\x00' then "\\0"
  else if c = '\t' then "\\t"
  else if c = '\r' then "\\r"
  else if c = '\n' then "\\n"
  else if c = '\\' then "\\\\"
  else if c = '"' then "\\\""
  else if isGraphemeExtend c || !isPrintable c then
    "\\u\x7b" ++ hexCodePoint c ++ "\x7d"
  else c.toString

/-- The quoted form of a string. -/
def quote (s : String) : String :=
  "\"" ++ String.join (s.toList.map quoteChar) ++ "\""

end Sluice.Text
