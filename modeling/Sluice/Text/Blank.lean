/-!
# Blank characters

Trimming of configuration values. A character is blank when it has the Unicode
White_Space property; trimming removes blank characters from both ends and keeps the
inside untouched.

* `Sluice.Text.isBlank` — the White_Space class, written out member by member.
* `Sluice.Text.trimBlank` — drop blank characters at both ends.
-/

namespace Sluice.Text

/-- The Unicode White_Space class: U+0009 to U+000D, U+0020, U+0085, U+00A0, U+1680,
U+2000 to U+200A, U+2028, U+2029, U+202F, U+205F and U+3000. The zero-width space U+200B is
not blank. -/
def isBlank (c : Char) : Bool :=
  let n := c.toNat
  (0x9 ≤ n && n ≤ 0xD) || n == 0x20 || n == 0x85 || n == 0xA0 || n == 0x1680 ||
    (0x2000 ≤ n && n ≤ 0x200A) || n == 0x2028 || n == 0x2029 || n == 0x202F ||
    n == 0x205F || n == 0x3000

/-- The characters of a list with blank characters removed at both ends. -/
def trimBlankChars (cs : List Char) : List Char :=
  ((cs.dropWhile isBlank).reverse.dropWhile isBlank).reverse

/-- The string with blank characters removed at both ends. -/
def trimBlank (s : String) : String :=
  String.ofList (trimBlankChars s.toList)

end Sluice.Text
