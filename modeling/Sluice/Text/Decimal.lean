/-!
# Unsigned decimal numbers

The grammar of a size in a configuration value: an optional single leading plus sign, then
one or more ASCII digits, with a value below `2 ^ 64`. Leading zeros are allowed; a minus sign,
an underscore, a radix prefix, a point or an exponent is not.

Digits are read left to right. At each character the digit test comes first, and the bound
second, so in `"99999999999999999999x"` the bound is exceeded before the `x` is reached.

* `DecimalError` — the three ways a value can fail, with their texts.
* `readDecimal` — the parser.
-/

namespace Sluice.Text

/-- Why a string is not an unsigned 64-bit decimal number: it is empty, a character is not a
digit (a lone sign counts as one), or the value does not fit in 64 bits. -/
inductive DecimalError where
  | empty
  | invalidDigit
  | tooLarge
  deriving DecidableEq, Repr

def DecimalError.message : DecimalError → String
  | .empty => "cannot parse integer from empty string"
  | .invalidDigit => "invalid digit found in string"
  | .tooLarge => "number too large to fit in target type"

/-- The largest value a size can take, `2 ^ 64 - 1`. -/
def wordMax : Nat := 18446744073709551615

/-- Accumulate digits onto `acc`, failing at the first non-digit or at the first digit that
lifts the value above `wordMax`. -/
def readDigits : List Char → Nat → Except DecimalError Nat
  | [], acc => .ok acc
  | c :: cs, acc =>
      if c.isDigit then
        let v := acc * 10 + (c.toNat - '0'.toNat)
        if v > wordMax then .error .tooLarge else readDigits cs v
      else .error .invalidDigit

/-- Parse an unsigned 64-bit decimal number with an optional leading plus sign. -/
def readDecimal (s : String) : Except DecimalError Nat :=
  match s.toList with
  | [] => .error .empty
  | ['+'] => .error .invalidDigit
  | ['-'] => .error .invalidDigit
  | '+' :: rest => readDigits rest 0
  | cs => readDigits cs 0

end Sluice.Text
