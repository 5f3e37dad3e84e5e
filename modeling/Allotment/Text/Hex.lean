/-!
# Hexadecimal numbers of a fixed width

Escapes in quoted texts and in JSON show a code point as a fixed number of lower-case
hexadecimal digits.
-/

namespace Allotment.Text

/-- The lowest `width` hexadecimal digits of a number, highest first. -/
def hexDigits : (width : Nat) → Nat → List Char
  | 0, _ => []
  | k + 1, n => hexDigits k (n / 16) ++ [Nat.digitChar (n % 16)]

end Allotment.Text
