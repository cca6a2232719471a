/-!
# Hexadecimal digits

Escapes spell a character by its number in hexadecimal digits. They are read in either case, whichever the printers write.
-/

namespace RenderCatalog.Text

/-- The last hexadecimal digit of a number, in lower case. -/
def hexDigit (n : Nat) : Char := Nat.digitChar (n % 16)

/-- The lower-case hexadecimal digits of a number, without leading zeros. -/
def hexDigits (n : Nat) : List Char := Nat.toDigits 16 n

/-- The value of a hexadecimal digit of either case. -/
def hexValue? (c : Char) : Option Nat :=
  if '0' ≤ c && c ≤ '9' then some (c.toNat - '0'.toNat)
  else if 'a' ≤ c && c ≤ 'f' then some (c.toNat - 'a'.toNat + 10)
  else if 'A' ≤ c && c ≤ 'F' then some (c.toNat - 'A'.toNat + 10)
  else none

end RenderCatalog.Text
