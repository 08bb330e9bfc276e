/-!
# Hexadecimal digits

The digits to base sixteen, in either case, and their values.
-/

namespace Storyboard.Text

/-- Whether the character is a hexadecimal digit of either case. -/
def isHexDigit (c : Char) : Bool :=
  c.isDigit || ('a' ≤ c && c ≤ 'f') || ('A' ≤ c && c ≤ 'F')

/-- The value of a hexadecimal digit. -/
def hexValue (c : Char) : Nat :=
  if c.isDigit then c.toNat - '0'.toNat
  else if 'a' ≤ c then c.toNat - 'a'.toNat + 10
  else c.toNat - 'A'.toNat + 10

/-- The number that digits denote. -/
def hexNumber (digits : List Char) : Nat :=
  digits.foldl (fun value digit => value * 16 + hexValue digit) 0

end Storyboard.Text
