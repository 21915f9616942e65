/-!
# Hexadecimal numerals

Digits of either case, and the number that a run of them denotes.
-/

namespace AtLeastOnce.Text

/-- The value of a hexadecimal digit. -/
def hexDigit? (digit : Char) : Option Nat :=
  if digit.isDigit then some (digit.toNat - '0'.toNat)
  else if 'a' ≤ digit && digit ≤ 'f' then some (digit.toNat - 'a'.toNat + 10)
  else if 'A' ≤ digit && digit ≤ 'F' then some (digit.toNat - 'A'.toNat + 10)
  else none

def isHexDigit (digit : Char) : Bool := (hexDigit? digit).isSome

/-- The number that a run of hexadecimal digits denotes. -/
def hexNumber (digits : List Char) : Nat :=
  digits.foldl (fun value digit => 16 * value + (hexDigit? digit).getD 0) 0

end AtLeastOnce.Text
