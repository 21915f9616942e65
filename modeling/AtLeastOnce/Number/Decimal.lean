/-!
# Decimal numerals

Digit runs and the two ways a whole number is read from text: with an optional
sign, or without a minus sign.  Both refuse a number outside the given range.
-/

namespace AtLeastOnce.Decimal

/-- The value of one decimal digit. -/
def digitValue (digit : Char) : Nat := digit.toNat - '0'.toNat

/-- The number that a run of decimal digits denotes. -/
def ofDigits (digits : List Char) : Nat :=
  digits.foldl (fun value digit => 10 * value + digitValue digit) 0

/-- A nonempty run of decimal digits, read as a natural number. -/
def readNat? (digits : List Char) : Option Nat :=
  if digits ≠ [] && digits.all Char.isDigit then some (ofDigits digits) else none

/-- A whole number with an optional sign that lies in `[lower, upper]`. -/
def readInt? (lower upper : Int) (text : List Char) : Option Int :=
  let magnitude : Option Int :=
    match text with
    | '-' :: digits => (readNat? digits).map fun value => -(value : Int)
    | '+' :: digits => (readNat? digits).map fun value => (value : Int)
    | digits => (readNat? digits).map fun value => (value : Int)
  magnitude.filter fun value => lower ≤ value && value ≤ upper

/-- A natural number at most `upper`; a plus sign may stand in front of it. -/
def readBounded? (upper : Nat) (text : List Char) : Option Nat :=
  let magnitude :=
    match text with
    | '+' :: digits => readNat? digits
    | digits => readNat? digits
  magnitude.filter fun value => value ≤ upper

/-- The range of 64-bit signed integers. -/
def leastInt64 : Int := -9223372036854775808
def greatestInt64 : Int := 9223372036854775807
def greatestNat64 : Nat := 18446744073709551615
def greatestNat32 : Nat := 4294967295

end AtLeastOnce.Decimal
