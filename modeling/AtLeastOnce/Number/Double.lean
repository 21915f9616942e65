/-!
# Double-precision numbers in exact arithmetic

A finite double is a sign and a whole number of units of `2⁻¹⁰⁷⁴`.  Each
operation forms its exact result as a quotient of naturals and rounds it once,
to 53 significant bits, a tie going to the even neighbour.
-/

namespace AtLeastOnce

/-- A double-precision number.  `finite negative units` is `±units · 2⁻¹⁰⁷⁴`. -/
inductive Double where
  | nan
  | infinite (negative : Bool)
  | finite (negative : Bool) (units : Nat)
  deriving DecidableEq, Repr

namespace Double

/-- The number of units in `1`. -/
def unitsPerOne : Nat := Nat.pow 2 1074

/-- The first number of units beyond the finite range. -/
def unitsOfOverflow : Nat := Nat.pow 2 2098

/-- The natural number nearest to `numerator / denominator`, a tie going to
the even one. -/
def nearestEven (numerator denominator : Nat) : Nat :=
  let quotient := numerator / denominator
  let remainder := numerator % denominator
  if 2 * remainder < denominator then quotient
  else if denominator < 2 * remainder then quotient + 1
  else if quotient % 2 = 0 then quotient
  else quotient + 1

/-- The number of low bits that rounding to 53 significant bits gives up. -/
def excessBits (whole : Nat) : Nat := whole.log2 - 52

/-- The nearest number of units that has at most 53 significant bits. -/
def roundUnits (numerator denominator : Nat) : Nat :=
  let scale := Nat.pow 2 (excessBits (numerator / denominator))
  nearestEven numerator (denominator * scale) * scale

/-- The double nearest to a signed quotient of units; beyond the finite range
it is an infinity. -/
def ofUnits (negative : Bool) (numerator denominator : Nat) : Double :=
  let units := roundUnits numerator denominator
  if units < unitsOfOverflow then .finite negative units else .infinite negative

def zero : Double := .finite false 0

def one : Double := .finite false unitsPerOne

def ofNat (value : Nat) : Double := ofUnits false (value * unitsPerOne) 1

def ofInt (value : Int) : Double :=
  ofUnits (value < 0) (value.natAbs * unitsPerOne) 1

/-- The double nearest to `digits · 10 ^ exponent`.  Exponents so large or so
small that the result is certain are decided without forming the power. -/
def ofDecimal (negative : Bool) (digits : Nat) (exponent : Int) : Double :=
  if digits = 0 then .finite negative 0
  else if 400 < exponent then .infinite negative
  else if exponent + (digits.log2 + 1 : Nat) < -400 then .finite negative 0
  else if 0 ≤ exponent then
    ofUnits negative (digits * Nat.pow 10 exponent.toNat * unitsPerOne) 1
  else
    ofUnits negative (digits * unitsPerOne) (Nat.pow 10 (-exponent).toNat)

def isNaN : Double → Bool
  | .nan => true
  | _ => false

def isFinite : Double → Bool
  | .finite _ _ => true
  | _ => false

def neg : Double → Double
  | .nan => .nan
  | .infinite negative => .infinite (!negative)
  | .finite negative units => .finite (!negative) units

/-- The signed number of units of a finite double. -/
def signedUnits (negative : Bool) (units : Nat) : Int :=
  if negative then -(units : Int) else (units : Int)

/-- `left ≤ right` as numbers; false as soon as one of them is no number. -/
def le : Double → Double → Bool
  | .nan, _ => false
  | _, .nan => false
  | .infinite true, _ => true
  | _, .infinite false => true
  | .infinite false, _ => false
  | _, .infinite true => false
  | .finite leftSign left, .finite rightSign right =>
      signedUnits leftSign left ≤ signedUnits rightSign right

/-- `left < right` as numbers. -/
def lt (left right : Double) : Bool := left.le right && !right.le left

/-- The smaller number; an operand that is no number is ignored. -/
def min (left right : Double) : Double :=
  if left.isNaN then right
  else if right.isNaN then left
  else if left.le right then left else right

/-- The larger number; an operand that is no number is ignored. -/
def max (left right : Double) : Double :=
  if left.isNaN then right
  else if right.isNaN then left
  else if right.le left then left else right

/-- The number moved into `[lower, upper]`; what is no number stays as it is. -/
def clamp (value lower upper : Double) : Double :=
  if value.lt lower then lower
  else if upper.lt value then upper
  else value

def add : Double → Double → Double
  | .nan, _ => .nan
  | _, .nan => .nan
  | .infinite left, .infinite right =>
      if left = right then .infinite left else .nan
  | .infinite negative, .finite _ _ => .infinite negative
  | .finite _ _, .infinite negative => .infinite negative
  | .finite leftSign left, .finite rightSign right =>
      let sum := signedUnits leftSign left + signedUnits rightSign right
      if sum = 0 then .finite (leftSign && rightSign) 0
      else ofUnits (sum < 0) sum.natAbs 1

def mul : Double → Double → Double
  | .nan, _ => .nan
  | _, .nan => .nan
  | .infinite left, .infinite right => .infinite (left != right)
  | .infinite left, .finite right units =>
      if units = 0 then .nan else .infinite (left != right)
  | .finite left units, .infinite right =>
      if units = 0 then .nan else .infinite (left != right)
  | .finite leftSign left, .finite rightSign right =>
      ofUnits (leftSign != rightSign) (left * right) unitsPerOne

def div : Double → Double → Double
  | .nan, _ => .nan
  | _, .nan => .nan
  | .infinite _, .infinite _ => .nan
  | .infinite left, .finite right _ => .infinite (left != right)
  | .finite left _, .infinite right => .finite (left != right) 0
  | .finite leftSign left, .finite rightSign right =>
      if right = 0 then
        if left = 0 then .nan else .infinite (leftSign != rightSign)
      else ofUnits (leftSign != rightSign) (left * unitsPerOne) right

/-- Multiplies `product` by `base ^ exponent`, squaring the base for each
binary digit of the exponent. -/
def mulPower (product base : Double) (exponent : Nat) : Double :=
  let product := if exponent % 2 = 1 then product.mul base else product
  if more : exponent / 2 = 0 then product
  else mulPower product (base.mul base) (exponent / 2)
termination_by exponent
decreasing_by omega

/-- `base ^ exponent` by repeated squaring, each product rounded. -/
def power (base : Double) (exponent : Nat) : Double := mulPower one base exponent

/-- The sign bit, the eleven exponent bits and the 52 fraction bits. -/
def toBits : Double → Nat
  | .nan => 0x7FF8000000000000
  | .infinite negative => (if negative then 0x8000000000000000 else 0) + 0x7FF0000000000000
  | .finite negative units =>
      (if negative then 0x8000000000000000 else 0) +
        (excessBits units * 0x10000000000000 + units / Nat.pow 2 (excessBits units))

/-- The integer nearest to the number, a half going away from zero, moved into
`[lower, upper]`; what is no number becomes `0`. -/
def toInt (value : Double) (lower upper : Int) : Int :=
  match value with
  | .nan => 0
  | .infinite true => lower
  | .infinite false => upper
  | .finite negative units =>
      let whole := (2 * units + unitsPerOne) / (2 * unitsPerOne)
      Max.max lower (Min.min upper (signedUnits negative whole))

end Double

end AtLeastOnce
