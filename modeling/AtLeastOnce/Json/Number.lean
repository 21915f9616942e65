import AtLeastOnce.Json
import AtLeastOnce.Json.Position

/-!
# JSON numbers

A whole number that fits 64 bits is exact; `-0` is a double.  Any other number is
the double obtained by rounding its digits, cut to 64 bits, and scaling them by
a rounded power of ten.
-/

namespace AtLeastOnce.Json

def digitAt (digit : Char) : Nat := Decimal.digitValue digit

/-- The greatest power of ten that a double holds. -/
def greatestPower : Nat := 308

/-- `10 ^ exponent` as a double. -/
def powerOfTen (exponent : Nat) : Double := Double.ofDecimal false 1 exponent

/-- `value · 10 ^ (-exponent)`, divided in steps of at most `10 ^ 308`. -/
def scaleDown (value : Double) (exponent : Nat) : Double :=
  if exponent ≤ greatestPower then value.div (powerOfTen exponent)
  else if value = .zero then value
  else scaleDown (value.div (powerOfTen greatestPower)) (exponent - greatestPower)
termination_by exponent
decreasing_by simp only [greatestPower] at *; omega

/-- `significand · 10 ^ exponent`; none when it is too large. -/
def scale? (significand : Nat) (exponent : Int) : Option Double :=
  let value := Double.ofNat significand
  if exponent < 0 then some (scaleDown value exponent.natAbs)
  else if exponent.toNat ≤ greatestPower then
    let scaled := value.mul (powerOfTen exponent.toNat)
    if scaled.isFinite then some scaled else none
  else if significand = 0 then some value
  else none

/-- Digits that extend a significand as long as it fits 64 bits. -/
structure Significand where
  value : Nat
  /-- How many digits were taken in. -/
  taken : Nat
  rest : List Char

def takeDigits (value taken : Nat) : List Char → Significand
  | [] => ⟨value, taken, []⟩
  | digit :: rest =>
      if digit.isDigit && value * 10 + digitAt digit ≤ Decimal.greatestNat64 then
        takeDigits (value * 10 + digitAt digit) (taken + 1) rest
      else ⟨value, taken, digit :: rest⟩

/-- Begins with a digit. -/
def startsWithDigit : List Char → Bool
  | digit :: _ => digit.isDigit
  | [] => false

/-- Begins with the mark of an exponent. -/
def startsWithExponent : List Char → Bool
  | mark :: _ => mark = 'e' || mark = 'E'
  | [] => false

def signed (positive : Bool) (value : Double) : Double := if positive then value else value.neg

/-- Scales a significand that ends before `rest`. -/
def finishDecimal (positive : Bool) (significand : Nat) (exponent : Int) (rest : List Char) :
    Reading Json :=
  match scale? significand exponent with
  | some value => .ok (.decimal (signed positive value), rest)
  | none => stopBefore .numberOutOfRange rest

/-- The digits of an exponent as long as they fit 31 bits, the rest of the text,
and whether they all did.  The digit that does not fit is taken. -/
def exponentDigits (value : Nat) : List Char → Nat × List Char × Bool
  | [] => (value, [], true)
  | digit :: rest =>
      if digit.isDigit then
        if value * 10 + digitAt digit ≤ 2147483647 then
          exponentDigits (value * 10 + digitAt digit) rest
        else (value, rest, false)
      else (value, digit :: rest, true)

/-- The digits of an exponent whose mark and sign have been read. -/
def readExponentDigits (positive : Bool) (significand : Nat) (start : Int)
    (positiveExponent : Bool) : List Char → Reading Json
  | [] => stopBefore .endInValue []
  | digit :: rest =>
      if !digit.isDigit then stopAfterNext .invalidNumber (digit :: rest)
      else
        let (exponent, rest, fits) := exponentDigits (digitAt digit) rest
        if fits then
          finishDecimal positive significand
            (if positiveExponent then start + exponent else start - exponent) rest
        else if significand ≠ 0 && positiveExponent then stopBefore .numberOutOfRange rest
        else .ok (.decimal (signed positive .zero), rest.dropWhile Char.isDigit)

/-- An exponent whose mark has been read. -/
def readExponent (positive : Bool) (significand : Nat) (start : Int) : List Char → Reading Json
  | '+' :: rest => readExponentDigits positive significand start true rest
  | '-' :: rest => readExponentDigits positive significand start false rest
  | rest => readExponentDigits positive significand start true rest

/-- Goes on with an exponent, or ends the number. -/
def exponentOrEnd (positive : Bool) (significand : Nat) (exponent : Int) (rest : List Char) :
    Reading Json :=
  if startsWithExponent rest then readExponent positive significand exponent rest.tail
  else finishDecimal positive significand exponent rest

/-- A fraction whose point has been read. -/
def readFraction (positive : Bool) (significand : Nat) (exponent : Int) (text : List Char) :
    Reading Json :=
  let digits := takeDigits significand 0 text
  let exponent := exponent - digits.taken
  if startsWithDigit digits.rest then
    exponentOrEnd positive digits.value exponent (digits.rest.dropWhile Char.isDigit)
  else if digits.taken = 0 then
    match text with
    | [] => stopBefore .endInValue []
    | rest => stopAfterNext .invalidNumber rest
  else exponentOrEnd positive digits.value exponent digits.rest

/-- A whole number that fits: exact, except for negative zero and integers below
the range. -/
def wholeNumber (positive : Bool) (significand : Nat) : Json :=
  if positive then .natural significand
  else if significand = 0 || 9223372036854775808 < significand then
    .decimal (Double.ofNat significand).neg
  else .negative (-(significand : Int))

/-- Goes on after the digits of the whole part. -/
def afterWhole (positive : Bool) (significand : Nat) : List Char → Reading Json
  | '.' :: rest => readFraction positive significand 0 rest
  | rest =>
      if startsWithExponent rest then readExponent positive significand 0 rest.tail
      else .ok (wholeNumber positive significand, rest)

/-- Goes on after a whole part of which `skipped` digits did not fit. -/
def afterLongWhole (positive : Bool) (significand skipped : Nat) : List Char → Reading Json
  | '.' :: rest => readFraction positive significand skipped rest
  | rest => exponentOrEnd positive significand skipped rest

/-- A number whose sign has been read. -/
def readMagnitude (positive : Bool) : List Char → Reading Json
  | [] => stopBefore .endInValue []
  | first :: rest =>
      if first = '0' then
        if startsWithDigit rest then stopAfterNext .invalidNumber rest
        else afterWhole positive 0 rest
      else if first.isDigit then
        let digits := takeDigits (digitAt first) 1 rest
        if startsWithDigit digits.rest then
          let skipped := digits.rest.takeWhile Char.isDigit
          afterLongWhole positive digits.value skipped.length
            (digits.rest.dropWhile Char.isDigit)
        else afterWhole positive digits.value digits.rest
      else stopAfterNext .invalidNumber (first :: rest)

end AtLeastOnce.Json
