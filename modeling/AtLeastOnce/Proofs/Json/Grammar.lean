import AtLeastOnce.Json.Reader

/-!
# The grammar of JSON

Which texts spell which values, told without a reader: every rule is a relation
between the whole of a text and what it stands for.  Which double a numeral
stands for is a parameter, `none` where the numeral is out of range.
-/

namespace AtLeastOnce.Json

variable {α : Type}

def Blanks (text : List Char) : Prop :=
  ∀ character ∈ text,
    character = ' ' ∨ character = '\n' ∨ character = '\t' ∨ character = '\r'

def Digits (text : List Char) : Prop := ∀ character ∈ text, character.isDigit = true

/-- The number that a run of decimal digits denotes. -/
def numberOf (digits : List Char) : Nat :=
  digits.foldl (fun number digit => 10 * number + (digit.toNat - 48)) 0

section Strings

/-- A hexadecimal digit of either case and what it counts. -/
inductive HexDigit : Char → Nat → Prop where
  | decimal {digit : Char} : '0' ≤ digit → digit ≤ '9' → HexDigit digit (digit.toNat - 48)
  | lower {digit : Char} : 'a' ≤ digit → digit ≤ 'f' → HexDigit digit (digit.toNat - 97 + 10)
  | upper {digit : Char} : 'A' ≤ digit → digit ≤ 'F' → HexDigit digit (digit.toNat - 65 + 10)

/-- Four hexadecimal digits and the number that they denote. -/
inductive CodeUnit : List Char → Nat → Prop where
  | intro {first second third fourth : Char} {a b c d : Nat} :
      HexDigit first a → HexDigit second b → HexDigit third c → HexDigit fourth d →
      CodeUnit [first, second, third, fourth] (((a * 16 + b) * 16 + c) * 16 + d)

/-- What may follow a backslash, and the character that it stands for. -/
inductive Escape : List Char → Char → Prop where
  | quote : Escape ['"'] '"'
  | backslash : Escape ['\\'] '\\'
  | slash : Escape ['/'] '/'
  | backspace : Escape ['b'] '\x08'
  | formFeed : Escape ['f'] '\x0c'
  | lineFeed : Escape ['n'] '\n'
  | carriageReturn : Escape ['r'] '\r'
  | tab : Escape ['t'] '\t'
  | codePoint {digits : List Char} {unit : Nat} :
      CodeUnit digits unit → unit < 0xD800 ∨ 0xDFFF < unit →
      Escape ('u' :: digits) (Char.ofNat unit)
  | surrogates {first second : List Char} {leading trailing : Nat} :
      CodeUnit first leading → 0xD800 ≤ leading ∧ leading ≤ 0xDBFF →
      CodeUnit second trailing → 0xDC00 ≤ trailing ∧ trailing ≤ 0xDFFF →
      Escape ('u' :: (first ++ '\\' :: 'u' :: second))
        (Char.ofNat (0x10000 + (leading - 0xD800) * 0x400 + (trailing - 0xDC00)))

/-- What may stand between two quotes, and the characters that it stands for. -/
inductive Inner : List Char → List Char → Prop where
  | done : Inner [] []
  | plain {character : Char} {text characters : List Char} :
      character ≠ '"' → character ≠ '\\' → 0x20 ≤ character.toNat → Inner text characters →
      Inner (character :: text) (character :: characters)
  | escaped {escape text characters : List Char} {character : Char} :
      Escape escape character → Inner text characters →
      Inner ('\\' :: (escape ++ text)) (character :: characters)

def Quoted (text : List Char) (value : String) : Prop :=
  ∃ inner, text = '"' :: (inner ++ ['"']) ∧ Inner inner value.toList

end Strings

section Numerals

structure Exponent where
  mark : Char
  sign : List Char
  digits : List Char

structure Exponent.Valid (exponent : Exponent) : Prop where
  mark : exponent.mark = 'e' ∨ exponent.mark = 'E'
  sign : exponent.sign = [] ∨ exponent.sign = ['+'] ∨ exponent.sign = ['-']
  digits : Digits exponent.digits
  nonempty : exponent.digits ≠ []

def Exponent.text (exponent : Exponent) : List Char :=
  exponent.mark :: (exponent.sign ++ exponent.digits)

def Exponent.isPositive (exponent : Exponent) : Bool := exponent.sign ≠ ['-']

def Exponent.magnitude (exponent : Exponent) : Nat := numberOf exponent.digits

def Exponent.value (exponent : Exponent) : Int :=
  if exponent.isPositive then exponent.magnitude else -(exponent.magnitude : Int)

structure Numeral where
  isNegative : Bool
  whole : List Char
  fraction? : Option (List Char)
  exponent? : Option Exponent

/-- Every part that is there has digits, and a leading zero stands alone. -/
structure Numeral.Valid (numeral : Numeral) : Prop where
  whole : Digits numeral.whole
  nonempty : numeral.whole ≠ []
  leading : numeral.whole = ['0'] ∨ numeral.whole.head? ≠ some '0'
  fraction : ∀ digits ∈ numeral.fraction?, Digits digits ∧ digits ≠ []
  exponent : ∀ exponent ∈ numeral.exponent?, exponent.Valid

def fractionText : Option (List Char) → List Char
  | none => []
  | some digits => '.' :: digits

def exponentText : Option Exponent → List Char
  | none => []
  | some exponent => exponent.text

namespace Numeral

def unsignedText (numeral : Numeral) : List Char :=
  numeral.whole ++ (fractionText numeral.fraction? ++ exponentText numeral.exponent?)

def text (numeral : Numeral) : List Char :=
  if numeral.isNegative then '-' :: numeral.unsignedText else numeral.unsignedText

/-- Neither a fraction nor an exponent, and digits that fit 64 bits. -/
def isWhole (numeral : Numeral) : Bool :=
  numeral.fraction?.isNone && numeral.exponent?.isNone &&
    numberOf numeral.whole ≤ 18446744073709551615

/-- The value of a numeral, if every numeral that is no whole one denotes the
double that is given for it. -/
def value? (double? : Numeral → Option Double) (numeral : Numeral) : Option Json :=
  if numeral.isWhole then
    some (wholeNumber (!numeral.isNegative) (numberOf numeral.whole))
  else (double? numeral).map .decimal

def fraction (numeral : Numeral) : List Char := numeral.fraction?.getD []

/-- All digits before the exponent. -/
def digits (numeral : Numeral) : List Char := numeral.whole ++ numeral.fraction

/-- The power of ten that the digits are multiplied by. -/
def power (numeral : Numeral) : Int :=
  numeral.exponent?.elim 0 Exponent.value - numeral.fraction.length

/-- The double nearest to the number that is written. -/
def nearest? (numeral : Numeral) : Option Double :=
  let double := Double.ofDecimal numeral.isNegative (numberOf numeral.digits) numeral.power
  if double.isFinite then some double else none

end Numeral

/-- `significand · 10 ^ power` with another power of ten as its exponent.  An
exponent that does not fit 31 bits makes the number too large, or zero. -/
def scaledBy? (significand : Nat) (power : Int) (isPositive : Bool) (magnitude : Nat) :
    Option Double :=
  if magnitude ≤ 2147483647 then
    scale? significand (if isPositive then power + magnitude else power - magnitude)
  else if significand ≠ 0 && isPositive then none
  else some .zero

def scaled? (significand : Nat) (power : Int) : Option Exponent → Option Double
  | none => scale? significand power
  | some exponent => scaledBy? significand power exponent.isPositive exponent.magnitude

namespace Numeral

/-- The digits of a numeral as long as they fit 64 bits. -/
def cut (numeral : Numeral) : Significand :=
  takeDigits (takeDigits 0 0 numeral.whole).value 0 numeral.fraction

/-- The power of ten of the digits that are kept.  Digits of the whole part that do not
fit count as a power, and those of the fraction are given up. -/
def cutPower (numeral : Numeral) : Int :=
  ((takeDigits 0 0 numeral.whole).rest.length : Int) - numeral.cut.taken

/-- The double that a numeral is taken for: the digits that fit, scaled by a rounded
power of ten. -/
def scaled? (numeral : Numeral) : Option Double :=
  (Json.scaled? numeral.cut.value numeral.cutPower numeral.exponent?).map
    (signed !numeral.isNegative)

end Numeral

end Numerals

section Series

inductive Indented (form : List Char → α → Prop) : List Char → α → Prop where
  | intro {blanks text : List Char} {value : α} :
      Blanks blanks → form text value → Indented form (blanks ++ text) value

inductive Padded (form : List Char → α → Prop) : List Char → α → Prop where
  | intro {text blanks : List Char} {value : α} :
      Indented form text value → Blanks blanks → Padded form (text ++ blanks) value

/-- At least one thing, with a comma between each two. -/
inductive Listed (form : List Char → α → Prop) : List Char → List α → Prop where
  | one {text : List Char} {value : α} : form text value → Listed form text [value]
  | more {text rest : List Char} {value : α} {values : List α} :
      form text value → Listed form rest values →
      Listed form (text ++ ',' :: rest) (value :: values)

inductive Enclosed (opening closing : Char) (form : List Char → α → Prop) :
    List Char → List α → Prop where
  | empty {blanks : List Char} :
      Blanks blanks → Enclosed opening closing form (opening :: (blanks ++ [closing])) []
  | full {text : List Char} {values : List α} :
      Listed (Padded form) text values →
      Enclosed opening closing form (opening :: (text ++ [closing])) values

inductive Member (form : List Char → Json → Prop) : List Char → String × Json → Prop where
  | intro {quoted blanks text : List Char} {name : String} {value : Json} :
      Quoted quoted name → Blanks blanks → Indented form text value →
      Member form (quoted ++ (blanks ++ ':' :: text)) (name, value)

end Series

inductive ScalarText (double? : Numeral → Option Double) : List Char → Json → Prop where
  | null : ScalarText double? ['n', 'u', 'l', 'l'] .null
  | yes : ScalarText double? ['t', 'r', 'u', 'e'] (.bool true)
  | no : ScalarText double? ['f', 'a', 'l', 's', 'e'] (.bool false)
  | string {text : List Char} {value : String} :
      Quoted text value → ScalarText double? text (.string value)
  | number {numeral : Numeral} {value : Json} :
      numeral.Valid → numeral.value? double? = some value →
      ScalarText double? numeral.text value

/-- A value of which the items of arrays and the values of members have a form. -/
inductive NestedText (double? : Numeral → Option Double) (form : List Char → Json → Prop) :
    List Char → Json → Prop where
  | scalar {text : List Char} {value : Json} :
      ScalarText double? text value → NestedText double? form text value
  | array {text : List Char} {items : List Json} :
      Enclosed '[' ']' form text items → NestedText double? form text (.array items)
  | object {text : List Char} {members : List (String × Json)} :
      Enclosed '\x7b' '\x7d' (Member form) text members →
      NestedText double? form text (.object members)

/-- A value in which arrays and objects are nested at most so deep. -/
def ValueText (double? : Numeral → Option Double) : Nat → List Char → Json → Prop
  | 0 => ScalarText double?
  | depth + 1 => NestedText double? (ValueText double? depth)

/-- One value with blanks around it, nested at most 127 deep. -/
def DocumentText (double? : Numeral → Option Double) : List Char → Json → Prop :=
  Padded (ValueText double? 127)

end AtLeastOnce.Json
