import AtLeastOnce.Number.Decimal
import AtLeastOnce.Number.Double.Text
import AtLeastOnce.Text.Hexadecimal

/-!
# YAML nodes

Scalars, sequences and mappings, and what a scalar without quotes stands for.  A
decimal number keeps the form in which it was written.
-/

namespace AtLeastOnce.Yaml

inductive Scalar where
  | null
  | bool (value : Bool)
  | integer (value : Int)
  | decimal (written : String)
  | text (value : String)
  deriving DecidableEq, Repr

inductive Node where
  | scalar (value : Scalar)
  | sequence (items : List Node)
  | mapping (pairs : List (Scalar × Node))
  deriving Repr

/-- A node that is not written out. -/
def Node.empty : Node := .scalar .null

/-- The part of a tag that counts: a type of the core schema, or any other tag. -/
inductive Tag where
  | core (name : String)
  | other
  deriving DecidableEq, Repr

/-- The digits of a numeral in a base, after an optional sign. -/
def basedNumber? (base : Nat) (digits : List Char) : Option Nat :=
  let value (digit : Char) : Nat := (Text.hexDigit? digit).getD base
  if digits ≠ [] && digits.all fun digit => value digit < base then
    some (digits.foldl (fun number digit => base * number + value digit) 0)
  else none

/-- A 64-bit integer in a base. -/
def basedInteger? (base : Nat) (text : List Char) : Option Int :=
  let magnitude : Option Int :=
    match text with
    | '-' :: digits => (basedNumber? base digits).map fun value => -(value : Int)
    | '+' :: digits => (basedNumber? base digits).map Int.ofNat
    | digits => (basedNumber? base digits).map Int.ofNat
  magnitude.filter fun value =>
    Decimal.leastInt64 ≤ value && value ≤ Decimal.greatestInt64

def decimalInteger? (text : List Char) : Option Int :=
  Decimal.readInt? Decimal.leastInt64 Decimal.greatestInt64 text

/-- An integer with a prefix that names its base, or with a plus sign. -/
def markedInteger? : List Char → Option Int
  | '0' :: 'x' :: digits => basedInteger? 16 digits
  | '0' :: 'o' :: digits => basedInteger? 8 digits
  | '+' :: digits => decimalInteger? digits
  | _ => none

/-- The written forms of infinity and of what is no number. -/
def specialDecimals : List String :=
  [".inf", ".Inf", ".INF", "+.inf", "+.Inf", "+.INF", "-.inf", "-.Inf", "-.INF",
    ".nan", ".NaN", ".NAN"]

/-- Whether a text is the form of a decimal number. -/
def isDecimal (text : List Char) : Bool :=
  specialDecimals.contains (String.ofList text) ||
    (text.any Char.isDigit && (Double.read? text).isSome)

/-- What a scalar without quotes and tag stands for. -/
def Scalar.ofPlain (text : List Char) : Scalar :=
  let word := String.ofList text
  match markedInteger? text with
  | some value => .integer value
  | none =>
      if word = "" || word = "~" || word = "null" then .null
      else if word = "true" then .bool true
      else if word = "false" then .bool false
      else
        match decimalInteger? text with
        | some value => .integer value
        | none => if isDecimal text then .decimal word else .text word

/-- What a scalar without quotes stands for under a tag of the core schema. -/
def Scalar.ofCore (name : String) (text : List Char) : Scalar :=
  let word := String.ofList text
  if name = "bool" then
    if word = "true" then .bool true else if word = "false" then .bool false else .null
  else if name = "int" then
    match decimalInteger? text with
    | some value => .integer value
    | none => .null
  else if name = "float" then if isDecimal text then .decimal word else .null
  else if name = "null" then .null
  else .text word

/-- A scalar without quotes under a tag, if it has one. -/
def Scalar.ofTagged (tag : Option Tag) (text : List Char) : Scalar :=
  match tag with
  | none => .ofPlain text
  | some (.core name) => .ofCore name text
  | some .other => .text (String.ofList text)

end AtLeastOnce.Yaml
