import AtLeastOnce.Number.Decimal
import AtLeastOnce.Number.Double.Text
import AtLeastOnce.Text.Hexadecimal
import AtLeastOnce.Toml.Node

/-!
# TOML numbers, dates and times

Digits may be parted by single underscores.  Integers have 64 bits, and a decimal
number has to be finite.  Dates and times are checked and kept as text.
-/

namespace AtLeastOnce.Toml

/-- The digits of a run in which single underscores stand between digits. -/
def partedDigits? (isDigit : Char → Bool) : List Char → Option (List Char)
  | [] => none
  | [digit] => if isDigit digit then some [digit] else none
  | digit :: '_' :: rest =>
      if isDigit digit then (partedDigits? isDigit rest).map (digit :: ·) else none
  | digit :: rest =>
      if isDigit digit then (partedDigits? isDigit rest).map (digit :: ·) else none

def digitOf (digit : Char) : Nat := (Text.hexDigit? digit).getD 0

/-- An integer in a base, with its prefix removed. -/
def basedInteger? (base : Nat) (digits : List Char) : Option Int :=
  let isDigit (digit : Char) : Bool := Text.isHexDigit digit && digitOf digit < base
  (partedDigits? isDigit digits).bind fun digits =>
    let value := digits.foldl (fun value digit => base * value + digitOf digit) 0
    if (value : Int) ≤ Decimal.greatestInt64 then some value else none

/-- The sign of a numeral and the rest of it. -/
def splitSign : List Char → List Char × List Char
  | '-' :: rest => (['-'], rest)
  | '+' :: rest => ([], rest)
  | text => ([], text)

/-- The digits of a whole part, which has no needless zero in front. -/
def wholeDigits? (digits : List Char) : Option (List Char) :=
  (partedDigits? Char.isDigit digits).filter fun digits =>
    digits.head? ≠ some '0' || digits.length = 1

def isPartedDigit (character : Char) : Bool := character.isDigit || character = '_'

/-- A fraction, with its point, and the rest. -/
def splitFraction? : List Char → Option (List Char × List Char)
  | '.' :: rest =>
      (partedDigits? Char.isDigit (rest.takeWhile isPartedDigit)).map fun digits =>
        ('.' :: digits, rest.dropWhile isPartedDigit)
  | text => some ([], text)

/-- An exponent, with its mark, which ends the numeral. -/
def exponent? : List Char → Option (List Char)
  | [] => some []
  | mark :: rest =>
      if mark = 'e' || mark = 'E' then
        let (sign, digits) := splitSign rest
        (partedDigits? Char.isDigit digits).map fun digits => 'e' :: sign ++ digits
      else none

/-- A decimal number of which the sign has been split off. -/
def decimal? (sign text : List Char) : Option Double := do
  let whole ← wholeDigits? (text.takeWhile isPartedDigit)
  let (fraction, rest) ← splitFraction? (text.dropWhile isPartedDigit)
  let exponent ← exponent? rest
  let value ← Double.read? (sign ++ whole ++ fraction ++ exponent)
  if value.isFinite then some value else none

/-- A number that begins with its sign, if it has one. -/
def number? (text : List Char) : Option Node :=
  let (sign, magnitude) := splitSign text
  if magnitude = ['i', 'n', 'f'] then some (.decimal (.infinite (sign ≠ [])))
  else if magnitude = ['n', 'a', 'n'] then some (.decimal .nan)
  else
    match wholeDigits? magnitude with
    | some digits =>
        (Decimal.readInt? Decimal.leastInt64 Decimal.greatestInt64 (sign ++ digits)).map .integer
    | none => (decimal? sign magnitude).map .decimal

/-- A natural number of exactly so many digits, at most `greatest`. -/
def readFixed (width greatest : Nat) : Reader Nat := fun text =>
  let digits := text.take width
  if digits.length = width && digits.all Char.isDigit && Decimal.ofDigits digits ≤ greatest then
    some (Decimal.ofDigits digits, text.drop width)
  else none

/-- A given character. -/
def readChar (expected : Char) : Reader Unit
  | character :: rest => if character = expected then some ((), rest) else none
  | [] => none

/-- A natural number with at least two digits. -/
def twoDigits (value : Nat) : String := if value < 10 then "0" ++ toString value else toString value

def isLeapYear (year : Nat) : Bool :=
  year % 4 = 0 && (year % 100 ≠ 0 || year % 400 = 0)

def daysIn (year month : Nat) : Nat :=
  if month = 2 then (if isLeapYear year then 29 else 28)
  else if month = 4 || month = 6 || month = 9 || month = 11 then 30
  else 31

/-- A date, as it is written. -/
def readDate : Reader String := fun text => do
  let (year, rest) ← readFixed 4 9999 text
  let (_, rest) ← readChar '-' rest
  let (month, rest) ← readFixed 2 12 rest
  let (_, rest) ← readChar '-' rest
  let (day, rest) ← readFixed 2 (daysIn year month) rest
  if month = 0 || day = 0 then none
  else some (String.ofList (text.take 10), rest)

/-- The first nine digits of a fraction of a second, without zeros at the end. -/
def fractionText (digits : List Char) : String :=
  let shown := ((digits.take 9).reverse.dropWhile (· = '0')).reverse
  if shown = [] then "" else "." ++ String.ofList shown

/-- The seconds of a time, which may be missing. -/
def readSeconds : Reader String
  | ':' :: text => do
      let (seconds, rest) ← readFixed 2 60 text
      let shown := ":" ++ twoDigits seconds
      match rest with
      | '.' :: rest =>
          let digits := rest.takeWhile Char.isDigit
          if digits = [] then none
          else some (shown ++ fractionText digits, rest.drop digits.length)
      | rest => some (shown, rest)
  | text => some ("", text)

/-- A time of the day. -/
def readTime : Reader String := fun text => do
  let (hour, rest) ← readFixed 2 23 text
  let (_, rest) ← readChar ':' rest
  let (minute, rest) ← readFixed 2 59 rest
  let (seconds, rest) ← readSeconds rest
  return (twoDigits hour ++ ":" ++ twoDigits minute ++ seconds, rest)

/-- The distance from universal time, which may be missing. -/
def readOffset : Reader String
  | [] => some ("", [])
  | mark :: rest =>
      if mark = 'Z' || mark = 'z' then some ("Z", rest)
      else if mark = '+' || mark = '-' then do
        let (hours, rest) ← readFixed 2 23 rest
        let (_, rest) ← readChar ':' rest
        let (minutes, rest) ← readFixed 2 59 rest
        let sign := if mark = '-' && hours + minutes ≠ 0 then "-" else "+"
        return (sign ++ twoDigits hours ++ ":" ++ twoDigits minutes, rest)
      else some ("", mark :: rest)

/-- Whether a time follows after a date. -/
def timeFollows : List Char → Bool
  | mark :: digit :: _ => (mark = 'T' || mark = 't' || mark = ' ') && digit.isDigit
  | _ => false

/-- A date, a time, or both. -/
def readMoment : Reader String := fun text =>
  match readDate text with
  | none => readTime text
  | some (date, rest) =>
      if timeFollows rest then do
        let (time, rest) ← readTime (rest.drop 1)
        let (offset, rest) ← readOffset rest
        return (date ++ "T" ++ time ++ offset, rest)
      else some (date, rest)

/-- A character of a number or a word. -/
def isTokenCharacter (character : Char) : Bool :=
  character.isAlphanum || character = '_' || character = '+' || character = '-' ||
    character = '.'

/-- The value of a token. -/
def token? : List Char → Option Node
  | ['t', 'r', 'u', 'e'] => some (.bool true)
  | ['f', 'a', 'l', 's', 'e'] => some (.bool false)
  | '0' :: 'x' :: digits => (basedInteger? 16 digits).map .integer
  | '0' :: 'o' :: digits => (basedInteger? 8 digits).map .integer
  | '0' :: 'b' :: digits => (basedInteger? 2 digits).map .integer
  | text => number? text

/-- A number, a truth value, a date or a time. -/
def readScalar : Reader Node := fun text =>
  match readMoment text with
  | some (written, rest) => some (.moment written, rest)
  | none =>
      (token? (text.takeWhile isTokenCharacter)).map fun node =>
        (node, text.dropWhile isTokenCharacter)

end AtLeastOnce.Toml
