import AtLeastOnce.Json

/-!
# Writing JSON

A value as text without blanks.  In a string only quotes, backslashes and control
characters are escaped.
-/

namespace AtLeastOnce.Json

/-- A hexadecimal digit below sixteen. -/
def hexDigit (value : Nat) : Char :=
  if value < 10 then Char.ofNat ('0'.toNat + value) else Char.ofNat ('a'.toNat + (value - 10))

/-- A character of a string. -/
def writeChar (character : Char) : List Char :=
  let code := character.toNat
  if character = '"' then ['\\', '"']
  else if character = '\\' then ['\\', '\\']
  else if character = '\n' then ['\\', 'n']
  else if character = '\r' then ['\\', 'r']
  else if character = '\t' then ['\\', 't']
  else if character = '\x08' then ['\\', 'b']
  else if character = '\x0c' then ['\\', 'f']
  else if code < 0x20 then ['\\', 'u', '0', '0', hexDigit (code / 16), hexDigit (code % 16)]
  else [character]

def writeString (text : String) : List Char :=
  '"' :: (text.toList.flatMap writeChar ++ ['"'])

/-- Some texts with a comma between each two of them. -/
def separated : List (List Char) → List Char
  | [] => []
  | [last] => last
  | text :: rest => text ++ ',' :: separated rest

mutual

def write : Json → List Char
  | .null => "null".toList
  | .bool true => "true".toList
  | .bool false => "false".toList
  | .natural value => (toString value).toList
  | .negative value => (toString value).toList
  | .decimal value => value.chars Double.scientificLayout
  | .string value => writeString value
  | .array items => '[' :: (separated (writeItems items) ++ [']'])
  | .object members => '\x7b' :: (separated (writeMembers members) ++ ['\x7d'])

def writeItems : List Json → List (List Char)
  | [] => []
  | item :: rest => write item :: writeItems rest

def writeMembers : List (String × Json) → List (List Char)
  | [] => []
  | (name, value) :: rest => (writeString name ++ ':' :: write value) :: writeMembers rest

end

/-- The value as text. -/
def text (value : Json) : String := String.ofList value.write

end AtLeastOnce.Json
