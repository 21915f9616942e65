import AtLeastOnce.Text.Printable

/-!
# Quoted text

A text between double quotes, with an escape for the quote, the backslash and
every character that would not show.
-/

namespace AtLeastOnce.Text

/-- The hexadecimal digits of a code point, in lower case and without padding. -/
def hexDigits (code : Nat) : List Char := Nat.toDigits 16 code

/-- One character as it stands between quotes. -/
def quotedChar (character : Char) : List Char :=
  if character = '"' then ['\\', '"']
  else if character = '\\' then ['\\', '\\']
  else if character = '\n' then ['\\', 'n']
  else if character = '\r' then ['\\', 'r']
  else if character = '\t' then ['\\', 't']
  else if character.toNat = 0 then ['\\', '0']
  else if isPrintable character then [character]
  else ['\\', 'u', '\x7b'] ++ hexDigits character.toNat ++ ['\x7d']

def quotedChars (text : List Char) : List Char :=
  '"' :: text.flatMap quotedChar ++ ['"']

def quoted (text : String) : String := String.ofList (quotedChars text.toList)

end AtLeastOnce.Text
