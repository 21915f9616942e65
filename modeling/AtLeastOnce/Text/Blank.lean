/-!
# Blank characters

The characters that carry no ink and separate words, and texts without them at
either end.
-/

namespace AtLeastOnce.Text

/-- The 25 blank characters. -/
def isBlank (character : Char) : Bool :=
  let code := character.toNat
  (0x09 ≤ code && code ≤ 0x0D) || code = 0x20 || code = 0x85 || code = 0xA0 ||
    code = 0x1680 || (0x2000 ≤ code && code ≤ 0x200A) || code = 0x2028 ||
    code = 0x2029 || code = 0x202F || code = 0x205F || code = 0x3000

/-- Whether nothing but blanks is in the text. -/
def allBlank (text : String) : Bool := text.toList.all isBlank

/-- The text without blanks at either end. -/
def trimBlanks (text : List Char) : List Char :=
  ((text.dropWhile isBlank).reverse.dropWhile isBlank).reverse

end AtLeastOnce.Text
