import AtLeastOnce.Text.Hexadecimal

/-!
# Percent escapes

A percent sign and two hexadecimal digits stand for one byte; the bytes of a text
that was written in this way are read as UTF-8.
-/

namespace AtLeastOnce.Text

/-- The bytes that are escaped; a sign without two digits stands for itself. -/
def unescapedBytes : List Char → List UInt8
  | [] => []
  | '%' :: high :: low :: rest =>
      match hexDigit? high, hexDigit? low with
      | some a, some b => UInt8.ofNat (16 * a + b) :: unescapedBytes rest
      | _, _ => (String.utf8EncodeChar '%') ++ unescapedBytes (high :: low :: rest)
  | character :: rest => String.utf8EncodeChar character ++ unescapedBytes rest

/-- The text without escapes, if its bytes are UTF-8. -/
def unescaped? (text : List Char) : Option (List Char) :=
  (String.fromUTF8? ⟨(unescapedBytes text).toArray⟩).map String.toList

end AtLeastOnce.Text
