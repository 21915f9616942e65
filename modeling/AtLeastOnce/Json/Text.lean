import AtLeastOnce.Json.Position
import AtLeastOnce.Text.Hexadecimal

/-!
# JSON strings

The characters between two quotes, with escapes for control characters and for
any code point.  A code point beyond the basic plane is escaped as two surrogates.
-/

namespace AtLeastOnce.Json

/-- Four hexadecimal digits. -/
def readHex (text : List Char) : Reading Nat :=
  match text with
  | first :: second :: third :: fourth :: rest =>
      match Text.hexDigit? first, Text.hexDigit? second, Text.hexDigit? third,
          Text.hexDigit? fourth with
      | some a, some b, some c, some d => .ok (((a * 16 + b) * 16 + c) * 16 + d, rest)
      | _, _, _, _ => .error ⟨.invalidEscape, ⟨text, 4⟩⟩
  | short =>
      if byteLength short < 4 then stopBefore .endInString []
      else .error ⟨.invalidEscape, ⟨short, 4⟩⟩

def isLeadingSurrogate (unit : Nat) : Bool := 0xD800 ≤ unit && unit ≤ 0xDBFF

def isTrailingSurrogate (unit : Nat) : Bool := 0xDC00 ≤ unit && unit ≤ 0xDFFF

/-- The code point of two surrogates. -/
def surrogatePair (leading trailing : Nat) : Nat :=
  0x10000 + (leading - 0xD800) * 0x400 + (trailing - 0xDC00)

/-- The second surrogate, after the first one. -/
def readTrailing (leading : Nat) : List Char → Reading Char
  | '\\' :: 'u' :: rest =>
      andThen (readHex rest) fun unit rest =>
        if isTrailingSurrogate unit then .ok (Char.ofNat (surrogatePair leading unit), rest)
        else stopBefore .loneSurrogate rest
  | '\\' :: [] => stopBefore .endInString []
  | '\\' :: rest => stopAfterNext .unfinishedEscape rest
  | [] => stopBefore .endInString []
  | rest => stopAfterNext .unfinishedEscape rest

/-- The character of an escape whose backslash has been read. -/
def readEscape : List Char → Reading Char
  | [] => stopBefore .endInString []
  | '"' :: rest => .ok ('"', rest)
  | '\\' :: rest => .ok ('\\', rest)
  | '/' :: rest => .ok ('/', rest)
  | 'b' :: rest => .ok ('\x08', rest)
  | 'f' :: rest => .ok ('\x0c', rest)
  | 'n' :: rest => .ok ('\n', rest)
  | 'r' :: rest => .ok ('\r', rest)
  | 't' :: rest => .ok ('\t', rest)
  | 'u' :: rest =>
      andThen (readHex rest) fun unit rest =>
        if isTrailingSurrogate unit then stopBefore .loneSurrogate rest
        else if isLeadingSurrogate unit then readTrailing unit rest
        else .ok (Char.ofNat unit, rest)
  | other => stopAfterNext .invalidEscape other

/-- The characters up to the closing quote; `limit` bounds their number. -/
def readChars : Nat → List Char → Reading (List Char)
  | 0, text => stopBefore .endInString text
  | _ + 1, [] => stopBefore .endInString []
  | limit + 1, character :: rest =>
      if character = '"' then .ok ([], rest)
      else if character = '\\' then
        andThen (readEscape rest) fun escaped rest =>
          andThen (readChars limit rest) fun characters rest => .ok (escaped :: characters, rest)
      else if character.toNat < 0x20 then
        stopAfterNext .controlCharacter (character :: rest)
      else
        andThen (readChars limit rest) fun characters rest => .ok (character :: characters, rest)

/-- A string whose opening quote has been read. -/
def readString (text : List Char) : Reading String :=
  andThen (readChars (text.length + 1) text) fun characters rest =>
    .ok (String.ofList characters, rest)

end AtLeastOnce.Json
