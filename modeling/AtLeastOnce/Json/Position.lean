/-!
# Where a JSON text goes wrong

A reader that stops says why, what was left to read, and how many bytes beyond
that it had looked at.  From this follow a line and a column; columns count bytes.
-/

namespace AtLeastOnce.Json

inductive SyntaxFault where
  | endInList
  | endInObject
  | endInString
  | endInValue
  | expectedColon
  | expectedListSeparator
  | expectedObjectSeparator
  | expectedWord
  | expectedValue
  | invalidEscape
  | invalidNumber
  | numberOutOfRange
  | controlCharacter
  | keyNotString
  | loneSurrogate
  | trailingComma
  | trailingCharacters
  | unfinishedEscape
  | tooDeep
  deriving DecidableEq, Repr

def SyntaxFault.message : SyntaxFault → String
  | .endInList => "EOF while parsing a list"
  | .endInObject => "EOF while parsing an object"
  | .endInString => "EOF while parsing a string"
  | .endInValue => "EOF while parsing a value"
  | .expectedColon => "expected `:`"
  | .expectedListSeparator => "expected `,` or `]`"
  | .expectedObjectSeparator => "expected `,` or `\x7d`"
  | .expectedWord => "expected ident"
  | .expectedValue => "expected value"
  | .invalidEscape => "invalid escape"
  | .invalidNumber => "invalid number"
  | .numberOutOfRange => "number out of range"
  | .controlCharacter => "control character (\\u0000-\\u001F) found while parsing a string"
  | .keyNotString => "key must be a string"
  | .loneSurrogate => "lone leading surrogate in hex escape"
  | .trailingComma => "trailing comma"
  | .trailingCharacters => "trailing characters"
  | .unfinishedEscape => "unexpected end of hex escape"
  | .tooDeep => "recursion limit exceeded"

/-- The number of bytes of a text. -/
def byteLength (text : List Char) : Nat :=
  text.foldr (fun character total => character.utf8Size + total) 0

/-- A place in a text: what is left to read, and the bytes looked at beyond. -/
structure Place where
  rest : List Char
  beyond : Nat
  deriving DecidableEq, Repr

/-- The place before everything that is left. -/
def Place.before (rest : List Char) : Place := ⟨rest, 0⟩

/-- The place after the next byte, if there is one. -/
def Place.afterNext (rest : List Char) : Place := ⟨rest, if rest = [] then 0 else 1⟩

structure Position where
  line : Nat
  column : Nat
  deriving DecidableEq, Repr

/-- The line and column after the first `offset` bytes of a text, when the last
line began `column` bytes before. -/
def positionFrom (line column : Nat) : Nat → List Char → Position
  | 0, _ => ⟨line, column⟩
  | offset, [] => ⟨line, column + offset⟩
  | offset, character :: rest =>
      if offset < character.utf8Size then ⟨line, column + offset⟩
      else if character = '\n' then positionFrom (line + 1) 0 (offset - 1) rest
      else positionFrom line (column + character.utf8Size) (offset - character.utf8Size) rest

/-- The position of a place in the text that was being read. -/
def Place.position (text : List Char) (place : Place) : Position :=
  positionFrom 1 0 (byteLength text - byteLength place.rest + place.beyond) text

/-- The position in words. -/
def Position.message (position : Position) : String :=
  " at line " ++ toString position.line ++ " column " ++ toString position.column

/-- Why and where reading stopped. -/
structure Stop where
  fault : SyntaxFault
  place : Place
  deriving DecidableEq, Repr

def Stop.message (text : List Char) (stop : Stop) : String :=
  stop.fault.message ++ (stop.place.position text).message

/-- The result of reading the beginning of a text: a value and what is left. -/
abbrev Reading (α : Type) := Except Stop (α × List Char)

/-- Reads something and goes on with it and with what is left. -/
def andThen (first : Reading α) (next : α → List Char → Reading β) : Reading β :=
  match first with
  | .error stop => .error stop
  | .ok (value, rest) => next value rest

/-- Stops before what is left. -/
def stopBefore (fault : SyntaxFault) (rest : List Char) : Except Stop α :=
  .error ⟨fault, .before rest⟩

/-- Stops after the next byte. -/
def stopAfterNext (fault : SyntaxFault) (rest : List Char) : Except Stop α :=
  .error ⟨fault, .afterNext rest⟩

end AtLeastOnce.Json
