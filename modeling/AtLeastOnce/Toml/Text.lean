import AtLeastOnce.Text.Hexadecimal
import AtLeastOnce.Toml.Node

/-!
# TOML texts

Basic texts know escapes, literal texts do not; both may go over several lines
between threefold quotes, and then a line break right after the opening quotes does
not count.
-/

namespace AtLeastOnce.Toml

/-- The character with a code point of so many hexadecimal digits. -/
def readCodePoint (width : Nat) : Reader Char := fun text =>
  let digits := text.take width
  let code := Text.hexNumber digits
  if digits.length = width && digits.all Text.isHexDigit && code.isValidChar then
    some (Char.ofNat code, text.drop width)
  else none

/-- The character of an escape whose backslash has been read. -/
def readEscape : Reader Char
  | 'b' :: rest => some ('\x08', rest)
  | 't' :: rest => some ('\t', rest)
  | 'n' :: rest => some ('\n', rest)
  | 'f' :: rest => some ('\x0c', rest)
  | 'r' :: rest => some ('\r', rest)
  | 'e' :: rest => some ('\x1b', rest)
  | '"' :: rest => some ('"', rest)
  | '\\' :: rest => some ('\\', rest)
  | 'x' :: rest => readCodePoint 2 rest
  | 'u' :: rest => readCodePoint 4 rest
  | 'U' :: rest => readCodePoint 8 rest
  | _ => none

/-- The characters of a basic text up to its quote; `limit` bounds their number. -/
def readBasic : Nat → Reader (List Char)
  | 0, _ => none
  | _ + 1, [] => none
  | limit + 1, character :: text =>
      if character = '"' then some ([], text)
      else if character = '\\' then do
        let (escaped, rest) ← readEscape text
        let (characters, rest) ← readBasic limit rest
        return (escaped :: characters, rest)
      else if isPlain character then do
        let (characters, rest) ← readBasic limit text
        return (character :: characters, rest)
      else none

/-- The characters of a literal text up to its quote. -/
def readLiteral : Reader (List Char) := fun text =>
  let characters := text.takeWhile fun character => isPlain character && character ≠ '\''
  match text.drop characters.length with
  | '\'' :: rest => some (characters, rest)
  | _ => none

/-- The quotes at the beginning of a text of several lines: a few that belong to
it, or those that close it with at most two before them. -/
inductive Quotes where
  | belonging (count : Nat)
  | closing (before : Nat)
  | excessive
  deriving DecidableEq, Repr

def Quotes.ofCount (count : Nat) : Quotes :=
  if count < 3 then .belonging count
  else if count ≤ 5 then .closing (count - 3)
  else .excessive

def isBreakOrBlank (character : Char) : Bool :=
  isBlank character || character = '\n' || character = '\r'

/-- The text after a backslash that ends its line, up to the next ink. -/
def afterLineEnd? (text : List Char) : Option (List Char) :=
  (afterBreak? (skipBlanks text)).map fun rest => rest.dropWhile isBreakOrBlank

/-- The characters of a text of several lines; `limit` bounds the steps. -/
def readLines (quote : Char) (escapes : Bool) : Nat → Reader (List Char)
  | 0, _ => none
  | _ + 1, [] => none
  | limit + 1, character :: text =>
      if character = quote then
        let run := (character :: text).takeWhile (· = quote)
        let rest := (character :: text).drop run.length
        match Quotes.ofCount run.length with
        | .belonging _ => do
            let (characters, rest) ← readLines quote escapes limit rest
            return (run ++ characters, rest)
        | .closing before => some (List.replicate before quote, rest)
        | .excessive => none
      else if character = '\\' && escapes then
        match afterLineEnd? text with
        | some rest => readLines quote escapes limit rest
        | none => do
            let (escaped, rest) ← readEscape text
            let (characters, rest) ← readLines quote escapes limit rest
            return (escaped :: characters, rest)
      else
        match afterBreak? (character :: text) with
        | some rest => do
            let (characters, rest) ← readLines quote escapes limit rest
            return ('\n' :: characters, rest)
        | none =>
            if isPlain character then do
              let (characters, rest) ← readLines quote escapes limit text
              return (character :: characters, rest)
            else none

/-- A text of several lines after its opening quotes. -/
def readManyLines (quote : Char) (escapes : Bool) : Reader (List Char) := fun text =>
  readLines quote escapes (text.length + 1) ((afterBreak? text).getD text)

/-- A text on one line, which may also be a key. -/
def readLineText : Reader (List Char)
  | '"' :: rest => readBasic (rest.length + 1) rest
  | '\'' :: rest => readLiteral rest
  | _ => none

/-- A text of any kind. -/
def readText : Reader String := fun text => do
  let (characters, rest) ←
    match text with
    | '"' :: '"' :: '"' :: rest => readManyLines '"' true rest
    | '\'' :: '\'' :: '\'' :: rest => readManyLines '\'' false rest
    | _ => readLineText text
  return (String.ofList characters, rest)

def isBareKeyCharacter (character : Char) : Bool :=
  character.isAlphanum || character = '_' || character = '-'

/-- One part of a key. -/
def readKeyPart : Reader String := fun text =>
  match readLineText text with
  | some (characters, rest) => some (String.ofList characters, rest)
  | none =>
      let name := text.takeWhile isBareKeyCharacter
      if name = [] then none else some (String.ofList name, text.drop name.length)

/-- The parts of a key, with points between them; `limit` bounds their number. -/
def readKeyParts : Nat → Reader (List String)
  | 0, _ => none
  | limit + 1, text => do
      let (part, rest) ← readKeyPart (skipBlanks text)
      match skipBlanks rest with
      | '.' :: rest =>
          let (parts, rest) ← readKeyParts limit rest
          return (part :: parts, rest)
      | rest => return ([part], rest)

/-- A key with the blanks around it. -/
def readKey : Reader (List String) := fun text => readKeyParts (text.length + 1) text

end AtLeastOnce.Toml
