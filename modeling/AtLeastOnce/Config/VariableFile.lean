import AtLeastOnce.Config.Environment
import AtLeastOnce.Text.Blank

/-!
# Files of variables

A file of variables sets one variable a line, unless it is set already.  A value
may be quoted, go on over several lines while a quote is open, hold escapes, and
refer to other variables.  At the first line that cannot be read the rest of the
file is passed over.
-/

namespace AtLeastOnce.Config.VariableFile

/-- The file that is read if it is there. -/
def standardFile : String := ".env"

/-! ### Lines -/

/-- Where in a line a character stands. -/
inductive Place where
  | plain
  | blank
  | escaped
  | single
  | singleEscaped
  | double
  | doubleEscaped
  deriving DecidableEq, Repr

/-- The place after a character that opens a quote or an escape, or does not. -/
def Place.opened (character : Char) : Place :=
  if character = '\\' then .escaped
  else if character = '"' then .double
  else if character = '\'' then .single
  else .plain

/-- The place after a character. -/
def Place.next (place : Place) (character : Char) : Place :=
  match place with
  | .plain =>
      if Text.isBlank character && character ≠ '\n' && character ≠ '\r' then .blank
      else .opened character
  | .blank => .opened character
  | .escaped => .plain
  | .single =>
      if character = '\\' then .singleEscaped
      else if character = '\'' then .plain
      else .single
  | .singleEscaped => .single
  | .double =>
      if character = '\\' then .doubleEscaped
      else if character = '"' then .plain
      else .double
  | .doubleEscaped => .double

/-- The characters of a line before a comment, and the place after the line if no
comment ends it. -/
def scan : Place → List Char → List Char × Option Place
  | place, [] => ([], some place)
  | place, character :: rest =>
      if place = .blank && character = '#' then ([], none)
      else
        let (kept, last) := scan (place.next character) rest
        (character :: kept, last)

/-- The lines of a text, each with the character that ends it. -/
def physicalLines : List Char → List (List Char)
  | [] => []
  | '\n' :: rest => ['\n'] :: physicalLines rest
  | character :: rest =>
      match physicalLines rest with
      | [] => [[character]]
      | line :: lines => (character :: line) :: lines

/-- The line without the characters that end it. -/
def withoutLineEnd (line : List Char) : List Char :=
  match line.reverse with
  | '\n' :: '\r' :: rest => rest.reverse
  | '\n' :: rest => rest.reverse
  | _ => line

def isComment (line : List Char) : Bool := (line.dropWhile Text.isBlank).head? = some '#'

/-- The lines in which values that go on over several lines are joined; nothing
stands for a value that never ends. -/
def logicalLines : List Char → Place → List (List Char) → List (Option (List Char))
  | _, place, [] => if place = .plain then [] else [none]
  | pending, place, line :: rest =>
      let joined := pending ++ line
      if isComment joined then some [] :: logicalLines [] .plain rest
      else
        match scan place line with
        | (kept, none) => some (pending ++ kept) :: logicalLines [] .plain rest
        | (_, some .plain) => some (withoutLineEnd joined) :: logicalLines [] .plain rest
        | (_, some place) => logicalLines joined place rest

/-! ### Values -/

/-- A reference to a variable that is being read. -/
inductive Reference where
  | none
  /-- A name that ends with its last letter or digit. -/
  | bare
  /-- A name in braces. -/
  | braced
  deriving DecidableEq, Repr

/-- How far a value has been read. -/
structure Reading where
  output : List Char
  single : Bool
  double : Bool
  escaped : Bool
  /-- Only blanks and a comment may follow. -/
  ended : Bool
  reference : Reference
  name : List Char

def Reading.start : Reading := ⟨[], false, false, false, false, .none, []⟩

/-- Puts the value of the variable that has been named into the output. -/
def Reading.substitute (reading : Reading) (environment : Environment.Variables) : Reading :=
  let value := (environment.lookup (String.ofList reading.name)).getD ""
  { reading with output := reading.output ++ value.toList, name := [] }

def Reading.put (reading : Reading) (character : Char) : Reading :=
  { reading with output := reading.output ++ [character] }

/-- The character that an escape stands for. -/
def escape? (character : Char) : Option Char :=
  if "\\'\"$ ".toList.contains character then some character
  else if character = 'n' then some '\n'
  else none

/-- A character of a reference. -/
def Reading.refer (reading : Reading) (environment : Environment.Variables) (character : Char) :
    Reading :=
  if character.isAlphanum then { reading with name := reading.name ++ [character] }
  else
    match reading.reference with
    | .braced =>
        if character = '\x7d' then { reading.substitute environment with reference := .none }
        else { reading with name := reading.name ++ [character] }
    | _ =>
        if character = '\x7b' && reading.name = [] then { reading with reference := .braced }
        else if character = '$' then { reading.substitute environment with reference := .bare }
        else ({ reading.substitute environment with reference := .none }).put character

/-- A character outside of single quotes, escapes and references. -/
def Reading.take (reading : Reading) (character : Char) : Reading :=
  if character = '$' then { reading with reference := .bare }
  else if character = '\\' then { reading with escaped := true }
  else if reading.double then
    if character = '"' then { reading with double := false } else reading.put character
  else if character = '\'' then { reading with single := true }
  else if character = '"' then { reading with double := true }
  else if character = ' ' || character = '\t' then { reading with ended := true }
  else reading.put character

/-- The whole of a value. -/
def readChars (environment : Environment.Variables) : Reading → List Char → Option Reading
  | reading, [] => some reading
  | reading, character :: rest =>
      if reading.ended then
        if character = ' ' || character = '\t' then readChars environment reading rest
        else if character = '#' then some reading
        else none
      else if reading.escaped then
        (escape? character).bind fun escaped =>
          readChars environment ({ reading with escaped := false }.put escaped) rest
      else if reading.single then
        if character = '\'' then readChars environment { reading with single := false } rest
        else readChars environment (reading.put character) rest
      else if reading.reference ≠ .none then
        readChars environment (reading.refer environment character) rest
      else readChars environment (reading.take character) rest

/-- A value, unless a quote or a brace stays open. -/
def readValue? (environment : Environment.Variables) (text : List Char) : Option String :=
  (readChars environment .start text).bind fun reading =>
    if reading.single || reading.double || reading.reference = .braced then none
    else some (String.ofList (reading.substitute environment).output)

/-! ### Assignments -/

def isNameStart (character : Char) : Bool := character.isAlpha || character = '_'

def isNameCharacter (character : Char) : Bool :=
  character.isAlphanum || character = '_' || character = '.'

/-- A name, and what follows it without the blanks between. -/
def readName? (text : List Char) : Option (String × List Char) :=
  if (text.take 1).any isNameStart then
    some (String.ofList (text.takeWhile isNameCharacter),
      (text.dropWhile isNameCharacter).dropWhile Text.isBlank)
  else none

/-- The name that a line sets, and what follows the equals sign. -/
def readTarget? (line : List Char) : Option (String × List Char) :=
  (readName? line).bind fun (name, rest) =>
    match rest with
    | '=' :: value => some (name, value)
    | other =>
        if name = "export" then
          (readName? other).bind fun (name, rest) =>
            match rest with
            | '=' :: value => some (name, value)
            | _ => none
        else none

/-- What a line sets: nothing at all when it is empty.  No answer means that the
line cannot be read. -/
def readLine? (environment : Environment.Variables) (line : List Char) :
    Option (Option (String × String)) :=
  let trimmed := Text.trimBlanks line
  if trimmed = [] || isComment trimmed then some none
  else
    (readTarget? trimmed).bind fun (name, rest) =>
      let value := rest.dropWhile Text.isBlank
      if value = [] || isComment value then some (some (name, ""))
      else (readValue? environment value).map fun value => some (name, value)

/-- Adds a variable unless it is set. -/
def addMissing (environment : Environment.Variables) (name value : String) :
    Environment.Variables :=
  match environment.lookup name with
  | some _ => environment
  | none => environment ++ [(name, value)]

/-- Adds the variables of some lines, up to the first that cannot be read. -/
def addLines (environment : Environment.Variables) :
    List (Option (List Char)) → Environment.Variables
  | [] => environment
  | none :: _ => environment
  | some line :: rest =>
      match readLine? environment line with
      | none => environment
      | some none => addLines environment rest
      | some (some (name, value)) => addLines (addMissing environment name value) rest

/-- Adds the variables of a file to those that are set. -/
def add (environment : Environment.Variables) (text : String) : Environment.Variables :=
  let chars :=
    match text.toList with
    | '\ufeff' :: rest => rest
    | chars => chars
  addLines environment (logicalLines [] .plain (physicalLines chars))

end AtLeastOnce.Config.VariableFile
