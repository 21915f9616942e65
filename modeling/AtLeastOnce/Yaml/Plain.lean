import AtLeastOnce.Yaml.Cursor

/-!
# Plain scalars

A scalar without quotes ends before a colon and a blank, before a comment, in
brackets also before their marks, and before a line that is not indented far
enough.
-/

namespace AtLeastOnce.Yaml

/-- Marks that a plain scalar cannot begin with. -/
def isIndicator (character : Char) : Bool :=
  isFlowMark character || character = '#' || character = '&' || character = '*' ||
    character = '!' || character = '|' || character = '>' || character = '\'' ||
    character = '"' || character = '%' || character = '@' || character = '\x60'

/-- Whether a colon before this text ends a plain scalar. -/
def endsKey (inBrackets : Bool) (text : List Char) : Bool :=
  endsWord text ||
    (inBrackets &&
      match text with
      | character :: _ => isFlowMark character
      | [] => true)

/-- Whether a plain scalar begins here. -/
def beginsPlain (inBrackets : Bool) : List Char → Bool
  | [] => false
  | character :: rest =>
      if character = '-' || character = '?' || character = ':' then !endsKey inBrackets rest
      else !isIndicator character && !endsWord (character :: rest)

/-- The characters of a plain scalar on this line, with the blanks after them. -/
def takePlain (inBrackets : Bool) (afterBlank : Bool) : List Char → List Char
  | [] => []
  | character :: rest =>
      if character = '\n' then []
      else if character = '#' && afterBlank then []
      else if character = ':' && endsKey inBrackets rest then []
      else if inBrackets && isFlowMark character then []
      else character :: takePlain inBrackets (isBlank character) rest

/-- The text without blanks at its end. -/
def trimEnd (text : List Char) : List Char := (text.reverse.dropWhile isBlank).reverse

/-- The part of a plain scalar that is on this line. -/
def plainLine (inBrackets : Bool) : Cursor → List Char × Cursor := fun cursor =>
  let characters := trimEnd (takePlain inBrackets true cursor.rest)
  (characters, cursor.skip characters.length)

/-- The lines on which a plain scalar goes on; `limit` bounds their number. -/
def morePlainLines (parent : Int) (inBrackets : Bool) :
    Nat → Cursor → List Char × Cursor
  | 0, cursor => ([], cursor)
  | limit + 1, cursor =>
      match fold? cursor with
      | none => ([], cursor)
      | some fold =>
          if fold.cursor.atEnd || (fold.indentation : Int) ≤ parent then ([], cursor)
          else
            let (line, next) := plainLine inBrackets fold.cursor
            if line = [] then ([], cursor)
            else
              let (more, last) := morePlainLines parent inBrackets limit next
              (fold.chars ++ line ++ more, last)

/-- A plain scalar. -/
def readPlain (parent : Int) (inBrackets : Bool) : Reader (List Char) := fun cursor =>
  if beginsPlain inBrackets cursor.rest then
    let (line, next) := plainLine inBrackets cursor
    let (more, last) := morePlainLines parent inBrackets cursor.rest.length next
    some (line ++ more, last)
  else none

end AtLeastOnce.Yaml
