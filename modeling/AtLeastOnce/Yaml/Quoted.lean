import AtLeastOnce.Yaml.Cursor

/-!
# Quoted scalars

Between single quotes only the quote itself is written twice; between double quotes
a backslash escapes.  Lines are folded.
-/

namespace AtLeastOnce.Yaml

/-- Reads on after a fold that keeps the indentation. -/
def foldInQuotes? (parent : Int) (cursor : Cursor) : Option Fold :=
  (fold? cursor).filter fun fold =>
    parent < (fold.indentation : Int) && !fold.cursor.atEnd

/-- Blanks that come before a line break. -/
def isFold (cursor : Cursor) : Bool := cursor.skipBlanks.rest.head? = some '\n'

/-- The characters up to a single quote; `limit` bounds the steps. -/
def readSingle (parent : Int) : Nat → Reader (List Char)
  | 0, _ => none
  | limit + 1, cursor =>
      if isFold cursor then do
        let fold ← foldInQuotes? parent cursor
        let (characters, cursor) ← readSingle parent limit fold.cursor
        return (fold.chars ++ characters, cursor)
      else
        match cursor.rest with
        | [] => none
        | '\'' :: '\'' :: _ => do
            let (characters, cursor) ← readSingle parent limit (cursor.skip 2)
            return ('\'' :: characters, cursor)
        | '\'' :: _ => some ([], cursor.next)
        | character :: _ => do
            let (characters, cursor) ← readSingle parent limit cursor.next
            return (character :: characters, cursor)

/-- The escapes of one letter. -/
def simpleEscapes : List (Char × Char) :=
  [('0', '\x00'), ('a', '\x07'), ('b', '\x08'), ('t', '\t'), ('\t', '\t'), ('n', '\n'),
    ('v', '\x0b'), ('f', '\x0c'), ('r', '\r'), ('e', '\x1b'), (' ', ' '), ('"', '"'),
    ('/', '/'), ('\\', '\\'), ('N', '\u0085'), ('_', '\u00a0'), ('L', '\u2028'),
    ('P', '\u2029')]

/-- The number of digits that follow the letter of an escape. -/
def digitsAfter? (letter : Char) : Option Nat :=
  if letter = 'x' then some 2
  else if letter = 'u' then some 4
  else if letter = 'U' then some 8
  else none

/-- The character of an escape whose backslash has been read. -/
def readEscape : Reader Char := fun cursor =>
  match cursor.rest with
  | [] => none
  | letter :: rest =>
      match digitsAfter? letter with
      | some width =>
          let digits := rest.take width
          let code := Text.hexNumber digits
          if digits.length = width && digits.all Text.isHexDigit && code.isValidChar then
            some (Char.ofNat code, cursor.skip (width + 1))
          else none
      | none => (simpleEscapes.lookup letter).map fun character => (character, cursor.next)

/-- The characters up to a double quote; `limit` bounds the steps. -/
def readDouble (parent : Int) : Nat → Reader (List Char)
  | 0, _ => none
  | limit + 1, cursor =>
      if isFold cursor then do
        let fold ← foldInQuotes? parent cursor
        let (characters, cursor) ← readDouble parent limit fold.cursor
        return (fold.chars ++ characters, cursor)
      else
        match cursor.rest with
        | [] => none
        | '"' :: _ => some ([], cursor.next)
        | '\\' :: '\n' :: _ => do
            let fold ← foldInQuotes? parent cursor.next
            let (characters, cursor) ← readDouble parent limit fold.cursor
            return (List.replicate (fold.breaks - 1) '\n' ++ characters, cursor)
        | '\\' :: _ => do
            let (escaped, cursor) ← readEscape cursor.next
            let (characters, cursor) ← readDouble parent limit cursor
            return (escaped :: characters, cursor)
        | character :: _ => do
            let (characters, cursor) ← readDouble parent limit cursor.next
            return (character :: characters, cursor)

/-- A scalar in quotes of either kind. -/
def readQuoted (parent : Int) : Reader (List Char) := fun cursor =>
  let limit := cursor.rest.length + 1
  match cursor.rest with
  | '\'' :: _ => readSingle parent limit cursor.next
  | '"' :: _ => readDouble parent limit cursor.next
  | _ => none

end AtLeastOnce.Yaml
