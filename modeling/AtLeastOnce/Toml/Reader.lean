import AtLeastOnce.Toml.Document
import AtLeastOnce.Toml.Scalar
import AtLeastOnce.Toml.Text

/-!
# Reading TOML

A document is a sequence of lines with at most one statement each.  Arrays and
tables in braces may go over several lines and be nested 80 deep.
-/

namespace AtLeastOnce.Toml

/-- Blanks, comments and line breaks; `limit` bounds the number of lines. -/
def skipLinesUpTo : Nat → List Char → List Char
  | 0, text => text
  | limit + 1, text =>
      let rest := skipComment (skipBlanks text)
      match afterBreak? rest with
      | some rest => skipLinesUpTo limit rest
      | none => rest

def skipLines (text : List Char) : List Char := skipLinesUpTo (text.length + 1) text

/-- The values of an array after its bracket; `limit` bounds their number. -/
def readItems (readValue : Reader Node) : Nat → Reader (List Node)
  | 0, _ => none
  | limit + 1, text =>
      match skipLines text with
      | ']' :: rest => some ([], rest)
      | text => do
          let (item, rest) ← readValue text
          match skipLines rest with
          | ',' :: rest =>
              let (items, rest) ← readItems readValue limit rest
              return (item :: items, rest)
          | ']' :: rest => return ([item], rest)
          | _ => none

/-- A key, the sign between, and a value. -/
def readPair (readValue : Reader Node) : Reader (List String × Node) := fun text => do
  let (path, rest) ← readKey text
  match rest with
  | '=' :: rest =>
      let (value, rest) ← readValue (skipBlanks rest)
      return ((path, value), rest)
  | _ => none

/-- The pairs of a table after its brace; `limit` bounds their number. -/
def readPairs (readValue : Reader Node) : Nat → Reader (List (List String × Node))
  | 0, _ => none
  | limit + 1, text =>
      match skipLines text with
      | '\x7d' :: rest => some ([], rest)
      | text => do
          let (pair, rest) ← readPair readValue text
          match skipLines rest with
          | ',' :: rest =>
              let (pairs, rest) ← readPairs readValue limit rest
              return (pair :: pairs, rest)
          | '\x7d' :: rest => return ([pair], rest)
          | _ => none

/-- The levels of nesting that a value may use, and one. -/
def depthLimit : Nat := 81

/-- A value of at most `depth - 1` levels of nesting. -/
def readValue : Nat → Reader Node
  | 0, _ => none
  | depth + 1, text =>
      match text with
      | '[' :: rest => do
          let (items, rest) ← readItems (readValue depth) (rest.length + 1) rest
          return (.array items, rest)
      | '\x7b' :: rest => do
          let (pairs, rest) ← readPairs (readValue depth) (rest.length + 1) rest
          let table ← inlineTable? pairs
          return (table, rest)
      | '"' :: _ => (readText text).map fun (value, rest) => (.text value, rest)
      | '\'' :: _ => (readText text).map fun (value, rest) => (.text value, rest)
      | _ => readScalar text

/-- A statement at the beginning of a line. -/
def readStatement : Reader Statement
  | '[' :: '[' :: text => do
      let (path, rest) ← readKey text
      match rest with
      | ']' :: ']' :: rest => return (.itemHeader path, rest)
      | _ => none
  | '[' :: text => do
      let (path, rest) ← readKey text
      match rest with
      | ']' :: rest => return (.header path, rest)
      | _ => none
  | text => do
      let ((path, value), rest) ← readPair (readValue depthLimit) text
      return (.pair path value, rest)

/-- Whether nothing but blanks and a comment is left of a line. -/
def lineIsOver (text : List Char) : Bool :=
  let rest := skipComment (skipBlanks text)
  rest = [] || (afterBreak? rest).isSome

/-- The statements of a document; `limit` bounds their number. -/
def readStatements : Nat → List Char → Option (List Statement)
  | 0, _ => none
  | limit + 1, text =>
      match skipLines text with
      | [] => some []
      | text => do
          let (statement, rest) ← readStatement text
          if lineIsOver rest then
            let statements ← readStatements limit rest
            return statement :: statements
          else none

/-- A mark in front of a text that tells the order of its bytes. -/
def byteOrderMark : Char := '\ufeff'

/-- The text without a byte order mark in front. -/
def withoutMark : List Char → List Char
  | character :: rest => if character = byteOrderMark then rest else character :: rest
  | [] => []

/-- The entries of a document. -/
def read? (text : List Char) : Option Entries :=
  let text := withoutMark text
  (readStatements (text.length + 1) text).bind assemble?

end AtLeastOnce.Toml
