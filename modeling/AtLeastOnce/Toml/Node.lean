import AtLeastOnce.Number.Double

/-!
# TOML nodes

A document is a table.  How a table came to be decides what may still be added to
it.
-/

namespace AtLeastOnce.Toml

inductive TableForm where
  /-- Above a table with a header of its own. -/
  | implied
  /-- Named by a header. -/
  | headed
  /-- Above a value with a key of several parts. -/
  | dotted
  /-- Written in braces, and complete. -/
  | inline
  deriving DecidableEq, Repr

inductive Node where
  | text (value : String)
  | integer (value : Int)
  | decimal (value : Double)
  | bool (value : Bool)
  /-- A date, a time or both. -/
  | moment (written : String)
  | array (items : List Node)
  | table (form : TableForm) (entries : List (String × Node))
  /-- A list of tables that share a header. -/
  | tables (items : List Node)
  deriving Repr

abbrev Entries := List (String × Node)

inductive Statement where
  | header (path : List String)
  | itemHeader (path : List String)
  | pair (path : List String) (value : Node)

/-- A reader takes the beginning of a text and leaves the rest. -/
abbrev Reader (α : Type) := List Char → Option (α × List Char)

/-- A blank within a line. -/
def isBlank (character : Char) : Bool := character = ' ' || character = '\t'

def skipBlanks (text : List Char) : List Char := text.dropWhile isBlank

/-- A character that may stand in a comment or unescaped in a text. -/
def isPlain (character : Char) : Bool :=
  character = '\t' || (0x20 ≤ character.toNat && character.toNat ≠ 0x7F)

/-- The text after a line break, if it begins with one. -/
def afterBreak? : List Char → Option (List Char)
  | '\n' :: rest => some rest
  | '\r' :: '\n' :: rest => some rest
  | _ => none

/-- The text without a comment at its beginning. -/
def skipComment : List Char → List Char
  | '#' :: rest => rest.dropWhile isPlain
  | text => text

end AtLeastOnce.Toml
