import AtLeastOnce.Yaml.Node

/-!
# Places in a YAML text

A cursor is a place in a text: what is left, the column, and the anchors that have
been set.  Line breaks are single characters here.
-/

namespace AtLeastOnce.Yaml

structure Cursor where
  rest : List Char
  column : Nat
  anchors : List (String × Node)

/-- A reader goes on from a place. -/
abbrev Reader (α : Type) := Cursor → Option (α × Cursor)

/-- The text with one character for each line break. -/
def withPlainBreaks : List Char → List Char
  | '\r' :: '\n' :: rest => '\n' :: withPlainBreaks rest
  | '\r' :: rest => '\n' :: withPlainBreaks rest
  | character :: rest => character :: withPlainBreaks rest
  | [] => []

def isBlank (character : Char) : Bool := character = ' ' || character = '\t'

/-- A character that parts the items of a collection in brackets. -/
def isFlowMark (character : Char) : Bool :=
  character = ',' || character = '[' || character = ']' || character = '\x7b' ||
    character = '\x7d'

/-- Whether a word ends here: at a blank, a line break or the end. -/
def endsWord : List Char → Bool
  | [] => true
  | character :: _ => isBlank character || character = '\n'

namespace Cursor

def start (text : List Char) : Cursor := ⟨withPlainBreaks text, 0, []⟩

/-- The place after the next character. -/
def next (cursor : Cursor) : Cursor :=
  match cursor.rest with
  | [] => cursor
  | '\n' :: rest => { cursor with rest, column := 0 }
  | _ :: rest => { cursor with rest, column := cursor.column + 1 }

/-- The place after some characters of the line. -/
def skip (count : Nat) (cursor : Cursor) : Cursor :=
  { cursor with rest := cursor.rest.drop count, column := cursor.column + count }

/-- The characters that come next and have a property. -/
def ahead (property : Char → Bool) (cursor : Cursor) : List Char :=
  cursor.rest.takeWhile property

/-- The place after the blanks that come next. -/
def skipBlanks (cursor : Cursor) : Cursor := cursor.skip (cursor.ahead isBlank).length

/-- Whether a line between documents begins here. -/
def atMarker (cursor : Cursor) : Bool :=
  cursor.column = 0 &&
    (cursor.rest.take 3 = ['-', '-', '-'] || cursor.rest.take 3 = ['.', '.', '.']) &&
    endsWord (cursor.rest.drop 3)

/-- Whether the document is over. -/
def atEnd (cursor : Cursor) : Bool := cursor.rest = [] || cursor.atMarker

/-- Whether a mark stands here as a word of its own. -/
def atMark (mark : Char) (cursor : Cursor) : Bool :=
  match cursor.rest with
  | character :: rest => character = mark && endsWord rest
  | [] => false

/-- Names a node. -/
def withAnchor (name : Option String) (node : Node) (cursor : Cursor) : Cursor :=
  match name with
  | some name => { cursor with anchors := (name, node) :: cursor.anchors }
  | none => cursor

end Cursor

/-- A gap between contents: where it ends, and whether it goes over a line break. -/
structure Gap where
  cursor : Cursor
  crossed : Bool

/-- Whether nothing but blanks and a comment is left of a line. -/
def lineIsEmpty (text : List Char) : Bool :=
  match text.dropWhile isBlank with
  | [] => true
  | character :: _ => character = '\n' || character = '#'

/-- Skips blanks, comments and line breaks.  A tab must not indent contents of a
block, and a comment stands apart.  `limit` bounds the steps. -/
def skipGapUpTo (parent : Int) : Nat → Bool → Bool → Bool → Cursor → Option Gap
  | 0, _, _, _, _ => none
  | limit + 1, leading, apart, crossed, cursor =>
      match cursor.rest with
      | ' ' :: _ => skipGapUpTo parent limit leading true crossed cursor.next
      | '\t' :: rest =>
          if leading && (cursor.column : Int) ≤ parent && !lineIsEmpty rest then none
          else skipGapUpTo parent limit leading true crossed cursor.next
      | '\n' :: _ => skipGapUpTo parent limit true true true cursor.next
      | '#' :: _ =>
          if apart then
            skipGapUpTo parent limit leading true crossed
              (cursor.skip (cursor.ahead (· ≠ '\n')).length)
          else some ⟨cursor, crossed⟩
      | _ => some ⟨cursor, crossed⟩

/-- The gap that begins here, within a block of an indentation. -/
def skipGap (parent : Int) (cursor : Cursor) : Option Gap :=
  let fresh := cursor.column = 0
  skipGapUpTo parent (cursor.rest.length + 1) fresh fresh false cursor

/-- The gap after a content of a block, which goes on to another line. -/
def finish (parent : Int) (cursor : Cursor) : Option Cursor := do
  let gap ← skipGap parent cursor
  if gap.crossed || cursor.column = 0 || gap.cursor.atEnd then some gap.cursor else none

/-- The gap between the parts of a collection in brackets. -/
def skipInner (parent : Int) (cursor : Cursor) : Option Cursor := do
  let gap ← skipGap parent cursor
  if gap.cursor.atEnd then none
  else if gap.crossed && (gap.cursor.column : Int) ≤ parent then none
  else some gap.cursor

/-- A line break within a scalar. -/
structure Fold where
  /-- The line breaks. -/
  breaks : Nat
  /-- The spaces in front of the line that follows. -/
  indentation : Nat
  cursor : Cursor

/-- The line breaks from here to the next contents; `limit` bounds their number. -/
def foldUpTo : Nat → Nat → Cursor → Option Fold
  | 0, _, _ => none
  | limit + 1, breaks, cursor =>
      let spaces := (cursor.ahead (· = ' ')).length
      let after := cursor.skipBlanks
      match after.rest with
      | '\n' :: _ => foldUpTo limit (breaks + 1) after.next
      | _ => if breaks = 0 then none else some ⟨breaks, cursor.column + spaces, after⟩

/-- The fold that begins here, if only blanks come before a line break. -/
def fold? (cursor : Cursor) : Option Fold := foldUpTo (cursor.rest.length + 1) 0 cursor

/-- What a fold stands for: a space, or the line breaks after the first one. -/
def Fold.chars (fold : Fold) : List Char :=
  if fold.breaks = 1 then [' '] else List.replicate (fold.breaks - 1) '\n'

end AtLeastOnce.Yaml
