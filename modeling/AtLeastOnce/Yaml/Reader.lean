import AtLeastOnce.Yaml.Block
import AtLeastOnce.Yaml.Plain
import AtLeastOnce.Yaml.Quoted

/-!
# Reading YAML

Blocks are told apart by their indentation: an entry of a mapping or a sequence
begins in the column of the first one, and its contents stand further to the right.
Collections in brackets may stand wherever a scalar may.  Keys are scalars, and no
key of a mapping occurs twice.
-/

namespace AtLeastOnce.Yaml

/-- What may stand in front of a node. -/
structure Properties where
  anchor : Option String
  tag : Option Tag
  deriving DecidableEq, Repr

def Properties.none : Properties := ⟨Option.none, Option.none⟩

/-- A character of a name of an anchor. -/
def isAnchorCharacter (character : Char) : Bool :=
  !isBlank character && character ≠ '\n' && !isFlowMark character

/-- The name of an anchor after its mark. -/
def readAnchorName : Reader String := fun cursor =>
  let name := cursor.ahead isAnchorCharacter
  if name = [] then Option.none else some (String.ofList name, cursor.skip name.length)

/-- The tag that some characters after an exclamation mark denote. -/
def tagOf : List Char → Tag
  | '!' :: name => .core (String.ofList name)
  | _ => .other

/-- An anchor and a tag in any order, with blanks after them; `limit` bounds their
number. -/
def readProperties : Nat → Properties → Reader Properties
  | 0, properties, cursor => some (properties, cursor)
  | limit + 1, properties, cursor =>
      match cursor.rest with
      | '&' :: _ => do
          let (name, cursor) ← readAnchorName cursor.next
          readProperties limit { properties with anchor := some name } cursor.skipBlanks
      | '!' :: _ =>
          let name := cursor.next.ahead isAnchorCharacter
          readProperties limit { properties with tag := some (tagOf name) }
            (cursor.next.skip name.length).skipBlanks
      | _ => some (properties, cursor)

/-- The node that an alias stands for. -/
def readAlias : Reader Node := fun cursor => do
  let (name, after) ← readAnchorName cursor.next
  let node ← cursor.anchors.lookup name
  return (node, after)

/-- A node as a key. -/
def keyOf? : Node → Option Scalar
  | .scalar .null => Option.none
  | .scalar value => some value
  | _ => Option.none

/-- A key on one line without its colon, and the place after it. -/
def readKeyScalar (inBlock : Int) (tag : Option Tag) : Reader Node := fun cursor =>
  match cursor.rest with
  | '*' :: _ => readAlias cursor
  | '\'' :: _ => (readQuoted inBlock cursor).map fun (characters, cursor) =>
      (.scalar (.text (String.ofList characters)), cursor)
  | '"' :: _ => (readQuoted inBlock cursor).map fun (characters, cursor) =>
      (.scalar (.text (String.ofList characters)), cursor)
  | _ =>
      if beginsPlain false cursor.rest then
        let (line, cursor) := plainLine false cursor
        some (.scalar (.ofTagged tag line), cursor)
      else Option.none

/-- The key of an entry on one line, and the place after its colon. -/
def implicitKey? : Reader Scalar := fun cursor => do
  let line := cursor.ahead (· ≠ '\n')
  let short : Cursor := { cursor with rest := line }
  let (properties, after) ← readProperties 2 .none short
  let (node, after) ← readKeyScalar (-1) properties.tag after
  let key ← keyOf? node
  let colon := after.skipBlanks
  if colon.atMark ':' then
    let place := (cursor.skip (line.length - colon.rest.length + 1)).withAnchor
      properties.anchor node
    return (key, place)
  else Option.none

/-- Adds an entry to those of a mapping. -/
def addPair (key : Scalar) (value : Node) (pairs : List (Scalar × Node)) :
    Option (List (Scalar × Node)) :=
  if (pairs.lookup key).isSome then Option.none else some (pairs ++ [(key, value)])

/-- Whether the value of an entry begins here: further to the right, or as a sequence
in the column of the entry. -/
def valueFollows (column : Nat) (cursor : Cursor) : Bool :=
  !cursor.atEnd &&
    (column < cursor.column || (cursor.column = column && cursor.atMark '-'))

/-- A scalar of a block. -/
def readBlockScalar (parent : Int) (tag : Option Tag) : Reader Node := fun cursor => do
  match cursor.rest with
  | '|' :: _ =>
      let (characters, cursor) ← readBlock parent cursor
      return (.scalar (.text (String.ofList characters)), cursor)
  | '>' :: _ =>
      let (characters, cursor) ← readBlock parent cursor
      return (.scalar (.text (String.ofList characters)), cursor)
  | '\'' :: _ =>
      let (characters, cursor) ← readQuoted parent cursor
      return (.scalar (.text (String.ofList characters)), cursor)
  | '"' :: _ =>
      let (characters, cursor) ← readQuoted parent cursor
      return (.scalar (.text (String.ofList characters)), cursor)
  | _ =>
      let (characters, cursor) ← readPlain parent false cursor
      return (.scalar (.ofTagged tag characters), cursor)

/-- A scalar in brackets. -/
def readInnerScalar (parent : Int) (tag : Option Tag) : Reader Node := fun cursor =>
  match readQuoted parent cursor with
  | some (characters, cursor) => some (.scalar (.text (String.ofList characters)), cursor)
  | Option.none =>
      (readPlain parent true cursor).map fun (characters, cursor) =>
        (.scalar (.ofTagged tag characters), cursor)

/-- A node that is not written out, under a tag. -/
def emptyUnder (tag : Option Tag) : Node := .scalar (.ofTagged tag [])

/-- Whether an item in brackets ends here. -/
def atItemEnd (cursor : Cursor) : Bool :=
  match cursor.rest with
  | character :: _ => character = ',' || character = ']' || character = '\x7d' || character = ':'
  | [] => true

/-- Whether a colon parts a key from its value here, in brackets. -/
def atInnerColon (cursor : Cursor) : Bool := cursor.rest.head? = some ':'

mutual

/-- A node in brackets; `limit` bounds the steps. -/
def readInner (parent : Int) : Nat → Option Tag → Reader Node
  | 0, _, _ => Option.none
  | limit + 1, tag, cursor =>
      match cursor.rest with
      | '[' :: _ => do
          let inside ← skipInner parent cursor.next
          let (items, cursor) ← readInnerItems parent limit [] inside
          return (.sequence items, cursor)
      | '\x7b' :: _ => do
          let inside ← skipInner parent cursor.next
          let (pairs, cursor) ← readInnerPairs parent limit [] inside
          return (.mapping pairs, cursor)
      | '*' :: _ => readAlias cursor
      | _ =>
          if cursor.rest.head? = some '&' || cursor.rest.head? = some '!' then do
            let (properties, after) ← readProperties 2 .none cursor
            let after ← skipInner parent after
            let (node, after) ←
              if atItemEnd after then some (emptyUnder properties.tag, after)
              else readInner parent limit properties.tag after
            return (node, after.withAnchor properties.anchor node)
          else readInnerScalar parent tag cursor

/-- The value after a colon in brackets, and the gap after it. -/
def readInnerValue (parent : Int) : Nat → Reader Node
  | 0, _ => Option.none
  | limit + 1, cursor => do
      let after ← skipInner parent cursor.next
      if atItemEnd after && !atInnerColon after then return (.empty, after)
      else
        let (value, after) ← readInner parent limit Option.none after
        return (value, ← skipInner parent after)

/-- The items up to the closing bracket.  An item may be a single pair. -/
def readInnerItems (parent : Int) : Nat → List Node → Reader (List Node)
  | 0, _, _ => Option.none
  | limit + 1, items, cursor =>
      match cursor.rest with
      | ']' :: _ => some (items, cursor.next)
      | _ => do
          let (item, after) ← readInner parent limit Option.none cursor
          let after ← skipInner parent after
          let (item, after) ←
            if atInnerColon after then do
              let key ← keyOf? item
              let (value, after) ← readInnerValue parent limit after
              pure (Node.mapping [(key, value)], after)
            else pure (item, after)
          match after.rest with
          | ',' :: _ =>
              let next ← skipInner parent after.next
              readInnerItems parent limit (items ++ [item]) next
          | ']' :: _ => return (items ++ [item], after.next)
          | _ => Option.none

/-- The pairs up to the closing brace. -/
def readInnerPairs (parent : Int) : Nat → List (Scalar × Node) → Reader (List (Scalar × Node))
  | 0, _, _ => Option.none
  | limit + 1, pairs, cursor =>
      match cursor.rest with
      | '\x7d' :: _ => some (pairs, cursor.next)
      | _ => do
          let (node, after) ← readInner parent limit Option.none cursor
          let key ← keyOf? node
          let after ← skipInner parent after
          let (value, after) ←
            if atInnerColon after then readInnerValue parent limit after
            else pure (Node.empty, after)
          let pairs ← addPair key value pairs
          match after.rest with
          | ',' :: _ =>
              let next ← skipInner parent after.next
              readInnerPairs parent limit pairs next
          | '\x7d' :: _ => return (pairs, after.next)
          | _ => Option.none

end

mutual

/-- A node of a block, and the gap after it.  `compact` tells whether a block may
begin here, `inMapping` whether the node is the value of an entry; `limit` bounds
the steps. -/
def readNode : Nat → Int → Bool → Bool → Option Tag → Reader Node
  | 0, _, _, _, _, _ => Option.none
  | limit + 1, parent, compact, inMapping, tag, cursor =>
      if compact && (cursor.atMark '?' || (implicitKey? cursor).isSome) then do
        let (pairs, cursor) ← readMapping limit cursor.column [] cursor
        return (.mapping pairs, cursor)
      else if cursor.atMark '-' then
        if compact then do
          let (items, cursor) ← readSequence limit cursor.column false [] cursor
          return (.sequence items, cursor)
        else Option.none
      else
        match cursor.rest with
        | '*' :: _ => do
            let (node, cursor) ← readAlias cursor
            return (node, ← finish parent cursor)
        | '[' :: _ => do
            let (node, cursor) ← readInner parent (2 * cursor.rest.length + 2) Option.none cursor
            return (node, ← finish parent cursor)
        | '\x7b' :: _ => do
            let (node, cursor) ← readInner parent (2 * cursor.rest.length + 2) Option.none cursor
            return (node, ← finish parent cursor)
        | _ =>
            if cursor.rest.head? = some '&' || cursor.rest.head? = some '!' then do
              let (properties, after) ← readProperties 2 .none cursor
              let gap ← skipGap parent after
              let (node, after) ←
                if gap.cursor.atEnd || (gap.crossed && (gap.cursor.column : Int) < parent) then
                  some (emptyUnder properties.tag, gap.cursor)
                else if gap.crossed && (gap.cursor.column : Int) = parent then
                  if inMapping && gap.cursor.atMark '-' then do
                    let (items, cursor) ←
                      readSequence limit gap.cursor.column true [] gap.cursor
                    some (Node.sequence items, cursor)
                  else some (emptyUnder properties.tag, gap.cursor)
                else readNode limit parent gap.crossed inMapping properties.tag gap.cursor
              return (node, after.withAnchor properties.anchor node)
            else do
              let (node, cursor) ← readBlockScalar parent tag cursor
              return (node, ← finish parent cursor)

/-- The value of an entry of a mapping after its colon. -/
def readEntryValue : Nat → Nat → Bool → Reader Node
  | 0, _, _, _ => Option.none
  | limit + 1, column, compact, cursor => do
      let gap ← skipGap column cursor
      if !valueFollows column gap.cursor then return (.empty, gap.cursor)
      else if gap.cursor.column = column then
        let (items, cursor) ← readSequence limit column true [] gap.cursor
        return (.sequence items, cursor)
      else readNode limit column (compact || gap.crossed) true Option.none gap.cursor

/-- The entries of a mapping that begin in a column. -/
def readMapping : Nat → Nat → List (Scalar × Node) → Reader (List (Scalar × Node))
  | 0, _, _, _ => Option.none
  | limit + 1, column, pairs, cursor => do
      let ((key, value), after) ←
        if cursor.atMark '?' then do
          let gap ← skipGap column cursor.next
          if gap.cursor.atEnd || gap.cursor.column ≤ column then Option.none
          else
            let (node, after) ← readNode limit column true false Option.none gap.cursor
            let key ← keyOf? node
            let (value, after) ←
              if after.column = column && after.atMark ':' then
                readEntryValue limit column true after.next
              else some (Node.empty, after)
            some ((key, value), after)
        else do
          let (key, after) ← implicitKey? cursor
          let (value, after) ← readEntryValue limit column false after
          some ((key, value), after)
      let pairs ← addPair key value pairs
      if after.atEnd || after.column < column then return (pairs, after)
      else if after.column = column then readMapping limit column pairs after
      else Option.none

/-- The items of a sequence that begin in a column.  A sequence that stands in the
column of a mapping ends with the next entry of the mapping. -/
def readSequence : Nat → Nat → Bool → List Node → Reader (List Node)
  | 0, _, _, _, _ => Option.none
  | limit + 1, column, inMapping, items, cursor => do
      let gap ← skipGap column cursor.next
      let (item, after) ←
        if gap.cursor.atEnd || gap.cursor.column ≤ column then some (Node.empty, gap.cursor)
        else readNode limit column true false Option.none gap.cursor
      let items := items ++ [item]
      if after.atEnd || after.column < column then return (items, after)
      else if column < after.column then Option.none
      else if after.atMark '-' then readSequence limit column inMapping items after
      else if inMapping then return (items, after)
      else Option.none

end

/-- Skips the directives in front of a document; `limit` bounds their number. -/
def skipDirectives : Nat → Cursor → Option Cursor
  | 0, _ => Option.none
  | limit + 1, cursor => do
      let gap ← skipGap (-1) cursor
      if gap.cursor.column = 0 && gap.cursor.rest.head? = some '%' then
        skipDirectives limit (gap.cursor.skip (gap.cursor.ahead (· ≠ '\n')).length)
      else some gap.cursor

/-- Skips lines that end documents; `limit` bounds their number. -/
def skipEndings : Nat → Cursor → Option Cursor
  | 0, _ => Option.none
  | limit + 1, cursor =>
      if cursor.atMarker && cursor.rest.head? = some '.' then do
        let gap ← skipGap (-1) (cursor.skip 3)
        skipEndings limit gap.cursor
      else some cursor

/-- The contents of a document. -/
def readContents (cursor : Cursor) : Option (Node × Cursor) := do
  let opened := cursor.atMarker && cursor.rest.head? = some '-'
  let gap ← skipGap (-1) (if opened then cursor.skip 3 else cursor)
  if gap.cursor.atEnd then return (.empty, gap.cursor)
  else
    readNode (4 * gap.cursor.rest.length + 8) (-1) (!opened || gap.crossed) false Option.none
      gap.cursor

/-- The only document of a text, or nothing if the text holds none. -/
def read? (text : List Char) : Option (Option Node) := do
  let limit := text.length + 1
  let start := Cursor.start text
  let gap ← skipGap (-1) start
  let cursor ← skipEndings limit gap.cursor
  let first ← skipDirectives limit cursor
  if first.rest = [] then
    if cursor.rest = [] then return Option.none else Option.none
  else if first.rest.length < cursor.rest.length && !first.atMarker then Option.none
  else
    let (node, after) ← readContents first
    let after ← skipEndings limit after
    if after.rest = [] then return some node else Option.none

end AtLeastOnce.Yaml
