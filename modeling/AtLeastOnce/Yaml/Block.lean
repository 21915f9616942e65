import AtLeastOnce.Yaml.Cursor

/-!
# Block scalars

The indented lines after a mark.  A literal scalar keeps its line breaks, a folded
one joins lines; a header says how the scalar ends and may fix its indentation.
-/

namespace AtLeastOnce.Yaml

inductive Ending where
  /-- Without any line break. -/
  | strip
  /-- With one line break. -/
  | clip
  /-- With all line breaks. -/
  | keep
  deriving DecidableEq, Repr

structure BlockHeader where
  folded : Bool
  ending : Ending
  /-- The indentation beyond that of the block around. -/
  indentation : Option Nat
  deriving DecidableEq, Repr

/-- Takes in one indicator of a header. -/
def BlockHeader.add? (header : BlockHeader) (indicator : Char) : Option BlockHeader :=
  if indicator = '-' then some { header with ending := .strip }
  else if indicator = '+' then some { header with ending := .keep }
  else if indicator.isDigit && indicator ≠ '0' then
    some { header with indentation := some (Decimal.digitValue indicator) }
  else none

/-- The header of a block scalar with its line break. -/
def readBlockHeader : Reader BlockHeader := fun cursor =>
  match cursor.rest with
  | [] => none
  | mark :: _ => do
      let indicators := cursor.next.ahead fun character => !isBlank character && character ≠ '\n'
      let header ← indicators.foldl (fun header indicator => header.bind (·.add? indicator))
        (some ⟨mark = '>', .clip, none⟩)
      let after := cursor.next.skip indicators.length
      let blanks := after.ahead isBlank
      let after := after.skip blanks.length
      let after :=
        if blanks ≠ [] && after.rest.head? = some '#' then
          after.skip (after.ahead (· ≠ '\n')).length
        else after
      if 2 < indicators.length then none
      else
        match after.rest with
        | [] => some (header, after)
        | '\n' :: _ => some (header, after.next)
        | _ => none

/-- The number of leading spaces of the first line that is not empty, and the most
spaces of the empty lines before it; `limit` bounds the lines. -/
def detectIndentation : Nat → Nat → List Char → Nat
  | 0, most, _ => most
  | limit + 1, most, text =>
      let spaces := (text.takeWhile (· = ' ')).length
      match text.drop spaces with
      | '\n' :: rest => detectIndentation limit (Max.max most spaces) rest
      | [] => Max.max most spaces
      | _ => Max.max most spaces

/-- Whether a line of a block scalar begins here: it is empty, or indented. -/
def isBlockLine (indentation : Nat) (cursor : Cursor) : Bool :=
  let spaces := (cursor.ahead (· = ' ')).length
  let after := cursor.rest.drop spaces
  cursor.rest ≠ [] && !cursor.atMarker &&
    (indentation ≤ spaces || after = [] || after.head? = some '\n')

/-- The lines of a block scalar without their indentation; `limit` bounds their
number. -/
def blockLines (indentation : Nat) : Nat → Cursor → List (List Char) × Cursor
  | 0, cursor => ([], cursor)
  | limit + 1, cursor =>
      if isBlockLine indentation cursor then
        let spaces := Min.min indentation (cursor.ahead (· = ' ')).length
        let inner := cursor.skip spaces
        let line := inner.ahead (· ≠ '\n')
        let (lines, last) := blockLines indentation limit (inner.skip line.length).next
        (line :: lines, last)
      else ([], cursor)

/-- Whether a line is indented further than its scalar. -/
def isSpaced : List Char → Bool
  | character :: _ => isBlank character
  | [] => false

/-- What stands between two lines with empty ones between them. -/
def between (folded : Bool) (before after : List Char) (empty : Nat) : List Char :=
  if folded && !isSpaced before && !isSpaced after then
    if empty = 0 then [' '] else List.replicate empty '\n'
  else List.replicate (empty + 1) '\n'

/-- The lines after the one before, joined up to the last line that is not empty,
and the number of empty lines at the end. -/
def joinLines (folded : Bool) (before : List Char) (empty : Nat) :
    List (List Char) → List Char × Nat
  | [] => ([], empty)
  | line :: rest =>
      if line = [] then joinLines folded before (empty + 1) rest
      else
        let (more, trailing) := joinLines folded line 0 rest
        (between folded before line empty ++ line ++ more, trailing)

/-- The text of a block scalar with some lines. -/
def blockText (header : BlockHeader) (lines : List (List Char)) : List Char :=
  let opening := (lines.takeWhile (· = [])).length
  match lines.drop opening with
  | [] => if header.ending = .keep then List.replicate opening '\n' else []
  | first :: rest =>
      let (more, trailing) := joinLines header.folded first 0 rest
      let body := List.replicate opening '\n' ++ first ++ more
      match header.ending with
      | .strip => body
      | .clip => body ++ ['\n']
      | .keep => body ++ List.replicate (trailing + 1) '\n'

/-- A block scalar within a block of an indentation. -/
def readBlock (parent : Int) : Reader (List Char) := fun cursor => do
  let (header, cursor) ← readBlockHeader cursor
  let least := Max.max 1 (parent + 1).toNat
  let indentation :=
    match header.indentation with
    | some extra => (Max.max 0 parent).toNat + extra
    | none => Max.max least (detectIndentation (cursor.rest.length + 1) 0 cursor.rest)
  let (lines, last) := blockLines indentation (cursor.rest.length + 1) cursor
  return (blockText header lines, last)

end AtLeastOnce.Yaml
