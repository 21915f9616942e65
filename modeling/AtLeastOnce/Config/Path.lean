import AtLeastOnce.Config.Tree
import AtLeastOnce.Number.Decimal

/-!
# Paths into a configuration tree

A path is a name followed by names after a point and positions in brackets.
Negative positions count from the end of a list.
-/

namespace AtLeastOnce.Config

inductive Step where
  | key (name : String)
  | index (position : Int)
  deriving DecidableEq, Repr

structure Path where
  root : String
  steps : List Step
  deriving DecidableEq, Repr

namespace Path

def isNameCharacter (character : Char) : Bool :=
  character.isAlphanum || character = '_' || character = '-'

/-- The name at the beginning of a text, and the rest. -/
def takeName? (text : List Char) : Option (String × List Char) :=
  let name := text.takeWhile isNameCharacter
  if name = [] then none else some (String.ofList name, text.dropWhile isNameCharacter)

/-- The position at the beginning of a text that a bracket closes, and the
rest. -/
def takeIndex? (text : List Char) : Option (Int × List Char) :=
  let numeral := text.takeWhile (· ≠ ']')
  let rest := text.dropWhile (· ≠ ']')
  if rest = [] || numeral.head? = some '+' then none
  else
    (Decimal.readInt? Decimal.leastInt64 Decimal.greatestInt64 numeral).map fun position =>
      (position, rest.drop 1)

/-- The steps that a whole text denotes; `limit` bounds their number. -/
def takeSteps? : Nat → List Char → Option (List Step)
  | _, [] => some []
  | 0, _ => none
  | limit + 1, '.' :: text => do
      let (name, rest) ← takeName? text
      let steps ← takeSteps? limit rest
      return .key name :: steps
  | limit + 1, '[' :: text => do
      let (position, rest) ← takeIndex? text
      let steps ← takeSteps? limit rest
      return .index position :: steps
  | _, _ => none

def read? (text : List Char) : Option Path := do
  let (root, rest) ← takeName? text
  let steps ← takeSteps? rest.length rest
  return ⟨root, steps⟩

/-- The path that a key denotes.  A key without the form of a path is a name. -/
def ofKey (key : String) : Path := (read? key.toList).getD ⟨key, []⟩

end Path

/-- Changes the item at a position.  A list that is too short is extended by unset
items, at its end, or at its beginning for a position before it. -/
def changeItem (position : Int) (edit : Tree → Tree) (items : List Tree) : List Tree :=
  let place := if 0 ≤ position then position else position + items.length
  let filled :=
    if place < 0 then List.replicate place.natAbs .unset ++ items
    else items ++ List.replicate (place.toNat + 1 - items.length) .unset
  filled.modify place.toNat edit

/-- Changes the place that some steps lead to.  Whatever is in the way of a step
gives way to a table or a list. -/
def changeAt : List Step → (Tree → Tree) → Tree → Tree
  | [], edit, tree => edit tree
  | .key name :: steps, edit, tree =>
      .table tree.tableOrigin? (tree.entries.change name (changeAt steps edit))
  | .index position :: steps, edit, tree =>
      .list tree.listOrigin? (changeItem position (changeAt steps edit) tree.items)

/-- Changes the place that a path leads to. -/
def Entries.changePath (path : Path) (edit : Tree → Tree) (entries : Entries) : Entries :=
  entries.change path.root (changeAt path.steps edit)

end AtLeastOnce.Config
