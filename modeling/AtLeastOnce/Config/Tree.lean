import AtLeastOnce.Number.Double

/-!
# Configuration trees

Configuration is a tree of tables and lists with scalars as its leaves.  Every
node may name the source that it came from.
-/

namespace AtLeastOnce.Config

inductive Scalar where
  | null
  | bool (value : Bool)
  /-- A 64-bit integer, signed or unsigned. -/
  | integer (value : Int)
  | decimal (value : Double)
  | text (value : String)
  deriving DecidableEq, Repr

inductive Tree where
  | leaf (origin : Option String) (value : Scalar)
  | list (origin : Option String) (items : List Tree)
  | table (origin : Option String) (entries : List (String × Tree))
  deriving Repr

/-- The entries of a table, each name once. -/
abbrev Entries := List (String × Tree)

namespace Tree

/-- What stands at a place that nobody has set. -/
def unset : Tree := .leaf none .null

def origin? : Tree → Option String
  | .leaf origin _ => origin
  | .list origin _ => origin
  | .table origin _ => origin

/-- The entries of a table; anything else has none. -/
def entries : Tree → Entries
  | .table _ entries => entries
  | _ => []

/-- The items of a list; anything else has none. -/
def items : Tree → List Tree
  | .list _ items => items
  | _ => []

/-- The origin of a table. -/
def tableOrigin? : Tree → Option String
  | .table origin _ => origin
  | _ => none

/-- The origin of a list. -/
def listOrigin? : Tree → Option String
  | .list origin _ => origin
  | _ => none

end Tree

namespace Entries

/-- Changes the entry with a name, which starts as unset. -/
def change (key : String) (edit : Tree → Tree) : Entries → Entries
  | [] => [(key, edit .unset)]
  | (name, tree) :: rest =>
      if name = key then (name, edit tree) :: rest
      else (name, tree) :: change key edit rest

/-- Sets the entry with a name. -/
def put (key : String) (tree : Tree) (entries : Entries) : Entries :=
  entries.change key fun _ => tree

end Entries

end AtLeastOnce.Config
