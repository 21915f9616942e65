import AtLeastOnce.Config.Tree
import AtLeastOnce.Json.Reader
import AtLeastOnce.Number.Decimal

/-!
# Configuration written as JSON

The document has to be an object.  Of members with the same name the last one
counts.
-/

namespace AtLeastOnce.Config

mutual

def ofJson (origin : Option String) : Json → Tree
  | .null => .leaf origin .null
  | .bool value => .leaf origin (.bool value)
  | .natural value => .leaf origin (.integer value)
  | .negative value => .leaf origin (.integer value)
  | .decimal value => .leaf origin (.decimal value)
  | .string value => .leaf origin (.text value)
  | .array items => .list origin (ofJsonItems origin items)
  | .object members => .table origin (ofJsonMembers origin members [])

def ofJsonItems (origin : Option String) : List Json → List Tree
  | [] => []
  | item :: rest => ofJson origin item :: ofJsonItems origin rest

def ofJsonMembers (origin : Option String) : List (String × Json) → Entries → Entries
  | [], entries => entries
  | member :: rest, entries =>
      ofJsonMembers origin rest (ofJsonMember origin member entries)

def ofJsonMember (origin : Option String) : String × Json → Entries → Entries
  | (name, value), entries => entries.put name (ofJson origin value)

end

/-- The entries at the top of a JSON document. -/
def readJson? (origin : Option String) (text : List Char) : Option Entries :=
  match Json.read text with
  | .ok (.object members) => some (ofJson origin (.object members)).entries
  | _ => none

end AtLeastOnce.Config
