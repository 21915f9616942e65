import AtLeastOnce.Config.Tree
import AtLeastOnce.Toml.Reader

/-!
# Configuration written as TOML

Dates and times are texts.
-/

namespace AtLeastOnce.Config

mutual

def ofToml (origin : Option String) : Toml.Node → Tree
  | .text value => .leaf origin (.text value)
  | .integer value => .leaf origin (.integer value)
  | .decimal value => .leaf origin (.decimal value)
  | .bool value => .leaf origin (.bool value)
  | .moment written => .leaf origin (.text written)
  | .array items => .list origin (ofTomlItems origin items)
  | .table _ entries => .table origin (ofTomlEntries origin entries)
  | .tables items => .list origin (ofTomlItems origin items)

def ofTomlItems (origin : Option String) : List Toml.Node → List Tree
  | [] => []
  | item :: rest => ofToml origin item :: ofTomlItems origin rest

def ofTomlEntries (origin : Option String) : List (String × Toml.Node) → Entries
  | [] => []
  | entry :: rest => ofTomlEntry origin entry :: ofTomlEntries origin rest

def ofTomlEntry (origin : Option String) : String × Toml.Node → String × Tree
  | (name, value) => (name, ofToml origin value)

end

/-- The entries at the top of a TOML document. -/
def readToml? (origin : Option String) (text : List Char) : Option Entries :=
  (Toml.read? text).map (ofTomlEntries origin)

end AtLeastOnce.Config
