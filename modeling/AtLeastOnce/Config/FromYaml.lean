import AtLeastOnce.Config.Tree
import AtLeastOnce.Yaml.Reader

/-!
# Configuration written as YAML

A text without a document is an empty configuration; otherwise the document has to
be a mapping.  Scalars that are keys count as text.
-/

namespace AtLeastOnce.Config

/-- The name that a key stands for. -/
def yamlKey : Yaml.Scalar → String
  | .null => ""
  | .bool value => if value then "true" else "false"
  | .integer value => toString value
  | .decimal written => written
  | .text value => value

def ofYamlScalar? (origin : Option String) : Yaml.Scalar → Option Tree
  | .null => some (.leaf origin .null)
  | .bool value => some (.leaf origin (.bool value))
  | .integer value => some (.leaf origin (.integer value))
  | .decimal written =>
      (Double.read? written.toList).map fun value => .leaf origin (.decimal value)
  | .text value => some (.leaf origin (.text value))

mutual

/-- The tree of a node, unless a number in it cannot be read. -/
def ofYaml? (origin : Option String) : Yaml.Node → Option Tree
  | .scalar value => ofYamlScalar? origin value
  | .sequence items => (ofYamlItems? origin items).map (.list origin)
  | .mapping pairs => (ofYamlPairs? origin pairs []).map (.table origin)

def ofYamlItems? (origin : Option String) : List Yaml.Node → Option (List Tree)
  | [] => some []
  | item :: rest =>
      (ofYaml? origin item).bind fun tree => (ofYamlItems? origin rest).map (tree :: ·)

def ofYamlPairs? (origin : Option String) :
    List (Yaml.Scalar × Yaml.Node) → Entries → Option Entries
  | [], entries => some entries
  | pair :: rest, entries => (ofYamlPair? origin pair entries).bind (ofYamlPairs? origin rest)

def ofYamlPair? (origin : Option String) :
    Yaml.Scalar × Yaml.Node → Entries → Option Entries
  | (key, value), entries =>
      (ofYaml? origin value).map fun tree => entries.put (yamlKey key) tree

end

/-- The entries at the top of a YAML document. -/
def readYaml? (origin : Option String) (text : List Char) : Option Entries :=
  (Yaml.read? text).bind fun document =>
    match document with
    | none => some []
    | some (.mapping pairs) => ofYamlPairs? origin pairs []
    | some _ => none

end AtLeastOnce.Config
