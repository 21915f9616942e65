import AtLeastOnce.Config.FromJson
import AtLeastOnce.Config.FromToml
import AtLeastOnce.Config.FromYaml

/-!
# Formats of configuration

The formats that a source may be written in, told apart by the endings of file
names.
-/

namespace AtLeastOnce.Config

inductive Format where
  | toml
  | json
  | yaml
  deriving DecidableEq, Repr

/-- The endings of file names, in the order in which they are tried. -/
def endings : List (String × Format) :=
  [("toml", .toml), ("json", .json), ("yaml", .yaml), ("yml", .yaml)]

/-- The entries of a source, if it is well formed. -/
def Format.read? (format : Format) (origin : Option String) (text : List Char) :
    Option Entries :=
  match format with
  | .toml => readToml? origin text
  | .json => readJson? origin text
  | .yaml => readYaml? origin text

end AtLeastOnce.Config
