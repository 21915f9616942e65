import AtLeastOnce.Config.Tree
import AtLeastOnce.Number.Decimal
import AtLeastOnce.Number.Double.Text
import AtLeastOnce.Text.LowerCase

/-!
# Configuration from environment variables

Variables whose lower-case name begins with a fixed text set the place that the
rest of the name tells, with a point for every two underscores.  A value is read
as a truth value, an integer or a decimal number if it can be.
-/

namespace AtLeastOnce.Config.Environment

/-- A variable and its value. -/
abbrev Variables := List (String × String)

/-- How the name of a variable has to begin. -/
def leading : List Char := "sqs_consumer__".toList

def origin : String := "the environment"

/-- The text with a point for every two underscores. -/
def pointed : List Char → List Char
  | '_' :: '_' :: rest => '.' :: pointed rest
  | character :: rest => character :: pointed rest
  | [] => []

/-- The key that a variable sets, if it is meant for configuration. -/
def key? (name : String) : Option String :=
  let lowered := Text.lower name.toList
  if leading.isPrefixOf lowered then some (String.ofList (pointed (lowered.drop leading.length)))
  else none

/-- The value that a text is read as. -/
def scalar (text : String) : Scalar :=
  let lowered := String.ofList (Text.lower text.toList)
  if lowered = "true" then .bool true
  else if lowered = "false" then .bool false
  else
    match Decimal.readInt? Decimal.leastInt64 Decimal.greatestInt64 text.toList with
    | some value => .integer value
    | none =>
        match Double.read? text.toList with
        | some value => .decimal value
        | none => .text text

/-- The entry that a variable makes. -/
def entry? (setting : String × String) : Option (String × Tree) :=
  (key? setting.1).map fun key => (key, .leaf (some origin) (scalar setting.2))

/-- The entries that some variables make; of two that make the same one the later
counts. -/
def entries (environment : Variables) : Entries :=
  (environment.filterMap entry?).foldl (fun entries (key, tree) => entries.put key tree) []

end AtLeastOnce.Config.Environment
