import AtLeastOnce.Number.Double.Text
import AtLeastOnce.Text.Quoted

/-!
# JSON values

A value keeps the members of an object in the order in which they were written,
repeated names included.  A number is a 64-bit natural, a 64-bit negative integer
or a double.
-/

namespace AtLeastOnce

inductive Json where
  | null
  | bool (value : Bool)
  | natural (value : Nat)
  | negative (value : Int)
  | decimal (value : Double)
  | string (value : String)
  | array (items : List Json)
  | object (members : List (String × Json))
  deriving Repr

namespace Json

/-- The value of the last member with a name. -/
def member? (name : String) : Json → Option Json
  | .object members => members.reverse.lookup name
  | _ => none

/-- The value in words, as an error message shows it. -/
def description : Json → String
  | .null => "null"
  | .bool value => "boolean `" ++ (if value then "true" else "false") ++ "`"
  | .natural value => "integer `" ++ toString value ++ "`"
  | .negative value => "integer `" ++ toString value ++ "`"
  | .decimal value => "floating point `" ++ value.text Double.scientificLayout ++ "`"
  | .string value => "string " ++ Text.quoted value
  | .array _ => "sequence"
  | .object _ => "map"

end Json

end AtLeastOnce
