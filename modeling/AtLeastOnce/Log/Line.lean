import AtLeastOnce.Json.Writer
import AtLeastOnce.Log.Filter

/-!
# Lines of the log

An entry as one line, for people or as a JSON object.
-/

namespace AtLeastOnce.LogEntry

/-- The line for people: level, target, message and fields. -/
def plainLine (entry : LogEntry) : String :=
  let fields := entry.fields.map fun (name, text) => " " ++ name ++ "=" ++ text
  entry.level.name ++ " " ++ entry.target ++ ": " ++ entry.message ++ String.join fields

/-- The entry as an object, its message among its fields. -/
def object (entry : LogEntry) : Json :=
  let fields := ("message", entry.message) :: entry.fields
  .object [
    ("level", .string entry.level.name),
    ("fields", .object (fields.map fun (name, text) => (name, .string text))),
    ("target", .string entry.target)]

/-- The line of an entry. -/
def line (json : Bool) (entry : LogEntry) : String :=
  if json then entry.object.text else entry.plainLine

end AtLeastOnce.LogEntry
