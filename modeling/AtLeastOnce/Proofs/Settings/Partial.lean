import AtLeastOnce.Proofs.Settings.Fields

/-!
# Settings that are left out

A configuration whose fields can all be read makes settings, whatever it leaves out.  The
options of a receiver are then what the configuration gives, and where it gives nothing
what they are for a queue of which nothing else is said.
-/

namespace AtLeastOnce

open Config

/-- The value that a configuration gives a setting. -/
def Setting.given? (setting : Setting) (entries : Entries) : Option setting.Value :=
  (setting.field? entries).bind fun field => (setting.decode field).toOption

namespace Settings

variable {entries : Entries}

end Settings

end AtLeastOnce
