/-!
# The shutdown flag

A flag that is shared by everything that has to stop.  It is raised once and never
lowered.
-/

namespace AtLeastOnce

structure Shutdown where
  triggered : Bool
  deriving DecidableEq, Repr

namespace Shutdown

/-- The flag before anybody has raised it. -/
def idle : Shutdown := ⟨false⟩

/-- Raises the flag, and says whether it was down before. -/
def trigger (shutdown : Shutdown) : Shutdown × Bool := (⟨true⟩, !shutdown.triggered)

def description (shutdown : Shutdown) : String :=
  "Shutdown \x7b triggered: " ++ (if shutdown.triggered then "true" else "false") ++ " \x7d"

end Shutdown

end AtLeastOnce
