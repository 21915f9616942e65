/-!
# Outcomes of processing

What a processor says about a delivery, and what is to be done with it then.
-/

namespace AtLeastOnce

inductive Outcome where
  | success
  /-- A later delivery may succeed. -/
  | retryable (reason : String)
  /-- No delivery can succeed. -/
  | terminal (reason : String)
  deriving DecidableEq, Repr

inductive Decision where
  | delete
  | leave
  | deadLetter
  deriving DecidableEq, Repr

namespace Outcome

def isSuccess : Outcome → Bool
  | .success => true
  | _ => false

def reason? : Outcome → Option String
  | .success => none
  | .retryable reason => some reason
  | .terminal reason => some reason

/-- Success deletes, a passing failure waits for redelivery, and a lasting one
goes to the dead-letter queue. -/
def decision : Outcome → Decision
  | .success => .delete
  | .retryable _ => .leave
  | .terminal _ => .deadLetter

end Outcome

/-- How a call of a processor ends. -/
inductive ProcessorEnd where
  | returns (outcome : Outcome)
  /-- The processor panicked; the payload may be a text. -/
  | panics (payload : Option String)
  deriving DecidableEq, Repr

/-- The text of a panic. -/
def panicText (payload : Option String) : String := payload.getD "unknown panic"

/-- A panic counts as a lasting failure. -/
def ProcessorEnd.outcome : ProcessorEnd → Outcome
  | .returns outcome => outcome
  | .panics payload => .terminal ("processor panicked: " ++ panicText payload)

end AtLeastOnce
