import AtLeastOnce.Log.Entry
import AtLeastOnce.Queue.Delivery
import AtLeastOnce.Queue.Request

/-!
# Events of a run

Calls with their ends, triggers of the shutdown and log entries, each at a moment
of a clock that counts milliseconds and, where a task of a delivery made it,
with the number of that task.
-/

namespace AtLeastOnce

/-- Something that takes a number of milliseconds; without a number it never
ends. -/
structure Timed (α : Type) where
  delay : Option Nat
  result : α

/-- The moment at which something begun at `now` ends. -/
def Timed.endFrom (timed : Timed α) (now : Nat) : Option Nat :=
  timed.delay.map fun delay => now + delay

/-- Whether a moment, if there is one, has come. -/
def isDue (now : Nat) : Option Nat → Bool
  | some moment => moment ≤ now
  | none => false

/-- How a queue call ends. -/
inductive CallEnd (α : Type) where
  | answered (value : α)
  | failed (error : CallError)
  /-- The call panicked; the text is what the runtime says of it. -/
  | panicked (text : String)

inductive Event where
  | processorCalled (delivery : Delivery)
  | processorEnded (ending : ProcessorEnd)
  | sendCalled (queueUrl : String) (publication : Publication)
  | sendEnded (result : CallEnd String)
  | deleteCalled (queueUrl : String) (handle : ReceiptHandle)
  | deleteEnded (result : CallEnd Unit)
  | receiveCalled (request : ReceiveRequest)
  | receiveEnded (result : CallEnd (List Delivery))
  | shutdownTriggered (flipped : Bool)
  | logged (entry : LogEntry)

structure Occurrence where
  time : Nat
  task : Option Nat
  event : Event

/-- Events of one task, or of none, at one moment. -/
def occurrences (time : Nat) (task : Option Nat) (events : List Event) : List Occurrence :=
  events.map fun event => ⟨time, task, event⟩

end AtLeastOnce
