import AtLeastOnce.Handling.Task

/-!
# Handling a batch

The tasks of a batch run side by side on one clock, which jumps to the next
moment that some task waits for whenever none has a step to take.
-/

namespace AtLeastOnce

/-- Tasks in the order of their deliveries, the moment, and what has happened. -/
structure Batch where
  now : Nat
  tasks : List Task
  history : List Occurrence

namespace Batch

/-- The tasks of some deliveries, numbered in order. -/
def start (deliveries : List Delivery) : Batch :=
  { now := 0
    tasks := deliveries.zipIdx.map fun (delivery, number) => Task.start number delivery
    history := [] }

/-- Lets every task take the steps it has at this moment. -/
def settle (peers : Peers) (route : Route) (batch : Batch) : Batch :=
  let settled := batch.tasks.map fun task => task.settle peers route batch.now
  { batch with
    tasks := settled.map Prod.fst
    history := batch.history ++
      settled.flatMap fun (task, events) => occurrences batch.now (some task.number) events }

/-- The next moment that a task waits for. -/
def nextMoment? (batch : Batch) : Option Nat :=
  earliest? (batch.tasks.map fun task => task.stage.wakeTime?)

/-- Settles, jumps to the next moment, and so on. -/
def runUpTo (peers : Peers) (route : Route) : Nat → Batch → Batch
  | 0, batch => batch
  | jumps + 1, batch =>
      let settled := batch.settle peers route
      match settled.nextMoment? with
      | none => settled
      | some moment => runUpTo peers route jumps { settled with now := moment }

/-- Runs the batch until no task waits for anything.  A task waits three times
at most, for the processor and for two calls. -/
def run (peers : Peers) (route : Route) (deliveries : List Delivery) : Batch :=
  runUpTo peers route (3 * deliveries.length + 1) (start deliveries)

/-- The reports in the order of the deliveries, if every task ended with one. -/
def reports? (batch : Batch) : Option (List Report) :=
  batch.tasks.mapM fun task =>
    match task.stage with
    | .done report => some report
    | _ => none

end Batch

end AtLeastOnce
