import AtLeastOnce.Handling.Report

/-!
# Totals of a run

The stages a receiver passes through and what it has counted at the end.
-/

namespace AtLeastOnce

/-- Where the receive loop is. -/
inductive WorkerState where
  | idle
  | polling
  | dispatching
  | draining
  | stopped
  deriving DecidableEq, Repr

def WorkerState.name : WorkerState → String
  | .idle => "Idle"
  | .polling => "Polling"
  | .dispatching => "Dispatching"
  | .draining => "Draining"
  | .stopped => "Stopped"

structure Totals where
  processed : Nat
  acks : AckCounts
  /-- Tasks that were cut off; their deliveries stay in the queue. -/
  abandoned : Nat
  deriving DecidableEq, Repr

namespace Totals

def zero : Totals := ⟨0, .none, 0⟩

/-- Counts a task that ended with a report. -/
def addReport (totals : Totals) (report : Report) : Totals :=
  { totals with processed := totals.processed + 1, acks := totals.acks.record report.ack }

/-- Counts a task that was cut off. -/
def addAbandoned (totals : Totals) : Totals :=
  { totals with abandoned := totals.abandoned + 1 }

end Totals

end AtLeastOnce
