import AtLeastOnce.Handling.Outcome
import AtLeastOnce.Queue.CallError

/-!
# Reports on handled deliveries

What became of a delivery once its decision was carried out, or why it could not
be carried out.
-/

namespace AtLeastOnce

inductive AckAction where
  | deleted
  /-- No queue call was made. -/
  | left
  /-- Copied to the dead-letter queue, then deleted. -/
  | deadLettered (copyId : String)
  deriving DecidableEq, Repr

/-- The decision was not carried out; the delivery stays in the queue. -/
inductive AckError where
  | delete (error : CallError)
  | deadLetterPublish (error : CallError)
  | deleteAfterDeadLetter (copyId : String) (error : CallError)
  | noDeadLetterQueue
  deriving DecidableEq, Repr

namespace AckError

def message : AckError → String
  | .delete error => "delete failed: " ++ error.message
  | .deadLetterPublish error => "dead-letter publish failed: " ++ error.message
  | .deleteAfterDeadLetter copyId error =>
      "dead-lettered as " ++ copyId ++ " but delete from source failed: " ++ error.message
  | .noDeadLetterQueue => "terminal failure but no dead-letter queue is configured"

/-- The call error that this one wraps and names as its cause. -/
def cause? : AckError → Option CallError
  | .deleteAfterDeadLetter _ error => some error
  | _ => none

end AckError

/-- What became of a delivery, without the time that it took by the wall clock. -/
structure Report where
  messageId : String
  outcome : Outcome
  ack : Except AckError AckAction

namespace Report

def decision (report : Report) : Decision := report.outcome.decision

/-- Whether the delivery was removed from its queue. -/
def isRemoved (report : Report) : Bool :=
  match report.ack with
  | .ok .deleted => true
  | .ok (.deadLettered _) => true
  | _ => false

end Report

/-- How many of some reports ended in each way. -/
structure AckCounts where
  deleted : Nat
  deadLettered : Nat
  left : Nat
  failed : Nat
  deriving DecidableEq, Repr

namespace AckCounts

def none : AckCounts := ⟨0, 0, 0, 0⟩

/-- Counts one more ending. -/
def record (counts : AckCounts) : Except AckError AckAction → AckCounts
  | .ok .deleted => { counts with deleted := counts.deleted + 1 }
  | .ok (.deadLettered _) => { counts with deadLettered := counts.deadLettered + 1 }
  | .ok .left => { counts with left := counts.left + 1 }
  | .error _ => { counts with failed := counts.failed + 1 }

def ofReports (reports : List Report) : AckCounts :=
  reports.foldl (fun counts report => counts.record report.ack) none

end AckCounts

/-- The first report on the message with this id. -/
def findReport? (reports : List Report) (messageId : String) : Option Report :=
  reports.find? fun report => report.messageId = messageId

end AtLeastOnce
