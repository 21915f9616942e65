import AtLeastOnce.Event

/-!
# The task of one delivery

A task calls the processor, decides by the outcome, and carries the decision out:
it deletes the delivery, leaves it, or copies it to the dead-letter queue and
then deletes it.  `Task.step?` is one step between two waits.
-/

namespace AtLeastOnce

/-- The queue that deliveries come from and the queue for those that cannot be
processed. -/
structure Route where
  source : String
  deadLetter : Option String
  deriving DecidableEq, Repr

/-- What a processor does with a delivery: what it logs and how it ends. -/
structure Processing where
  notes : List LogEntry
  ending : ProcessorEnd

/-- How the processor and the queue behave towards the task with a number. -/
structure Peers where
  process : Nat → Delivery → Timed Processing
  send : Nat → String → Publication → Timed (CallEnd String)
  delete : Nat → String → ReceiptHandle → Timed (CallEnd Unit)

/-- What a task is waiting for, and until when, or how it ended. -/
inductive Stage where
  | queued
  | processing (until? : Option Nat)
  | publishing (outcome : Outcome) (deadLetterUrl : String) (until? : Option Nat)
  | deleting (outcome : Outcome) (copyId : Option String) (until? : Option Nat)
  | done (report : Report)
  /-- A queue call panicked. -/
  | broken (text : String)
  /-- The task was cancelled. -/
  | cut

structure Task where
  number : Nat
  delivery : Delivery
  stage : Stage

namespace Stage

def isFinished : Stage → Bool
  | .done _ => true
  | .broken _ => true
  | .cut => true
  | _ => false

/-- The moment the stage waits for. -/
def wakeTime? : Stage → Option Nat
  | .processing until? => until?
  | .publishing _ _ until? => until?
  | .deleting _ _ until? => until?
  | _ => none

end Stage

namespace Task

def start (number : Nat) (delivery : Delivery) : Task := ⟨number, delivery, .queued⟩

def isFinished (task : Task) : Bool := task.stage.isFinished

/-- The copy of a delivery for the dead-letter queue.  A queue that keeps order
gets the group of the delivery, or its id, and the id against duplicates. -/
def deadLetterCopy (deadLetterUrl : String) (delivery : Delivery) : Publication :=
  let publication := Publication.plain delivery.body
  if isOrderedQueue deadLetterUrl then
    publication.withOrder (delivery.group.getD delivery.id) delivery.id
  else publication

/-- The entry that closes the handling of a delivery. -/
def finalEntry (route : Route) (delivery : Delivery) (outcome : Outcome) :
    Except AckError AckAction → LogEntry
  | .error error =>
      .ackFailed delivery.id route.source delivery.receiveCount (outcome.reason?.getD "") error
  | .ok _ =>
      match outcome with
      | .success => .messageProcessed delivery.id route.source
      | .retryable reason =>
          .leftForRedelivery delivery.id route.source delivery.receiveCount reason
      | .terminal reason =>
          .deadLettered delivery.id route.source delivery.receiveCount reason

/-- Ends the task with a report. -/
def conclude (route : Route) (delivery : Delivery) (outcome : Outcome)
    (ack : Except AckError AckAction) : Stage × List Event :=
  (.done ⟨delivery.id, outcome, ack⟩, [.logged (finalEntry route delivery outcome ack)])

/-- Begins to delete the delivery. -/
def beginDelete (peers : Peers) (route : Route) (now : Nat) (task : Task)
    (outcome : Outcome) (copyId : Option String) : Stage × List Event :=
  let call := peers.delete task.number route.source task.delivery.handle
  (.deleting outcome copyId (call.endFrom now), [.deleteCalled route.source task.delivery.handle])

/-- Begins to carry out the decision that the outcome asks for. -/
def beginDecision (peers : Peers) (route : Route) (now : Nat) (task : Task)
    (outcome : Outcome) : Stage × List Event :=
  match outcome.decision with
  | .delete => beginDelete peers route now task outcome none
  | .leave => conclude route task.delivery outcome (.ok .left)
  | .deadLetter =>
      match route.deadLetter with
      | none => conclude route task.delivery outcome (.error .noDeadLetterQueue)
      | some url =>
          let copy := deadLetterCopy url task.delivery
          let call := peers.send task.number url copy
          (.publishing outcome url (call.endFrom now), [.sendCalled url copy])

/-- What is logged when the processor ends. -/
def endingNotes (delivery : Delivery) (processing : Processing) : List LogEntry :=
  match processing.ending with
  | .returns _ => processing.notes
  | .panics payload => processing.notes ++ [.processorPanicked delivery.id (panicText payload)]

/-- The step after the processor has ended. -/
def afterProcessing (peers : Peers) (route : Route) (now : Nat) (task : Task) :
    Stage × List Event :=
  let processing := (peers.process task.number task.delivery).result
  let (stage, events) := beginDecision peers route now task processing.ending.outcome
  (stage, .processorEnded processing.ending ::
    (endingNotes task.delivery processing).map .logged ++ events)

/-- The step after the copy has been published, or not. -/
def afterSend (peers : Peers) (route : Route) (now : Nat) (task : Task)
    (outcome : Outcome) (deadLetterUrl : String) : Stage × List Event :=
  let call := peers.send task.number deadLetterUrl (deadLetterCopy deadLetterUrl task.delivery)
  let (stage, events) : Stage × List Event :=
    match call.result with
    | .answered copyId =>
        let (stage, events) := beginDelete peers route now task outcome (some copyId)
        (stage,
          .logged (.deadLetterPublished task.delivery.id copyId deadLetterUrl) :: events)
    | .failed error => conclude route task.delivery outcome (.error (.deadLetterPublish error))
    | .panicked text => (.broken text, [])
  (stage, .sendEnded call.result :: events)

/-- What became of the delivery when the delete call ended without panic. -/
def deleteAck (copyId : Option String) (result : Except CallError Unit) :
    Except AckError AckAction :=
  match result, copyId with
  | .ok _, none => .ok .deleted
  | .ok _, some copyId => .ok (.deadLettered copyId)
  | .error error, none => .error (.delete error)
  | .error error, some copyId => .error (.deleteAfterDeadLetter copyId error)

/-- The step after the delivery has been deleted, or not. -/
def afterDelete (peers : Peers) (route : Route) (task : Task)
    (outcome : Outcome) (copyId : Option String) : Stage × List Event :=
  let call := peers.delete task.number route.source task.delivery.handle
  let (stage, events) : Stage × List Event :=
    match call.result with
    | .answered _ => conclude route task.delivery outcome (deleteAck copyId (.ok ()))
    | .failed error => conclude route task.delivery outcome (deleteAck copyId (.error error))
    | .panicked text => (.broken text, [])
  (stage, .deleteEnded call.result :: events)

/-- One step of a task, if it has one to take at this moment. -/
def step? (peers : Peers) (route : Route) (now : Nat) (task : Task) :
    Option (Task × List Event) :=
  let next (result : Stage × List Event) : Task × List Event :=
    ({ task with stage := result.1 }, result.2)
  match task.stage with
  | .queued =>
      let call := peers.process task.number task.delivery
      some (next (.processing (call.endFrom now), [.processorCalled task.delivery]))
  | .processing until? =>
      if isDue now until? then some (next (afterProcessing peers route now task)) else none
  | .publishing outcome url until? =>
      if isDue now until? then some (next (afterSend peers route now task outcome url)) else none
  | .deleting outcome copyId until? =>
      if isDue now until? then some (next (afterDelete peers route task outcome copyId)) else none
  | .done _ => none
  | .broken _ => none
  | .cut => none

/-- The most steps that a task can take: it calls, decides, copies, deletes. -/
def stepLimit : Nat := 4

/-- Takes up to `limit` steps at one moment. -/
def stepUpTo (peers : Peers) (route : Route) (now : Nat) : Nat → Task → Task × List Event
  | 0, task => (task, [])
  | limit + 1, task =>
      match step? peers route now task with
      | none => (task, [])
      | some (next, events) =>
          let (last, later) := stepUpTo peers route now limit next
          (last, events ++ later)

/-- Takes all the steps that the task has at this moment. -/
def settle (peers : Peers) (route : Route) (now : Nat) (task : Task) : Task × List Event :=
  stepUpTo peers route now stepLimit task

end Task

/-- The earliest of some moments. -/
def earliest? (moments : List (Option Nat)) : Option Nat :=
  moments.foldl (fun best moment =>
    match best, moment with
    | none, moment => moment
    | some best, none => some best
    | some best, some moment => some (Min.min best moment)) none

end AtLeastOnce
