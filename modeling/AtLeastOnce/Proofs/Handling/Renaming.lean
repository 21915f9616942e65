import AtLeastOnce.Handling.Task

/-!
# Deliveries under other handles

A receipt handle is a name that the queue has chosen.  `rename` exchanges the handles
of deliveries, tasks and events for others; a task that is given a delivery under
another handle takes the same steps, and only its delete shows the handle.
-/

namespace AtLeastOnce

/-- Another handle for each handle. -/
abbrev Renaming := ReceiptHandle → ReceiptHandle

def Delivery.rename (rho : Renaming) (delivery : Delivery) : Delivery :=
  { delivery with handle := rho delivery.handle }

/-- The end of a receive with the deliveries under other handles. -/
def CallEnd.rename (rho : Renaming) : CallEnd (List Delivery) → CallEnd (List Delivery)
  | .answered deliveries => .answered (deliveries.map (Delivery.rename rho))
  | .failed error => .failed error
  | .panicked text => .panicked text

def Event.rename (rho : Renaming) : Event → Event
  | .processorCalled delivery => .processorCalled (delivery.rename rho)
  | .deleteCalled queueUrl handle => .deleteCalled queueUrl (rho handle)
  | .receiveEnded result => .receiveEnded (result.rename rho)
  | event => event

def Occurrence.rename (rho : Renaming) (occurrence : Occurrence) : Occurrence :=
  { occurrence with event := occurrence.event.rename rho }

def Task.rename (rho : Renaming) (task : Task) : Task :=
  { task with delivery := task.delivery.rename rho }

/-- A second set of peers that treats each delivery under its other handle as the
first does under its own. -/
structure Peers.Renamed (rho : Renaming) (peers other : Peers) : Prop where
  process : ∀ number delivery,
    other.process number (delivery.rename rho) = peers.process number delivery
  send : other.send = peers.send
  delete : ∀ number queueUrl handle,
    other.delete number queueUrl (rho handle) = peers.delete number queueUrl handle

section

variable {rho : Renaming}

@[simp] theorem Event.rename_logged (entry : LogEntry) :
    Event.rename rho (.logged entry) = .logged entry := rfl

@[simp] theorem Event.map_rename_map_logged (entries : List LogEntry) :
    (entries.map Event.logged).map (Event.rename rho) = entries.map Event.logged := by
  simp [Function.comp_def]

@[simp] theorem occurrences_map_rename (time : Nat) (task : Option Nat)
    (events : List Event) :
    occurrences time task (events.map (Event.rename rho)) =
      (occurrences time task events).map (Occurrence.rename rho) := by
  simp [occurrences, Occurrence.rename, Function.comp_def]

end

namespace Task

variable {rho : Renaming} {peers other : Peers} (route : Route) (now : Nat)

@[simp] theorem rename_isFinished (task : Task) :
    (task.rename rho).isFinished = task.isFinished := rfl

@[simp] theorem rename_number (task : Task) : (task.rename rho).number = task.number := rfl

@[simp] theorem rename_stage (task : Task) : (task.rename rho).stage = task.stage := rfl

@[simp] theorem rename_delivery (task : Task) :
    (task.rename rho).delivery = task.delivery.rename rho := rfl

@[simp] theorem deadLetterCopy_rename (deadLetterUrl : String) (delivery : Delivery) :
    deadLetterCopy deadLetterUrl (delivery.rename rho) =
      deadLetterCopy deadLetterUrl delivery := rfl

/-! ## The parts of a step -/

/-- What a step comes to, under the other handles. -/
def renameStep (rho : Renaming) (result : Stage × List Event) : Stage × List Event :=
  (result.1, result.2.map (Event.rename rho))

theorem conclude_rename (delivery : Delivery) (outcome : Outcome)
    (ack : Except AckError AckAction) :
    conclude route (delivery.rename rho) outcome ack =
      renameStep rho (conclude route delivery outcome ack) := by
  cases ack with
  | error => rfl
  | ok =>
      cases outcome with
      | success | retryable | terminal => rfl

variable (renamed : Peers.Renamed rho peers other)
include renamed

theorem beginDelete_rename (task : Task) (outcome : Outcome) (copyId : Option String) :
    beginDelete other route now (task.rename rho) outcome copyId =
      renameStep rho (beginDelete peers route now task outcome copyId) := by
  simp [beginDelete, renamed.delete, renameStep, Event.rename, Delivery.rename]

theorem beginDecision_rename (task : Task) (outcome : Outcome) :
    beginDecision other route now (task.rename rho) outcome =
      renameStep rho (beginDecision peers route now task outcome) := by
  unfold beginDecision
  cases outcome.decision with
  | delete => exact beginDelete_rename route now renamed task outcome none
  | leave => exact conclude_rename route task.delivery outcome _
  | deadLetter =>
      cases route.deadLetter with
      | none => exact conclude_rename route task.delivery outcome _
      | some url => simp [renamed.send, renameStep, Event.rename]

theorem afterProcessing_rename (task : Task) :
    afterProcessing other route now (task.rename rho) =
      renameStep rho (afterProcessing peers route now task) := by
  have same : other.process task.number (task.delivery.rename rho) =
      peers.process task.number task.delivery := renamed.process _ _
  have notes : ∀ processing : Processing,
      endingNotes (task.delivery.rename rho) processing =
        endingNotes task.delivery processing := fun _ => rfl
  simp [afterProcessing, same, notes, beginDecision_rename route now renamed,
    renameStep, Event.rename, Function.comp_def]

theorem afterSend_rename (task : Task) (outcome : Outcome) (deadLetterUrl : String) :
    afterSend other route now (task.rename rho) outcome deadLetterUrl =
      renameStep rho (afterSend peers route now task outcome deadLetterUrl) := by
  unfold afterSend
  rw [renamed.send, rename_number, rename_delivery, deadLetterCopy_rename]
  cases ended : (peers.send task.number deadLetterUrl
      (deadLetterCopy deadLetterUrl task.delivery)).result with
  | answered copyId =>
      simp [ended, beginDelete_rename route now renamed, renameStep, Event.rename,
        Delivery.rename]
  | failed error => simp [ended, conclude_rename, renameStep, Event.rename]
  | panicked => simp [ended, renameStep, Event.rename]

theorem afterDelete_rename (task : Task) (outcome : Outcome) (copyId : Option String) :
    afterDelete other route (task.rename rho) outcome copyId =
      renameStep rho (afterDelete peers route task outcome copyId) := by
  have same : other.delete task.number route.source (task.delivery.rename rho).handle =
      peers.delete task.number route.source task.delivery.handle := renamed.delete _ _ _
  unfold afterDelete
  rw [rename_number, rename_delivery, same]
  cases ended : (peers.delete task.number route.source task.delivery.handle).result with
  | answered nothing => simp [ended, conclude_rename, renameStep, Event.rename]
  | failed error => simp [ended, conclude_rename, renameStep, Event.rename]
  | panicked => simp [ended, renameStep, Event.rename]

/-! ## One step -/

/-- A task under its other handle takes the same step. -/
theorem step?_rename (task : Task) :
    (task.rename rho).step? other route now =
      (task.step? peers route now).map fun (next, events) =>
        (next.rename rho, events.map (Event.rename rho)) := by
  unfold step?
  rw [rename_stage]
  cases task.stage with
  | queued => simp [renamed.process, Event.rename, Task.rename]
  | processing until? =>
      simp only [afterProcessing_rename route now renamed]
      cases isDue now until? with
      | true | false => rfl
  | publishing outcome url until? =>
      simp only [afterSend_rename route now renamed]
      cases isDue now until? with
      | true | false => rfl
  | deleting outcome copyId until? =>
      simp only [afterDelete_rename route renamed]
      cases isDue now until? with
      | true | false => rfl
  | done | broken | cut => rfl

end Task

end AtLeastOnce
