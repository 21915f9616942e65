import AtLeastOnce.Proofs.Handling.Course

/-!
# How handling ends

`ack?` handles a delivery in one go, without a clock and without interruption.  A
task that runs to its end comes to the same report; it breaks exactly when a queue
call panics.
-/

namespace AtLeastOnce

/-- Whether a queue call of a task ended by a panic. -/
def Event.isCallPanic : Event → Bool
  | .sendEnded (.panicked _) => true
  | .deleteEnded (.panicked _) => true
  | _ => false

def Stage.isBroken : Stage → Bool
  | .broken _ => true
  | _ => false

def Stage.isCut : Stage → Bool
  | .cut => true
  | _ => false

def Stage.report? : Stage → Option Report
  | .done report => some report
  | _ => none

namespace Task

/-- What the delete of a delivery comes to, or what the runtime says if the call
panics. -/
def deletion (peers : Peers) (route : Route) (number : Nat) (delivery : Delivery)
    (copyId : Option String) : Except String (Except AckError AckAction) :=
  match deleteResult peers route number delivery with
  | .answered _ => .ok (deleteAck copyId (.ok ()))
  | .failed error => .ok (deleteAck copyId (.error error))
  | .panicked text => .error text

/-- What the handling of a delivery comes to, or what the runtime says if a queue call
panics. -/
def handled (peers : Peers) (route : Route) (number : Nat) (delivery : Delivery) :
    Except String (Except AckError AckAction) :=
  match outcome peers number delivery with
  | .success => deletion peers route number delivery none
  | .retryable _ => .ok (.ok .left)
  | .terminal _ =>
      match route.deadLetter with
      | none => .ok (.error .noDeadLetterQueue)
      | some deadLetterUrl =>
          match sendResult peers number delivery deadLetterUrl with
          | .answered copyId => deletion peers route number delivery (some copyId)
          | .failed error => .ok (.error (.deadLetterPublish error))
          | .panicked text => .error text

/-- What the handling of a delivery comes to, unless a queue call panics. -/
def ack? (peers : Peers) (route : Route) (number : Nat) (delivery : Delivery) :
    Option (Except AckError AckAction) :=
  (handled peers route number delivery).toOption

/-- The stage in which the task of a delivery ends, unless it is cut off. -/
def lastStage (peers : Peers) (route : Route) (number : Nat) (delivery : Delivery) :
    Stage :=
  match handled peers route number delivery with
  | .ok ack => .done ⟨delivery.id, outcome peers number delivery, ack⟩
  | .error text => .broken text

variable {peers : Peers} {route : Route} {number : Nat} {delivery : Delivery}
  {stage : Stage} {events before : List Event} {copyId : Option String}

theorem Cleared.handled_eq
    (cleared : Cleared peers route number delivery copyId before) :
    handled peers route number delivery =
      deletion peers route number delivery copyId := by
  cases cleared with
  | processed succeeded => simp [handled, succeeded]
  | copied failed configured published => simp [handled, failed, configured, published]

@[simp] theorem opening_any_isCallPanic :
    (opening peers number delivery).any Event.isCallPanic = false := by
  simp [opening, Event.isCallPanic]

theorem Cleared.any_isCallPanic
    (cleared : Cleared peers route number delivery copyId before) :
    before.any Event.isCallPanic = false := by
  cases cleared with
  | processed => exact opening_any_isCallPanic
  | copied => simp [Event.isCallPanic]

namespace Course

/-- A task that ends with a report reports what handling the delivery comes to. -/
theorem handled_of_report {report : Report}
    (course : Course peers route number delivery stage events)
    (reported : stage.report? = some report) :
    handled peers route number delivery = .ok report.ack := by
  cases course with
  | left failed =>
      cases reported
      simp [handled, failed]
  | unroutable failed unconfigured =>
      cases reported
      simp [handled, failed, unconfigured]
  | unpublished failed configured refused =>
      cases reported
      simp [handled, failed, configured, refused]
  | deleted cleared accepted =>
      cases reported
      rw [cleared.handled_eq, deletion, accepted]
  | undeleted cleared refused =>
      cases reported
      rw [cleared.handled_eq, deletion, refused]
  | queued | processing | publishing | publishingBroke | deleting | deletingBroke
  | cut => cases reported

/-- The report of a task is about its own delivery. -/
theorem eq_of_report {report : Report}
    (course : Course peers route number delivery stage events)
    (reported : stage.report? = some report) :
    report.messageId = delivery.id ∧ report.outcome = outcome peers number delivery := by
  cases course with
  | left failed | unroutable failed | unpublished failed =>
      cases reported
      exact ⟨rfl, failed.symm⟩
  | deleted | undeleted =>
      cases reported
      exact ⟨rfl, rfl⟩
  | queued | processing | publishing | publishingBroke | deleting | deletingBroke
  | cut => cases reported

/-- A broken task has nothing to report but what broke it. -/
theorem handled_of_broken {text : String}
    (course : Course peers route number delivery (.broken text) events) :
    handled peers route number delivery = .error text := by
  cases course with
  | publishingBroke failed configured broke =>
      simp [handled, failed, configured, broke]
  | deletingBroke cleared broke => rw [cleared.handled_eq, deletion, broke]

/-- A task that has come to its own end has a report of its own, or is broken. -/
theorem stage_eq (course : Course peers route number delivery stage events)
    (finished : stage.isFinished = true) (uncut : stage.isCut = false) :
    stage = lastStage peers route number delivery := by
  cases stage with
  | done report =>
      obtain ⟨messageId, outcome⟩ := course.eq_of_report rfl
      rw [lastStage, course.handled_of_report rfl, ← messageId, ← outcome]
  | broken => rw [lastStage, course.handled_of_broken]
  | cut => cases uncut
  | queued | processing | publishing | deleting => cases finished

/-- A task is broken when a queue call of it has panicked, and only then. -/
theorem any_isCallPanic
    (course : Course peers route number delivery stage events) :
    events.any Event.isCallPanic = stage.isBroken := by
  induction course with
  | queued | processing => rfl
  | left | unroutable | publishing | unpublished | publishingBroke =>
      rw [List.any_append, opening_any_isCallPanic]
      rfl
  | deleting _ cleared | deleted cleared | undeleted cleared | deletingBroke cleared =>
      rw [List.any_append, cleared.any_isCallPanic]
      rfl
  | @cut stage events course unfinished induction =>
      rw [induction]
      cases stage with
      | broken => cases unfinished
      | queued | processing | publishing | deleting | done | cut => rfl

end Course

theorem beginDecision_isCut (now : Nat) (task : Task) (outcome : Outcome) :
    (beginDecision peers route now task outcome).1.isCut = false := by
  unfold beginDecision
  cases outcome.decision with
  | delete | leave => rfl
  | deadLetter =>
      cases route.deadLetter with
      | none | some => rfl

theorem afterSend_isCut (now : Nat) (task : Task) (outcome : Outcome) (url : String) :
    (afterSend peers route now task outcome url).1.isCut = false := by
  cases ended :
      (peers.send task.number url (deadLetterCopy url task.delivery)).result with
  | answered copyId => simp [afterSend, ended, beginDelete, Stage.isCut]
  | failed error => simp [afterSend, ended, conclude, Stage.isCut]
  | panicked => simp [afterSend, ended, Stage.isCut]

theorem afterDelete_isCut (task : Task) (outcome : Outcome) (copyId : Option String) :
    (afterDelete peers route task outcome copyId).1.isCut = false := by
  cases ended : (peers.delete task.number route.source task.delivery.handle).result with
  | answered nothing => simp [afterDelete, ended, conclude, Stage.isCut]
  | failed error => simp [afterDelete, ended, conclude, Stage.isCut]
  | panicked => simp [afterDelete, ended, Stage.isCut]

/-- A task does not cut itself off. -/
theorem step?_isCut {now : Nat} {task next : Task} {more : List Event}
    (stepped : task.step? peers route now = some (next, more)) :
    next.stage.isCut = false := by
  obtain ⟨number, delivery, stage⟩ := task
  cases stage with
  | queued =>
      simp only [step?, Option.some.injEq, Prod.mk.injEq] at stepped
      rw [← stepped.1]
      rfl
  | processing =>
      simp only [step?, Option.ite_none_right_eq_some, Option.some.injEq,
        Prod.mk.injEq] at stepped
      rw [← stepped.2.1]
      exact beginDecision_isCut now ⟨number, delivery, _⟩ _
  | publishing =>
      simp only [step?, Option.ite_none_right_eq_some, Option.some.injEq,
        Prod.mk.injEq] at stepped
      rw [← stepped.2.1]
      exact afterSend_isCut now ⟨number, delivery, _⟩ _ _
  | deleting =>
      simp only [step?, Option.ite_none_right_eq_some, Option.some.injEq,
        Prod.mk.injEq] at stepped
      rw [← stepped.2.1]
      exact afterDelete_isCut ⟨number, delivery, _⟩ _ _
  | done | broken | cut => simp [step?] at stepped

end Task

end AtLeastOnce
