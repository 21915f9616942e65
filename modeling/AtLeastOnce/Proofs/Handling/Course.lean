import AtLeastOnce.Handling.Task

/-!
# The course of a task

`Course` lists the stages that the task of one delivery passes through, each with
exactly the events that have happened by then.  Whatever the peers do and
whenever the task is cut off, no other course is possible.  `Cleared` is the part
that matters most: what has happened when a delete may begin.
-/

namespace AtLeastOnce.Task

/-- The outcome that the processor comes to. -/
def outcome (peers : Peers) (number : Nat) (delivery : Delivery) : Outcome :=
  (peers.process number delivery).result.ending.outcome

/-- What has happened by the end of the processor. -/
def opening (peers : Peers) (number : Nat) (delivery : Delivery) : List Event :=
  .processorCalled delivery ::
    .processorEnded (peers.process number delivery).result.ending ::
      (endingNotes delivery (peers.process number delivery).result).map .logged

/-- How the copy of a delivery is published. -/
def sendResult (peers : Peers) (number : Nat) (delivery : Delivery)
    (deadLetterUrl : String) : CallEnd String :=
  (peers.send number deadLetterUrl (deadLetterCopy deadLetterUrl delivery)).result

/-- How a delivery is deleted. -/
def deleteResult (peers : Peers) (route : Route) (number : Nat)
    (delivery : Delivery) : CallEnd Unit :=
  (peers.delete number route.source delivery.handle).result

/-- What has happened when the delete of a delivery may begin: its processor
succeeded, or its copy, known as `copyId`, is in the dead-letter queue. -/
inductive Cleared (peers : Peers) (route : Route) (number : Nat)
    (delivery : Delivery) : Option String → List Event → Prop where
  | processed
      (succeeded : outcome peers number delivery = .success) :
      Cleared peers route number delivery none (opening peers number delivery)
  | copied {reason deadLetterUrl copyId : String}
      (failed : outcome peers number delivery = .terminal reason)
      (configured : route.deadLetter = some deadLetterUrl)
      (published : sendResult peers number delivery deadLetterUrl =
        .answered copyId) :
      Cleared peers route number delivery (some copyId)
        (opening peers number delivery ++
          [.sendCalled deadLetterUrl (deadLetterCopy deadLetterUrl delivery),
            .sendEnded (.answered copyId),
            .logged (.deadLetterPublished delivery.id copyId deadLetterUrl)])

/-- A stage of a task with all that the task has done by then. -/
inductive Course (peers : Peers) (route : Route) (number : Nat)
    (delivery : Delivery) : Stage → List Event → Prop where
  | queued : Course peers route number delivery .queued []
  | processing (until? : Option Nat) :
      Course peers route number delivery (.processing until?)
        [.processorCalled delivery]
  | left {reason : String}
      (failed : outcome peers number delivery = .retryable reason) :
      Course peers route number delivery
        (.done ⟨delivery.id, .retryable reason, .ok .left⟩)
        (opening peers number delivery ++
          [.logged (finalEntry route delivery (.retryable reason) (.ok .left))])
  | unroutable {reason : String}
      (failed : outcome peers number delivery = .terminal reason)
      (unconfigured : route.deadLetter = none) :
      Course peers route number delivery
        (.done ⟨delivery.id, .terminal reason, .error .noDeadLetterQueue⟩)
        (opening peers number delivery ++
          [.logged (finalEntry route delivery (.terminal reason)
            (.error .noDeadLetterQueue))])
  | publishing {reason deadLetterUrl : String} (until? : Option Nat)
      (failed : outcome peers number delivery = .terminal reason)
      (configured : route.deadLetter = some deadLetterUrl) :
      Course peers route number delivery
        (.publishing (.terminal reason) deadLetterUrl until?)
        (opening peers number delivery ++
          [.sendCalled deadLetterUrl (deadLetterCopy deadLetterUrl delivery)])
  | unpublished {reason deadLetterUrl : String} {error : CallError}
      (failed : outcome peers number delivery = .terminal reason)
      (configured : route.deadLetter = some deadLetterUrl)
      (refused : sendResult peers number delivery deadLetterUrl = .failed error) :
      Course peers route number delivery
        (.done ⟨delivery.id, .terminal reason, .error (.deadLetterPublish error)⟩)
        (opening peers number delivery ++
          [.sendCalled deadLetterUrl (deadLetterCopy deadLetterUrl delivery),
            .sendEnded (.failed error),
            .logged (finalEntry route delivery (.terminal reason)
              (.error (.deadLetterPublish error)))])
  | publishingBroke {reason deadLetterUrl text : String}
      (failed : outcome peers number delivery = .terminal reason)
      (configured : route.deadLetter = some deadLetterUrl)
      (broke : sendResult peers number delivery deadLetterUrl = .panicked text) :
      Course peers route number delivery (.broken text)
        (opening peers number delivery ++
          [.sendCalled deadLetterUrl (deadLetterCopy deadLetterUrl delivery),
            .sendEnded (.panicked text)])
  | deleting {copyId : Option String} {before : List Event} (until? : Option Nat)
      (cleared : Cleared peers route number delivery copyId before) :
      Course peers route number delivery
        (.deleting (outcome peers number delivery) copyId until?)
        (before ++ [.deleteCalled route.source delivery.handle])
  | deleted {copyId : Option String} {before : List Event}
      (cleared : Cleared peers route number delivery copyId before)
      (accepted : deleteResult peers route number delivery = .answered ()) :
      Course peers route number delivery
        (.done ⟨delivery.id, outcome peers number delivery,
          deleteAck copyId (.ok ())⟩)
        (before ++ [.deleteCalled route.source delivery.handle,
          .deleteEnded (.answered ()),
          .logged (finalEntry route delivery (outcome peers number delivery)
            (deleteAck copyId (.ok ())))])
  | undeleted {copyId : Option String} {before : List Event} {error : CallError}
      (cleared : Cleared peers route number delivery copyId before)
      (refused : deleteResult peers route number delivery = .failed error) :
      Course peers route number delivery
        (.done ⟨delivery.id, outcome peers number delivery,
          deleteAck copyId (.error error)⟩)
        (before ++ [.deleteCalled route.source delivery.handle,
          .deleteEnded (.failed error),
          .logged (finalEntry route delivery (outcome peers number delivery)
            (deleteAck copyId (.error error)))])
  | deletingBroke {copyId : Option String} {before : List Event} {text : String}
      (cleared : Cleared peers route number delivery copyId before)
      (broke : deleteResult peers route number delivery = .panicked text) :
      Course peers route number delivery (.broken text)
        (before ++ [.deleteCalled route.source delivery.handle,
          .deleteEnded (.panicked text)])
  | cut {stage : Stage} {events : List Event}
      (course : Course peers route number delivery stage events)
      (unfinished : stage.isFinished = false) :
      Course peers route number delivery .cut events

variable {peers : Peers} {route : Route} {number : Nat} {delivery : Delivery}
  {stage : Stage} {events : List Event} {copyId : Option String}

/-! ## What a step of a task adds to its course -/

theorem beginDelete_course (now : Nat) {task : Task}
    (cleared : Cleared peers route task.number task.delivery copyId events) :
    Course peers route task.number task.delivery
      (beginDelete peers route now task
        (outcome peers task.number task.delivery) copyId).1
      (events ++ (beginDelete peers route now task
        (outcome peers task.number task.delivery) copyId).2) :=
  .deleting _ cleared

theorem beginDecision_course (peers : Peers) (route : Route) (now : Nat)
    (task : Task) :
    Course peers route task.number task.delivery
      (beginDecision peers route now task
        (outcome peers task.number task.delivery)).1
      (opening peers task.number task.delivery ++
        (beginDecision peers route now task
          (outcome peers task.number task.delivery)).2) := by
  cases ended : outcome peers task.number task.delivery with
  | success =>
      have cleared : Cleared peers route task.number task.delivery none _ :=
        .processed ended
      have course := beginDelete_course now cleared
      rw [ended] at course
      exact course
  | retryable reason => exact .left ended
  | terminal reason =>
      cases configured : route.deadLetter with
      | none =>
          simp only [beginDecision, Outcome.decision, configured]
          exact .unroutable ended configured
      | some deadLetterUrl =>
          simp only [beginDecision, Outcome.decision, configured]
          exact .publishing _ ended configured

theorem afterProcessing_course (peers : Peers) (route : Route) (now : Nat)
    (task : Task) :
    Course peers route task.number task.delivery
      (afterProcessing peers route now task).1
      ([.processorCalled task.delivery] ++
        (afterProcessing peers route now task).2) := by
  have course := beginDecision_course peers route now task
  simpa [afterProcessing, opening, outcome] using course

theorem afterSend_course (now : Nat) (task : Task) {reason deadLetterUrl : String}
    (failed : outcome peers task.number task.delivery = .terminal reason)
    (configured : route.deadLetter = some deadLetterUrl) :
    Course peers route task.number task.delivery
      (afterSend peers route now task (.terminal reason) deadLetterUrl).1
      ((opening peers task.number task.delivery ++
          [.sendCalled deadLetterUrl
            (deadLetterCopy deadLetterUrl task.delivery)]) ++
        (afterSend peers route now task (.terminal reason) deadLetterUrl).2) := by
  have sent : (peers.send task.number deadLetterUrl
      (deadLetterCopy deadLetterUrl task.delivery)).result =
        sendResult peers task.number task.delivery deadLetterUrl := rfl
  cases published : sendResult peers task.number task.delivery deadLetterUrl with
  | answered copyId =>
      have course := beginDelete_course now (.copied failed configured published)
      rw [failed] at course
      simpa [afterSend, sent, published] using course
  | failed error =>
      simpa [afterSend, sent, published, conclude] using
        Course.unpublished failed configured published
  | panicked =>
      simpa [afterSend, sent, published] using
        Course.publishingBroke failed configured published

theorem afterDelete_course (task : Task)
    (cleared : Cleared peers route task.number task.delivery copyId events) :
    Course peers route task.number task.delivery
      (afterDelete peers route task
        (outcome peers task.number task.delivery) copyId).1
      ((events ++ [.deleteCalled route.source task.delivery.handle]) ++
        (afterDelete peers route task
          (outcome peers task.number task.delivery) copyId).2) := by
  have called : (peers.delete task.number route.source task.delivery.handle).result =
      deleteResult peers route task.number task.delivery := rfl
  cases ended : deleteResult peers route task.number task.delivery with
  | answered nothing =>
      simpa [afterDelete, called, ended, conclude] using
        Course.deleted cleared ended
  | failed error =>
      simpa [afterDelete, called, ended, conclude] using
        Course.undeleted cleared ended
  | panicked =>
      simpa [afterDelete, called, ended] using Course.deletingBroke cleared ended

/-- A step of a task leads from course to course. -/
theorem Course.step {now : Nat} {task next : Task} {more : List Event}
    (course : Course peers route task.number task.delivery task.stage events)
    (stepped : task.step? peers route now = some (next, more)) :
    Course peers route task.number task.delivery next.stage (events ++ more) := by
  obtain ⟨number, delivery, stage⟩ := task
  simp only at course
  cases course with
  | queued =>
      simp only [step?, Option.some.injEq, Prod.mk.injEq] at stepped
      obtain ⟨rfl, rfl⟩ := stepped
      exact .processing _
  | processing until? =>
      simp only [step?, Option.ite_none_right_eq_some, Option.some.injEq,
        Prod.mk.injEq] at stepped
      obtain ⟨due, rfl, rfl⟩ := stepped
      exact afterProcessing_course peers route now
        ⟨number, delivery, .processing until?⟩
  | publishing until? failed configured =>
      simp only [step?, Option.ite_none_right_eq_some, Option.some.injEq,
        Prod.mk.injEq] at stepped
      obtain ⟨due, rfl, rfl⟩ := stepped
      exact afterSend_course now ⟨number, delivery, _⟩ failed configured
  | deleting until? cleared =>
      simp only [step?, Option.ite_none_right_eq_some, Option.some.injEq,
        Prod.mk.injEq] at stepped
      obtain ⟨due, rfl, rfl⟩ := stepped
      exact afterDelete_course ⟨number, delivery, _⟩ cleared
  | left | unroutable | unpublished | publishingBroke | deleted | undeleted
  | deletingBroke | cut => simp [step?] at stepped

/-- A step of a task changes nothing but its stage, and only while it runs. -/
theorem step?_eq_some {now : Nat} {task next : Task} {more : List Event}
    (stepped : task.step? peers route now = some (next, more)) :
    next = { task with stage := next.stage } ∧ task.isFinished = false := by
  obtain ⟨number, delivery, stage⟩ := task
  cases stage with
  | queued =>
      simp only [step?, Option.some.injEq, Prod.mk.injEq] at stepped
      obtain ⟨rfl, rfl⟩ := stepped
      exact ⟨rfl, rfl⟩
  | processing | publishing | deleting =>
      simp only [step?, Option.ite_none_right_eq_some, Option.some.injEq,
        Prod.mk.injEq] at stepped
      obtain ⟨_, rfl, rfl⟩ := stepped
      exact ⟨rfl, rfl⟩
  | done | broken | cut => simp [step?] at stepped

end AtLeastOnce.Task
