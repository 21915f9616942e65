import AtLeastOnce.Proofs.Handling.Answering
import AtLeastOnce.Proofs.Handling.Calls

/-!
# What a report tells

The report on a delivery and the queue calls made for it determine each other: there is
one history of calls for each kind of report, and no two kinds share theirs except where
no call was made at all.
-/

namespace AtLeastOnce

def Event.isOfQueue : Event → Bool
  | .sendCalled _ _ => true
  | .sendEnded _ => true
  | .deleteCalled _ _ => true
  | .deleteEnded _ => true
  | _ => false

/-- The calls to queues and how they ended, in order. -/
def queueCalls (events : List Event) : List Event := events.filter Event.isOfQueue

namespace Report

/-- The delete of a delivery from its source, with its result. -/
def deletion (route : Route) (delivery : Delivery) (result : CallEnd Unit) : List Event :=
  [.deleteCalled route.source delivery.handle, .deleteEnded result]

def sending (deadLetterUrl : String) (copy : Publication) (result : CallEnd String) :
    List Event :=
  [.sendCalled deadLetterUrl copy, .sendEnded result]

/-- The calls that go with each way in which a delivery can be reported. -/
inductive Told (route : Route) (delivery : Delivery) :
    Outcome → Except AckError AckAction → List Event → Prop where
  | deleted : Told route delivery .success (.ok .deleted)
      (deletion route delivery (.answered ()))
  | undeleted (error : CallError) :
      Told route delivery .success (.error (.delete error))
        (deletion route delivery (.failed error))
  | left (reason : String) : Told route delivery (.retryable reason) (.ok .left) []
  | unroutable (reason : String) (unconfigured : route.deadLetter = none) :
      Told route delivery (.terminal reason) (.error .noDeadLetterQueue) []
  | unpublished (reason : String) {url : String} (error : CallError)
      (configured : route.deadLetter = some url) :
      Told route delivery (.terminal reason) (.error (.deadLetterPublish error))
        (sending url (Task.deadLetterCopy url delivery) (.failed error))
  | deadLettered (reason : String) {url : String} (copyId : String)
      (configured : route.deadLetter = some url) :
      Told route delivery (.terminal reason) (.ok (.deadLettered copyId))
        (sending url (Task.deadLetterCopy url delivery) (.answered copyId) ++
          deletion route delivery (.answered ()))
  | undeletedCopy (reason : String) {url : String} (copyId : String) (error : CallError)
      (configured : route.deadLetter = some url) :
      Told route delivery (.terminal reason)
        (.error (.deleteAfterDeadLetter copyId error))
        (sending url (Task.deadLetterCopy url delivery) (.answered copyId) ++
          deletion route delivery (.failed error))

/-- A report and the calls made for a delivery, each read off the other. -/
structure Tells (route : Route) (delivery : Delivery) (report : Report)
    (calls : List Event) : Prop where
  deleted : report.ack = .ok .deleted ↔ calls = deletion route delivery (.answered ())
  undeleted : ∀ error, report.ack = .error (.delete error) ↔
    calls = deletion route delivery (.failed error)
  left : report.ack = .ok .left ↔
    (∃ reason, report.outcome = .retryable reason) ∧ calls = []
  unroutable : report.ack = .error .noDeadLetterQueue ↔
    (∃ reason, report.outcome = .terminal reason) ∧ route.deadLetter = none ∧ calls = []
  unpublished : ∀ error, report.ack = .error (.deadLetterPublish error) ↔
    ∃ url copy, route.deadLetter = some url ∧ calls = sending url copy (.failed error)
  deadLettered : ∀ copyId, report.ack = .ok (.deadLettered copyId) ↔
    ∃ url copy, route.deadLetter = some url ∧
      calls = sending url copy (.answered copyId) ++
        deletion route delivery (.answered ())
  undeletedCopy : ∀ copyId error,
    report.ack = .error (.deleteAfterDeadLetter copyId error) ↔
      ∃ url copy, route.deadLetter = some url ∧
        calls = sending url copy (.answered copyId) ++
          deletion route delivery (.failed error)
  removed : report.isRemoved = true ↔ .deleteEnded (.answered ()) ∈ calls
  copies : ∀ url copy, .sendCalled url copy ∈ calls →
    route.deadLetter = some url ∧ copy.body = delivery.body ∧
      (".fifo".toList <:+ url.toList →
        copy.group = some (delivery.group.getD delivery.id) ∧
          copy.deduplication = some delivery.id) ∧
      (¬ ".fifo".toList <:+ url.toList → copy.group = none ∧ copy.deduplication = none)

variable {route : Route} {delivery : Delivery} {outcome : Outcome}
  {ack : Except AckError AckAction} {calls : List Event}

namespace Told

theorem left_iff (told : Told route delivery outcome ack calls) :
    ack = .ok .left ↔ (∃ reason, outcome = .retryable reason) ∧ calls = [] := by
  cases told <;> simp [deletion, sending]

theorem unroutable_iff (told : Told route delivery outcome ack calls) :
    ack = .error .noDeadLetterQueue ↔
      (∃ reason, outcome = .terminal reason) ∧ route.deadLetter = none ∧ calls = [] := by
  cases told with
  | unroutable reason unconfigured => simp [unconfigured]
  | deleted | undeleted | left | unpublished | deadLettered | undeletedCopy =>
      simp [deletion, sending]

theorem deleted_iff (told : Told route delivery outcome ack calls) :
    ack = .ok .deleted ↔ calls = deletion route delivery (.answered ()) := by
  cases told <;> simp [deletion, sending]

theorem undeleted_iff (told : Told route delivery outcome ack calls) (error : CallError) :
    ack = .error (.delete error) ↔ calls = deletion route delivery (.failed error) := by
  cases told <;> simp [deletion, sending]

theorem unpublished_iff (told : Told route delivery outcome ack calls)
    (error : CallError) :
    ack = .error (.deadLetterPublish error) ↔
      ∃ url copy, route.deadLetter = some url ∧
        calls = sending url copy (.failed error) := by
  cases told with
  | unpublished reason found configured =>
      constructor
      · rintro ⟨⟩
        exact ⟨_, _, configured, rfl⟩
      · rintro ⟨url, copy, _, same⟩
        cases same
        rfl
  | deleted | undeleted | left | unroutable | deadLettered | undeletedCopy =>
      simp [deletion, sending]

theorem deadLettered_iff (told : Told route delivery outcome ack calls)
    (copyId : String) :
    ack = .ok (.deadLettered copyId) ↔
      ∃ url copy, route.deadLetter = some url ∧
        calls = sending url copy (.answered copyId) ++
          deletion route delivery (.answered ()) := by
  cases told with
  | deadLettered reason found configured =>
      constructor
      · rintro ⟨⟩
        exact ⟨_, _, configured, rfl⟩
      · rintro ⟨url, copy, _, same⟩
        cases same
        rfl
  | deleted | undeleted | left | unroutable | unpublished | undeletedCopy =>
      simp [deletion, sending]

theorem undeletedCopy_iff (told : Told route delivery outcome ack calls)
    (copyId : String) (error : CallError) :
    ack = .error (.deleteAfterDeadLetter copyId error) ↔
      ∃ url copy, route.deadLetter = some url ∧
        calls = sending url copy (.answered copyId) ++
          deletion route delivery (.failed error) := by
  cases told with
  | undeletedCopy reason foundId foundError configured =>
      constructor
      · rintro ⟨⟩
        exact ⟨_, _, configured, rfl⟩
      · rintro ⟨url, copy, _, same⟩
        cases same
        rfl
  | deleted | undeleted | left | unroutable | unpublished | deadLettered =>
      simp [deletion, sending]

theorem removed_iff (told : Told route delivery outcome ack calls) (messageId : String) :
    isRemoved ⟨messageId, outcome, ack⟩ = true ↔
      .deleteEnded (.answered ()) ∈ calls := by
  cases told <;> simp [isRemoved, deletion, sending]

theorem send_eq {url : String} {copy : Publication}
    (told : Told route delivery outcome ack calls)
    (sent : .sendCalled url copy ∈ calls) :
    route.deadLetter = some url ∧ copy = Task.deadLetterCopy url delivery := by
  cases told with
  | unpublished _ _ configured | deadLettered _ _ configured
  | undeletedCopy _ _ _ configured =>
      simp only [sending, deletion, List.cons_append, List.nil_append, List.mem_cons,
        List.not_mem_nil, Event.sendCalled.injEq, reduceCtorEq, or_false] at sent
      obtain ⟨rfl, rfl⟩ := sent
      exact ⟨configured, rfl⟩
  | deleted | undeleted | left | unroutable => simp [deletion] at sent

end Told

end Report

theorem isOrderedQueue_iff (queueUrl : String) :
    isOrderedQueue queueUrl = true ↔ ".fifo".toList <:+ queueUrl.toList :=
  List.isSuffixOf_iff_suffix

namespace Task

variable {peers : Peers} {route : Route} {number : Nat} {delivery : Delivery}
  {stage : Stage} {events before : List Event} {copyId : Option String} {report : Report}

theorem deadLetterCopy_ordered {url : String} (ordered : ".fifo".toList <:+ url.toList)
    (delivery : Delivery) :
    (deadLetterCopy url delivery).group = some (delivery.group.getD delivery.id) ∧
      (deadLetterCopy url delivery).deduplication = some delivery.id := by
  simp [deadLetterCopy, (isOrderedQueue_iff url).mpr ordered, Publication.withOrder]

theorem deadLetterCopy_unordered {url : String}
    (unordered : ¬ ".fifo".toList <:+ url.toList) (delivery : Delivery) :
    (deadLetterCopy url delivery).group = none ∧
      (deadLetterCopy url delivery).deduplication = none := by
  have plain : isOrderedQueue url = false := by
    rw [Bool.eq_false_iff, Ne, isOrderedQueue_iff]
    exact unordered
  simp [deadLetterCopy, plain, Publication.plain]

@[simp] theorem queueCalls_opening : queueCalls (opening peers number delivery) = [] := by
  simp [queueCalls, opening, Event.isOfQueue]

@[simp] theorem queueCalls_append (events later : List Event) :
    queueCalls (events ++ later) = queueCalls events ++ queueCalls later :=
  List.filter_append _ _

theorem Course.told (course : Course peers route number delivery (.done report) events) :
    Report.Told route delivery report.outcome report.ack (queueCalls events) := by
  cases course with
  | left =>
      rw [queueCalls_append, queueCalls_opening]
      exact .left _
  | unroutable failed unconfigured =>
      rw [queueCalls_append, queueCalls_opening]
      exact .unroutable _ unconfigured
  | unpublished failed configured refused =>
      rw [queueCalls_append, queueCalls_opening]
      exact .unpublished _ _ configured
  | deleted cleared accepted =>
      cases cleared with
      | processed succeeded =>
          rw [queueCalls_append, queueCalls_opening, succeeded]
          exact .deleted
      | copied failed configured published =>
          rw [queueCalls_append, queueCalls_append, queueCalls_opening, failed]
          exact .deadLettered _ _ configured
  | undeleted cleared refused =>
      cases cleared with
      | processed succeeded =>
          rw [queueCalls_append, queueCalls_opening, succeeded]
          exact .undeleted _
      | copied failed configured published =>
          rw [queueCalls_append, queueCalls_append, queueCalls_opening, failed]
          exact .undeletedCopy _ _ _ configured

end Task

theorem Report.Told.tells {route : Route} {delivery : Delivery} {report : Report}
    {calls : List Event} (told : Told route delivery report.outcome report.ack calls) :
    Tells route delivery report calls where
  deleted := told.deleted_iff
  undeleted := told.undeleted_iff
  left := told.left_iff
  unroutable := told.unroutable_iff
  unpublished := told.unpublished_iff
  deadLettered := told.deadLettered_iff
  undeletedCopy := told.undeletedCopy_iff
  removed := told.removed_iff report.messageId
  copies := by
    intro url copy sent
    obtain ⟨configured, rfl⟩ := told.send_eq sent
    exact ⟨configured, Task.deadLetterCopy_body url delivery,
      fun ordered => Task.deadLetterCopy_ordered ordered delivery,
      fun unordered => Task.deadLetterCopy_unordered unordered delivery⟩

/-- Handling a delivery comes to a report, and the report and the queue calls that were
made tell the same story. -/
theorem Peers.Answering.report_tells {peers : Peers} (answering : peers.Answering)
    (route : Route) (delivery : Delivery) :
    ∃ report, (Batch.run peers route [delivery]).reports? = some [report] ∧
      report.messageId = delivery.id ∧
      report.outcome = (peers.process 0 delivery).result.ending.outcome ∧
      report.Tells route delivery
        (queueCalls ((Batch.run peers route [delivery]).history.map Occurrence.event)) := by
  obtain ⟨reports, reported, sameLength, places⟩ :=
    answering.exists_reports route [delivery]
  obtain ⟨report, rfl⟩ := List.length_eq_one_iff.mp sameLength
  have handled : (Task.lastStage peers route 0 delivery).report? = some report :=
    places 0 Nat.one_pos Nat.one_pos
  have course : Task.Course peers route 0 delivery
      (Task.prospect peers route 0 (Task.start 0 delivery)).task.stage
      ((Task.prospect peers route 0 (Task.start 0 delivery)).events.map Occurrence.event) :=
    Task.prospect_course
  rw [answering.stage_prospect, Stage.eq_done_of_report? handled] at course
  obtain ⟨messageId, outcome⟩ := course.eq_of_report rfl
  refine ⟨report, reported, messageId, outcome, ?_⟩
  rw [Batch.history_run_single]
  exact course.told.tells

/-! A processor that panics, a copy that is accepted, and a delete that times out. -/

def frailPeers : Peers where
  process _ _ := ⟨some 3, ⟨[], .panics none⟩⟩
  send _ _ copy := ⟨some 5, .answered ("copy of " ++ copy.body)⟩
  delete _ queueUrl _ := ⟨some 2, .failed ⟨.delete, queueUrl, .timeout⟩⟩

theorem frailPeers_answering : frailPeers.Answering where
  process _ _ := rfl
  send _ _ _ := ⟨rfl, by simp [frailPeers]⟩
  delete _ _ _ := ⟨rfl, by simp [frailPeers]⟩

theorem report_tells_frail :
    frailPeers.Answering ∧
      ∃ report,
        (Batch.run frailPeers ⟨"orders", some "dead.fifo"⟩
            [⟨"m", "body", ⟨"rh"⟩, 1, none⟩]).reports? = some [report] ∧
          report.ack =
            .error (.deleteAfterDeadLetter "copy of body" ⟨.delete, "orders", .timeout⟩) ∧
          report.Tells ⟨"orders", some "dead.fifo"⟩ ⟨"m", "body", ⟨"rh"⟩, 1, none⟩
            (queueCalls ((Batch.run frailPeers ⟨"orders", some "dead.fifo"⟩
              [⟨"m", "body", ⟨"rh"⟩, 1, none⟩]).history.map Occurrence.event)) := by
  obtain ⟨report, reported, _, _, tells⟩ := frailPeers_answering.report_tells
    ⟨"orders", some "dead.fifo"⟩ ⟨"m", "body", ⟨"rh"⟩, 1, none⟩
  refine ⟨frailPeers_answering, report, reported, ?_, tells⟩
  exact (tells.undeletedCopy _ _).mpr ⟨_, _, rfl, rfl⟩

end AtLeastOnce
