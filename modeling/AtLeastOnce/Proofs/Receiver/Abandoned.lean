import AtLeastOnce.Proofs.Receiver.Accounting
import AtLeastOnce.Proofs.Receiver.DeleteSafety

/-!
# Deliveries that are abandoned

A task that is cut off is counted as abandoned, wherever it stood.  If it stood in its
delete call, that call has been made, and nobody learns how it ends; in no other case
has it deleted anything.
-/

namespace AtLeastOnce

def Event.isDeleteEnd : Event → Bool
  | .deleteEnded _ => true
  | _ => false

namespace Task

variable {peers : Peers} {route : Route} {number : Nat} {delivery : Delivery}
  {stage : Stage} {events before : List Event} {copyId : Option String}

theorem opening_isDeleteEnd {event : Event}
    (member : event ∈ opening peers number delivery) : event.isDeleteEnd = false := by
  simp only [opening, List.mem_cons, List.mem_map] at member
  rcases member with rfl | rfl | ⟨entry, _, rfl⟩ <;> rfl

theorem Cleared.isDeleteEnd {event : Event}
    (cleared : Cleared peers route number delivery copyId before)
    (member : event ∈ before) : event.isDeleteEnd = false := by
  cases cleared with
  | processed => exact opening_isDeleteEnd member
  | copied =>
      rcases List.mem_append.mp member with first | copied
      · exact opening_isDeleteEnd first
      · simp only [List.mem_cons, List.not_mem_nil, or_false] at copied
        rcases copied with rfl | rfl | rfl <;> rfl

namespace Course

theorem isDeleteEnd (course : Course peers route number delivery stage events)
    (unfinished : stage.isFinished = false) {event : Event} (member : event ∈ events) :
    event.isDeleteEnd = false := by
  cases course with
  | queued => cases member
  | processing =>
      rw [List.mem_singleton.mp member]
      rfl
  | publishing =>
      rcases List.mem_append.mp member with first | called
      · exact opening_isDeleteEnd first
      · rw [List.mem_singleton.mp called]
        rfl
  | deleting _ cleared =>
      rcases List.mem_append.mp member with first | called
      · exact cleared.isDeleteEnd first
      · rw [List.mem_singleton.mp called]
        rfl
  | left | unroutable | unpublished | publishingBroke | deleted | undeleted
  | deletingBroke | cut => cases unfinished

/-- While a task runs, the delete call is the last thing that it has done, if it has
called at all. -/
theorem deleteCall_of_unfinished
    (course : Course peers route number delivery stage events)
    (unfinished : stage.isFinished = false) :
    events.countP Event.isDeleteCall = 0 ∨
      ∃ copyId before,
        Cleared peers route number delivery copyId before ∧
          events = before ++ [.deleteCalled route.source delivery.handle] := by
  cases course with
  | queued | processing | publishing =>
      left
      simp [List.countP_append, Event.isDeleteCall]
  | deleting _ cleared => exact .inr ⟨_, _, cleared, rfl⟩
  | left | unroutable | unpublished | publishingBroke | deleted | undeleted
  | deletingBroke | cut => cases unfinished

theorem of_cut (course : Course peers route number delivery .cut events) :
    ∃ stage, Course peers route number delivery stage events ∧
      stage.isFinished = false := by
  cases course with
  | cut course unfinished => exact ⟨_, course, unfinished⟩

end Course

end Task

namespace Receiver

/-- What the task of an abandoned delivery has done about deleting it. -/
inductive Abandons (options : ReceiverOptions) (delivery : Delivery)
    (events : List Event) : Prop where
  | undeleted (none : events.countP Event.isDeleteCall = 0)
  /-- The task was cut off in its delete call. -/
  | deleting {before : List Event}
      (called : events = before ++ [.deleteCalled options.queueUrl delivery.handle])
      (allowed : MayDelete options delivery before)

variable {options : ReceiverOptions} {world : World} {shutdown : Shutdown}
  {state : State} {history : List Occurrence} {joined : List Task}

/-- The deliveries that are counted as abandoned are those whose tasks were cut off.
None of their tasks has seen the end of a delete, and a delete call, if one was made,
was the last thing that it did. -/
theorem Joins.abandons (run : Joins options world shutdown state history joined) :
    (state.totals.abandoned = joined.countP fun task => task.stage.isCut) ∧
      ∀ task ∈ joined, task.stage.isCut = true →
        (handedOut history)[task.number]? = some task.delivery ∧
          (∀ event ∈ eventsOf task.number history, event.isDeleteEnd = false) ∧
          Abandons options task.delivery (eventsOf task.number history) := by
  have ledger := run.ledger
  refine ⟨ledger.abandoned, ?_⟩
  intro task member isCut
  obtain ⟨handed, course⟩ := ledger.onCourse task (List.mem_append_left _ member)
  have cut : task.stage = .cut := by
    cases stage : task.stage with
    | cut => rfl
    | queued | processing | publishing | deleting | done | broken =>
        rw [stage] at isCut
        cases isCut
  rw [cut] at course
  obtain ⟨stage, before, unfinished⟩ := course.of_cut
  refine ⟨handed, fun _ => before.isDeleteEnd unfinished, ?_⟩
  rcases before.deleteCall_of_unfinished unfinished with none | ⟨_, _, cleared, called⟩
  · exact .undeleted none
  · exact .deleting called (.of_cleared cleared)

/-! ## A delete that takes too long -/

def thirtyMilliseconds : ReceiverOptions :=
  ((ReceiverOptions.standard "orders").withDeadLetterQueue "orders-dlq").withGracePeriod
    (.ofMilliseconds 30)

/-- One delivery, which is processed in time, but takes longer to delete than the grace
period lasts. -/
def slowDelete : World :=
  { peers :=
      { process := fun _ _ => ⟨some 5, ⟨[], .returns .success⟩⟩
        send := fun _ _ _ => ⟨some 0, .answered "copy"⟩
        delete := fun _ _ _ => ⟨some 100, .answered ()⟩ }
    receive := fun number _ =>
      ⟨if number = 0 then some 1 else none, .answered [⟨"t", "b", ⟨"rh-t"⟩, 1, none⟩]⟩
    sampler := fun _ range => range }

/-- The shutdown is triggered after twenty milliseconds. -/
def slowDeleteRun : Run := run thirtyMilliseconds slowDelete (some 20) 20

theorem slowDeleteRun_joins :
    ∃ joined task,
      Joins thirtyMilliseconds slowDelete .idle slowDeleteRun.state slowDeleteRun.history
        joined ∧
      task ∈ joined ∧ task.stage.isCut = true ∧ task.number = 0 := by
  obtain ⟨joined, run⟩ := (run_reaches thirtyMilliseconds slowDelete (some 20) 20).joins
  have abandoned : slowDeleteRun.state.totals.abandoned = 1 := rfl
  rw [slowDeleteRun, run.ledger.abandoned] at abandoned
  have some_cut : 0 < joined.countP fun task => task.stage.isCut := by
    rw [abandoned]
    exact Nat.one_pos
  obtain ⟨task, member, cut⟩ := List.countP_pos_iff.mp some_cut
  have within : task.number < 1 := run.ledger.number_lt (List.mem_append_left _ member)
  exact ⟨joined, task, run, member, cut, Nat.lt_one_iff.mp within⟩

/-- The delivery is counted as abandoned, and its delete has been called. -/
theorem abandons_slowDelete :
    ∃ joined task,
      Joins thirtyMilliseconds slowDelete .idle slowDeleteRun.state slowDeleteRun.history
        joined ∧
      task ∈ joined ∧ task.stage.isCut = true ∧
      Abandons thirtyMilliseconds task.delivery
        (eventsOf task.number slowDeleteRun.history) := by
  obtain ⟨joined, task, run, member, cut, _⟩ := slowDeleteRun_joins
  exact ⟨joined, task, run, member, cut, (run.abandons.2 task member cut).2.2⟩

/-- So it is not true that nobody calls a delete for an abandoned delivery. -/
theorem abandoned_may_be_deleted :
    ¬ ∀ (options : ReceiverOptions) (world : World) (shutdown : Shutdown) (state : State)
        (history : List Occurrence) (joined : List Task),
        Joins options world shutdown state history joined →
          ∀ task ∈ joined, task.stage.isCut = true →
            ∀ event ∈ eventsOf task.number history, event.isDeleteCall = false := by
  intro promised
  obtain ⟨joined, task, run, member, cut, number⟩ := slowDeleteRun_joins
  have undeleted := promised _ _ _ _ _ _ run task member cut
  rw [number] at undeleted
  have called : .deleteCalled "orders" ⟨"rh-t"⟩ ∈ eventsOf 0 slowDeleteRun.history :=
    List.mem_of_getElem? (show (eventsOf 0 slowDeleteRun.history)[2]? = _ from rfl)
  cases undeleted _ called

end Receiver

end AtLeastOnce
