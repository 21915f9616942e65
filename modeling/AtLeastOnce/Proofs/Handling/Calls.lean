import AtLeastOnce.Proofs.Handling.Course
import Mathlib.Data.List.Basic

/-!
# The queue calls of one task

On every course a task sends at most once and deletes at most once, always its own
delivery and to the queues of its route.  A delete comes only after what clears it,
and a delivery that is to be left, or that has nowhere to go, causes no call.
-/

namespace AtLeastOnce

namespace Event

def isDeleteCall : Event → Bool
  | .deleteCalled _ _ => true
  | _ => false

def isSendCall : Event → Bool
  | .sendCalled _ _ => true
  | _ => false

/-- Whether only the task of a delivery can make such an event. -/
def isOfTask : Event → Bool
  | .processorCalled _ => true
  | .processorEnded _ => true
  | .sendCalled _ _ => true
  | .sendEnded _ => true
  | .deleteCalled _ _ => true
  | .deleteEnded _ => true
  | _ => false

/-- A call that the task of a delivery may make on a route. -/
def ConcernsOnly (route : Route) (delivery : Delivery) : Event → Prop
  | .processorCalled called => called = delivery
  | .sendCalled queueUrl publication =>
      route.deadLetter = some queueUrl ∧
        publication = Task.deadLetterCopy queueUrl delivery
  | .deleteCalled queueUrl handle =>
      queueUrl = route.source ∧ handle = delivery.handle
  | _ => True

end Event

namespace Task

variable {peers : Peers} {route : Route} {number : Nat} {delivery : Delivery}
  {stage : Stage} {events before after : List Event} {copyId : Option String}

@[simp] theorem opening_countP_isDeleteCall :
    (opening peers number delivery).countP Event.isDeleteCall = 0 := by
  simp [opening, Event.isDeleteCall]

@[simp] theorem opening_countP_isSendCall :
    (opening peers number delivery).countP Event.isSendCall = 0 := by
  simp [opening, Event.isSendCall]

@[simp] theorem deadLetterCopy_body (deadLetterUrl : String) (delivery : Delivery) :
    (deadLetterCopy deadLetterUrl delivery).body = delivery.body := by
  unfold deadLetterCopy
  split <;> rfl

/-- In a queue that keeps order the id of the delivery tells copies apart. -/
theorem deadLetterCopy_deduplication {deadLetterUrl : String}
    (ordered : isOrderedQueue deadLetterUrl = true) (delivery : Delivery) :
    (deadLetterCopy deadLetterUrl delivery).deduplication = some delivery.id := by
  simp [deadLetterCopy, ordered, Publication.withOrder]

theorem processorEnded_mem_opening :
    .processorEnded (peers.process number delivery).result.ending ∈
      opening peers number delivery := by
  simp [opening]

/-- Only a processor that returns success comes to that outcome; a panic is a
lasting failure. -/
theorem ending_of_outcome_success
    (succeeded : outcome peers number delivery = .success) :
    (peers.process number delivery).result.ending = .returns .success := by
  unfold outcome ProcessorEnd.outcome at succeeded
  split at succeeded
  · rename_i returned equality
    rw [equality, succeeded]
  · cases succeeded

namespace Cleared

theorem countP_isDeleteCall
    (cleared : Cleared peers route number delivery copyId before) :
    before.countP Event.isDeleteCall = 0 := by
  cases cleared with
  | processed => exact opening_countP_isDeleteCall
  | copied => simp [List.countP_append, Event.isDeleteCall]

theorem countP_isSendCall
    (cleared : Cleared peers route number delivery copyId before) :
    before.countP Event.isSendCall ≤ 1 := by
  cases cleared with
  | processed => simp
  | copied => simp [List.countP_append, List.countP_cons, Event.isSendCall]

/-- What clears a delete, read off the events before it: the processor returned
success, or the answer to the call that sends the body came in. -/
theorem success_or_copy
    (cleared : Cleared peers route number delivery copyId before) :
    .processorEnded (.returns .success) ∈ before ∨
      ∃ deadLetterUrl publication copyId,
        route.deadLetter = some deadLetterUrl ∧ publication.body = delivery.body ∧
          [.sendCalled deadLetterUrl publication,
            .sendEnded (.answered copyId)] <:+: before := by
  cases cleared with
  | processed succeeded =>
      left
      rw [← ending_of_outcome_success succeeded]
      exact processorEnded_mem_opening
  | @copied reason deadLetterUrl copyId failed configured published =>
      right
      refine ⟨deadLetterUrl, deadLetterCopy deadLetterUrl delivery, copyId,
        configured, deadLetterCopy_body _ _, ?_⟩
      exact ⟨opening peers number delivery,
        [.logged (.deadLetterPublished delivery.id copyId deadLetterUrl)], by simp⟩

/-- A delivery that is to be left is never cleared. -/
theorem outcome_ne_retryable {reason : String}
    (cleared : Cleared peers route number delivery copyId before) :
    outcome peers number delivery ≠ .retryable reason := by
  cases cleared with
  | processed succeeded => simp [succeeded]
  | copied failed => simp [failed]

/-- Nor is one that has nowhere to go. -/
theorem deadLetter_isSome {reason : String}
    (cleared : Cleared peers route number delivery copyId before)
    (failed : outcome peers number delivery = .terminal reason) :
    route.deadLetter.isSome := by
  cases cleared with
  | processed succeeded =>
      rw [succeeded] at failed
      cases failed
  | copied _ configured => simp [configured]

end Cleared

namespace Course

/-- A course has no delete call, or one that has been cleared. -/
theorem deleteCall_cases
    (course : Course peers route number delivery stage events) :
    events.countP Event.isDeleteCall = 0 ∨
      ∃ copyId before after,
        Cleared peers route number delivery copyId before ∧
          events = before ++ .deleteCalled route.source delivery.handle :: after ∧
          after.countP Event.isDeleteCall = 0 := by
  induction course with
  | queued | processing | left | unroutable | publishing | unpublished | publishingBroke =>
      left
      simp [List.countP_append, Event.isDeleteCall]
  | deleting until? cleared => exact .inr ⟨_, _, _, cleared, rfl, rfl⟩
  | deleted cleared => exact .inr ⟨_, _, _, cleared, rfl, rfl⟩
  | undeleted cleared => exact .inr ⟨_, _, _, cleared, rfl, rfl⟩
  | deletingBroke cleared => exact .inr ⟨_, _, _, cleared, rfl, rfl⟩
  | cut course unfinished induction => exact induction

theorem countP_isDeleteCall
    (course : Course peers route number delivery stage events) :
    events.countP Event.isDeleteCall ≤ 1 := by
  rcases course.deleteCall_cases with
    none | ⟨copyId, before, after, cleared, rfl, rest⟩
  · omega
  · simp [List.countP_append, List.countP_cons, cleared.countP_isDeleteCall, rest,
      Event.isDeleteCall]

theorem countP_isSendCall
    (course : Course peers route number delivery stage events) :
    events.countP Event.isSendCall ≤ 1 := by
  induction course with
  | queued | processing | left | unroutable | publishing | unpublished | publishingBroke =>
      simp [List.countP_append, List.countP_cons, Event.isSendCall]
  | deleting until? cleared | deleted cleared | undeleted cleared
  | deletingBroke cleared =>
      have sends := cleared.countP_isSendCall
      simpa [List.countP_append, List.countP_cons, Event.isSendCall] using sends
  | cut course unfinished induction => exact induction

/-- Whatever stands before a delete call is what clears it. -/
theorem cleared_of_deleteCall {queueUrl : String} {handle : ReceiptHandle}
    (course : Course peers route number delivery stage
      (before ++ .deleteCalled queueUrl handle :: after)) :
    queueUrl = route.source ∧ handle = delivery.handle ∧
      ∃ copyId, Cleared peers route number delivery copyId before := by
  rcases course.deleteCall_cases with
    none | ⟨copyId, cleared, rest, entitled, equality, later⟩
  · simp [List.countP_append, Event.isDeleteCall] at none
  · have outside : ∀ {others : List Event}, others.countP Event.isDeleteCall = 0 →
        .deleteCalled queueUrl handle ∉ others := by
      intro others absent member
      exact List.countP_eq_zero.mp absent _ member rfl
    obtain ⟨rfl, same, rfl⟩ := (List.append_cons_inj_of_notMem
      (outside entitled.countP_isDeleteCall) (outside later)).mp equality.symm
    cases same
    exact ⟨rfl, rfl, copyId, entitled⟩

/-- A delivery is reported as dead-lettered only after its copy has been accepted. -/
theorem accepted_of_deadLettered {report : Report} {copyId : String}
    (course : Course peers route number delivery (.done report) events)
    (reported : report.ack = .ok (.deadLettered copyId)) :
    .sendEnded (.answered copyId) ∈ events := by
  cases course with
  | left | unroutable | unpublished => cases reported
  | @undeleted copyId? =>
      cases copyId? with
      | none | some => cases reported
  | deleted cleared =>
      cases cleared with
      | processed => cases reported
      | copied =>
          cases reported
          simp

/-- The end of a send comes after its call. -/
theorem sendCalled_of_sendEnded {result : CallEnd String}
    (course : Course peers route number delivery stage events)
    (ended : .sendEnded result ∈ events) :
    ∃ queueUrl publication, .sendCalled queueUrl publication ∈ events := by
  have inCleared : ∀ {copyId before}, Cleared peers route number delivery copyId before →
      .sendEnded result ∈ before →
        ∃ queueUrl publication, .sendCalled queueUrl publication ∈ before := by
    intro copyId before cleared inside
    cases cleared with
    | processed => simp [opening] at inside
    | copied => exact ⟨_, _, List.mem_append_right _ List.mem_cons_self⟩
  induction course with
  | queued | processing | left | unroutable | publishing => simp [opening] at ended
  | unpublished | publishingBroke =>
      exact ⟨_, _, List.mem_append_right _ List.mem_cons_self⟩
  | deleting _ cleared | deleted cleared | undeleted cleared | deletingBroke cleared =>
      have early := by simpa using ended
      obtain ⟨queueUrl, publication, called⟩ := inCleared cleared early
      exact ⟨queueUrl, publication, List.mem_append_left _ called⟩
  | cut _ _ induction => exact induction ended

/-- Where the events of a course come from. -/
theorem mem_cases {event : Event}
    (course : Course peers route number delivery stage events)
    (member : event ∈ events) :
    event ∈ opening peers number delivery ∨ (∃ entry, event = .logged entry) ∨
      (∃ reason deadLetterUrl,
        outcome peers number delivery = .terminal reason ∧
          route.deadLetter = some deadLetterUrl ∧
          (event = .sendCalled deadLetterUrl
            (deadLetterCopy deadLetterUrl delivery) ∨
            event = .sendEnded (sendResult peers number delivery deadLetterUrl))) ∨
      (∃ copyId before, Cleared peers route number delivery copyId before) ∧
        (event = .deleteCalled route.source delivery.handle ∨
          event = .deleteEnded (deleteResult peers route number delivery)) := by
  have inCleared : ∀ {copyId before},
      Cleared peers route number delivery copyId before → event ∈ before →
        event ∈ opening peers number delivery ∨ (∃ entry, event = .logged entry) ∨
          ∃ reason deadLetterUrl,
            outcome peers number delivery = .terminal reason ∧
              route.deadLetter = some deadLetterUrl ∧
              (event = .sendCalled deadLetterUrl
                (deadLetterCopy deadLetterUrl delivery) ∨
                event = .sendEnded
                  (sendResult peers number delivery deadLetterUrl)) := by
    intro copyId before cleared inside
    cases cleared with
    | processed => exact .inl inside
    | @copied reason deadLetterUrl copyId failed configured published =>
        simp only [List.mem_append, List.mem_cons, List.not_mem_nil,
          or_false] at inside
        rcases inside with first | rfl | rfl | rfl
        · exact .inl first
        · exact .inr (.inr ⟨reason, deadLetterUrl, failed, configured, .inl rfl⟩)
        · exact .inr (.inr ⟨reason, deadLetterUrl, failed, configured,
            .inr (by rw [published])⟩)
        · exact .inr (.inl ⟨_, rfl⟩)
  induction course with
  | queued => cases member
  | processing =>
      rw [List.mem_singleton.mp member]
      exact .inl List.mem_cons_self
  | left | unroutable =>
      rcases List.mem_append.mp member with first | last
      · exact .inl first
      · exact .inr (.inl ⟨_, List.mem_singleton.mp last⟩)
  | @publishing reason deadLetterUrl _ failed configured =>
      rcases List.mem_append.mp member with first | last
      · exact .inl first
      · exact .inr (.inr (.inl ⟨reason, deadLetterUrl, failed, configured,
          .inl (List.mem_singleton.mp last)⟩))
  | @unpublished reason deadLetterUrl error failed configured refused =>
      simp only [List.mem_append, List.mem_cons, List.not_mem_nil,
        or_false] at member
      rcases member with first | called | ended | logged
      · exact .inl first
      · exact .inr (.inr
          (.inl ⟨reason, deadLetterUrl, failed, configured, .inl called⟩))
      · exact .inr (.inr (.inl ⟨reason, deadLetterUrl, failed, configured,
          .inr (refused ▸ ended)⟩))
      · exact .inr (.inl ⟨_, logged⟩)
  | @publishingBroke reason deadLetterUrl text failed configured broke =>
      simp only [List.mem_append, List.mem_cons, List.not_mem_nil,
        or_false] at member
      rcases member with first | called | ended
      · exact .inl first
      · exact .inr (.inr
          (.inl ⟨reason, deadLetterUrl, failed, configured, .inl called⟩))
      · exact .inr (.inr (.inl ⟨reason, deadLetterUrl, failed, configured,
          .inr (broke ▸ ended)⟩))
  | deleting _ cleared =>
      rcases List.mem_append.mp member with first | called
      · exact (inCleared cleared first).imp_right fun later => later.imp_right .inl
      · exact .inr (.inr
          (.inr ⟨⟨_, _, cleared⟩, .inl (List.mem_singleton.mp called)⟩))
  | deleted cleared ended | undeleted cleared ended =>
      simp only [List.mem_append, List.mem_cons, List.not_mem_nil,
        or_false] at member
      rcases member with first | called | answered | logged
      · exact (inCleared cleared first).imp_right fun later => later.imp_right .inl
      · exact .inr (.inr (.inr ⟨⟨_, _, cleared⟩, .inl called⟩))
      · exact .inr (.inr (.inr ⟨⟨_, _, cleared⟩, .inr (ended ▸ answered)⟩))
      · exact .inr (.inl ⟨_, logged⟩)
  | deletingBroke cleared broke =>
      simp only [List.mem_append, List.mem_cons, List.not_mem_nil,
        or_false] at member
      rcases member with first | called | ended
      · exact (inCleared cleared first).imp_right fun later => later.imp_right .inl
      · exact .inr (.inr (.inr ⟨⟨_, _, cleared⟩, .inl called⟩))
      · exact .inr (.inr (.inr ⟨⟨_, _, cleared⟩, .inr (broke ▸ ended)⟩))
  | cut course unfinished induction => exact induction member

theorem processorEnded_eq {ending : ProcessorEnd}
    (course : Course peers route number delivery stage events)
    (member : .processorEnded ending ∈ events) :
    ending = (peers.process number delivery).result.ending := by
  rcases course.mem_cases member with opened | ⟨_, equality⟩ |
    ⟨_, _, _, _, equality | equality⟩ | ⟨_, equality | equality⟩
  · simpa [opening] using opened
  all_goals cases equality

/-- No call to a queue comes from a delivery that is to be left or has nowhere to
go. -/
theorem no_call_of_left_or_unroutable {event : Event}
    (course : Course peers route number delivery stage events)
    (stays : (∃ reason, outcome peers number delivery = .retryable reason) ∨
      (∃ reason, outcome peers number delivery = .terminal reason) ∧
        route.deadLetter = none)
    (member : event ∈ events) :
    event.isDeleteCall = false ∧ event.isSendCall = false := by
  rcases course.mem_cases member with opened | ⟨entry, rfl⟩ |
    ⟨_, _, lasting, configured, _⟩ | ⟨⟨_, _, cleared⟩, _⟩
  · simp only [opening, List.mem_cons, List.mem_map] at opened
    rcases opened with rfl | rfl | ⟨entry, _, rfl⟩ <;> exact ⟨rfl, rfl⟩
  · exact ⟨rfl, rfl⟩
  · rcases stays with ⟨_, passing⟩ | ⟨_, unconfigured⟩
    · rw [passing] at lasting
      cases lasting
    · rw [unconfigured] at configured
      cases configured
  · rcases stays with ⟨_, passing⟩ | ⟨⟨_, lasting⟩, unconfigured⟩
    · exact (cleared.outcome_ne_retryable passing).elim
    · have somewhere := cleared.deadLetter_isSome lasting
      simp [unconfigured] at somewhere

/-- Every call is about the delivery of the task. -/
theorem concernsOnly {event : Event}
    (course : Course peers route number delivery stage events)
    (member : event ∈ events) :
    event.ConcernsOnly route delivery := by
  rcases course.mem_cases member with opened | ⟨entry, rfl⟩ |
    ⟨_, _, _, configured, rfl | rfl⟩ | ⟨_, rfl | rfl⟩
  · simp only [opening, List.mem_cons, List.mem_map] at opened
    rcases opened with rfl | rfl | ⟨entry, _, rfl⟩ <;> simp [Event.ConcernsOnly]
  · trivial
  · exact ⟨configured, rfl⟩
  · trivial
  · exact ⟨rfl, rfl⟩
  · trivial

end Course

end Task

end AtLeastOnce
