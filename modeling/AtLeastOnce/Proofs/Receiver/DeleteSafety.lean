import AtLeastOnce.Proofs.Receiver.Origin
import AtLeastOnce.Proofs.Receiver.Schedule

/-!
# Nothing is deleted too early

A delivery leaves its queue only after its processor has succeeded, or after a
copy of its body is in the dead-letter queue.  The events of every task are those
of a course, so what holds of every course holds of every number in every run.
-/

namespace AtLeastOnce.Receiver

/-- What the task of a delivery must have behind it when it deletes. -/
inductive MayDelete (options : ReceiverOptions) (delivery : Delivery)
    (before : List Event) : Prop where
  | succeeded (returned : .processorEnded (.returns .success) ∈ before) :
      MayDelete options delivery before
  /-- The call that sends the body and its answer stand next to each other. -/
  | copied {deadLetterUrl copyId : String} {publication : Publication}
      (configured : options.deadLetterUrl = some deadLetterUrl)
      (body : publication.body = delivery.body)
      (confirmed : [.sendCalled deadLetterUrl publication,
        .sendEnded (.answered copyId)] <:+: before) :
      MayDelete options delivery before

variable {options : ReceiverOptions} {world : World} {shutdown : Shutdown}
  {state : State} {history before after : List Occurrence}

/-! ## Deletes -/

theorem MayDelete.of_cleared {number : Nat} {delivery : Delivery}
    {copyId : Option String} {earlier : List Event}
    (cleared : Task.Cleared world.peers options.route number delivery copyId
      earlier) :
    MayDelete options delivery earlier := by
  rcases cleared.success_or_copy with
    returned | ⟨_, _, _, configured, body, confirmed⟩
  · exact .succeeded returned
  · exact .copied configured body confirmed

/-- A delete call is made by the task of a delivery that was handed out, is about
that delivery, and comes after what it must come after. -/
theorem Reaches.mayDelete (reached : Reaches options world shutdown state history)
    {time : Nat} {task : Option Nat} {queueUrl : String} {handle : ReceiptHandle}
    (split : history =
      before ++ ⟨time, task, .deleteCalled queueUrl handle⟩ :: after) :
    ∃ number delivery,
      task = some number ∧ (handedOut history)[number]? = some delivery ∧
        queueUrl = options.queueUrl ∧ handle = delivery.handle ∧
        MayDelete options delivery (eventsOf number before) := by
  have member : ⟨time, task, .deleteCalled queueUrl handle⟩ ∈ history := by
    rw [split]
    exact List.mem_append_right _ List.mem_cons_self
  cases task with
  | none =>
      have outside := reached.untasked member rfl
      simp [Event.isOfTask] at outside
  | some number =>
      have own : eventsOf number history =
          eventsOf number before ++ .deleteCalled queueUrl handle ::
            eventsOf number after := by
        rw [split, eventsOf_append, eventsOf_cons_of_task]
      rcases reached.course_or_nothing number with
        ⟨delivery, stage, handed, course⟩ | nothing
      · rw [own] at course
        obtain ⟨source, same, copyId, cleared⟩ := course.cleared_of_deleteCall
        exact ⟨number, delivery, rfl, handed, source, same, .of_cleared cleared⟩
      · simp [own] at nothing

/-- A copy is sent by the task of a delivery that was handed out, and holds its
body. -/
theorem Reaches.sendCalled_eq
    (reached : Reaches options world shutdown state history)
    {time : Nat} {task : Option Nat} {queueUrl : String} {publication : Publication}
    (member : ⟨time, task, .sendCalled queueUrl publication⟩ ∈ history) :
    ∃ number delivery,
      task = some number ∧ (handedOut history)[number]? = some delivery ∧
        options.deadLetterUrl = some queueUrl ∧
          publication.body = delivery.body := by
  obtain ⟨number, delivery, same, handed, configured, copy⟩ :=
    reached.concernsOnly member rfl
  refine ⟨number, delivery, same, handed, configured, ?_⟩
  rw [copy, Task.deadLetterCopy_body]

theorem Reaches.countP_calls_le_one
    (reached : Reaches options world shutdown state history)
    (number : Nat) :
    (eventsOf number history).countP Event.isDeleteCall ≤ 1 ∧
      (eventsOf number history).countP Event.isSendCall ≤ 1 := by
  rcases reached.course_or_nothing number with
    ⟨delivery, stage, _, course⟩ | nothing
  · exact ⟨course.countP_isDeleteCall, course.countP_isSendCall⟩
  · simp [nothing]

/-- Left where it is, or with nowhere to go: no call is made about the delivery. -/
theorem Reaches.no_call_after
    (reached : Reaches options world shutdown state history)
    {number : Nat} {ending : ProcessorEnd}
    (ended : .processorEnded ending ∈ eventsOf number history)
    (stays : (∃ reason, ending.outcome = .retryable reason) ∨
      (∃ reason, ending.outcome = .terminal reason) ∧
        options.deadLetterUrl = none) :
    ∀ event ∈ eventsOf number history,
      event.isDeleteCall = false ∧ event.isSendCall = false := by
  rcases reached.course_or_nothing number with
    ⟨delivery, stage, _, course⟩ | nothing
  · intro event member
    have same := course.processorEnded_eq ended
    rw [same] at stays
    exact course.no_call_of_left_or_unroutable stays member
  · rw [nothing] at ended
    cases ended

/-- No delete without success or a confirmed copy, at most one call of each kind
for a delivery, and none for one that stays, in every state of every run. -/
theorem Reaches.delete_safe
    (reached : Reaches options world shutdown state history) :
    (∀ before time task queueUrl handle after,
      history = before ++ ⟨time, task, .deleteCalled queueUrl handle⟩ :: after →
        ∃ number delivery,
          task = some number ∧ (handedOut history)[number]? = some delivery ∧
            queueUrl = options.queueUrl ∧ handle = delivery.handle ∧
            MayDelete options delivery (eventsOf number before)) ∧
    (∀ time task queueUrl publication,
      ⟨time, task, .sendCalled queueUrl publication⟩ ∈ history →
        ∃ number delivery,
          task = some number ∧ (handedOut history)[number]? = some delivery ∧
            options.deadLetterUrl = some queueUrl ∧
              publication.body = delivery.body) ∧
    (∀ number, (eventsOf number history).countP Event.isDeleteCall ≤ 1 ∧
      (eventsOf number history).countP Event.isSendCall ≤ 1) ∧
    (∀ number ending, .processorEnded ending ∈ eventsOf number history →
      (∃ reason, ending.outcome = .retryable reason) ∨
        (∃ reason, ending.outcome = .terminal reason) ∧
          options.deadLetterUrl = none →
      ∀ event ∈ eventsOf number history,
        event.isDeleteCall = false ∧ event.isSendCall = false) := by
  refine ⟨?_, ?_, reached.countP_calls_le_one, ?_⟩
  · intro before time task queueUrl handle after split
    exact reached.mayDelete split
  · intro time task queueUrl publication member
    exact reached.sendCalled_eq member
  · intro number ending ended stays
    exact reached.no_call_after ended stays

/-- The second of the two letters, which broke the processor, has a copy in the
dead-letter queue when it is deleted. -/
theorem delete_safe_twoLetters :
    ∃ number delivery,
      some 1 = some number ∧
        (handedOut (run letterOptions twoLetters none 40).history)[number]? =
          some delivery ∧
        ⟨"b"⟩ = delivery.handle ∧
        MayDelete letterOptions delivery
          (eventsOf number
            ((run letterOptions twoLetters none 40).history.take 18)) := by
  have split : (run letterOptions twoLetters none 40).history =
      (run letterOptions twoLetters none 40).history.take 18 ++
        ⟨0, some 1, .deleteCalled "letters" ⟨"b"⟩⟩ ::
          (run letterOptions twoLetters none 40).history.drop 19 := rfl
  have reached := run_reaches letterOptions twoLetters none 40
  obtain ⟨number, delivery, task, handed, _, handle, mayDelete⟩ :=
    (Reaches.delete_safe reached).1 _ _ _ _ _ _ split
  exact ⟨number, delivery, task, handed, handle, mayDelete⟩

end AtLeastOnce.Receiver
