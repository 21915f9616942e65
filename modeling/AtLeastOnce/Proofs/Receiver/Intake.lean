import AtLeastOnce.Proofs.Receiver.Closing
import AtLeastOnce.Proofs.Receiver.Origin
import AtLeastOnce.Proofs.Receiver.Schedule

/-!
# A shutdown stops the intake

From the moment the flag is up, wherever the loop stands then and whatever is
ready at the same moment, nothing more is received, no task is started, and
receiving is not given up.  `NoIntake` says so of the steps between two states; it
composes, and every single step under the flag has it.
-/

namespace AtLeastOnce.Receiver

/-- What does not happen between two states under the flag. -/
structure NoIntake (state next : State) (events : List Occurrence) : Prop where
  triggered : next.shutdown.triggered = true
  /-- No receive is called, and no answer is acted on. -/
  receives : ∀ occurrence ∈ events, isReceive occurrence.event = false
  dispatched : next.dispatched = state.dispatched
  /-- No task is started. -/
  tasks : ∀ task ∈ next.inFlight,
    ∃ before ∈ state.inFlight, before.number = task.number
  givenUp : next.givenUp = state.givenUp
  unsaid : (loopEvents events).any isGivingUp = false

variable {options : ReceiverOptions} {world : World} {shutdown : Shutdown}
  {state middle next : State} {history events more : List Occurrence}

namespace NoIntake

theorem refl (triggered : state.shutdown.triggered = true) :
    NoIntake state state [] where
  triggered
  receives := by simp
  dispatched := rfl
  tasks := fun task member => ⟨task, member, rfl⟩
  givenUp := rfl
  unsaid := rfl

theorem trans (first : NoIntake state middle events)
    (second : NoIntake middle next more) :
    NoIntake state next (events ++ more) where
  triggered := second.triggered
  receives := by
    intro occurrence member
    rcases List.mem_append.mp member with earlier | later
    · exact first.receives occurrence earlier
    · exact second.receives occurrence later
  dispatched := second.dispatched.trans first.dispatched
  tasks := by
    intro task member
    obtain ⟨between, inside, same⟩ := second.tasks task member
    obtain ⟨before, found, equal⟩ := first.tasks between inside
    exact ⟨before, found, equal.trans same⟩
  givenUp := second.givenUp.trans first.givenUp
  unsaid := by
    rw [loopEvents_append, List.any_append, first.unsaid, second.unsaid,
      Bool.or_false]

end NoIntake

/-! ## One step -/

/-- Nobody lowers the flag. -/
theorem LoopMove.triggered {made : List Event}
    (move : LoopMove options world state (next, made))
    (triggered : state.shutdown.triggered = true) :
    next.shutdown.triggered = true := by
  generalize same : (next, made) = result at move
  cases move with
  | refuse | begin | goOn | leaveHead | ask | call | leave | answer | retry | unsampled
  | giveUp | breakOff | resume | join | abandon | finish =>
      cases same
      first
      | exact triggered
      | simp [reap_eq, givingUp, Shutdown.trigger, triggered]

theorem Move.triggered (move : Move options world state next events)
    (triggered : state.shutdown.triggered = true) :
    next.shutdown.triggered = true := by
  cases move with
  | trigger => rfl
  | loop move => exact move.triggered triggered
  | task | cut | advance => exact triggered

theorem Move.givenUp_eq (move : Move options world state next events)
    (triggered : state.shutdown.triggered = true) :
    next.givenUp = state.givenUp ∧ (loopEvents events).any isGivingUp = false := by
  cases move with
  | trigger => exact ⟨rfl, by simp [isGivingUp]⟩
  | task => exact ⟨rfl, by simp⟩
  | cut | advance => exact ⟨rfl, rfl⟩
  | @loop next made move =>
      have unsaid : made.any isGivingUp = false := by
        refine List.any_eq_false.mpr ?_
        intro event member
        cases move.ofLoop member with
        | receivingGivenUp _ _ untriggered =>
            rw [triggered] at untriggered
            cases untriggered
        | receiveCalled | receiveEnded | receiverStopped | receiverStarted | stateChanged
        | noMessages | receiveRecovered | surplusReceived | receiveFailed | draining
        | graceElapsed | taskFailed => exact Bool.false_ne_true
      refine ⟨?_, by rw [loopEvents_occurrences_none, unsaid]⟩
      rcases move.givenUp_cases with kept | ⟨untriggered, _⟩
      · exact kept
      · rw [triggered] at untriggered
        cases untriggered

/-- The loop receives only while the flag is down. -/
theorem Reaches.not_isReceive
    (reached : Reaches options world shutdown state history)
    (triggered : state.shutdown.triggered = true)
    (move : Move options world state next events) :
    ∀ occurrence ∈ events, isReceive occurrence.event = false := by
  intro occurrence member
  refine eq_false_of_ne_true ?_
  intro receive
  have ofLoop := reached.ofLoop move member receive
  generalize occurrence.event = event at ofLoop receive
  cases ofLoop with
  | receiveCalled _ untriggered | receiveEnded _ _ untriggered =>
      rw [triggered] at untriggered
      cases untriggered
  | receivingGivenUp | receiverStopped | receiverStarted | stateChanged | noMessages
  | receiveRecovered | surplusReceived | receiveFailed | draining | graceElapsed
  | taskFailed => cases receive

/-- Without a receive, no task is new. -/
theorem TaskChange.tasks_of_not_isReceive
    (change : TaskChange options world state next events)
    (receives : ∀ occurrence ∈ events, isReceive occurrence.event = false) :
    next.dispatched = state.dispatched ∧
      ∀ task ∈ next.inFlight,
        ∃ before ∈ state.inFlight, before.number = task.number := by
  cases change with
  | keeps same | calls same =>
      refine ⟨same.dispatched, ?_⟩
      rw [same.inFlight]
      exact fun task member => ⟨task, member, rfl⟩
  | joins inFlight _ dispatched =>
      refine ⟨dispatched, ?_⟩
      rw [inFlight]
      exact fun task member => ⟨task, (mem_runningTasks.mp member).1, rfl⟩
  | handsOut =>
      have answered := receives _ List.mem_cons_self
      cases answered
  | moves | cuts =>
      refine ⟨rfl, ?_⟩
      intro task member
      have number : task.number ∈ (putTask state _).inFlight.map Task.number :=
        List.mem_map_of_mem member
      rw [putTask, map_number_replaceTask] at number
      exact List.mem_map.mp number

theorem Reaches.noIntake (reached : Reaches options world shutdown state history)
    (triggered : state.shutdown.triggered = true)
    (move : Move options world state next events) : NoIntake state next events := by
  have receives := reached.not_isReceive triggered move
  obtain ⟨dispatched, tasks⟩ := move.taskChange.tasks_of_not_isReceive receives
  obtain ⟨givenUp, unsaid⟩ := move.givenUp_eq triggered
  exact
    { triggered := move.triggered triggered
      receives
      dispatched
      tasks
      givenUp
      unsaid }

/-! ## All steps -/

theorem Steps.noIntake (steps : Steps options world state events next)
    (reached : Reaches options world shutdown state history)
    (triggered : state.shutdown.triggered = true) : NoIntake state next events := by
  induction steps with
  | refl => exact .refl triggered
  | step steps stepped induction =>
      have last := (reached.append steps).noIntake induction.triggered
        (step?_cases stepped)
      exact induction.trans last

/-- Under the flag the receiver receives nothing, starts nothing and does not give
up, so its tasks are about deliveries that were handed out before, and it fails
for want of answers only if it had given up before. -/
theorem Reaches.intake_stops
    (reached : Reaches options world shutdown state history)
    (triggered : state.shutdown.triggered = true)
    (steps : Steps options world state events next) :
    NoIntake state next events ∧
      handedOut (history ++ events) = handedOut history ∧
      (∀ occurrence ∈ events, occurrence.event.isOfTask = true →
        ∃ number delivery,
          occurrence.task = some number ∧
            (handedOut history)[number]? = some delivery ∧
            occurrence.event.ConcernsOnly options.route delivery) ∧
      (∀ queueUrl attempts error,
        next.phase = .stopped
          (.error (.pollRetriesExhausted queueUrl attempts error)) →
          (loopEvents history).any isGivingUp = true) := by
  have noIntake := steps.noIntake reached triggered
  have handed : handedOut (history ++ events) = handedOut history := by
    have others : ∀ occurrence ∈ events, isIntake occurrence.event = false := by
      intro occurrence member
      exact isIntake_of_isReceive (noIntake.receives occurrence member)
    rw [handedOut, intakeOf_append history others, handedOut]
  have later := reached.append steps
  refine ⟨noIntake, handed, ?_, ?_⟩
  · intro occurrence member ofTask
    have concerns :=
      later.concernsOnly (List.mem_append_right history member) ofTask
    rw [handed] at concerns
    exact concerns
  · intro queueUrl attempts error stopped
    have final := (later.closing.result _ stopped).1
    rw [reached.closing.givenUp, ← noIntake.givenUp]
    unfold finalResult at final
    split at final
    · rename_i failure givenUp
      rw [givenUp]
      rfl
    · split at final <;> cases final

/-- The flag goes up while the answer to the first receive is ready. -/
theorem intake_stops_twoLetters :
    ∃ state history next events,
      Reaches letterOptions twoLetters .idle state history ∧
        state.phase = .receiving ⟨"letters", 10, 20⟩ (some 0) ∧
        isDue state.now (some 0) = true ∧ state.shutdown.triggered = true ∧
        step? letterOptions twoLetters state (.loop true) = some (next, events) ∧
        handedOut (history ++ events) = handedOut history := by
  have receiving := run_reaches letterOptions twoLetters none 4
  obtain ⟨⟨state, raised⟩, triggering⟩ := Option.isSome_iff_exists.mp
    (show (step? letterOptions twoLetters
      (run letterOptions twoLetters none 4).state .trigger).isSome = true from rfl)
  have reached := receiving.step triggering
  cases triggering
  obtain ⟨⟨next, events⟩, stepped⟩ := Option.isSome_iff_exists.mp
    (show (step? letterOptions twoLetters
      { (run letterOptions twoLetters none 4).state with shutdown := ⟨true⟩ }
      (.loop true)).isSome = true from rfl)
  have steps := Steps.step .refl stepped
  exact ⟨_, _, next, events, reached, rfl, rfl, rfl, stepped,
    (reached.intake_stops rfl steps).2.1⟩

end AtLeastOnce.Receiver
