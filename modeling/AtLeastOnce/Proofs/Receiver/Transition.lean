import AtLeastOnce.Receiver.Machine

/-!
# The transitions of the receiver

`LoopMove` lists everything that one step of the loop can do, each move with its
guard and the state it leads to, and `Move` does so for the machine as a whole.
The invariants of the receiver are read off these lists; none of them unfolds a
step.
-/

namespace AtLeastOnce.Receiver

/-- The permits that the loop holds. -/
def Phase.permits : Phase → Nat
  | .requesting request => request.maxMessages
  | .receiving request _ => request.maxMessages
  | _ => 0

/-- Whether the loop waits where a trigger makes it leave. -/
def Phase.isWaiting : Phase → Bool
  | .acquiring => true
  | .requesting _ => true
  | .receiving _ _ => true
  | .pausing _ => true
  | .backingOff _ => true
  | _ => false

/-- Whether the loop has been left and the tasks are being joined. -/
def Phase.isEnding : Phase → Bool
  | .draining _ => true
  | .abandoning => true
  | _ => false

namespace Phase

variable {phase : Phase}

theorem isWaiting_of_isEnding (ending : phase.isEnding = true) :
    phase.isWaiting = false := by
  cases phase with
  | draining | abandoning => rfl
  | starting | reaping | acquiring | requesting | receiving | pausing | backingOff
  | stopped | crashed => cases ending

theorem isOver_of_isEnding (ending : phase.isEnding = true) : phase.isOver = false := by
  cases phase with
  | draining | abandoning => rfl
  | starting | reaping | acquiring | requesting | receiving | pausing | backingOff
  | stopped | crashed => cases ending

end Phase

/-- The tasks that have finished. -/
def finishedTasks (tasks : List Task) : List Task :=
  tasks.filter fun task => task.isFinished

/-- The tasks that are still running. -/
def runningTasks (tasks : List Task) : List Task :=
  tasks.filter fun task => !task.isFinished

section

variable (options : ReceiverOptions) (state : State)

/-! ## The parts of a step -/

@[simp] theorem enter_fst (next : WorkerState) :
    (enter options state next).1 = { state with worker := next } := by
  unfold enter
  split
  · rename_i same
    rw [← same]
  · rfl

theorem reap_eq :
    reap state =
      ({ state with
          inFlight := runningTasks state.inFlight
          totals := (finishedTasks state.inFlight).foldl countTask state.totals },
        (finishedTasks state.inFlight).flatMap joinEvents) :=
  rfl

@[simp] theorem beginDrain_fst :
    (beginDrain options state).1 =
      { state with
        worker := .draining
        phase :=
          .draining (state.now + options.gracePeriod.timerMilliseconds) } := by
  simp [beginDrain]

@[simp] theorem finish_fst :
    (finish options state).1 =
      { state with
        worker := .stopped
        phase := .stopped (finalResult options state) } := by
  simp [finish, finalResult]

@[simp] theorem onDeliveries_fst (request : ReceiveRequest)
    (deliveries : List Delivery) :
    (onDeliveries options state request deliveries).1 =
      { state with
        failures := 0
        worker := if deliveries.isEmpty then state.worker else .dispatching
        phase :=
          if deliveries.isEmpty ∧ request.waitSeconds = 0 then
            .pausing (some (state.now + options.emptyPollDelay.timerMilliseconds))
          else .reaping
        free := state.free +
          (request.maxMessages - (deliveries.take request.maxMessages).length)
        dispatched :=
          state.dispatched + (deliveries.take request.maxMessages).length
        inFlight := state.inFlight ++
          newTasks state.dispatched (deliveries.take request.maxMessages) } := by
  cases deliveries with
  | nil => simp [onDeliveries, newTasks]
  | cons first rest => simp [onDeliveries]

end

/-! ## One step of the loop -/

/-- The failures that are counted after one more. -/
def failuresAfter (state : State) : Nat := Min.min (state.failures + 1) failureLimit

/-- The state in which receiving has been given up. -/
def givingUp (options : ReceiverOptions) (state : State) (request : ReceiveRequest)
    (error : CallError) : State :=
  { state with
    failures := failuresAfter state
    free := state.free + request.maxMessages
    shutdown := state.shutdown.trigger.1
    givenUp := some
      (.pollRetriesExhausted options.queueUrl (failuresAfter state) error) }

/-- The request that the loop makes up while so many permits are free. -/
def requestFor (options : ReceiverOptions) (free : Nat) : ReceiveRequest :=
  .clamped options.queueUrl (Min.min free options.batchSize : Nat)
    options.waitSeconds

inductive LoopMove (options : ReceiverOptions) (world : World) (state : State) :
    Result → Prop where
  | refuse
      (phase : state.phase = .starting)
      (beyond : permitLimit < options.capacity) :
      LoopMove options world state ({ state with phase := .crashed }, [])
  | begin
      (phase : state.phase = .starting)
      (within : options.capacity ≤ permitLimit) :
      LoopMove options world state
        ({ state with phase := .reaping, free := options.capacity },
          [.logged (.receiverStarted options.queueUrl options.deadLetterUrl
            options.maxInFlight options.batchSize options.waitSeconds)])
  | goOn
      (phase : state.phase = .reaping)
      (untriggered : state.shutdown.triggered = false) :
      LoopMove options world state
        ({ (reap state).1 with phase := .acquiring }, (reap state).2)
  | leaveHead
      (phase : state.phase = .reaping)
      (triggered : state.shutdown.triggered = true) :
      LoopMove options world state
        ((beginDrain options (reap state).1).1,
          (reap state).2 ++ (beginDrain options (reap state).1).2)
  | ask
      (phase : state.phase = .acquiring)
      (untriggered : state.shutdown.triggered = false)
      (available : 0 < state.free) :
      LoopMove options world state
        ({ state with
            worker := .polling
            phase := .requesting (requestFor options state.free)
            free := state.free - Min.min state.free options.batchSize },
          (enter options state .polling).2)
  | call {request : ReceiveRequest}
      (phase : state.phase = .requesting request)
      (untriggered : state.shutdown.triggered = false) :
      LoopMove options world state
        ({ state with
            phase :=
              .receiving request
                ((world.receive state.receives request).endFrom state.now)
            receives := state.receives + 1 },
          [.receiveCalled request])
  | leave
      (waiting : state.phase.isWaiting = true)
      (triggered : state.shutdown.triggered = true) :
      LoopMove options world state
        ((beginDrain options
          { state with free := state.free + state.phase.permits }).1,
          (beginDrain options
            { state with free := state.free + state.phase.permits }).2)
  | answer {request : ReceiveRequest} {until? : Option Nat} {deliveries : List Delivery}
      (phase : state.phase = .receiving request until?)
      (untriggered : state.shutdown.triggered = false)
      (due : isDue state.now until? = true)
      (answered :
        (world.receive (state.receives - 1) request).result =
        .answered deliveries) :
      LoopMove options world state
        ((onDeliveries options state request deliveries).1,
          .receiveEnded (.answered deliveries) ::
            (onDeliveries options state request deliveries).2)
  | retry {request : ReceiveRequest} {until? : Option Nat} {error : CallError}
      {delay : Duration}
      (phase : state.phase = .receiving request until?)
      (untriggered : state.shutdown.triggered = false)
      (due : isDue state.now until? = true)
      (failed : (world.receive (state.receives - 1) request).result = .failed error)
      (allowed : options.backoff.allowsRetry (failuresAfter state) = true)
      (drawn : options.backoff.delay? (world.sampler (state.receives - 1))
        (failuresAfter state - 1) = some delay) :
      LoopMove options world state
        ({ state with
            failures := failuresAfter state
            free := state.free + request.maxMessages
            phase := .backingOff (some (state.now + delay.timerMilliseconds)) },
          [.receiveEnded (.failed error),
            .logged (.receiveFailed options.queueUrl error (failuresAfter state)
              delay.wholeMilliseconds)])
  | unsampled {request : ReceiveRequest} {until? : Option Nat} {error : CallError}
      (phase : state.phase = .receiving request until?)
      (untriggered : state.shutdown.triggered = false)
      (due : isDue state.now until? = true)
      (failed : (world.receive (state.receives - 1) request).result = .failed error)
      (allowed : options.backoff.allowsRetry (failuresAfter state) = true)
      (undrawn : options.backoff.delay? (world.sampler (state.receives - 1))
        (failuresAfter state - 1) = none) :
      LoopMove options world state
        ({ state with
            failures := failuresAfter state
            free := state.free + request.maxMessages
            phase := .crashed },
          [.receiveEnded (.failed error)])
  | giveUp {request : ReceiveRequest} {until? : Option Nat} {error : CallError}
      (phase : state.phase = .receiving request until?)
      (untriggered : state.shutdown.triggered = false)
      (due : isDue state.now until? = true)
      (failed : (world.receive (state.receives - 1) request).result = .failed error)
      (exhausted : options.backoff.allowsRetry (failuresAfter state) = false) :
      LoopMove options world state
        ((beginDrain options (givingUp options state request error)).1,
          .receiveEnded (.failed error) ::
            .logged (.receivingGivenUp options.queueUrl error
              (failuresAfter state)) ::
              (beginDrain options (givingUp options state request error)).2)
  | breakOff {request : ReceiveRequest} {until? : Option Nat} {text : String}
      (phase : state.phase = .receiving request until?)
      (untriggered : state.shutdown.triggered = false)
      (due : isDue state.now until? = true)
      (panicked : (world.receive (state.receives - 1) request).result = .panicked text) :
      LoopMove options world state
        ({ state with phase := .crashed, free := state.free + request.maxMessages },
          [.receiveEnded (.panicked text)])
  | resume {until? : Option Nat}
      (phase : state.phase = .pausing until? ∨ state.phase = .backingOff until?)
      (due : isDue state.now until? = true) :
      LoopMove options world state ({ state with phase := .reaping }, [])
  | join
      (ending : state.phase.isEnding = true)
      (remaining : runningTasks state.inFlight ≠ [])
      (finished : ∃ task ∈ state.inFlight, task.isFinished = true) :
      LoopMove options world state (reap state)
  | abandon {deadline : Nat}
      (phase : state.phase = .draining deadline)
      (passed : deadline ≤ state.now)
      (remaining : runningTasks state.inFlight ≠ []) :
      LoopMove options world state
        ({ (reap state).1 with phase := .abandoning },
          (reap state).2 ++
            [.logged (.graceElapsed options.queueUrl
              (runningTasks state.inFlight).length
              options.gracePeriod.wholeMilliseconds)])
  | finish
      (ending : state.phase.isEnding = true)
      (joined : runningTasks state.inFlight = []) :
      LoopMove options world state
        ((finish options (reap state).1).1,
          (reap state).2 ++ (finish options (reap state).1).2)

variable {options : ReceiverOptions} {world : World} {state : State}
  {result : Result}

theorem LoopMove.leaveWithout
    (held : state.phase.permits = 0)
    (waiting : state.phase.isWaiting = true)
    (triggered : state.shutdown.triggered = true) :
    LoopMove options world state (beginDrain options state) := by
  have leave : LoopMove options world state _ := .leave waiting triggered
  rw [held] at leave
  exact leave

theorem afterPause?_cases {timerFirst : Bool} {until? : Option Nat}
    (phase : state.phase = .pausing until? ∨ state.phase = .backingOff until?)
    (stepped : afterPause? options timerFirst state until? = some result) :
    LoopMove options world state result := by
  unfold afterPause? at stepped
  split at stepped
  · rename_i ready
    cases stepped
    simp only [Bool.and_eq_true] at ready
    exact .resume phase ready.1
  · split at stepped
    · rename_i triggered
      cases stepped
      apply LoopMove.leaveWithout _ _ triggered
      · rcases phase with phase | phase <;> rw [phase] <;> rfl
      · rcases phase with phase | phase <;> rw [phase] <;> rfl
    · cases stepped

theorem onReceiveEnd_cases {request : ReceiveRequest} {until? : Option Nat}
    (phase : state.phase = .receiving request until?)
    (untriggered : state.shutdown.triggered = false)
    (due : isDue state.now until? = true) :
    LoopMove options world state (onReceiveEnd options world state request) := by
  unfold onReceiveEnd
  cases ended : (world.receive (state.receives - 1) request).result with
  | answered deliveries => exact .answer phase untriggered due ended
  | panicked => exact .breakOff phase untriggered due ended
  | failed error =>
      simp only [onReceiveError]
      split
      · rename_i allowed
        split
        · rename_i undrawn
          exact .unsampled phase untriggered due ended allowed undrawn
        · rename_i drawn
          exact .retry phase untriggered due ended allowed drawn
      · rename_i exhausted
        exact .giveUp phase untriggered due ended (eq_false_of_ne_true exhausted)

theorem loopStep?_cases {timerFirst : Bool}
    (stepped : loopStep? options world timerFirst state = some result) :
    LoopMove options world state result := by
  unfold loopStep? at stepped
  cases phase : state.phase with
  | starting =>
      rw [phase] at stepped
      dsimp only at stepped
      split at stepped <;> cases stepped
      · rename_i beyond
        exact .refuse phase beyond
      · rename_i within
        exact .begin phase (Nat.le_of_not_lt within)
  | reaping =>
      rw [phase] at stepped
      dsimp only at stepped
      split at stepped <;> cases stepped
      · rename_i triggered
        exact .leaveHead phase triggered
      · rename_i untriggered
        exact .goOn phase (eq_false_of_ne_true untriggered)
  | acquiring =>
      rw [phase] at stepped
      dsimp only at stepped
      split at stepped
      · rename_i triggered
        cases stepped
        exact .leaveWithout (by rw [phase]; rfl) (by rw [phase]; rfl) triggered
      · rename_i untriggered
        split at stepped
        · cases stepped
        · rename_i available
          cases stepped
          have ask : LoopMove options world state _ :=
            .ask phase (eq_false_of_ne_true untriggered)
              (Nat.pos_of_ne_zero available)
          simpa only [enter_fst, requestFor] using ask
  | requesting request =>
      rw [phase] at stepped
      dsimp only at stepped
      split at stepped <;> cases stepped
      · rename_i triggered
        have leave : LoopMove options world state _ :=
          .leave (by rw [phase]; rfl) triggered
        rw [phase] at leave
        exact leave
      · rename_i untriggered
        exact .call phase (eq_false_of_ne_true untriggered)
  | receiving request until? =>
      rw [phase] at stepped
      dsimp only at stepped
      split at stepped
      · rename_i triggered
        cases stepped
        have leave : LoopMove options world state _ :=
          .leave (by rw [phase]; rfl) triggered
        rw [phase] at leave
        exact leave
      · rename_i untriggered
        split at stepped <;> cases stepped
        rename_i due
        exact onReceiveEnd_cases phase (eq_false_of_ne_true untriggered) due
  | pausing until? =>
      rw [phase] at stepped
      exact afterPause?_cases (.inl phase) stepped
  | backingOff until? =>
      rw [phase] at stepped
      exact afterPause?_cases (.inr phase) stepped
  | draining deadline =>
      rw [phase] at stepped
      have ending : state.phase.isEnding = true := by rw [phase]; rfl
      dsimp only at stepped
      split at stepped
      · rename_i joined
        cases stepped
        exact .finish ending (List.isEmpty_iff.mp joined)
      · rename_i remaining
        split at stepped
        · rename_i passed
          cases stepped
          exact .abandon phase passed (mt List.isEmpty_iff.mpr remaining)
        · split at stepped <;> cases stepped
          rename_i finished
          exact .join ending (mt List.isEmpty_iff.mpr remaining)
            (List.any_eq_true.mp finished)
  | abandoning =>
      rw [phase] at stepped
      have ending : state.phase.isEnding = true := by rw [phase]; rfl
      dsimp only at stepped
      split at stepped
      · rename_i joined
        cases stepped
        exact .finish ending (List.isEmpty_iff.mp joined)
      · rename_i remaining
        split at stepped <;> cases stepped
        rename_i finished
        exact .join ending (mt List.isEmpty_iff.mpr remaining)
          (List.any_eq_true.mp finished)
  | stopped result =>
      rw [phase] at stepped
      cases stepped
  | crashed =>
      rw [phase] at stepped
      cases stepped

/-! ## One step of the machine -/

inductive Move (options : ReceiverOptions) (world : World) (state : State) :
    State → List Occurrence → Prop where
  | trigger :
      Move options world state { state with shutdown := state.shutdown.trigger.1 }
        (occurrences state.now none [.shutdownTriggered state.shutdown.trigger.2])
  | loop {next : State} {events : List Event}
      (move : LoopMove options world state (next, events)) :
      Move options world state next (occurrences state.now none events)
  | task {task after : Task} {events : List Event}
      (running : state.phase.isOver = false)
      (found : task ∈ state.inFlight)
      (stepped : task.step? world.peers options.route state.now =
        some (after, events)) :
      Move options world state (putTask state after)
        (occurrences state.now (some task.number) events)
  | cut {task : Task}
      (phase : state.phase = .abandoning)
      (found : task ∈ state.inFlight)
      (unfinished : task.isFinished = false) :
      Move options world state (putTask state { task with stage := .cut }) []
  | advance {time : Nat} (later : state.now < time) :
      Move options world state { state with now := time } []

theorem findTask?_eq_some {number : Nat} {task : Task}
    (found : findTask? state number = some task) :
    task ∈ state.inFlight ∧ task.number = number := by
  refine ⟨List.mem_of_find?_eq_some found, ?_⟩
  simpa using List.find?_some found

/-- A task that moves on is in flight, and its step is one of its own. -/
theorem taskStep?_cases {next : State} {number : Nat} {made : List Event}
    (moved : taskStep? options world state number = some (next, made)) :
    state.phase.isOver = false ∧
      ∃ task ∈ state.inFlight, task.number = number ∧
        ∃ after, task.step? world.peers options.route state.now = some (after, made) ∧
          next = putTask state after := by
  unfold taskStep? at moved
  split at moved
  · cases moved
  · rename_i running
    obtain ⟨task, found, moved⟩ := Option.bind_eq_some_iff.mp moved
    obtain ⟨⟨after, events⟩, taken, equality⟩ := Option.map_eq_some_iff.mp moved
    cases equality
    obtain ⟨inside, same⟩ := findTask?_eq_some found
    exact ⟨eq_false_of_ne_true running, task, inside, same, after, taken, rfl⟩

/-- Only a task that is still running is cut off, and only after the grace period. -/
theorem cutStep?_cases {next : State} {number : Nat} {made : List Event}
    (moved : cutStep? state number = some (next, made)) :
    state.phase = .abandoning ∧
      ∃ task ∈ state.inFlight, task.isFinished = false ∧
        next = putTask state { task with stage := .cut } := by
  unfold cutStep? at moved
  split at moved
  · rename_i phase
    obtain ⟨task, found, moved⟩ := Option.bind_eq_some_iff.mp moved
    split at moved
    · cases moved
    · rename_i unfinished
      cases moved
      exact ⟨phase, task, (findTask?_eq_some found).1, eq_false_of_ne_true unfinished,
        rfl⟩
  · cases moved

theorem step?_cases {next : State} {events : List Occurrence} {action : Action}
    (stepped : step? options world state action = some (next, events)) :
    Move options world state next events := by
  cases action with
  | trigger =>
      cases stepped
      exact .trigger
  | loop timerFirst =>
      obtain ⟨⟨after, made⟩, moved, equality⟩ := Option.map_eq_some_iff.mp stepped
      cases equality
      exact .loop (loopStep?_cases moved)
  | task number =>
      obtain ⟨⟨after, made⟩, moved, equality⟩ := Option.map_eq_some_iff.mp stepped
      cases equality
      obtain ⟨running, task, found, rfl, after, taken, rfl⟩ := taskStep?_cases moved
      exact .task running found taken
  | cut number =>
      obtain ⟨⟨after, made⟩, moved, equality⟩ := Option.map_eq_some_iff.mp stepped
      cases equality
      obtain ⟨phase, task, found, unfinished, rfl⟩ := cutStep?_cases moved
      exact .cut phase found unfinished
  | advance time =>
      simp only [step?, Option.ite_none_right_eq_some] at stepped
      obtain ⟨later, equality⟩ := stepped
      cases equality
      exact .advance later

/-! ## The events of the loop -/

/-- An event of the loop in a step from one state to another, with what the step
must be for the events that later matter.  The loop makes no call but the one that
receives. -/
inductive OfLoop (options : ReceiverOptions) (state next : State) :
    Event → Prop where
  | receiveCalled {request : ReceiveRequest}
      (phase : state.phase = .requesting request)
      (untriggered : state.shutdown.triggered = false) :
      OfLoop options state next (.receiveCalled request)
  | receiveEnded {request : ReceiveRequest} {until? : Option Nat}
      (ended : CallEnd (List Delivery))
      (phase : state.phase = .receiving request until?)
      (untriggered : state.shutdown.triggered = false) :
      OfLoop options state next (.receiveEnded ended)
  | receivingGivenUp (error : CallError) (failures : Nat)
      (untriggered : state.shutdown.triggered = false)
      (givenUp : next.givenUp.isSome = true) :
      OfLoop options state next
        (.logged (.receivingGivenUp options.queueUrl error failures))
  | receiverStopped
      (phase : next.phase = .stopped (finalResult options next)) :
      OfLoop options state next
        (.logged (.receiverStopped options.queueUrl next.totals))
  | receiverStarted (deadLetterUrl : Option String) (maxInFlight batchSize : Nat)
      (waitSeconds : Int) :
      OfLoop options state next (.logged
        (.receiverStarted options.queueUrl deadLetterUrl maxInFlight batchSize
          waitSeconds))
  | stateChanged (before after : WorkerState) :
      OfLoop options state next
        (.logged (.stateChanged options.queueUrl before after))
  | noMessages : OfLoop options state next (.logged (.noMessages options.queueUrl))
  | receiveRecovered (failures : Nat) :
      OfLoop options state next
        (.logged (.receiveRecovered options.queueUrl failures))
  | surplusReceived (requested received : Nat) :
      OfLoop options state next
        (.logged (.surplusReceived options.queueUrl requested received))
  | receiveFailed (error : CallError) (failures backoff : Nat) :
      OfLoop options state next
        (.logged (.receiveFailed options.queueUrl error failures backoff))
  | draining (inFlight grace : Nat) :
      OfLoop options state next
        (.logged (.draining options.queueUrl inFlight grace))
  | graceElapsed (stillRunning grace : Nat) :
      OfLoop options state next
        (.logged (.graceElapsed options.queueUrl stillRunning grace))
  | taskFailed (text : String) : OfLoop options state next (.logged (.taskFailed text))

section

variable {event : Event}

theorem mem_enter_events {next : WorkerState}
    (member : event ∈ (enter options state next).2) :
    event = .logged (.stateChanged options.queueUrl state.worker next) := by
  unfold enter at member
  split at member
  · cases member
  · exact List.mem_singleton.mp member

theorem mem_reap_events (member : event ∈ (reap state).2) :
    ∃ text, event = .logged (.taskFailed text) := by
  rw [reap_eq] at member
  obtain ⟨task, _, inside⟩ := List.mem_flatMap.mp member
  unfold joinEvents at inside
  split at inside
  · exact ⟨_, List.mem_singleton.mp inside⟩
  · cases inside

theorem mem_beginDrain_events (member : event ∈ (beginDrain options state).2) :
    event = .logged (.stateChanged options.queueUrl state.worker .draining) ∨
      event = .logged (.draining options.queueUrl state.inFlight.length
        options.gracePeriod.wholeMilliseconds) := by
  simp only [beginDrain, enter_fst] at member
  rcases List.mem_append.mp member with changed | announced
  · exact .inl (mem_enter_events changed)
  · split at announced
    · cases announced
    · exact .inr (List.mem_singleton.mp announced)

theorem mem_finish_events (member : event ∈ (finish options state).2) :
    event = .logged (.stateChanged options.queueUrl state.worker .stopped) ∨
      event = .logged (.receiverStopped options.queueUrl state.totals) := by
  simp only [finish, enter_fst] at member
  rcases List.mem_append.mp member with changed | stopped
  · exact .inl (mem_enter_events changed)
  · exact .inr (List.mem_singleton.mp stopped)

theorem mem_onDeliveries_events {request : ReceiveRequest}
    {deliveries : List Delivery}
    (member : event ∈ (onDeliveries options state request deliveries).2) :
    event = .logged (.receiveRecovered options.queueUrl state.failures) ∨
      event = .logged (.noMessages options.queueUrl) ∨
      event = .logged (.surplusReceived options.queueUrl request.maxMessages
        deliveries.length) ∨
      event = .logged
        (.stateChanged options.queueUrl state.worker .dispatching) := by
  have recovered :
      event ∈ (if 0 < state.failures then
          [.logged (.receiveRecovered options.queueUrl state.failures)] else [] :
        List Event) →
        event = .logged (.receiveRecovered options.queueUrl state.failures) := by
    intro inside
    split at inside
    · exact List.mem_singleton.mp inside
    · cases inside
  unfold onDeliveries at member
  dsimp only at member
  split at member
  · rcases List.mem_append.mp member with first | later
    · exact .inl (recovered first)
    · exact .inr (.inl (List.mem_singleton.mp later))
  · rcases List.mem_append.mp member with earlier | entered
    · rcases List.mem_append.mp earlier with first | surplus
      · exact .inl (recovered first)
      · split at surplus
        · exact .inr (.inr (.inl (List.mem_singleton.mp surplus)))
        · cases surplus
    · have changed := mem_enter_events entered
      exact .inr (.inr (.inr changed))

/-- What the loop makes of itself, and when. -/
theorem LoopMove.ofLoop {next : State} {events : List Event}
    (move : LoopMove options world state (next, events)) (member : event ∈ events) :
    OfLoop options state next event := by
  generalize made : (next, events) = result at move
  have drained : ∀ {before}, event ∈ (beginDrain options before).2 →
      OfLoop options state next event := by
    intro before inside
    rcases mem_beginDrain_events inside with rfl | rfl
    · exact .stateChanged _ _
    · exact .draining _ _
  have reaped : event ∈ (reap state).2 → OfLoop options state next event := by
    intro inside
    obtain ⟨text, rfl⟩ := mem_reap_events inside
    exact .taskFailed text
  cases move with
  | refuse | resume => cases made; cases member
  | begin =>
      cases made
      rw [List.mem_singleton.mp member]
      exact .receiverStarted _ _ _ _
  | call phase untriggered =>
      cases made
      rw [List.mem_singleton.mp member]
      exact .receiveCalled phase untriggered
  | unsampled phase untriggered | breakOff phase untriggered =>
      cases made
      rw [List.mem_singleton.mp member]
      exact .receiveEnded _ phase untriggered
  | ask =>
      cases made
      rw [mem_enter_events member]
      exact .stateChanged _ _
  | goOn | join => cases made; exact reaped member
  | leave => cases made; exact drained member
  | leaveHead =>
      cases made
      rcases List.mem_append.mp member with first | later
      · exact reaped first
      · exact drained later
  | answer phase untriggered =>
      cases made
      rcases List.mem_cons.mp member with rfl | later
      · exact .receiveEnded _ phase untriggered
      · rcases mem_onDeliveries_events later with rfl | rfl | rfl | rfl
        · exact .receiveRecovered _
        · exact .noMessages
        · exact .surplusReceived _ _
        · exact .stateChanged _ _
  | retry phase untriggered =>
      cases made
      simp only [List.mem_cons, List.not_mem_nil, or_false] at member
      rcases member with rfl | rfl
      · exact .receiveEnded _ phase untriggered
      · exact .receiveFailed _ _ _
  | giveUp phase untriggered =>
      cases made
      simp only [List.mem_cons] at member
      rcases member with rfl | rfl | later
      · exact .receiveEnded _ phase untriggered
      · exact .receivingGivenUp _ _ untriggered (by simp [givingUp])
      · exact drained later
  | abandon =>
      cases made
      rcases List.mem_append.mp member with first | later
      · exact reaped first
      · rw [List.mem_singleton.mp later]
        exact .graceElapsed _ _
  | finish =>
      cases made
      rcases List.mem_append.mp member with first | later
      · exact reaped first
      · rcases mem_finish_events later with rfl | rfl
        · exact .stateChanged _ _
        · have stopped :
            OfLoop options state (Receiver.finish options (reap state).1).1 _ :=
            .receiverStopped (by simp [finalResult])
          simpa using stopped

end

end AtLeastOnce.Receiver
