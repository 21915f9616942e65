import AtLeastOnce.Proofs.Receiver.Closing
import AtLeastOnce.Proofs.Receiver.Origin
import AtLeastOnce.Proofs.Receiver.Schedule

/-!
# Permits

A permit is free, held by the loop, or held by a task that is still running, and
their number is the capacity of the receiver from the beginning of a run to its
end.  It follows that no more deliveries are handled at once, and how much each
receive asks for.
-/

namespace AtLeastOnce.Receiver

/-- The number of tasks that are still running. -/
def unfinished (state : State) : Nat := (runningTasks state.inFlight).length

/-- The permits that there are: none before the run has begun. -/
def Phase.issued (options : ReceiverOptions) : Phase → Nat
  | .starting => 0
  | _ => options.capacity

namespace Phase

variable {phase : Phase} (options : ReceiverOptions)

theorem issued_of_ne_starting (begun : phase ≠ .starting) :
    phase.issued options = options.capacity := by
  cases phase with
  | starting => exact (begun rfl).elim
  | reaping | acquiring | requesting | receiving | pausing | backingOff | draining
  | abandoning | stopped | crashed => rfl

theorem issued_of_isWaiting (waiting : phase.isWaiting = true) :
    phase.issued options = options.capacity := by
  apply issued_of_ne_starting
  rintro rfl
  cases waiting

theorem issued_of_isEnding (ending : phase.isEnding = true) :
    phase.issued options = options.capacity := by
  apply issued_of_ne_starting
  rintro rfl
  cases ending

theorem permits_of_isEnding (ending : phase.isEnding = true) : phase.permits = 0 := by
  cases phase with
  | draining | abandoning => rfl
  | starting | reaping | acquiring | requesting | receiving | pausing | backingOff
  | stopped | crashed => cases ending

end Phase

/-! ## What the loop asks for -/

section

variable (options : ReceiverOptions) (free : Nat)

theorem batchSize_pos : 1 ≤ options.batchSize := by
  unfold ReceiverOptions.batchSize clampNat
  omega

theorem batchSize_le : options.batchSize ≤ batchLimit := by
  unfold ReceiverOptions.batchSize clampNat batchLimit
  omega

/-- A request is for as many messages as there are permits, so clamping it changes
nothing. -/
theorem requestFor_eq (available : 0 < free) :
    requestFor options free =
      ⟨options.queueUrl, Min.min free options.batchSize,
        clampNat 0 waitLimit options.waitSeconds⟩ := by
  have least := batchSize_pos options
  have most := batchSize_le options
  have kept : clampNat 1 batchLimit (Min.min free options.batchSize : Nat) =
      Min.min free options.batchSize := by
    simp only [clampNat, Int.toNat_natCast]
    omega
  rw [requestFor, ReceiveRequest.clamped, kept]

theorem requestFor_bounds (available : 0 < free) :
    1 ≤ (requestFor options free).maxMessages ∧
      (requestFor options free).maxMessages ≤ batchLimit ∧
      (requestFor options free).waitSeconds ≤ waitLimit := by
  have least := batchSize_pos options
  have most := batchSize_le options
  simp only [requestFor_eq options free available, clampNat]
  omega

/-- What is asked for while some tasks are running: from one to ten messages, as
configured, but no more than the tasks leave of the capacity, and a wait of up to
twenty seconds. -/
def requestBeside (running : Nat) : ReceiveRequest :=
  { queueUrl := options.queueUrl
    maxMessages :=
      Min.min (Max.max 1 (Min.min options.maxMessages 10)).toNat
        (Max.max 1 options.maxInFlight - running)
    waitSeconds := (Max.max 0 (Min.min options.waitSeconds 20)).toNat }

theorem clampNat_eq_toNat (lower upper : Nat) (value : Int) :
    clampNat lower upper value = (Max.max (lower : Int) (Min.min value upper)).toNat := by
  unfold clampNat
  omega

theorem requestFor_eq_requestBeside {running : Nat}
    (shared : free + running = Max.max 1 options.maxInFlight) (available : 0 < free) :
    requestFor options free = requestBeside options running := by
  have left : free = Max.max 1 options.maxInFlight - running := by omega
  have batch : options.batchSize =
      (Max.max 1 (Min.min options.maxMessages 10)).toNat :=
    clampNat_eq_toNat 1 10 options.maxMessages
  have wait : clampNat 0 waitLimit options.waitSeconds =
      (Max.max 0 (Min.min options.waitSeconds 20)).toNat :=
    clampNat_eq_toNat 0 20 options.waitSeconds
  rw [requestFor_eq options free available, batch, wait, Nat.min_comm, left, requestBeside]

end

/-! ## Conservation -/

structure Conserved (options : ReceiverOptions) (state : State) : Prop where
  permits :
    state.free + state.phase.permits + unfinished state = state.phase.issued options
  begins : state.phase = .starting → state.inFlight = []

variable {options : ReceiverOptions} {world : World} {shutdown : Shutdown}
  {state next : State} {history events : List Occurrence}

namespace Conserved

theorem start (options : ReceiverOptions) (shutdown : Shutdown) :
    Conserved options (start shutdown) where
  permits := rfl
  begins := fun _ => rfl

variable (conserved : Conserved options state)
include conserved

theorem loop {made : List Event} (within : options.capacity ≤ permitLimit)
    (move : LoopMove options world state (next, made)) :
    Conserved options next := by
  have permits := conserved.permits
  generalize same : (next, made) = result at move
  cases move with
  | refuse _ beyond => exact absurd within (Nat.not_le.mpr beyond)
  | begin phase =>
      cases same
      refine ⟨?_, by simp⟩
      simp [unfinished, conserved.begins phase, Phase.permits, Phase.issued,
        runningTasks]
  | goOn phase | leaveHead phase | abandon phase =>
      cases same
      rw [phase] at permits
      refine ⟨?_, by simp⟩
      simpa [unfinished, reap_eq, Phase.permits, Phase.issued] using permits
  | ask phase untriggered available =>
      cases same
      rw [phase] at permits
      refine ⟨?_, by simp⟩
      simp only [unfinished, Phase.permits, Phase.issued,
        requestFor_eq options _ available] at permits ⊢
      omega
  | call phase =>
      cases same
      rw [phase] at permits
      exact ⟨permits, by simp⟩
  | leave waiting =>
      cases same
      rw [Phase.issued_of_isWaiting options waiting] at permits
      refine ⟨?_, by simp⟩
      simpa [unfinished, Phase.permits, Phase.issued] using permits
  | @answer request until? deliveries phase =>
      cases same
      rw [phase] at permits
      have taken := List.length_take_le request.maxMessages deliveries
      constructor
      · simp only [onDeliveries_fst, unfinished, runningTasks_append,
          runningTasks_newTasks, List.length_append, length_newTasks]
        simp only [unfinished, Phase.permits, Phase.issued] at permits
        split <;> simp only [Phase.permits, Phase.issued] <;> omega
      · simp only [onDeliveries_fst]
        split <;> simp
  | retry phase | unsampled phase | breakOff phase | giveUp phase =>
      cases same
      rw [phase] at permits
      refine ⟨?_, by simp⟩
      simpa [unfinished, givingUp, Phase.permits, Phase.issued] using permits
  | resume phase =>
      cases same
      refine ⟨?_, by simp⟩
      rcases phase with phase | phase <;> rw [phase] at permits <;> exact permits
  | join ending =>
      cases same
      refine ⟨by simpa [unfinished, runningTasks] using permits, ?_⟩
      intro starting
      have phase : state.phase = .starting := starting
      rw [phase] at ending
      cases ending
  | finish ending =>
      cases same
      rw [Phase.permits_of_isEnding ending,
        Phase.issued_of_isEnding options ending] at permits
      refine ⟨?_, by simp⟩
      simpa [unfinished, reap_eq, Phase.permits, Phase.issued] using permits

/-- A task that finishes gives back the permit that it held. -/
theorem replaces {task after : Task}
    (distinct : (state.inFlight.map Task.number).Nodup)
    (found : task ∈ state.inFlight) (unfinished : task.isFinished = false)
    (same : after.number = task.number) :
    Conserved options (putTask state after) where
  permits := by
    have permits := conserved.permits
    have running := length_runningTasks_replaceTask distinct found unfinished same
    simp only [putTask, Receiver.unfinished] at permits ⊢
    cases finished : after.isFinished with
    | true =>
        rw [finished, if_pos rfl] at running
        simp only [↓reduceIte]
        omega
    | false =>
        rw [finished, if_neg Bool.false_ne_true] at running
        simp only [Bool.false_eq_true, ↓reduceIte]
        omega
  begins := by
    intro phase
    rw [conserved.begins phase] at found
    cases found

theorem step {joined : List Task}
    (ledger : Ledger options world state history joined)
    (within : options.capacity ≤ permitLimit)
    (move : Move options world state next events) : Conserved options next := by
  cases move with
  | trigger | advance => exact ⟨conserved.permits, conserved.begins⟩
  | loop move => exact conserved.loop within move
  | task _ found stepped =>
      obtain ⟨changed, unfinished⟩ := Task.step?_eq_some stepped
      exact conserved.replaces ledger.distinctInFlight found unfinished
        (by rw [changed])
  | cut _ found unfinished =>
      exact conserved.replaces ledger.distinctInFlight found unfinished rfl

end Conserved

theorem Reaches.conserved (reached : Reaches options world shutdown state history)
    (within : options.capacity ≤ permitLimit) : Conserved options state := by
  induction reached with
  | start => exact .start options shutdown
  | step reached stepped induction =>
      obtain ⟨joined, run⟩ := reached.joins
      exact induction.step run.ledger within (step?_cases stepped)

/-! ## Requests and answers -/

/-- While the loop holds no permit, those that are free are what the running tasks
leave of the capacity. -/
theorem Reaches.requestFor_free
    (reached : Reaches options world shutdown state history)
    (within : options.capacity ≤ permitLimit) (phase : state.phase = .acquiring)
    (available : 0 < state.free) :
    requestFor options state.free = requestBeside options (unfinished state) := by
  have conserved := (reached.conserved within).permits
  rw [phase] at conserved
  exact requestFor_eq_requestBeside options state.free conserved available

/-- A request is made up while the loop holds no permit, for as many messages as
it can then take permits, and is kept until the receive. -/
theorem Move.requesting_cases {request : ReceiveRequest}
    (move : Move options world state next events)
    (phase : next.phase = .requesting request) :
    state.phase = .requesting request ∨
      state.phase = .acquiring ∧ 0 < state.free ∧
        request = requestFor options state.free := by
  cases move with
  | trigger | advance | task | cut => exact .inl phase
  | @loop next made move =>
      generalize same : (next, made) = result at move
      cases move with
      | ask before _ available =>
          cases same
          exact .inr ⟨before, available, (Phase.requesting.inj phase).symm⟩
      | answer =>
          cases same
          simp only [onDeliveries_fst] at phase
          split at phase <;> cases phase
      | join ending =>
          cases same
          exact .inl phase
      | refuse | begin | goOn | call | retry | unsampled | breakOff | resume | abandon =>
          cases same
          cases phase
      | leave | leaveHead | giveUp | finish =>
          cases same
          simp at phase

/-- A request was made up in a state that the run has been through. -/
structure AskedIn (options : ReceiverOptions) (world : World) (shutdown : Shutdown)
    (history : List Occurrence) (request : ReceiveRequest) (asking : State)
    (earlier : List Occurrence) : Prop where
  reached : Reaches options world shutdown asking earlier
  before : earlier <+: history
  phase : asking.phase = .acquiring
  available : 0 < asking.free
  made : request = requestFor options asking.free

theorem AskedIn.later {request : ReceiveRequest} {asking : State}
    {earlier : List Occurrence}
    (asked : AskedIn options world shutdown history request asking earlier) :
    AskedIn options world shutdown (history ++ events) request asking earlier :=
  { asked with before := asked.before.trans (List.prefix_append history events) }

theorem Reaches.askedIn (reached : Reaches options world shutdown state history)
    {request : ReceiveRequest} (phase : state.phase = .requesting request) :
    ∃ asking earlier,
      AskedIn options world shutdown history request asking earlier := by
  induction reached with
  | start => cases phase
  | @step state next history events action reached stepped induction =>
      rcases (step?_cases stepped).requesting_cases phase with
        before | ⟨acquiring, available, made⟩
      · obtain ⟨asking, earlier, asked⟩ := induction before
        exact ⟨asking, earlier, asked.later⟩
      · exact ⟨state, history, reached, List.prefix_append history events, acquiring,
          available, made⟩

/-- Every receive of a run was asked for in one of its states. -/
theorem Reaches.askedIn_of_receiveCalled
    (reached : Reaches options world shutdown state history)
    {time : Nat} {task : Option Nat} {request : ReceiveRequest}
    (member : ⟨time, task, .receiveCalled request⟩ ∈ history) :
    ∃ asking earlier,
      AskedIn options world shutdown history request asking earlier := by
  induction reached with
  | start => cases member
  | @step state next history events action reached stepped induction =>
      have asked : ∃ asking earlier,
          AskedIn options world shutdown history request asking earlier := by
        rcases List.mem_append.mp member with before | now
        · exact induction before
        · cases reached.ofLoop (step?_cases stepped) now rfl with
          | receiveCalled phase => exact reached.askedIn phase
      obtain ⟨asking, earlier, asked⟩ := asked
      exact ⟨asking, earlier, asked.later⟩

/-- The processors that run at this moment. -/
def processing (state : State) : Nat :=
  state.inFlight.countP fun task =>
    match task.stage with
    | .processing _ => true
    | _ => false

theorem processing_le_unfinished (state : State) :
    processing state ≤ unfinished state := by
  rw [processing, unfinished, runningTasks, ← List.countP_eq_length_filter]
  apply List.countP_mono_left
  intro task _ running
  unfold Task.isFinished
  split at running
  · rename_i stage
    rw [stage]
    rfl
  · cases running

/-- What permits mean in a state that has been reached, and for the steps out of
it. -/
structure WithinPermits (options : ReceiverOptions) (world : World)
    (shutdown : Shutdown) (state : State) (history : List Occurrence) : Prop where
  /-- Before the run has begun there are neither permits nor tasks. -/
  begins : state.phase = .starting → state.free = 0 ∧ state.inFlight = []
  /-- From then on every permit is free, held by the loop, or held by a task that is
  still running. -/
  conserved : state.phase ≠ .starting →
    state.free + state.phase.permits + unfinished state = Max.max 1 options.maxInFlight
  processing : processing state ≤ Max.max 1 options.maxInFlight
  /-- A request is for as much as can be started when it is made up, -/
  asks : ∀ {action next events request},
    step? options world state action = some (next, events) →
      next.phase = .requesting request →
        state.phase = .requesting request ∨
          request = requestBeside options (unfinished state)
  /-- and nothing else is received with. -/
  calls : ∀ {action next events time task request},
    step? options world state action = some (next, events) →
      ⟨time, task, .receiveCalled request⟩ ∈ events →
        state.phase = .requesting request
  /-- So every receive of the run was for as much as could be started in some state
  before it, for one message at least, and with a wait that the queue allows. -/
  received : ∀ {time task request},
    ⟨time, task, .receiveCalled request⟩ ∈ history →
      (∃ asking earlier,
        Reaches options world shutdown asking earlier ∧ earlier <+: history ∧
          request = requestBeside options (unfinished asking)) ∧
        1 ≤ request.maxMessages ∧ request.maxMessages ≤ 10 ∧ request.waitSeconds ≤ 20
  /-- An answer starts tasks for as many deliveries as were asked for, and no
  more. -/
  answers : ∀ {action next events time task deliveries},
    step? options world state action = some (next, events) →
      ⟨time, task, .receiveEnded (.answered deliveries)⟩ ∈ events →
        ∃ request until?,
          state.phase = .receiving request until? ∧
            next.inFlight = state.inFlight ++
              newTasks state.dispatched (deliveries.take request.maxMessages) ∧
            handedOut (history ++ events) =
              handedOut history ++ deliveries.take request.maxMessages
  /-- The others are neither processed nor sent nor deleted. -/
  surplus : ∀ occurrence ∈ history, occurrence.event.isOfTask = true →
    ∃ number delivery,
      occurrence.task = some number ∧ (handedOut history)[number]? = some delivery ∧
        occurrence.event.ConcernsOnly options.route delivery
  /-- In the end every permit is free. -/
  returned : ∀ result, state.phase = .stopped result →
    state.free = Max.max 1 options.maxInFlight

theorem Reaches.answers (reached : Reaches options world shutdown state history)
    (change : TaskChange options world state next events)
    {time : Nat} {task : Option Nat} {deliveries : List Delivery}
    (member : ⟨time, task, .receiveEnded (.answered deliveries)⟩ ∈ events) :
    ∃ request until?,
      state.phase = .receiving request until? ∧
        next.inFlight = state.inFlight ++
          newTasks state.dispatched (deliveries.take request.maxMessages) ∧
        handedOut (history ++ events) =
          handedOut history ++ deliveries.take request.maxMessages := by
  obtain ⟨joined, run⟩ := reached.joins
  have ledger := run.ledger
  cases change with
  | keeps _ _ others | joins _ _ _ _ others =>
      cases others _ (mem_occurrences.mp member).2.2
  | calls => cases List.mem_singleton.mp (mem_occurrences.mp member).2.2
  | @handsOut _ more request until? answer before inFlight _ _ _ others =>
      rcases List.mem_cons.mp (mem_occurrences.mp member).2.2 with equal | later
      · cases equal
        have requested := ledger.requested request until? before
        exact ⟨request, until?, before, inFlight,
          handedOut_append_answer _ _ requested others⟩
      · cases others _ later
  | @moves task after more found stepped =>
      have course := (ledger.onCourse task (List.mem_append_right _ found)).course
      have inside := List.mem_append_right (eventsOf task.number history)
        (mem_occurrences.mp member).2.2
      cases isReceive_of_course (course.step stepped) inside
  | cuts => cases member

/-- Permits are neither lost nor made, in every state of every run, if there are no
more of them than a semaphore can hold. -/
theorem Reaches.withinPermits
    (reached : Reaches options world shutdown state history)
    (within : Max.max 1 options.maxInFlight ≤ 2305843009213693951) :
    WithinPermits options world shutdown state history := by
  have conserved := reached.conserved within
  have issued : state.phase ≠ .starting →
      state.free + state.phase.permits + unfinished state =
        Max.max 1 options.maxInFlight := by
    intro begun
    rw [conserved.permits, Phase.issued_of_ne_starting options begun]
    rfl
  have begins : state.phase = .starting → state.free = 0 ∧ state.inFlight = [] := by
    intro starting
    have permits := conserved.permits
    rw [starting] at permits
    simp only [Phase.issued] at permits
    exact ⟨by omega, conserved.begins starting⟩
  exact
    { begins
      conserved := issued
      processing := by
        have fewer := processing_le_unfinished state
        by_cases starting : state.phase = .starting
        · have none : unfinished state = 0 := by
            rw [unfinished, (begins starting).2]
            rfl
          omega
        · have all := issued starting
          omega
      asks := by
        intro action next events request stepped phase
        rcases (step?_cases stepped).requesting_cases phase with
          before | ⟨acquiring, available, made⟩
        · exact .inl before
        · right
          rw [made, reached.requestFor_free within acquiring available]
      calls := by
        intro action next events time task request stepped member
        cases reached.ofLoop (step?_cases stepped) member rfl with
        | receiveCalled phase => exact phase
      received := by
        intro time task request member
        obtain ⟨asking, earlier, asked⟩ := reached.askedIn_of_receiveCalled member
        have bounds := requestFor_bounds options _ asked.available
        rw [← asked.made] at bounds
        refine ⟨⟨asking, earlier, asked.reached, asked.before, ?_⟩, bounds⟩
        rw [asked.made,
          asked.reached.requestFor_free within asked.phase asked.available]
      answers := by
        intro action next events time task deliveries stepped member
        exact reached.answers (step?_cases stepped).taskChange member
      surplus := by
        intro occurrence member ofTask
        exact reached.concernsOnly member ofTask
      returned := by
        intro result stopped
        obtain ⟨_, nothingLeft⟩ := reached.closing.result result stopped
        have all := issued (by rw [stopped]; exact Phase.noConfusion)
        rw [stopped] at all
        simpa [Phase.permits, unfinished, nothingLeft, runningTasks] using all }

/-- At most three deliveries at once, and more of them asked for than a receive may
ask for. -/
def threeAtOnce : ReceiverOptions :=
  { ReceiverOptions.standard "letters" with
    maxMessages := 25, waitSeconds := 60, maxInFlight := 3 }

def letters : List Delivery :=
  [⟨"1", "first", ⟨"a"⟩, 1, none⟩, ⟨"2", "second", ⟨"b"⟩, 1, none⟩]

/-- Two deliveries that are processed for ever, and what a second receive brings seven
milliseconds later; no other ever ends. -/
def slowLetters (later : List Delivery) : World :=
  { peers :=
      { process := fun _ _ => ⟨none, ⟨[], .returns .success⟩⟩
        send := fun _ _ _ => ⟨some 0, .answered "copy"⟩
        delete := fun _ _ _ => ⟨some 0, .answered ()⟩ }
    receive := fun number _ =>
      match number with
      | 0 => ⟨some 0, .answered letters⟩
      | 1 => ⟨some 7, .answered later⟩
      | _ => ⟨none, .answered []⟩
    sampler := fun _ range => range }

/-- Three messages are asked for, then as many as two running tasks leave; of the two
that the second receive brings, one is started. -/
theorem withinPermits_slowLetters :
    Max.max 1 threeAtOnce.maxInFlight ≤ 2305843009213693951 ∧
      WithinPermits threeAtOnce (slowLetters letters) .idle
        (run threeAtOnce (slowLetters letters) none 40).state
        (run threeAtOnce (slowLetters letters) none 40).history ∧
      (run threeAtOnce (slowLetters letters) none 40).history.filterMap
          (fun occurrence =>
            match occurrence.event with
            | .receiveCalled request => some (occurrence.time, request)
            | _ => none) =
        [(0, ⟨"letters", 3, 20⟩), (0, ⟨"letters", 1, 20⟩)] ∧
      processing (run threeAtOnce (slowLetters letters) none 40).state = 3 := by
  have within : Max.max 1 threeAtOnce.maxInFlight ≤ 2305843009213693951 := by decide
  exact ⟨within,
    (run_reaches threeAtOnce (slowLetters letters) none 40).withinPermits within, rfl, rfl⟩

end AtLeastOnce.Receiver
