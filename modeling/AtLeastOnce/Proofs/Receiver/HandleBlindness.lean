import AtLeastOnce.Proofs.Receiver.Renaming

/-!
# Nothing but a delete shows a handle

A run is fixed by the world and by who moves when.  Two worlds that differ in nothing
but the handles of their deliveries have the same runs, step for step: what is logged,
sent and asked for is the same at the same moments, and so is the result.
-/

namespace AtLeastOnce.Receiver

/-! ## Runs by their actions -/

/-- What some actions, one after the other, lead to, unless one of them cannot be taken. -/
def play? (options : ReceiverOptions) (world : World) :
    List Action → State × List Occurrence → Option (State × List Occurrence)
  | [], point => some point
  | action :: actions, (state, history) =>
      (step? options world state action).bind fun (next, events) =>
        play? options world actions (next, history ++ events)

section

variable {options : ReceiverOptions} {world : World} {shutdown : Shutdown}

theorem play?_append (before after : List Action) (point : State × List Occurrence) :
    play? options world (before ++ after) point =
      (play? options world before point).bind (play? options world after) := by
  induction before generalizing point with
  | nil => rfl
  | cons action actions induction =>
      simp only [List.cons_append, play?]
      cases step? options world point.1 action with
      | none => rfl
      | some result => exact induction _

theorem reaches_of_play? {actions : List Action} {state next : State}
    {history whole : List Occurrence} (reached : Reaches options world shutdown state history)
    (played : play? options world actions (state, history) = some (next, whole)) :
    Reaches options world shutdown next whole := by
  induction actions generalizing state history with
  | nil =>
      cases played
      exact reached
  | cons action actions induction =>
      obtain ⟨⟨middle, events⟩, stepped, played⟩ := Option.bind_eq_some_iff.mp played
      exact induction (.step reached stepped) played

/-- The runs of the machine are those that some actions lead to. -/
theorem reaches_iff_play? {state : State} {history : List Occurrence} :
    Reaches options world shutdown state history ↔
      ∃ actions,
        play? options world actions (start shutdown, []) = some (state, history) := by
  constructor
  · intro reached
    induction reached with
    | start => exact ⟨[], rfl⟩
    | @step _ _ _ _ action _ stepped induction =>
        obtain ⟨actions, played⟩ := induction
        exact ⟨actions ++ [action], by simp [play?_append, played, play?, stepped]⟩
  · rintro ⟨actions, played⟩
    exact reaches_of_play? .start played

end

section

variable {rho : Renaming} {world other : World} (renamed : World.Renamed rho world other)
  (options : ReceiverOptions)
include renamed

theorem play?_rename (actions : List Action) (point : State × List Occurrence) :
    play? options other actions (renamePoint rho point) =
      (play? options world actions point).map (renamePoint rho) := by
  induction actions generalizing point with
  | nil => rfl
  | cons action actions induction =>
      obtain ⟨state, history⟩ := point
      simp only [play?, renamePoint, step?_rename options state renamed]
      cases step? options world state action with
      | none => rfl
      | some result =>
          simp only [Option.map_some, Option.bind_some, renamePoint, ← List.map_append]
          exact induction (result.1, history ++ result.2)

/-! ## The schedule -/

def Run.rename (rho : Renaming) (run : Run) : Run :=
  { run with
    state := run.state.rename rho
    history := run.history.map (Occurrence.rename rho) }

theorem movableTask?_rename (state : State) :
    movableTask? options other (state.rename rho) = movableTask? options world state := by
  have movable : ∀ task, ((Task.rename rho task).step? other.peers options.route
      state.now).isSome = (task.step? world.peers options.route state.now).isSome := by
    intro task
    rw [Task.step?_rename options.route state.now renamed.peers, Option.isSome_map]
  simp only [movableTask?, rename_inFlight, rename_now, List.find?_map, Function.comp_def,
    movable, Option.map_map, Task.rename_number]

omit renamed in
theorem runningTask?_rename (state : State) :
    runningTask? (state.rename rho) = runningTask? state := by
  simp only [runningTask?, rename_inFlight, List.find?_map, Function.comp_def,
    Option.map_map, Task.rename_number, Task.rename_isFinished]

omit renamed in
theorem nextMoment?_rename (run : Run) : nextMoment? (run.rename rho) = nextMoment? run := by
  have awaited : moments (run.rename rho) = moments run := by
    simp [moments, Run.rename, Function.comp_def]
  simp only [nextMoment?, awaited]
  rfl

theorem choose?_rename (run : Run) :
    choose? options other (run.rename rho) = choose? options world run := by
  have ready : (loopStep? options other false (run.rename rho).state).isSome =
      (loopStep? options world false run.state).isSome := by
    simp [Run.rename, loopStep?_rename options run.state renamed]
  have running : runningTask? (run.rename rho).state = runningTask? run.state :=
    runningTask?_rename run.state
  have movable : movableTask? options other (run.rename rho).state =
      movableTask? options world run.state := movableTask?_rename renamed options run.state
  simp only [choose?, ready, running, movable, nextMoment?_rename]
  rfl

theorem advance?_rename (run : Run) :
    advance? options other (run.rename rho) =
      (advance? options world run).map (Run.rename rho) := by
  simp only [advance?, choose?_rename renamed]
  cases choose? options world run with
  | none => rfl
  | some action =>
      have stepped := step?_rename options run.state renamed action
      simp only [Option.bind_some, Run.rename, stepped, Option.map_map]
      apply Option.map_congr
      intro result _
      simp [Run.rename, renamePoint]

theorem runUpTo_rename (limit : Nat) (run : Run) :
    runUpTo options other limit (run.rename rho) =
      (runUpTo options world limit run).rename rho := by
  induction limit generalizing run with
  | zero => rfl
  | succ limit induction =>
      simp only [runUpTo, advance?_rename renamed]
      cases advance? options world run with
      | none => rfl
      | some next => exact induction next

theorem run_rename (triggerAt : Option Nat) (limit : Nat) :
    run options other triggerAt limit = (run options world triggerAt limit).rename rho :=
  runUpTo_rename renamed options limit (Run.start triggerAt)

end

/-! ## What two runs show -/

/-- What the events of one kind show, each with its moment and its task. -/
def shown {α : Type} (show? : Event → Option α) (history : List Occurrence) :
    List (Nat × Option Nat × α) :=
  history.filterMap fun occurrence =>
    (show? occurrence.event).map fun seen => (occurrence.time, occurrence.task, seen)

end AtLeastOnce.Receiver

namespace AtLeastOnce.Event

def entry? : Event → Option LogEntry
  | .logged entry => some entry
  | _ => none

def send? : Event → Option (String × Publication)
  | .sendCalled queueUrl publication => some (queueUrl, publication)
  | _ => none

def receive? : Event → Option ReceiveRequest
  | .receiveCalled request => some request
  | _ => none

def trigger? : Event → Option Bool
  | .shutdownTriggered flipped => some flipped
  | _ => none

def process? : Event → Option Delivery
  | .processorCalled delivery => some delivery
  | _ => none

def delete? : Event → Option (String × ReceiptHandle)
  | .deleteCalled queueUrl handle => some (queueUrl, handle)
  | _ => none

end AtLeastOnce.Event

namespace AtLeastOnce.Receiver

theorem shown_rename {α : Type} {rho : Renaming} {show? : Event → Option α} (change : α → α)
    (changed : ∀ event : Event, show? (event.rename rho) = (show? event).map change)
    (history : List Occurrence) :
    shown show? (history.map (Occurrence.rename rho)) =
      (shown show? history).map (Prod.map id (Prod.map id change)) := by
  simp only [shown, List.filterMap_map, List.map_filterMap]
  congr 1
  funext occurrence
  simp only [Function.comp_apply, Occurrence.rename, changed, Option.map_map]
  rfl

theorem shown_rename_of_eq {α : Type} {rho : Renaming} {show? : Event → Option α}
    (same : ∀ event : Event, show? (event.rename rho) = show? event)
    (history : List Occurrence) :
    shown show? (history.map (Occurrence.rename rho)) = shown show? history := by
  have kept := shown_rename id (show ∀ event : Event, show? (event.rename rho) =
    (show? event).map id by simpa using same) history
  simpa using kept

/-- Two runs that only their deletes and the handles of their deliveries tell apart. -/
structure Alike (rho : Renaming) (one other : State × List Occurrence) : Prop where
  logged : shown Event.entry? other.2 = shown Event.entry? one.2
  sent : shown Event.send? other.2 = shown Event.send? one.2
  received : shown Event.receive? other.2 = shown Event.receive? one.2
  triggered : shown Event.trigger? other.2 = shown Event.trigger? one.2
  processed : shown Event.process? other.2 =
    (shown Event.process? one.2).map (Prod.map id (Prod.map id (Delivery.rename rho)))
  deleted : shown Event.delete? other.2 =
    (shown Event.delete? one.2).map (Prod.map id (Prod.map id (Prod.map id rho)))
  /-- With the result, once the run has stopped. -/
  phase : other.1.phase = one.1.phase
  now : other.1.now = one.1.now
  totals : other.1.totals = one.1.totals
  shutdown : other.1.shutdown = one.1.shutdown

theorem alike_renamePoint (rho : Renaming) (point : State × List Occurrence) :
    Alike rho point (renamePoint rho point) := by
  constructor
  case logged | sent | received | triggered =>
    apply shown_rename_of_eq
    intro event
    cases event with
    | processorCalled | processorEnded | sendCalled | sendEnded | deleteCalled
    | deleteEnded | receiveCalled | receiveEnded | shutdownTriggered | logged => rfl
  case processed =>
    apply shown_rename
    intro event
    cases event with
    | processorCalled | processorEnded | sendCalled | sendEnded | deleteCalled
    | deleteEnded | receiveCalled | receiveEnded | shutdownTriggered | logged => rfl
  case deleted =>
    apply shown_rename
    intro event
    cases event with
    | processorCalled | processorEnded | sendCalled | sendEnded | deleteCalled
    | deleteEnded | receiveCalled | receiveEnded | shutdownTriggered | logged => rfl
  case phase | now | totals | shutdown => rfl

/-- Handles decide nothing but which deliveries are deleted: under other handles the
schedule makes the same run, and so does whoever else picks the actions. -/
theorem World.Renamed.runs_alike {rho : Renaming} {world other : World}
    (renamed : World.Renamed rho world other) (options : ReceiverOptions) :
    (∀ triggerAt limit,
      Alike rho
        ((run options world triggerAt limit).state, (run options world triggerAt limit).history)
        ((run options other triggerAt limit).state,
          (run options other triggerAt limit).history)) ∧
      ∀ shutdown actions,
        (play? options other actions (start shutdown, [])).isSome =
            (play? options world actions (start shutdown, [])).isSome ∧
          ∀ one two,
            play? options world actions (start shutdown, []) = some one →
            play? options other actions (start shutdown, []) = some two →
            Alike rho one two := by
  constructor
  · intro triggerAt limit
    rw [run_rename renamed]
    exact alike_renamePoint rho _
  · intro shutdown actions
    have played : play? options other actions (start shutdown, []) =
        (play? options world actions (start shutdown, [])).map (renamePoint rho) :=
      play?_rename renamed options actions (start shutdown, [])
    constructor
    · rw [played, Option.isSome_map]
    · intro one two first second
      rw [played, first] at second
      cases second
      exact alike_renamePoint rho one

/-- Exchanges the handles of the two letters. -/
def swapLetters (handle : ReceiptHandle) : ReceiptHandle :=
  if handle = ⟨"a"⟩ then ⟨"b"⟩ else if handle = ⟨"b"⟩ then ⟨"a"⟩ else handle

theorem swapLetters_leftInverse : Function.LeftInverse swapLetters swapLetters := by
  intro handle
  by_cases first : handle = ⟨"a"⟩
  · simp [swapLetters, first]
  · by_cases second : handle = ⟨"b"⟩
    · simp [swapLetters, second]
    · simp [swapLetters, first, second]

/-- With their handles exchanged the two letters are handled as before, and each is
deleted by the other's handle. -/
theorem runs_alike_twoLetters :
    let other := twoLetters.rename swapLetters swapLetters
    World.Renamed swapLetters twoLetters other ∧
      Alike swapLetters
        ((run letterOptions twoLetters (some 5) 60).state,
          (run letterOptions twoLetters (some 5) 60).history)
        ((run letterOptions other (some 5) 60).state,
          (run letterOptions other (some 5) 60).history) ∧
      shown Event.delete? (run letterOptions other (some 5) 60).history =
        [(0, some 0, "letters", ⟨"b"⟩), (0, some 1, "letters", ⟨"a"⟩)] := by
  intro other
  have renamed : World.Renamed swapLetters twoLetters other :=
    World.renamed_rename swapLetters_leftInverse twoLetters
  have alike := (World.Renamed.runs_alike renamed letterOptions).1 (some 5) 60
  refine ⟨renamed, alike, ?_⟩
  rw [alike.deleted]
  decide

end AtLeastOnce.Receiver
